import Walkthrough.Engine.Basic

/-!
# Advancing

A run advances turn by turn until a step wants a request, the graph is at its end, or an error ends the
run. A turn enters the next step of the innermost chain or, at the end of that chain, begins the next
iteration of its container or closes it. Turns are counted: `fuel` bounds their number, and running out
of it is told apart from every way in which a run ends.
-/

namespace Walkthrough.Engine

/-- Why no answer was reached. -/
inductive Stop where
  /-- More turns would have been needed. -/
  | outOfFuel
  /-- A step refers to a place outside the graph. -/
  | dangling (place : Nat)
  deriving DecidableEq

/-- The items of a collection, each with its key: the place in a list, the name in an object. -/
def itemsOf (s : Step) : Json → Except Error (List (Json × Json))
  | .array items => .ok (items.zipIdx.map fun (v, i) => (Json.ofNat i, v))
  | .object members => .ok (members.map fun (k, v) => (.string k, v))
  | v => .error (.configuration (.notIterable s.uuid v))

/-- The frame of an iteration of a loop. -/
def itemFrame (key value : String) (item : Json × Json) : Frame :=
  (Bindings.empty.insert key item.1).insert value item.2

/-- Evaluate declarations in order over a frame, each seeing those before. -/
def declare (ev : Evaluator) (c : Context) : Frame → List (String × String) → Except Error Frame
  | f, [] => .ok f
  | f, (name, e) :: rest =>
    match ev.value e (c.scopeWith f) with
    | .ok v => declare ev c (f.insert name v) rest
    | .error err => .error err

variable {Req Res : Type}

/-- What a turn leads to. -/
inductive Turn (Req Res : Type) where
  /-- The run goes on. -/
  | on (r : Run Req Res)
  /-- A step wants a request. -/
  | wanted (r : Run Req Res) (place : Nat)
  /-- The graph is at its end. -/
  | finished (r : Run Req Res)
  | failed (r : Run Req Res) (e : Error)

/-- Enter the step at a place. -/
def enter (S : Setup Req Res) (r : Run Req Res) (place : Nat) (s : Step) : Turn Req Res :=
  let node := Result.Node.ofStep s
  match s.action with
  | .visit .. | .click .. | .reload _ | .follow _ => .wanted r place
  | .empty => .on (r.record node)
  | .block declarations child =>
    match declare S.evaluator r.context .empty declarations.entries with
    | .error e => .failed r e
    | .ok f =>
      let node := { node with facts := { node.facts with declared := f } }
      .on (r.openContainer child ⟨place, .block, node⟩ f)
  | .each collection key value child =>
    match (S.evaluator.value collection r.scope).bind (itemsOf s) with
    | .error e => .failed r e
    | .ok [] => .on (r.record node)
    | .ok (item :: rest) =>
      let node := node.beginIteration (some item.1) (some item.2)
      .on (r.openContainer child ⟨place, .items rest, node⟩ (itemFrame key value item))
  | .repeated condition child =>
    match S.evaluator.holds condition (r.context.scopeWith .empty) with
    | .error e => .failed r e
    | .ok false => .on (r.record node)
    | .ok true =>
      let node := node.beginIteration (some (.ofNat 0)) none
      .on (r.openContainer child ⟨place, .counted 1, node⟩ .empty)
  | .choice condition holds otherwise =>
    match S.evaluator.holds condition r.scope with
    | .error e => .failed r e
    | .ok b =>
      let branch := if b then Result.Branch.holds else .otherwise
      let node := { node with facts := { node.facts with branch := some branch } }
      .on (r.openContainer (if b then holds else otherwise) ⟨place, .choice, node⟩ .empty)

/-- Begin an iteration of the innermost container, whose chain starts anew. -/
def beginIteration (r : Run Req Res) (rest : List Cursor) (c : Container) (control : Control)
    (head : Option Nat) (key value : Option Json) : Run Req Res :=
  { r with cursors :=
      ⟨head, some ⟨c.place, control, c.node.beginIteration key value⟩⟩ :: rest }

/-- Go on with a container, the innermost, whose chain is at its end; `rest` are the cursors around
it. A loop takes its next item in a frame of its own, a repeated chain keeps its frame. -/
def continueContainer (S : Setup Req Res) (r : Run Req Res) (rest : List Cursor) (c : Container)
    (s : Step) : Turn Req Res :=
  match c.control, s.action with
  | .items (item :: left), .each _ key value child =>
    let r := { r with context := r.context.pop.push (itemFrame key value item) }
    .on (beginIteration r rest c (.items left) child (some item.1) (some item.2))
  | .counted n, .repeated condition child =>
    match S.evaluator.holds condition r.scope with
    | .error e => .failed r e
    | .ok false => .on r.close
    | .ok true =>
      if S.iterationLimit ≤ n then
        .failed r (.configuration (.tooManyIterations s.uuid S.iterationLimit))
      else .on (beginIteration r rest c (.counted (n + 1)) child (some (.ofNat n)) none)
  | _, _ => .on r.close

/-- Take one turn. -/
def turn (S : Setup Req Res) (r : Run Req Res) : Except Stop (Turn Req Res) :=
  match r.cursors with
  | [] => .ok (.finished r)
  | ⟨some place, container⟩ :: rest =>
    match S.graph.step? place with
    | some s => .ok (enter S { r with cursors := ⟨s.next, container⟩ :: rest } place s)
    | none => .error (.dangling place)
  | ⟨none, none⟩ :: _ => .ok (.on r.close)
  | ⟨none, some c⟩ :: rest =>
    match S.graph.step? c.place with
    | some s => .ok (continueContainer S r rest c s)
    | none => .error (.dangling c.place)

/-- Take turns until a step wants a request, the graph is at its end, or an error ends the run. -/
def advance (S : Setup Req Res) : (fuel : Nat) → Run Req Res →
    Except Stop (Except Error Unit × Run Req Res)
  | 0, _ => .error .outOfFuel
  | fuel + 1, r =>
    match turn S r with
    | .error stop => .error stop
    | .ok (.on r) => advance S fuel r
    | .ok (.wanted r place) => .ok (.ok (), r.await place)
    | .ok (.finished r) => .ok (.ok (), r.finish)
    | .ok (.failed r e) => .ok (.error e, r.fail)

end Walkthrough.Engine
