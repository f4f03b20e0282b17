import Walkthrough.Engine.Protocol

/-!
# Validation

Scenarios are checked without sending anything: every chain is walked once, both branches of a choice
included, in a tolerant context with placeholders for what only a run would know. A report lists the
names that are bound nowhere, and the expressions that are none or call what is not allowed. A walk
ends unless steps follow each other in a circle or refer to a place outside of the graph.
-/

namespace Walkthrough.Validation

open Engine (Stop)

/-- What is wrong with an expression of a step. -/
structure Issue where
  step : String
  expression : String
  message : String
  deriving DecidableEq

/-- Names that are bound nowhere, sorted, and issues in the order in which they were found. -/
structure Report where
  missing : List String
  issues : List Issue

namespace Report

/-- Nothing is wrong. -/
def isOk (r : Report) : Bool := r.missing.isEmpty && r.issues.isEmpty

/-- An issue as JSON. -/
def issueJson (i : Issue) : Json :=
  .object [("step", .string i.step), ("expression", .string i.expression),
    ("message", .string i.message)]

/-- The members of a report; what is empty is left out. -/
def members (r : Report) : List (String × Json) :=
  Result.Node.listMember "missing" (r.missing.map .string)
    ++ Result.Node.listMember "errors" (r.issues.map issueJson)

/-- A report as JSON. -/
def toJson (r : Report) : Json := .object r.members

end Report

/-- How far a walk has come: the variables, with the names that were missed, and the issues found. -/
structure Walk where
  context : Context
  issues : List Issue

namespace Walk

/-- Open a frame. -/
def push (w : Walk) (f : Frame) : Walk := { w with context := w.context.push f }

/-- Close the innermost frame. -/
def pop (w : Walk) : Walk := { w with context := w.context.pop }

/-- Report an error in an expression of a step, unless it was reported before. -/
def report (w : Walk) (s : Step) (expression : String) (e : Error) : Walk :=
  let issue : Issue := ⟨s.uuid, expression, e.message⟩
  if w.issues.contains issue then w else { w with issues := w.issues ++ [issue] }

/-- Report the expressions of a step that are none. -/
def check (ev : Evaluator) (s : Step) (w : Walk) (expression : String) : Walk :=
  match ev.check expression with
  | .ok () => w
  | .error e => w.report s expression e

/-- The error is a call of what is not allowed. -/
def isDenial : Error → Bool
  | .security _ _ => true
  | _ => false

/-- Evaluate an expression of a step under a frame, for the names that it misses; what has no value
counts as null. -/
def eval (ev : Evaluator) (s : Step) (w : Walk) (expression : String) (f : Frame) : Json × Walk :=
  let a := ev.evaluate expression (w.context.scopeWith f)
  let w := { w with context := w.context.recordAll a.missing }
  match a.result with
  | .ok v => (v, w)
  | .error e => (.null, if isDenial e then w.report s expression e else w)

/-- Evaluate expressions of a step for the names that they miss. -/
def evalAll (ev : Evaluator) (s : Step) (f : Frame) (w : Walk) (expressions : List String) : Walk :=
  expressions.foldl (fun w e => (w.eval ev s e f).2) w

/-- Evaluate named expressions in order, each seeing those before: the frame with all of them, and
their values. -/
def evalNamed (ev : Evaluator) (s : Step) : Frame → List (String × Json) → Walk →
    List (String × String) → Frame × List (String × Json) × Walk
  | f, values, w, [] => (f, values, w)
  | f, values, w, (name, e) :: rest =>
    let (v, w) := w.eval ev s e f
    evalNamed ev s (f.insert name v) (values ++ [(name, v)]) w rest

end Walk

/-! ## Placeholders -/

/-- What expressions see of a request that was never made. -/
def requestPlaceholder : Json :=
  .object [("body", .string ""), ("headers", .object []), ("method", .string "GET"),
    ("url", .string "")]

/-- What expressions see of a response that never came. -/
def responsePlaceholder : Json :=
  .object [("body", .string ""), ("headers", .object []), ("status", .ofNat 0)]

/-- The key and value of an iteration over a collection: those of its first item, null if there is
none. -/
def sampleItem : Json → Json × Json
  | .array items => (.ofNat 0, items.headD .null)
  | .object ((k, v) :: _) => (.string k, v)
  | _ => (.null, .null)

/-! ## Walking -/

/-- Walk a step that produces a request. -/
def walkLeaf (ev : Evaluator) (s : Step) (leaf : Leaf) (w : Walk) : Walk :=
  let own := match s.action with
    | .visit url method body _ => url :: (method.toList ++ body.toList)
    | .click link _ => [link]
    | _ => []
  let w := w.evalAll ev s .empty own
  let w := w.evalAll ev s .empty (leaf.headers.entries.map Prod.snd)
  let shown := Engine.exchangeFrame (requestPlaceholder, responsePlaceholder)
  let (f, extracted, w) := Walk.evalNamed ev s shown [] w leaf.extractions.entries
  let w := w.evalAll ev s f leaf.assertions
  { w with context := Engine.bindAll w.context extracted }

/-- Walk a step; `inner` walks a chain that it contains. -/
def walkStep (ev : Evaluator) (inner : Option Nat → Walk → Except Stop Walk) (s : Step) (w : Walk) :
    Except Stop Walk :=
  match s.action with
  | .visit _ _ _ leaf | .click _ leaf | .reload leaf | .follow leaf => .ok (walkLeaf ev s leaf w)
  | .empty => .ok w
  | .block declarations child =>
    let (f, _, w) := Walk.evalNamed ev s .empty [] w declarations.entries
    (inner child (w.push f)).map Walk.pop
  | .each collection key value child =>
    let (v, w) := w.eval ev s collection .empty
    (inner child (w.push (Engine.itemFrame key value (sampleItem v)))).map Walk.pop
  | .repeated condition child =>
    let (_, w) := (w.push .empty).eval ev s condition .empty
    (inner child w).map Walk.pop
  | .choice condition holds otherwise => do
    let (_, w) := w.eval ev s condition .empty
    let w ← inner holds (w.push .empty)
    (inner otherwise (w.pop.push .empty)).map Walk.pop

/-- Walk a chain from a place on. -/
def walkFrom (ev : Evaluator) (g : Graph) : (fuel : Nat) → Option Nat → Walk → Except Stop Walk
  | _, none, w => .ok w
  | 0, some _, _ => .error .outOfFuel
  | fuel + 1, some place, w =>
    match g.step? place with
    | none => .error (.dangling place)
    | some s => do
      let w := s.action.expressions.foldl (Walk.check ev s) w
      walkFrom ev g fuel s.next (← walkStep ev (walkFrom ev g fuel) s w)

/-- Check a graph over base values. There is no report if the walk does not end. -/
def validate (ev : Evaluator) (g : Graph) (values : Bindings Json) : Option Report :=
  match walkFrom ev g (g.size + 1) g.root ⟨(Context.recording values).push .empty, []⟩ with
  | .ok w => some ⟨w.context.missing, w.issues⟩
  | .error _ => none

end Walkthrough.Validation
