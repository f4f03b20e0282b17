import Walkthrough.Engine.Advance

/-!
# Requests and responses of a run

A run is driven from outside: `peek` hands out the request that waits for its response, and `resume`
takes the response to it. A call that breaks this order is refused and changes nothing; any other error
ends the run. The engine itself sends nothing.
-/

namespace Walkthrough.Engine

variable {Req Res : Type}

/-- What a run wants next. -/
inductive Next (Req : Type) where
  | request (place : Nat) (uuid : String) (request : Req)
  | done

/-- The names under which extractions and assertions see the exchange. -/
def requestName : String := "request"

@[inherit_doc requestName] def responseName : String := "response"

/-- Begin: the top chain is open, with a frame of its own. -/
def begin (S : Setup Req Res) (r : Run Req Res) : Run Req Res :=
  { r with
    context := r.context.push .empty
    cursors := ⟨S.graph.root, none⟩ :: r.cursors
    phase := .awaiting }

/-- The request of the step that waits, made now if it has not been made before. -/
def peekAt (S : Setup Req Res) (r : Run Req Res) (place : Nat) (made : Option Req) :
    Except Stop (Except Error (Next Req) × Run Req Res) :=
  match S.graph.step? place with
  | none => .error (.dangling place)
  | some s =>
    match made with
    | some request => .ok (.ok (.request place s.uuid request), r)
    | none =>
      match S.converter.convert S.evaluator s r.scope r.previous with
      | .ok request =>
        .ok (.ok (.request place s.uuid request), { r with pending := some ⟨place, some request⟩ })
      | .error e => .ok (.error e, r.fail)

/-- What waits in a run that has advanced. -/
def peekPending (S : Setup Req Res) (r : Run Req Res) :
    Except Stop (Except Error (Next Req) × Run Req Res) :=
  match r.pending with
  | some p => peekAt S r p.place p.request
  | none => .ok (.ok .done, r)

/-- The next request. Asked again before the response is there, it is the same request. -/
def peek (S : Setup Req Res) (fuel : Nat) (r : Run Req Res) :
    Except Stop (Except Error (Next Req) × Run Req Res) :=
  match r.phase with
  | .failed => .ok (.error (.protocol .peekFailed), r)
  | .done => .ok (.ok .done, r)
  | .created =>
    match advance S fuel (begin S r) with
    | .error stop => .error stop
    | .ok (.error e, r) => .ok (.error e, r)
    | .ok (.ok (), r) => peekPending S r
  | .awaiting => peekPending S r

/-- The step that takes the response to a request: it waits, its request was handed out, and it is the
same. -/
def awaited (S : Setup Req Res) (r : Run Req Res) (request : Req) :
    Except Stop (Except Error (Nat × Step)) :=
  match r.phase with
  | .created => .ok (.error (.protocol .resumeEarly))
  | .done => .ok (.error (.protocol .resumeDone))
  | .failed => .ok (.error (.protocol .resumeFailed))
  | .awaiting =>
    match r.pending with
    | none => .ok (.error (.protocol .noPending))
    | some p =>
      match S.graph.step? p.place with
      | none => .error (.dangling p.place)
      | some s =>
        match p.request with
        | none => .ok (.error (.protocol (.notPeeked s.uuid)))
        | some expected =>
          if S.converter.same expected request then .ok (.ok (p.place, s))
          else .ok (.error (.protocol (.otherRequest s.uuid)))

/-! ## Taking a response -/

/-- Extract values in order over a frame, each seeing those before: the frame, and what was
extracted. -/
def extract (ev : Evaluator) (c : Context) : Frame → Bindings Json → List (String × String) →
    Except Error (Frame × Bindings Json)
  | f, extracted, [] => .ok (f, extracted)
  | f, extracted, (name, e) :: rest =>
    match ev.value e (c.scopeWith f) with
    | .ok v => extract ev c (f.insert name v) (extracted.insert name v) rest
    | .error err => .error err

/-- Whether each assertion holds over a frame. -/
def judge (ev : Evaluator) (c : Context) (f : Frame) : List String →
    Except Error (List Result.Assertion)
  | [] => .ok []
  | e :: rest =>
    match ev.holds e (c.scopeWith f) with
    | .ok passed =>
      match judge ev c f rest with
      | .ok outcomes => .ok (⟨e, passed⟩ :: outcomes)
      | .error err => .error err
    | .error err => .error err

/-- What is said of the assertions that do not hold. -/
def failuresOf (outcomes : List Result.Assertion) : List String :=
  (outcomes.filter (!·.passed)).map fun a => s!"Assertion failed: {a.expression}"

/-- What expressions see of a request and of the response to it. -/
def exchangeJson (S : Setup Req Res) (request : Req) (response : Res) : Except Error (Json × Json) :=
  match S.converter.requestJson request with
  | .error fault => .error (.serialization fault)
  | .ok q =>
    match S.converter.responseJson response with
    | .error fault => .error (.serialization fault)
    | .ok a => .ok (q, a)

/-- The frame under which an exchange is judged. -/
def exchangeFrame (exchange : Json × Json) : Frame :=
  (Bindings.empty.insert requestName exchange.1).insert responseName exchange.2

/-- The record of an exchange. -/
def exchangeNode (s : Step) (exchange : Json × Json) (extracted : Bindings Json)
    (outcomes : List Result.Assertion) : Result.Node :=
  let node := Result.Node.ofStep s
  { node with facts := { node.facts with
      extractions := extracted
      assertions := outcomes
      request := some exchange.1
      response := some exchange.2 } }

/-- Bind values in the innermost frame, in order. -/
def bindAll (c : Context) (values : List (String × Json)) : Context :=
  values.foldl (fun c e => c.setLocal e.1 e.2) c

/-- A run after an exchange whose assertions hold: what was extracted is bound in the innermost frame
and kept, and the exchange is counted and recorded. Nothing waits any longer. -/
def commit (r : Run Req Res) (request : Req) (response : Res) (extracted : Bindings Json)
    (node : Result.Node) : Run Req Res :=
  { { r with
      context := (bindAll r.context extracted.entries).recordCompleted
      extractions := r.extractions.extend extracted }.record node with
    previous := some ⟨request, response⟩
    pending := none }

/-- Take the response to the request of a step: extract, judge the assertions, and keep all of it only
if they hold. -/
def complete (S : Setup Req Res) (r : Run Req Res) (s : Step) (request : Req) (response : Res) :
    Except Error Unit × Run Req Res :=
  match s.action.leaf? with
  | none => (.error (.configuration (.noRequest s.uuid none)), r)
  | some leaf =>
    match exchangeJson S request response with
    | .error e => (.error e, r)
    | .ok exchange =>
      match extract S.evaluator r.context (exchangeFrame exchange) .empty leaf.extractions.entries with
      | .error e => (.error e, r)
      | .ok (f, extracted) =>
        match judge S.evaluator r.context f leaf.assertions with
        | .error e => (.error e, r)
        | .ok outcomes =>
          let node := exchangeNode s exchange extracted outcomes
          let failures := failuresOf outcomes
          if failures.isEmpty then (.ok (), commit r request response extracted node)
          else
            (.error (.expectation ⟨s.uuid, failures, r.extractions.extend extracted⟩), r.record node)

/-- Take the response to the request that was handed out last, and advance. -/
def resume (S : Setup Req Res) (fuel : Nat) (r : Run Req Res) (request : Req) (response : Res) :
    Except Stop (Except Error Unit × Run Req Res) :=
  match awaited S r request with
  | .error stop => .error stop
  | .ok (.error e) => .ok (.error e, r)
  | .ok (.ok (_, s)) =>
    match complete S r s request response with
    | (.error e, r) => .ok (.error e, r.fail)
    | (.ok (), r) => advance S fuel r

/-- More turns than any machine takes. -/
def ample : Nat := 4611686018427387904

end Walkthrough.Engine
