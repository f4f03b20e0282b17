import Walkthrough.Proofs.Engine.Turn
import Walkthrough.Proofs.Graph.Script

/-!
# What a script means

The meaning of a script as a recursion over it, without cursors, fuel and open records. A chain is gone
through step by step, a container runs what it contains in a frame of its own, and the record of a step
is made when the step is through. An error ends everything; what was recorded up to it is kept.

* `evaluated` — what comes of an exchange, and `evaluated_eq` that the engine makes the same of it;
* `meaning` — what a chain does to what is carried along;
* `interpret` — the account of a whole script over base values.
-/

namespace Walkthrough.Engine

variable {Req Res α β : Type}

/-- What is carried along: the variables, the last exchange, all that was extracted, and the requests
that were handed out, each with the place of its step. -/
structure Memory (Req Res : Type) where
  context : Context
  previous : Option (Exchange Req Res)
  extractions : Bindings Json
  asked : List (Nat × Req)

/-- What something comes to: what is carried on, the records that were made, and the error that ended
it, if any. -/
structure Outcome (Req Res α : Type) where
  memory : Memory Req Res
  records : List α
  error : Option Error

namespace Outcome

/-- It is through. -/
def done (m : Memory Req Res) (records : List α) : Outcome Req Res α := ⟨m, records, none⟩

/-- An error ends it before anything is recorded. -/
def failed (m : Memory Req Res) (e : Error) : Outcome Req Res α := ⟨m, [], some e⟩

/-- Go on, unless an error has ended it. -/
def andThen (o : Outcome Req Res α) (next : Memory Req Res → Outcome Req Res α) :
    Outcome Req Res α :=
  match o.error with
  | some _ => o
  | none =>
    let o' := next o.memory
    ⟨o'.memory, o.records ++ o'.records, o'.error⟩

/-- Make one record of all. -/
def gather (o : Outcome Req Res α) (make : List α → β) : Outcome Req Res β :=
  ⟨o.memory, [make o.records], o.error⟩

end Outcome

/-- Open a frame. -/
def Memory.enter (m : Memory Req Res) (f : Frame) : Memory Req Res :=
  { m with context := m.context.push f }

/-- Close the innermost frame. -/
def Memory.leave (m : Memory Req Res) : Memory Req Res := { m with context := m.context.pop }

@[inherit_doc Memory.leave] def Outcome.leave (o : Outcome Req Res α) : Outcome Req Res α :=
  { o with memory := o.memory.leave }

/-- Run something in a frame of its own. -/
def Memory.within (m : Memory Req Res) (f : Frame) (body : Memory Req Res → Outcome Req Res α) :
    Outcome Req Res α :=
  (body (m.enter f)).leave

/-! ## Expressions -/

/-- A frame in which values are bound, one after the other, besides those that it binds. -/
def bindOver (f : Frame) (values : List (String × Json)) : Frame :=
  values.foldl (fun f e => f.insert e.1 e.2) f

/-- One more value: that of a named expression, which sees a frame with the values before it. -/
def nextValue (ev : Evaluator) (c : Context) (f : Frame) (values : List (String × Json))
    (entry : String × String) : Except Error (List (String × Json)) := do
  let v ← ev.value entry.2 (c.scopeWith (bindOver f values))
  return values ++ [(entry.1, v)]

/-- The values of named expressions, in order. -/
def valuesOver (ev : Evaluator) (c : Context) (f : Frame) (entries : List (String × String)) :
    Except Error (List (String × Json)) := entries.foldlM (nextValue ev c f) []

/-- What is said of the assertions that do not hold, in order. -/
def unmet (outcomes : List Result.Assertion) : List String :=
  (outcomes.filter (!·.passed)).map fun a => "Assertion failed: " ++ a.expression

/-- What an exchange shows, what is extracted from it, and how its assertions come out, which see all that
was extracted. -/
def evaluated (S : Setup Req Res) (c : Context) (leaf : Leaf) (request : Req) (response : Res) :
    Except Error ((Json × Json) × Bindings Json × List Result.Assertion) := do
  let shown ← exchangeJson S request response
  let extracted ← valuesOver S.evaluator c (exchangeFrame shown) leaf.extractions.entries
  let outcomes ← leaf.assertions.mapM fun x => do
    return ⟨x, ← S.evaluator.holds x (c.scopeWith (bindOver (exchangeFrame shown) extracted))⟩
  return (shown, .ofList extracted, outcomes)

section

variable {ev : Evaluator} {c : Context}

theorem bindOver_concat (f : Frame) (values : List (String × Json)) (name : String) (v : Json) :
    bindOver f (values ++ [(name, v)]) = (bindOver f values).insert name v := by
  unfold bindOver
  rw [List.foldl_append, List.foldl_cons, List.foldl_nil]

/-- Extracting goes through the expressions as `valuesOver` does. -/
theorem extract_eq_values (f : Frame) (entries : List (String × String)) :
    extract ev c f .empty entries =
      (valuesOver ev c f entries).map fun values => (bindOver f values, .ofList values) := by
  suffices h : ∀ before, extract ev c (bindOver f before) (bindOver .empty before) entries =
      (entries.foldlM (nextValue ev c f) before).map
        fun values => (bindOver f values, bindOver .empty values) from h []
  -- on the expressions to come; those before are bound in both
  induction entries with
  | nil => exact fun before => rfl
  | cons e entries ih =>
    intro before
    rw [extract, List.foldlM_cons, nextValue]
    cases hvalue : ev.value e.2 (c.scopeWith (bindOver f before)) with
    | error err => rfl
    | ok v =>
      show extract ev c ((bindOver f before).insert e.1 v) ((bindOver .empty before).insert e.1 v) entries = _
      rw [← bindOver_concat, ← bindOver_concat]
      exact ih _

/-- Declaring goes through the expressions as `valuesOver` does. -/
theorem declare_eq_values (entries : List (String × String)) :
    declare ev c .empty entries = (valuesOver ev c .empty entries).map .ofList := by
  suffices h : ∀ before, declare ev c (bindOver .empty before) entries =
      (entries.foldlM (nextValue ev c .empty) before).map (bindOver .empty) from h []
  induction entries with
  | nil => exact fun before => rfl
  | cons e entries ih =>
    intro before
    rw [declare, List.foldlM_cons, nextValue]
    cases hvalue : ev.value e.2 (c.scopeWith (bindOver .empty before)) with
    | error err => rfl
    | ok v =>
      show declare ev c ((bindOver .empty before).insert e.1 v) entries = _
      rw [← bindOver_concat]
      exact ih _

/-- Judging asks the assertions one after the other. -/
theorem judge_eq_mapM (f : Frame) (assertions : List String) :
    judge ev c f assertions = assertions.mapM fun x => do
      return (⟨x, ← ev.holds x (c.scopeWith f)⟩ : Result.Assertion) := by
  induction assertions with
  | nil => rfl
  | cons x assertions ih =>
    rw [judge, List.mapM_cons, ih]
    cases ev.holds x (c.scopeWith f) with
    | error e => rfl
    | ok passed =>
      simp only [bind, Except.bind, pure, Except.pure]
      split <;> simp_all

theorem failuresOf_eq_unmet (outcomes : List Result.Assertion) : failuresOf outcomes = unmet outcomes := by
  unfold failuresOf unmet
  congr 1

/-- What comes of an exchange is what the engine makes of it. -/
theorem evaluated_eq (S : Setup Req Res) (leaf : Leaf) (request : Req) (response : Res) :
    evaluated S c leaf request response = (do
      let shown ← exchangeJson S request response
      let (f, extracted) ← extract S.evaluator c (exchangeFrame shown) .empty leaf.extractions.entries
      let outcomes ← judge S.evaluator c f leaf.assertions
      return (shown, extracted, outcomes)) := by
  unfold evaluated
  cases hshown : exchangeJson S request response with
  | error e => rfl
  | ok shown =>
    simp only [bind, Except.bind, extract_eq_values, judge_eq_mapM]
    cases valuesOver S.evaluator c (exchangeFrame shown) leaf.extractions.entries with
    | error e => rfl
    | ok extracted => rfl

end

/-- What comes of an exchange is all that taking a response looks at. -/
theorem complete_eq {S : Setup Req Res} {r : Run Req Res} {s : Step} {leaf : Leaf}
    (hleaf : s.action.leaf? = some leaf) (q : Req) (a : Res) :
    complete S r s q a =
      match evaluated S r.context leaf q a with
      | .error e => (.error e, r)
      | .ok (shown, extracted, outcomes) =>
        match unmet outcomes with
        | [] => (.ok (), commit r q a extracted (exchangeNode s shown extracted outcomes))
        | failures =>
          (.error (.expectation ⟨s.uuid, failures, r.extractions.extend extracted⟩),
            r.record (exchangeNode s shown extracted outcomes)) := by
  rw [evaluated_eq]
  unfold complete
  rw [hleaf]
  cases hshown : exchangeJson S q a with
  | error e => rfl
  | ok shown =>
      simp only [Except.bind, Bind.bind]
      cases hextract : extract S.evaluator r.context (exchangeFrame shown) .empty
          leaf.extractions.entries with
      | error e => rfl
      | ok result =>
          obtain ⟨f, extracted⟩ := result
          simp only
          cases hjudge : judge S.evaluator r.context f leaf.assertions with
          | error e => rfl
          | ok outcomes =>
              simp only [pure, Except.pure, failuresOf_eq_unmet]
              cases unmet outcomes <;> rfl

/-! ## Steps -/

/-- Take the response to a request. Only if all assertions hold, what was extracted is bound and the
exchange counts; it is recorded in any case. -/
def answered (S : Setup Req Res) (m : Memory Req Res) (s : Step) (leaf : Leaf) (request : Req)
    (response : Res) : Outcome Req Res Result.Node :=
  match evaluated S m.context leaf request response with
  | .error e => .failed m e
  | .ok (shown, extracted, outcomes) =>
    let node := exchangeNode s shown extracted outcomes
    match unmet outcomes with
    | [] =>
      .done { m with
        context := (bindAll m.context extracted.entries).recordCompleted
        previous := some ⟨request, response⟩
        extractions := m.extractions.extend extracted } [node]
    | failures =>
      ⟨m, [node], some (.expectation ⟨s.uuid, failures, m.extractions.extend extracted⟩)⟩

/-- Ask for the response to the request of a step. A request that is not the same as itself has no
response. -/
def exchanged (S : Setup Req Res) (respond : List (Nat × Req) → Res) (m : Memory Req Res) (place : Nat)
    (s : Step) (leaf : Leaf) : Outcome Req Res Result.Node :=
  match S.converter.convert S.evaluator s m.context.scope m.previous with
  | .error e => .failed m e
  | .ok request =>
    let m := { m with asked := m.asked ++ [(place, request)] }
    if S.converter.same request request then answered S m s leaf request (respond m.asked)
    else .failed m (.protocol (.otherRequest s.uuid))

/-- An iteration of a loop or of a repeated chain; its children are its record. -/
abbrev Round := Result.Pass × List Result.Node

/-- Run a chain for every item, each time in a new frame. -/
def forItems (key value : String) (chain : Memory Req Res → Outcome Req Res Result.Node) :
    List (Json × Json) → Memory Req Res → Outcome Req Res Round
  | [], m => .done m []
  | item :: items, m =>
    ((m.within (itemFrame key value item) chain).gather fun nodes =>
      (⟨some item.1, some item.2⟩, nodes)).andThen (forItems key value chain items)

/-- Run a chain as long as a condition holds, of which the verdict before the next round is known. All
rounds share a frame. Before the round of a number, `left` further rounds are allowed. -/
def whileHolds (S : Setup Req Res) (s : Step) (condition : String)
    (chain : Memory Req Res → Outcome Req Res Result.Node) :
    (left number : Nat) → (verdict : Except Error Bool) → Memory Req Res → Outcome Req Res Round
  | _, _, .error e, m => .failed m e
  | _, _, .ok false, m => .done m []
  | 0, _, .ok true, m => .failed m (.configuration (.tooManyIterations s.uuid S.iterationLimit))
  | left + 1, number, .ok true, m =>
    ((chain m).gather fun nodes => (⟨some (.ofNat number), none⟩, nodes)).andThen fun m =>
      whileHolds S s condition chain left (number + 1)
        (S.evaluator.holds condition m.context.scope) m

/-- The record of a loop or of a repeated chain. -/
def roundsNode (s : Step) (rounds : List Round) : Result.Node :=
  { Result.Node.ofStep s with iterations := rounds }

/-- The record of a block with what it declares. -/
def blockNode (s : Step) (f : Frame) (nodes : List Result.Node) : Result.Node :=
  { declaringNode s f with steps := nodes }

/-- The record of a choice with the children of the branch that is taken. -/
def choiceNode (s : Step) (holds : Bool) (nodes : List Result.Node) : Result.Node :=
  if holds then { branchNode s holds with thenSteps := nodes }
  else { branchNode s holds with elseSteps := nodes }

/-- What a step does; `inner` and `other` are the meanings of the chains that it contains. -/
def perform (S : Setup Req Res) (respond : List (Nat × Req) → Res)
    (inner other : Memory Req Res → Outcome Req Res Result.Node) (place : Nat) (s : Step)
    (m : Memory Req Res) : Outcome Req Res Result.Node :=
  match s.action with
  | .visit _ _ _ leaf | .click _ leaf | .reload leaf | .follow leaf =>
    exchanged S respond m place s leaf
  | .empty => .done m [.ofStep s]
  | .block declarations _ =>
    match valuesOver S.evaluator m.context .empty declarations.entries with
    | .error e => .failed m e
    | .ok values => (m.within (.ofList values) inner).gather (blockNode s (.ofList values))
  | .each collection key value _ =>
    match (S.evaluator.value collection m.context.scope).bind (itemsOf s) with
    | .error e => .failed m e
    | .ok items => (forItems key value inner items m).gather (roundsNode s)
  | .repeated condition _ =>
    match S.evaluator.holds condition (m.context.scopeWith .empty) with
    | .error e => .failed m e
    | .ok holds =>
      (m.within .empty (whileHolds S s condition inner S.iterationLimit 0 (.ok holds))).gather
        (roundsNode s)
  | .choice condition _ _ =>
    match S.evaluator.holds condition m.context.scope with
    | .error e => .failed m e
    | .ok holds =>
      (m.within .empty (if holds then inner else other)).gather (choiceNode s holds)

/-! ## Scripts -/

/-- What a chain does, step by step. -/
def meaning (S : Setup Req Res) (respond : List (Nat × Req) → Res) :
    Script → Memory Req Res → Outcome Req Res Result.Node
  | .stop, m => .done m []
  | .step place s inner other rest, m =>
    (perform S respond (meaning S respond inner) (meaning S respond other) place s m).andThen
      (meaning S respond rest)

/-- The account of a run: the requests that were handed out, each with the place of its step, the error
that ended it (none if it came to the end of its graph), all that was extracted, the number of completed
exchanges, and the tree of records. -/
structure Account (Req : Type) where
  asked : List (Nat × Req)
  ending : Option Error
  extractions : Bindings Json
  completed : Nat
  results : Result.Tree

/-- The account of a script over base values; the top chain has a frame of its own. -/
def interpret (S : Setup Req Res) (respond : List (Nat × Req) → Res) (values : Bindings Json)
    (script : Script) : Account Req :=
  let o := meaning S respond script ⟨(Context.strict values).push .empty, none, .empty, []⟩
  ⟨o.memory.asked, o.error, o.memory.extractions, o.memory.context.completed, ⟨o.records⟩⟩

end Walkthrough.Engine
