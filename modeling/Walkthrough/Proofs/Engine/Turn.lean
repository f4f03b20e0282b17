import Mathlib.Logic.Relation
import Walkthrough.Engine.Protocol

/-!
# What a turn does

Everything that one turn can do to a run, as rules (`Turned`), and what advancing comes to: some turns
after which the run goes on, and one that ends them (`advance_eq_ok`). Whatever every turn keeps,
advancing keeps.

* `turned_of_turn` — the rules say all that a turn can do;
* `advance_eq_ok` — advancing as turns and their end.
-/

namespace Walkthrough.Engine

variable {Req Res : Type}

/-- The run whose innermost chain goes on at another place. -/
def Run.moveTo (r : Run Req Res) (next : Option Nat) : Run Req Res :=
  match r.cursors with
  | [] => r
  | c :: rest => { r with cursors := ⟨next, c.container⟩ :: rest }

/-- The innermost chain is about to enter a step. -/
def Run.At (S : Setup Req Res) (r : Run Req Res) (place : Nat) (s : Step) : Prop :=
  (∃ k rest, r.cursors = ⟨some place, k⟩ :: rest) ∧ S.graph.step? place = some s

/-- The innermost chain is that of a container, and at its end; around it are further cursors. -/
def Run.EndOf (S : Setup Req Res) (r : Run Req Res) (c : Container) (s : Step) (rest : List Cursor) :
    Prop :=
  r.cursors = ⟨none, some c⟩ :: rest ∧ S.graph.step? c.place = some s

/-- A chain is about to go on at a place, or is that of the container at the place. -/
def Run.Touches (r : Run Req Res) (p : Nat) : Prop :=
  ∃ c ∈ r.cursors, c.position = some p ∨ ∃ k, c.container = some k ∧ k.place = p

theorem Run.At.touches {S : Setup Req Res} {r : Run Req Res} {p : Nat} {s : Step} (h : r.At S p s) :
    r.Touches p := by
  obtain ⟨⟨k, rest, hcursors⟩, _⟩ := h
  exact ⟨⟨some p, k⟩, by rw [hcursors]; exact List.mem_cons_self, .inl rfl⟩

theorem Run.EndOf.touches {S : Setup Req Res} {r : Run Req Res} {c : Container} {s : Step}
    {rest : List Cursor} (h : r.EndOf S c s rest) : r.Touches c.place :=
  ⟨⟨none, some c⟩, by rw [h.1]; exact List.mem_cons_self, .inr ⟨c, rfl, rfl⟩⟩

/-- Nothing is left to do in a container, or its step is of another kind than what is left. -/
def Spent (S : Setup Req Res) (r : Run Req Res) (c : Container) (s : Step) : Prop :=
  match c.control, s.action with
  | .items (_ :: _), .each .. => False
  | .counted _, .repeated condition _ => S.evaluator.holds condition r.scope = .ok false
  | _, _ => True

/-- The record of a step with what it declares. -/
def declaringNode (s : Step) (f : Frame) : Result.Node :=
  let node := Result.Node.ofStep s
  { node with facts := { node.facts with declared := f } }

/-- The record of a choice with the branch that is taken. -/
def branchNode (s : Step) (holds : Bool) : Result.Node :=
  let node := Result.Node.ofStep s
  { node with facts := { node.facts with
      branch := some (if holds then .holds else .otherwise) } }

/-- What has no items is said of the step whose collection it is. -/
theorem itemsOf_error {s : Step} {v : Json} {e : Error} (h : itemsOf s v = .error e) :
    ∃ v', e = .configuration (.notIterable s.uuid v') := by
  unfold itemsOf at h
  split at h
  · exact absurd h (by simp)
  · exact absurd h (by simp)
  · exact ⟨_, (Except.error.inj h).symm⟩

/-- What a turn can do. -/
inductive Turned (S : Setup Req Res) (r : Run Req Res) : Turn Req Res → Prop
  | finish : r.cursors = [] → Turned S r (.finished r)
  | want {p s} : r.At S p s → s.action.isRequest = true →
      Turned S r (.wanted (r.moveTo s.next) p)
  | skip {p s} : r.At S p s → s.action = .empty →
      Turned S r (.on ((r.moveTo s.next).record (.ofStep s)))
  | enterBlock {p s declarations child f} : r.At S p s → s.action = .block declarations child →
      declare S.evaluator r.context .empty declarations.entries = .ok f →
      Turned S r (.on ((r.moveTo s.next).openContainer child ⟨p, .block, declaringNode s f⟩ f))
  | failBlock {p s declarations child e} : r.At S p s → s.action = .block declarations child →
      declare S.evaluator r.context .empty declarations.entries = .error e →
      Turned S r (.failed (r.moveTo s.next) e)
  | passEach {p s collection key value child} : r.At S p s →
      s.action = .each collection key value child →
      (S.evaluator.value collection r.scope).bind (itemsOf s) = .ok [] →
      Turned S r (.on ((r.moveTo s.next).record (.ofStep s)))
  | enterEach {p s collection key value child item items} : r.At S p s →
      s.action = .each collection key value child →
      (S.evaluator.value collection r.scope).bind (itemsOf s) = .ok (item :: items) →
      Turned S r (.on ((r.moveTo s.next).openContainer child
        ⟨p, .items items, (Result.Node.ofStep s).beginIteration (some item.1) (some item.2)⟩
        (itemFrame key value item)))
  | failEach {p s collection key value child e} : r.At S p s →
      s.action = .each collection key value child →
      (S.evaluator.value collection r.scope).bind (itemsOf s) = .error e →
      Turned S r (.failed (r.moveTo s.next) e)
  | passRepeated {p s condition child} : r.At S p s → s.action = .repeated condition child →
      S.evaluator.holds condition (r.context.scopeWith .empty) = .ok false →
      Turned S r (.on ((r.moveTo s.next).record (.ofStep s)))
  | enterRepeated {p s condition child} : r.At S p s → s.action = .repeated condition child →
      S.evaluator.holds condition (r.context.scopeWith .empty) = .ok true →
      Turned S r (.on ((r.moveTo s.next).openContainer child
        ⟨p, .counted 1, (Result.Node.ofStep s).beginIteration (some (.ofNat 0)) none⟩ .empty))
  | failRepeated {p s condition child e} : r.At S p s → s.action = .repeated condition child →
      S.evaluator.holds condition (r.context.scopeWith .empty) = .error e →
      Turned S r (.failed (r.moveTo s.next) e)
  | enterChoice {p s condition holds otherwise b} : r.At S p s →
      s.action = .choice condition holds otherwise →
      S.evaluator.holds condition r.scope = .ok b →
      Turned S r (.on ((r.moveTo s.next).openContainer (if b then holds else otherwise)
        ⟨p, .choice, branchNode s b⟩ .empty))
  | failChoice {p s condition holds otherwise e} : r.At S p s →
      s.action = .choice condition holds otherwise →
      S.evaluator.holds condition r.scope = .error e →
      Turned S r (.failed (r.moveTo s.next) e)
  | closeTop {rest} : r.cursors = ⟨none, none⟩ :: rest → Turned S r (.on r.close)
  | closeContainer {c s rest} : r.EndOf S c s rest → Spent S r c s → Turned S r (.on r.close)
  | nextItem {c s rest collection key value child item items} : r.EndOf S c s rest →
      c.control = .items (item :: items) → s.action = .each collection key value child →
      Turned S r (.on (beginIteration
        { r with context := r.context.pop.push (itemFrame key value item) } rest c (.items items)
        child (some item.1) (some item.2)))
  | nextRound {c s rest condition child n} : r.EndOf S c s rest → c.control = .counted n →
      s.action = .repeated condition child → S.evaluator.holds condition r.scope = .ok true →
      n < S.iterationLimit →
      Turned S r (.on (beginIteration r rest c (.counted (n + 1)) child (some (.ofNat n)) none))
  | failRound {c s rest condition child n e} : r.EndOf S c s rest → c.control = .counted n →
      s.action = .repeated condition child → S.evaluator.holds condition r.scope = .error e →
      Turned S r (.failed r e)
  | exceed {c s rest condition child n} : r.EndOf S c s rest → c.control = .counted n →
      s.action = .repeated condition child → S.evaluator.holds condition r.scope = .ok true →
      S.iterationLimit ≤ n →
      Turned S r (.failed r (.configuration (.tooManyIterations s.uuid S.iterationLimit)))

/-! ## The rules say all -/

theorem moveTo_eq {r : Run Req Res} {position : Option Nat} {k : Option Container}
    {rest : List Cursor} (h : r.cursors = ⟨position, k⟩ :: rest) (next : Option Nat) :
    r.moveTo next = { r with cursors := ⟨next, k⟩ :: rest } := by
  unfold Run.moveTo
  rw [h]

theorem moveTo_nil {r : Run Req Res} (h : r.cursors = []) (next : Option Nat) : r.moveTo next = r := by
  unfold Run.moveTo
  rw [h]

@[simp] theorem moveTo_context (r : Run Req Res) (next : Option Nat) :
    (r.moveTo next).context = r.context := by
  unfold Run.moveTo
  split <;> rfl

theorem turned_of_enter {S : Setup Req Res} {r : Run Req Res} {p : Nat} {s : Step}
    (hat : r.At S p s) : Turned S r (enter S (r.moveTo s.next) p s) := by
  unfold enter
  cases haction : s.action with
  | visit | click | reload | follow =>
      exact .want hat (by rw [haction]; rfl)
  | empty => exact .skip hat haction
  | block declarations child =>
      simp only [moveTo_context]
      split
      · next e he => exact .failBlock hat haction he
      · next f hf => exact .enterBlock hat haction hf
  | each collection key value child =>
      simp only [Run.scope, moveTo_context]
      split
      · next e he => exact .failEach hat haction he
      · next hnil => exact .passEach hat haction hnil
      · next item items hitems => exact .enterEach hat haction hitems
  | repeated condition child =>
      simp only [moveTo_context]
      split
      · next e he => exact .failRepeated hat haction he
      · next hfalse => exact .passRepeated hat haction hfalse
      · next htrue => exact .enterRepeated hat haction htrue
  | choice condition holds otherwise =>
      simp only [Run.scope, moveTo_context]
      split
      · next e he => exact .failChoice hat haction he
      · next b hb => exact .enterChoice hat haction hb

theorem turned_of_continue {S : Setup Req Res} {r : Run Req Res} {c : Container} {s : Step}
    {rest : List Cursor} (hend : r.EndOf S c s rest) :
    Turned S r (continueContainer S r rest c s) := by
  unfold continueContainer
  split
  · next item items collection key value child hcontrol haction =>
    exact .nextItem hend hcontrol haction
  · next n condition child hcontrol haction =>
    split
    · next e he => exact .failRound hend hcontrol haction he
    · next hfalse =>
      refine .closeContainer hend ?_
      unfold Spent
      rw [hcontrol, haction]
      exact hfalse
    · next htrue =>
      split
      · next hlimit => exact .exceed hend hcontrol haction htrue hlimit
      · next hlimit => exact .nextRound hend hcontrol haction htrue (Nat.lt_of_not_le hlimit)
  · next hitems hcounted =>
    refine .closeContainer hend ?_
    unfold Spent
    split
    · next item items collection key value child hcontrol haction =>
      exact hitems item items collection key value child hcontrol haction
    · next n condition child hcontrol haction =>
      exact absurd haction (hcounted n condition child hcontrol)
    · trivial

/-- A turn does what the rules say. -/
theorem turned_of_turn {S : Setup Req Res} {r : Run Req Res} {t : Turn Req Res}
    (h : turn S r = .ok t) : Turned S r t := by
  unfold turn at h
  split at h
  · next hnil =>
    obtain rfl := Except.ok.inj h
    exact .finish hnil
  · next p k rest hcursors =>
    split at h
    · next s hs =>
      obtain rfl := Except.ok.inj h
      rw [← moveTo_eq hcursors]
      exact turned_of_enter ⟨⟨k, rest, hcursors⟩, hs⟩
    · exact absurd h (by simp)
  · next rest hcursors =>
    obtain rfl := Except.ok.inj h
    exact .closeTop hcursors
  · next c rest hcursors =>
    split at h
    · next s hs =>
      obtain rfl := Except.ok.inj h
      exact turned_of_continue ⟨hcursors, hs⟩
    · exact absurd h (by simp)

/-- A turn at a step enters it. -/
theorem turn_of_at {S : Setup Req Res} {r : Run Req Res} {p : Nat} {s : Step} (h : r.At S p s) :
    turn S r = .ok (enter S (r.moveTo s.next) p s) := by
  obtain ⟨⟨k, rest, hcursors⟩, hs⟩ := h
  rw [moveTo_eq hcursors]
  unfold turn
  rw [hcursors]
  simp only [hs]

/-- A turn at the end of the chain of a container goes on with the container. -/
theorem turn_of_endOf {S : Setup Req Res} {r : Run Req Res} {c : Container} {s : Step}
    {rest : List Cursor} (h : r.EndOf S c s rest) : turn S r = .ok (continueContainer S r rest c s) := by
  unfold turn
  rw [h.1]
  simp only [h.2]

/-! ## Advancing -/

/-- Turns after which the run goes on. -/
def Turns (S : Setup Req Res) : Run Req Res → Run Req Res → Prop :=
  Relation.ReflTransGen fun r r' => turn S r = .ok (.on r')

/-- The turn that ends advancing. -/
inductive Ends (S : Setup Req Res) (r : Run Req Res) : Except Error Unit → Run Req Res → Prop
  | wanted {r' p} : turn S r = .ok (.wanted r' p) → Ends S r (.ok ()) (r'.await p)
  | finished {r'} : turn S r = .ok (.finished r') → Ends S r (.ok ()) r'.finish
  | failed {r' e} : turn S r = .ok (.failed r' e) → Ends S r (.error e) r'.fail

theorem advance_eq_ok {S : Setup Req Res} {fuel : Nat} {r r' : Run Req Res} {a : Except Error Unit}
    (h : advance S fuel r = .ok (a, r')) : ∃ r₁, Turns S r r₁ ∧ Ends S r₁ a r' := by
  induction fuel generalizing r with
  | zero => exact absurd h (by simp [advance])
  | succ fuel ih =>
      unfold advance at h
      split at h
      · exact absurd h (by simp)
      · next r₂ hturn =>
        obtain ⟨r₁, hturns, hends⟩ := ih h
        exact ⟨r₁, .head hturn hturns, hends⟩
      · next r₂ p hturn =>
        obtain ⟨rfl, rfl⟩ := Prod.mk.inj (Except.ok.inj h)
        exact ⟨r, .refl, .wanted hturn⟩
      · next r₂ hturn =>
        obtain ⟨rfl, rfl⟩ := Prod.mk.inj (Except.ok.inj h)
        exact ⟨r, .refl, .finished hturn⟩
      · next r₂ e hturn =>
        obtain ⟨rfl, rfl⟩ := Prod.mk.inj (Except.ok.inj h)
        exact ⟨r, .refl, .failed hturn⟩

/-- Advancing stops at a place outside the graph only where a turn does. -/
theorem advance_dangling {S : Setup Req Res} {fuel p : Nat} {r : Run Req Res}
    (h : advance S fuel r = .error (.dangling p)) :
    ∃ r₁, Turns S r r₁ ∧ turn S r₁ = .error (.dangling p) := by
  induction fuel generalizing r with
  | zero => exact absurd h (by simp [advance])
  | succ fuel ih =>
      unfold advance at h
      split at h
      · next stop hturn =>
        obtain rfl := Except.error.inj h
        exact ⟨r, .refl, hturn⟩
      · next r₂ hturn =>
        obtain ⟨r₁, hturns, hdangling⟩ := ih h
        exact ⟨r₁, .head hturn hturns, hdangling⟩
      · exact absurd h (by simp)
      · exact absurd h (by simp)
      · exact absurd h (by simp)

/-- A turn after which the run goes on costs one unit of fuel. -/
theorem advance_on {S : Setup Req Res} {r r' : Run Req Res} (h : turn S r = .ok (.on r'))
    (fuel : Nat) : advance S (fuel + 1) r = advance S fuel r' := by
  rw [advance, h]

theorem advance_of_ends {S : Setup Req Res} {r r' : Run Req Res} {a : Except Error Unit}
    (h : Ends S r a r') (fuel : Nat) : advance S (fuel + 1) r = .ok (a, r') := by
  cases h with
  | wanted hturn => rw [advance, hturn]
  | finished hturn => rw [advance, hturn]
  | failed hturn => rw [advance, hturn]

/-- With enough fuel, advancing takes all turns and the one that ends them. -/
theorem advance_of_turns {S : Setup Req Res} {r r₁ r' : Run Req Res} {a : Except Error Unit}
    (h : Turns S r r₁) (hends : Ends S r₁ a r') : ∃ fuel, advance S fuel r = .ok (a, r') := by
  induction h using Relation.ReflTransGen.head_induction_on with
  | refl => exact ⟨1, advance_of_ends hends 0⟩
  | head hturn _ ih =>
    obtain ⟨fuel, hfuel⟩ := ih
    exact ⟨fuel + 1, (advance_on hturn fuel).trans hfuel⟩

/-- What every turn keeps, turns keep. -/
theorem Turns.keep {S : Setup Req Res} {P : Run Req Res → Prop}
    (step : ∀ r r', P r → turn S r = .ok (.on r') → P r') {r r' : Run Req Res} (h : Turns S r r')
    (hr : P r) : P r' := by
  induction h with
  | refl => exact hr
  | tail _ hturn ih => exact step _ _ ih hturn

/-! ## What turns do not touch -/

@[simp] theorem moveTo_phase (r : Run Req Res) (next : Option Nat) :
    (r.moveTo next).phase = r.phase := by
  unfold Run.moveTo
  split <;> rfl

@[simp] theorem moveTo_pending (r : Run Req Res) (next : Option Nat) :
    (r.moveTo next).pending = r.pending := by
  unfold Run.moveTo
  split <;> rfl

@[simp] theorem moveTo_previous (r : Run Req Res) (next : Option Nat) :
    (r.moveTo next).previous = r.previous := by
  unfold Run.moveTo
  split <;> rfl

@[simp] theorem moveTo_extractions (r : Run Req Res) (next : Option Nat) :
    (r.moveTo next).extractions = r.extractions := by
  unfold Run.moveTo
  split <;> rfl

@[simp] theorem record_context (r : Run Req Res) (n : Result.Node) :
    (r.record n).context = r.context := by
  unfold Run.record
  split <;> rfl

@[simp] theorem record_phase (r : Run Req Res) (n : Result.Node) : (r.record n).phase = r.phase := by
  unfold Run.record
  split <;> rfl

@[simp] theorem record_pending (r : Run Req Res) (n : Result.Node) :
    (r.record n).pending = r.pending := by
  unfold Run.record
  split <;> rfl

@[simp] theorem record_previous (r : Run Req Res) (n : Result.Node) :
    (r.record n).previous = r.previous := by
  unfold Run.record
  split <;> rfl

@[simp] theorem record_extractions (r : Run Req Res) (n : Result.Node) :
    (r.record n).extractions = r.extractions := by
  unfold Run.record
  split <;> rfl

/-- What a run is apart from its variables, its cursors and its records. -/
structure Standing (Req Res : Type) where
  phase : Phase
  pending : Option (Pending Req)
  previous : Option (Exchange Req Res)
  extractions : Bindings Json
  completed : Nat

/-- The standing of a run. -/
def Run.standing (r : Run Req Res) : Standing Req Res :=
  ⟨r.phase, r.pending, r.previous, r.extractions, r.context.completed⟩

@[simp] theorem moveTo_standing (r : Run Req Res) (next : Option Nat) :
    (r.moveTo next).standing = r.standing := by
  simp [Run.standing]

@[simp] theorem record_standing (r : Run Req Res) (n : Result.Node) :
    (r.record n).standing = r.standing := by
  simp [Run.standing]

@[simp] theorem openContainer_standing (r : Run Req Res) (head : Option Nat) (c : Container)
    (f : Frame) : (r.openContainer head c f).standing = r.standing := rfl

@[simp] theorem close_standing (r : Run Req Res) : r.close.standing = r.standing := by
  unfold Run.close
  split
  · rfl
  · split
    · rw [record_standing]
      rfl
    · rfl

/-- The run that a turn leads to. -/
def Turn.run : Turn Req Res → Run Req Res
  | .on r | .wanted r _ | .finished r | .failed r _ => r

/-- A turn changes nothing of the standing of a run. -/
theorem turn_standing {S : Setup Req Res} {r : Run Req Res} {t : Turn Req Res}
    (h : turn S r = .ok t) : t.run.standing = r.standing := by
  cases turned_of_turn h with
  | finish => rfl
  | want => exact moveTo_standing _ _
  | skip => exact (record_standing _ _).trans (moveTo_standing _ _)
  | enterBlock => exact (openContainer_standing _ _ _ _).trans (moveTo_standing _ _)
  | failBlock => exact moveTo_standing _ _
  | passEach => exact (record_standing _ _).trans (moveTo_standing _ _)
  | enterEach => exact (openContainer_standing _ _ _ _).trans (moveTo_standing _ _)
  | failEach => exact moveTo_standing _ _
  | passRepeated => exact (record_standing _ _).trans (moveTo_standing _ _)
  | enterRepeated => exact (openContainer_standing _ _ _ _).trans (moveTo_standing _ _)
  | failRepeated => exact moveTo_standing _ _
  | enterChoice => exact (openContainer_standing _ _ _ _).trans (moveTo_standing _ _)
  | failChoice => exact moveTo_standing _ _
  | closeTop => exact close_standing _
  | closeContainer => exact close_standing _
  | nextItem => rfl
  | nextRound => rfl
  | failRound => rfl
  | exceed => rfl

theorem Turns.standing {S : Setup Req Res} {r r' : Run Req Res} (h : Turns S r r') :
    r'.standing = r.standing :=
  h.keep (P := fun r₁ => r₁.standing = r.standing)
    (fun _ _ ih hturn => (turn_standing hturn).trans ih) rfl

end Walkthrough.Engine
