import Walkthrough.Proofs.Fallible
import Walkthrough.Proofs.Validation.Resolves
import Walkthrough.RequestMaker

/-!
# Why a request is not made

A request is made from the expressions of its action and of its headers. If it is not made, something is
wrong with the scenario, or one of these expressions has no value (`request_fails`). So if all of them
have values, whatever keeps the request from being made is no expression (`noUndefined_request`).
-/

namespace Walkthrough

variable {α β : Type}

/-- If it fails, then not for an expression without a value. -/
def NoUndefined (x : Except Error α) : Prop := ∀ fault, x ≠ .error (.expression fault)

theorem noUndefined_ok (a : α) : NoUndefined (.ok a) := fun _ h => absurd h (by simp)

theorem noUndefined_configuration (fault : ConfigurationFault) :
    NoUndefined (.error (.configuration fault) : Except Error α) := fun _ h => absurd h (by simp)

theorem NoUndefined.map {x : Except Error α} (hx : NoUndefined x) (f : α → β) :
    NoUndefined (x.map f) := by
  intro fault h
  cases x with
  | error e =>
      obtain rfl := Except.error.inj h
      exact hx fault rfl
  | ok a => exact absurd h (by simp [Except.map])

/-- A request is made from expressions of its step. -/
theorem Action.mem_expressions_of_request {a : Action} {x : String} (hx : x ∈ a.requestExpressions) :
    x ∈ a.expressions := by
  cases a with
  | visit | click | reload | follow =>
      simp only [requestExpressions, List.mem_append, List.mem_cons] at hx
      simp only [expressions, leaf?, List.mem_append, List.mem_cons]
      tauto
  | empty | block | each | repeated | choice => exact absurd hx (by simp [requestExpressions])

/-- The faults of a scenario that are found when a request is made. -/
inductive ConfigurationFault.OfRequest : ConfigurationFault → Prop
  | noRequest (uuid kind) : OfRequest (.noRequest uuid kind)
  | badUrl (text fault) : OfRequest (.badUrl text fault)
  | relativeUrl (text) : OfRequest (.relativeUrl text)
  | emptyMethod (uuid) : OfRequest (.emptyMethod uuid)
  | notRedirect (uuid status) : OfRequest (.notRedirect uuid status)
  | noPrevious (uuid kind) : OfRequest (.noPrevious uuid kind)

namespace RequestMaker

/-- Why a request is not made of some expressions: something is wrong with the scenario, or one of them
has no value. -/
inductive Cause (ev : Evaluator) (s : Scope) (expressions : List String) : Error → Prop
  | configuration (fault) : Cause ev s expressions (.configuration fault)
  | value {x e} : x ∈ expressions → ev.value x s = .error e → Cause ev s expressions e

/-- What is known of every fault that is found when a request is made, and of every error that one of some
expressions has instead of a value. -/
structure Admits (P : Error → Prop) (ev : Evaluator) (s : Scope) (expressions : List String) : Prop where
  configuration : ∀ fault : ConfigurationFault, fault.OfRequest → P (.configuration fault)
  value : ∀ x ∈ expressions, FailsWith P (ev.value x s)

section

variable {s : Scope} {ev : Evaluator} {xs : List String} {P : Error → Prop}

theorem cause_admits : Admits (Cause ev s xs) ev s xs where
  configuration fault _ := .configuration fault
  value _ hx _ hvalue := .value hx hvalue

namespace Admits

theorem fails (h : Admits P ev s xs) {fault : ConfigurationFault} (hfault : fault.OfRequest) :
    FailsWith P (.error (.configuration fault) : Except Error α) :=
  failsWith_error (h.configuration fault hfault)

theorem textOr_fails (h : Admits P ev s xs) (text : String) (url : Except Url.Fault Url) :
    FailsWith P (textOr text url) := by
  cases url with
  | ok url => exact failsWith_ok _
  | error fault => exact h.fails (.badUrl text fault)

theorem complete_fails (h : Admits P ev s xs) (address reference : String) :
    FailsWith P (complete address reference) := by
  unfold complete
  split
  · exact h.fails (.badUrl _ _)
  · exact h.textOr_fails _ _

theorem resolve_fails (h : Admits P ev s xs) (m : RequestMaker) (target : String)
    (previous : Option WebExchange) : FailsWith P (m.resolve target previous) := by
  unfold resolve
  split
  · exact failsWith_ok _
  · split
    · exact h.textOr_fails _ _
    · exact h.complete_fails _ _
    · exact h.fails (.relativeUrl target)

theorem need_fails (h : Admits P ev s xs) (step : Step) (previous : Option WebExchange) :
    FailsWith P (need step previous) := by
  cases previous with
  | none => exact h.fails (.noPrevious _ _)
  | some e => exact failsWith_ok _

theorem shown_fails (h : Admits P ev s xs) {x : String} (hx : x ∈ xs) : FailsWith P (ev.shown x s) :=
  (h.value x hx).map _

theorem visit_fails (h : Admits P ev s xs) (m : RequestMaker) (step : Step)
    (previous : Option WebExchange) {url : String} {method body : Option String}
    (hxs : ∀ x ∈ url :: (method.toList ++ body.toList), x ∈ xs) :
    FailsWith P (m.visit ev step s previous url method body) := by
  unfold visit
  refine (h.shown_fails (hxs url List.mem_cons_self)).bind fun target => ?_
  refine (h.resolve_fails m target previous).bind fun address => ?_
  extract_lets go
  have hgo : ∀ method', FailsWith P (go method') := by
    intro method'
    simp only [go]
    split
    · exact h.fails (.emptyMethod step.uuid)
    · cases body with
      | none => exact failsWith_ok _
      | some e => exact (h.value e (hxs e (by simp))).bind fun v => failsWith_ok _
  cases method with
  | none => exact (failsWith_ok _).bind hgo
  | some e => exact (h.shown_fails (hxs e (by simp))).bind hgo

theorem click_fails (h : Admits P ev s xs) (step : Step) (previous : Option WebExchange) {link : String}
    (hlink : link ∈ xs) : FailsWith P (click ev step s previous link) := by
  unfold click
  refine (h.need_fails step previous).bind fun e => ?_
  refine (h.shown_fails hlink).bind fun target => ?_
  exact (h.complete_fails _ _).bind fun address => failsWith_ok _

theorem follow_fails (h : Admits P ev s xs) (m : RequestMaker) (step : Step)
    (previous : Option WebExchange) : FailsWith P (m.follow step previous) := by
  unfold follow
  refine (h.need_fails step previous).bind fun e => ?_
  split
  · exact h.fails (.notRedirect _ _)
  · exact (h.complete_fails _ _).bind fun address => failsWith_ok _

theorem applyHeaders_fails (h : Admits P ev s xs) (headers : List (String × String)) (r : Request)
    (hxs : ∀ x ∈ headers.map Prod.snd, x ∈ xs) : FailsWith P (applyHeaders ev s headers r) := by
  induction headers generalizing r with
  | nil => exact failsWith_ok r
  | cons header headers ih =>
      obtain ⟨name, e⟩ := header
      rw [applyHeaders]
      refine (h.shown_fails (hxs e List.mem_cons_self)).bind fun shown => ?_
      exact ih _ fun e' he' => hxs e' (List.mem_cons_of_mem _ he')

end Admits

/-- If a request is not made, then for a fault or an error that is admitted. -/
theorem request_failsWith (m : RequestMaker) (step : Step) (previous : Option WebExchange)
    (h : Admits P ev s step.action.requestExpressions) :
    FailsWith P (m.request ev step s previous) := by
  unfold request base
  cases haction : step.action with
  | visit url method body leaf =>
      rw [haction] at h
      refine (h.visit_fails m step previous fun x hx => ?_).bind fun r =>
        h.applyHeaders_fails _ r fun x hx => ?_
      · exact List.mem_append_left _ hx
      · exact List.mem_append_right _ hx
  | click link leaf =>
      rw [haction] at h
      refine (h.click_fails step previous List.mem_cons_self).bind fun r =>
        h.applyHeaders_fails _ r fun x hx => ?_
      exact List.mem_cons_of_mem _ hx
  | reload leaf =>
      rw [haction] at h
      exact ((h.need_fails step previous).map _).bind fun r => h.applyHeaders_fails _ r fun x hx => hx
  | follow leaf =>
      rw [haction] at h
      exact (h.follow_fails m step previous).bind fun r => h.applyHeaders_fails _ r fun x hx => hx
  | empty | block | each | repeated | choice =>
      exact (h.fails (.noRequest _ _)).bind fun r => failsWith_ok r

/-- If a request is not made, something is wrong with the scenario, or one of the expressions that it is
made from has no value. -/
theorem request_fails (m : RequestMaker) (step : Step) (previous : Option WebExchange) :
    FailsWith (Cause ev s step.action.requestExpressions) (m.request ev step s previous) :=
  request_failsWith m step previous cause_admits

/-- If the expressions that a request is made from have values, its making does not fail for an
expression. -/
theorem noUndefined_request (m : RequestMaker) (step : Step) (previous : Option WebExchange)
    (h : ∀ e ∈ step.action.requestExpressions, ∃ v, ev.value e s = .ok v) :
    NoUndefined (m.request ev step s previous) := by
  intro fault hfault
  cases request_fails m step previous _ hfault with
  | value hx hvalue =>
      obtain ⟨v, hv⟩ := h _ hx
      exact absurd (hvalue.symm.trans hv) (by simp)

end

end RequestMaker

end Walkthrough
