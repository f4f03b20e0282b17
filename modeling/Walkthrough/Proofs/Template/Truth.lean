import Walkthrough.Proofs.Json.Canonical
import Walkthrough.Proofs.Template.Judging

/-!
# Truth of values

A condition is decided on the value of its expression, everything else on the JSON value that this is written
as. Whether a value counts as true and whether its JSON value does is the same for values of every kind, with
two exceptions: a float that is not finite is written as null, and a stream of unknown length may turn out to
have no items when it is written.

* `isTruthy_of_toJson` — a value is as true as its JSON value
* `isTrue_of_exception` — except for those two, which count as true and are written as what does not
* `conditions_decided` — what a condition answers, by what its expression has as a value
-/

namespace Walkthrough

namespace Template

namespace Value

/-! ## Lists of values -/

theorem itemsToJson_eq_nil_iff {items : List Value} {js : List Json} (h : itemsToJson items = .ok js) :
    js = [] ↔ items = [] := by
  cases items with
  | nil =>
    obtain rfl := Except.ok.inj h
    simp
  | cons v rest =>
    rw [itemsToJson] at h
    obtain ⟨j, -, hrest⟩ := bind_eq_ok h
    obtain ⟨more, -, hjs⟩ := bind_eq_ok hrest
    obtain rfl := Except.ok.inj hjs
    simp

theorem entriesToJson_eq_nil_iff {entries : List (Value × Value)} {members : List (String × Json)}
    (h : entriesToJson entries = .ok members) : members = [] ↔ entries = [] := by
  cases entries with
  | nil =>
    obtain rfl := Except.ok.inj h
    simp
  | cons e rest =>
    obtain ⟨k, v⟩ := e
    rw [entriesToJson] at h
    obtain ⟨name, -, hvalue⟩ := bind_eq_ok h
    obtain ⟨j, -, hrest⟩ := bind_eq_ok hvalue
    obtain ⟨more, -, hmembers⟩ := bind_eq_ok hrest
    obtain rfl := Except.ok.inj hmembers
    simp

theorem isEmpty_items {items : List Value} {js : List Json} (h : itemsToJson items = .ok js) :
    js.isEmpty = items.isEmpty := by
  rw [Bool.eq_iff_iff, List.isEmpty_iff, List.isEmpty_iff, itemsToJson_eq_nil_iff h]

theorem isEmpty_entries {entries : List (Value × Value)} {members : List (String × Json)}
    (h : entriesToJson entries = .ok members) : (Json.sortMembers members).isEmpty = entries.isEmpty := by
  rw [Bool.eq_iff_iff, List.isEmpty_iff, List.isEmpty_iff, Json.sortMembers_eq_nil_iff,
    entriesToJson_eq_nil_iff h]

/-! ## Floats -/

/-- An infinite float or NaN is not zero. -/
theorem bne_zero_of_not_finite {x : Float} (h : x.isFinite = false) : (x != 0.0) = true := by
  have hbits : (0.0 : Float).toModel.toBits = 0 := by decide +kernel
  have hzero : (0.0 : Float).toModel.unpack = .zero .positive := by
    rw [Float.Model.unpack, hbits]
    rfl
  change (!(x.toModel.unpack.compare (0.0 : Float).toModel.unpack == some Ordering.eq)) = true
  change x.toModel.unpack.isFinite = false at h
  rw [hzero]
  cases hx : x.toModel.unpack with
  | notANumber => rfl
  | infinity s => cases s <;> rfl
  | zero s =>
    rw [hx] at h
    exact Bool.noConfusion h
  | finite s m e hm =>
    rw [hx] at h
    exact Bool.noConfusion h

/-! ## Truth -/

/-- A stream of unknown length that has no items. -/
def isVacant : Value → Bool
  | .stream items sized => !sized && items.isEmpty
  | _ => false

/-- An infinite float or NaN. -/
def isUnbounded : Value → Bool
  | .float x => !x.isFinite
  | _ => false

theorem isTruthy_of_toJson {v : Value} {j : Json} (h : v.toJson = .ok j) (hbounded : v.isUnbounded = false)
    (hitems : v.isVacant = false) : j.isTruthy = v.isTrue := by
  cases v with
  | undefined | none | bool | string | invalid =>
    obtain rfl := Except.ok.inj h
    rfl
  | int n =>
    rw [toJson] at h
    split at h
    · next w hw =>
      obtain rfl := Except.ok.inj h
      obtain rfl := Word.ofInt?_eq_some_iff.1 hw
      rfl
    · exact absurd h (by simp)
  | wide n => exact absurd h (by simp [toJson])
  | float x =>
    have hfinite : x.isFinite = true := by simpa [isUnbounded] using hbounded
    obtain rfl := Except.ok.inj h
    rw [Json.ofFloat, FiniteFloat.ofFloat?, dif_pos hfinite]
    rfl
  | sequence items origin =>
    obtain ⟨js, hjs, rfl⟩ := map_eq_ok h
    rw [Json.isTruthy, isEmpty_items hjs, isTrue]
  | stream items sized =>
    obtain ⟨js, hjs, rfl⟩ := map_eq_ok h
    rw [Json.isTruthy, isEmpty_items hjs, isTrue]
    cases sized <;> simp_all [isVacant]
  | mapping entries origin =>
    obtain ⟨members, hmembers, rfl⟩ := map_eq_ok h
    rw [Json.isTruthy, isEmpty_entries hmembers, isTrue]
  | function f =>
    obtain rfl := Except.ok.inj h
    cases f <;> decide

/-- The exceptions count as true, and what they are written as does not. -/
theorem isTrue_of_exception {v : Value} (h : v.isUnbounded = true ∨ v.isVacant = true) :
    v.isTrue = true ∧ v.toJson = .ok (if v.isVacant then .array [] else .null) := by
  cases v with
  | float x =>
    have hbounded : x.isFinite = false := by simpa [isUnbounded, isVacant] using h
    refine ⟨bne_zero_of_not_finite hbounded, ?_⟩
    rw [toJson, Json.ofFloat, FiniteFloat.ofFloat?, dif_neg (by simp [hbounded])]
    rfl
  | stream items sized =>
    obtain ⟨rfl, rfl⟩ : sized = false ∧ items = [] := by simpa [isUnbounded, isVacant] using h
    exact ⟨rfl, rfl⟩
  | _ => simp [isUnbounded, isVacant] at h

end Value

/-! ## Conditions -/

theorem toJson_eq_ok {v : Value} {j : Json} (h : toJson v = .ok j) : v.toJson = .ok j := by
  unfold toJson at h
  split at h
  · next hjson => rw [hjson, Except.ok.inj h]
  · exact absurd h (by simp)

/-- A value that is not written as JSON is no fault of the expression. -/
theorem not_isOfExpression_toJson {v : Value} {e : Error} (h : toJson v = .error e) : ¬ IsOfExpression e := by
  unfold toJson at h
  split at h
  · exact absurd h (by simp)
  · obtain rfl := Except.error.inj h
    exact id

/-- **Conditions.** As a condition an expression misses the names that it misses as a value, and fails exactly
if its value fails because of what the expression says, with the same error. If it has a value, then as a
condition it answers whether its JSON value counts as true, as an evaluator does that has no conditions of its
own; except that it answers that it holds where the value is a float that is not finite, and is written as
null, or a stream of unknown length without items, and is written as an empty array. -/
theorem conditions_decided (restricted : Bool) (host : Host) (expression : String) (s : Scope) :
    let own := evaluator restricted host
    let value := own.evaluate expression s
    let condition := own.condition expression s
    condition.missing = value.missing ∧
    (∀ e, condition.result = .error e ↔ value.result = .error e ∧ IsOfExpression e) ∧
    ∀ j, value.result = .ok j →
      ∃ v, (valueOf restricted host expression s).result = .ok v ∧ v.toJson = .ok j ∧
        (v.isUnbounded = false ∧ v.isVacant = false →
          condition = (Evaluator.ofEvaluate own.evaluate).condition expression s ∧
          condition.result = .ok j.isTruthy) ∧
        (v.isUnbounded = true ∨ v.isVacant = true →
          j = (if v.isVacant then .array [] else .null) ∧ condition.result = .ok true) := by
  intro own value condition
  have hvalue : value.result = (valueOf restricted host expression s).result.bind toJson := rfl
  have hcondition : condition.result = (valueOf restricted host expression s).result.map Value.isTrue := rfl
  refine ⟨rfl, fun e => ?_, fun j hj => ?_⟩
  · rw [hvalue, hcondition]
    cases hresult : (valueOf restricted host expression s).result with
    | error e' =>
      have he' := valueOf_isOfExpression restricted host expression s e' hresult
      constructor
      · intro h
        obtain rfl : e' = e := Except.error.inj h
        exact ⟨rfl, he'⟩
      · exact fun h => congrArg Except.error (Except.error.inj h.1)
    | ok v =>
      constructor
      · exact fun h => absurd h (by simp [Except.map])
      · rintro ⟨h, he⟩
        exact absurd he (not_isOfExpression_toJson h)
  · rw [hvalue] at hj
    obtain ⟨v, hv, hjson⟩ := bind_eq_ok hj
    replace hjson := toJson_eq_ok hjson
    rw [hv] at hcondition
    refine ⟨v, hv, hjson, fun ⟨hbounded, hitems⟩ => ?_, fun hexception => ?_⟩
    · have htruth : condition.result = .ok j.isTruthy := by
        rw [hcondition, Value.isTruthy_of_toJson hjson hbounded hitems]
        rfl
      refine ⟨?_, htruth⟩
      show (⟨condition.result, value.missing⟩ : Answer Bool) = ⟨value.result.map Json.isTruthy, value.missing⟩
      rw [htruth, hvalue, hj]
      rfl
    · obtain ⟨htrue, hwritten⟩ := Value.isTrue_of_exception hexception
      refine ⟨Except.ok.inj (hjson.symm.trans hwritten), ?_⟩
      rw [hcondition, ← htrue]
      rfl

/-- A scope without variables. -/
def barren : Scope := (Context.strict .empty).scope

/-- A stream of unknown length that has an item is true, and so is the array that it is written as. -/
theorem chain_decided :
    ∃ j v, ((evaluator true .empty).evaluate "[] | chain(range(1))" barren).result = .ok j ∧
      (valueOf true .empty "[] | chain(range(1))" barren).result = .ok v ∧
      v.isUnbounded = false ∧ v.isVacant = false ∧ j.isTruthy = true ∧
      ((evaluator true .empty).condition "[] | chain(range(1))" barren).result = .ok j.isTruthy := by
  have hplain : (valueOf true .empty "[] | chain(range(1))" barren).result.toOption.map
      (fun v => (v.isUnbounded, v.isVacant)) = some (false, false) := by decide +kernel
  have htruth : ((evaluator true .empty).evaluate "[] | chain(range(1))" barren).result.toOption.map
      Json.isTruthy = some true := by decide +kernel
  cases hj : ((evaluator true .empty).evaluate "[] | chain(range(1))" barren).result with
  | error e =>
    rw [hj] at htruth
    exact absurd htruth (by simp [Except.toOption])
  | ok j =>
    obtain ⟨v, hv, -, hsame, -⟩ := (conditions_decided true .empty "[] | chain(range(1))" barren).2.2 j hj
    rw [hv] at hplain
    rw [hj] at htruth
    obtain ⟨hbounded, hitems⟩ := Prod.mk.inj (Option.some.inj hplain)
    exact ⟨j, v, rfl, hv, hbounded, hitems, Option.some.inj htruth, (hsame ⟨hbounded, hitems⟩).2⟩

/-- A chain of nothing is written as an empty array, which does not count as true, and holds as a condition. -/
theorem vacant_chain_holds :
    ∃ v, (valueOf false .empty "[] | chain(range(0))" barren).result = .ok v ∧ v.isUnbounded = false ∧
      ((evaluator false .empty).evaluate "[] | chain(range(0))" barren).result = .ok (.array []) ∧
      (Json.array []).isTruthy = false ∧
      ((evaluator false .empty).condition "[] | chain(range(0))" barren).result = .ok true := by
  have hvacant : (valueOf false .empty "[] | chain(range(0))" barren).result.toOption.map
      (fun v => (v.isUnbounded, v.isVacant)) = some (false, true) := by decide +kernel
  cases hv : (valueOf false .empty "[] | chain(range(0))" barren).result with
  | error e =>
    rw [hv] at hvacant
    exact absurd hvacant (by simp [Except.toOption])
  | ok v =>
    rw [hv] at hvacant
    obtain ⟨hbounded, hitems⟩ := Prod.mk.inj (Option.some.inj hvacant)
    obtain ⟨htrue, hjson⟩ := Value.isTrue_of_exception (.inr hitems)
    rw [hitems, if_pos rfl] at hjson
    refine ⟨v, rfl, hbounded, ?_, rfl, ?_⟩
    · simp [evaluator, hv, Except.bind, toJson, hjson]
    · simp [evaluator, hv, Except.map, htrue]

end Template

end Walkthrough
