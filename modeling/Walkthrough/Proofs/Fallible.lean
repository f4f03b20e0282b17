/-!
# Computations that may fail

What is known of a computation that returns a value or fails with an error: of the value
(`Returns`) or of the error (`FailsWith`). Both go through a sequence of computations step by step.
-/

namespace Walkthrough

variable {F α β : Type}

theorem map_eq_ok {f : α → β} {x : Except F α} {b : β} (h : x.map f = .ok b) :
    ∃ a, x = .ok a ∧ f a = b := by
  cases x with
  | error e => exact absurd h (by simp [Except.map])
  | ok a => exact ⟨a, rfl, Except.ok.inj h⟩

/-- What is known of all that is returned after a function, in terms of what was returned before it. -/
theorem forall_map_eq_ok {f : α → β} {x : Except F α} {Q : β → Prop} :
    (∀ b, x.map f = .ok b → Q b) ↔ ∀ a, x = .ok a → Q (f a) := by
  constructor
  · rintro h a rfl
    exact h (f a) rfl
  · intro h b hb
    obtain ⟨a, rfl, rfl⟩ := map_eq_ok hb
    exact h a rfl

theorem bind_eq_ok {f : α → Except F β} {x : Except F α} {b : β}
    (h : (x >>= f) = .ok b) : ∃ a, x = .ok a ∧ f a = .ok b := by
  cases x with
  | error e => exact absurd h (by simp [bind, Except.bind])
  | ok a => exact ⟨a, rfl, h⟩

/-! ## Values that are returned -/

/-- If it returns, then a value of which something is known. -/
def Returns (P : α → Prop) (x : Except F α) : Prop := ∀ a, x = .ok a → P a

section

variable {P : α → Prop} {Q : β → Prop}

theorem returns_ok {a : α} (h : P a) : Returns P (.ok a : Except F α) := by
  intro b hb
  obtain rfl := Except.ok.inj hb
  exact h

theorem returns_error (e : F) : Returns P (.error e) := fun _ h => absurd h (by simp)

theorem Returns.bind {x : Except F α} {f : α → Except F β} (hx : Returns P x)
    (hf : ∀ a, P a → Returns Q (f a)) : Returns Q (x >>= f) := by
  intro b h
  obtain ⟨a, ha, hb⟩ := bind_eq_ok h
  exact hf a (hx a ha) b hb

/-- Nothing needs to be known of a value on the way. -/
theorem Returns.next {x : Except F α} {f : α → Except F β} (hf : ∀ a, Returns Q (f a)) :
    Returns Q (x >>= f) :=
  Returns.bind (P := fun _ => True) (fun _ _ => trivial) fun a _ => hf a

end

/-! ## Errors -/

/-- If it fails, then with an error of which something is known. -/
def FailsWith (P : F → Prop) (x : Except F α) : Prop := ∀ e, x = .error e → P e

section

variable {P : F → Prop}

theorem failsWith_ok (a : α) : FailsWith P (.ok a) := fun _ h => absurd h (by simp)

theorem failsWith_error {e : F} (h : P e) : FailsWith P (.error e : Except F α) := by
  intro e' he
  obtain rfl := Except.error.inj he
  exact h

theorem FailsWith.bind {x : Except F α} {f : α → Except F β} (hx : FailsWith P x)
    (hf : ∀ a, FailsWith P (f a)) : FailsWith P (x >>= f) := by
  intro e h
  cases x with
  | error err =>
      obtain rfl : err = e := Except.error.inj h
      exact hx err rfl
  | ok a => exact hf a e h

theorem FailsWith.map {x : Except F α} (hx : FailsWith P x) (f : α → β) :
    FailsWith P (x.map f) := by
  intro e h
  cases x with
  | error err =>
      obtain rfl : err = e := Except.error.inj h
      exact hx err rfl
  | ok a => exact absurd h (by simp [Except.map])

end

end Walkthrough
