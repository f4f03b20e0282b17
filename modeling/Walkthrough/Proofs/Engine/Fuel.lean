import Walkthrough.Engine.Protocol

/-!
# Fuel

What is computed with some fuel is computed with any more (`Steady`): fuel only decides whether there is an
answer, and never which (`Steady.unique`).
-/

namespace Walkthrough.Engine

/-- Once there is an answer, more fuel changes nothing. -/
def Steady {F α : Type} (x : Nat → Except F α) : Prop :=
  ∀ ⦃fuel more : Nat⦄ ⦃a : α⦄, fuel ≤ more → x fuel = .ok a → x more = .ok a

/-- All fuels for which there is an answer have the same. -/
theorem Steady.unique {F α : Type} {x : Nat → Except F α} (h : Steady x) {fuel fuel' : Nat} {a b : α}
    (ha : x fuel = .ok a) (hb : x fuel' = .ok b) : a = b := by
  have ha' := h (Nat.le_max_left fuel fuel') ha
  have hb' := h (Nat.le_max_right fuel fuel') hb
  exact Except.ok.inj (ha'.symm.trans hb')

theorem steady_const {F α : Type} (x : Except F α) : Steady fun _ => x := fun _ _ _ _ h => h

/-- What begins with a steady computation and stops when it does is steady, if what comes after each answer
is. -/
theorem Steady.next {F α β : Type} {x : Nat → Except F α} {y : Nat → Except F β} (hx : Steady x)
    (hstops : ∀ fuel stop, x fuel = .error stop → y fuel = .error stop)
    (hnext : ∀ a, ∃ z, Steady z ∧ ∀ fuel, x fuel = .ok a → y fuel = z fuel) : Steady y := by
  intro fuel more b hle h
  cases ha : x fuel with
  | error stop => exact absurd ((hstops fuel stop ha).symm.trans h) (by simp)
  | ok a =>
    obtain ⟨z, hz, hy⟩ := hnext a
    rw [hy fuel ha] at h
    rw [hy more (hx hle ha)]
    exact hz hle h

variable {Req Res : Type} (S : Setup Req Res)

theorem advance_steady (r : Run Req Res) : Steady fun fuel => advance S fuel r := by
  intro fuel more a hle h
  simp only at h ⊢
  induction fuel generalizing r more with
  | zero => exact absurd h (by simp [advance])
  | succ fuel ih =>
    obtain ⟨more, rfl⟩ := Nat.exists_eq_add_of_le' (Nat.le_trans (Nat.le_add_left 1 fuel) hle)
    unfold advance at h ⊢
    cases hturn : turn S r with
    | error stop =>
      rw [hturn] at h
      exact absurd h (by simp)
    | ok t =>
      rw [hturn] at h
      cases t with
      | on r' => exact ih r' (Nat.le_of_succ_le_succ hle) h
      | wanted | finished | failed => exact h

theorem peek_steady (r : Run Req Res) : Steady fun fuel => peek S fuel r := by
  simp only [peek]
  cases r.phase with
  | failed | done | awaiting => exact steady_const _
  | created =>
    refine (advance_steady S (begin S r)).next (fun fuel stop h => by simp only [h]) fun answer => ?_
    exact ⟨_, steady_const _, fun fuel h => by simp only [h]; rfl⟩

theorem resume_steady (r : Run Req Res) (request : Req) (response : Res) :
    Steady fun fuel => resume S fuel r request response := by
  intro fuel more a hle h
  simp only [resume] at h ⊢
  split
  · next stop hawaited =>
    rw [hawaited] at h
    exact absurd h (by simp)
  · next e hawaited =>
    rw [hawaited] at h
    exact h
  · next p s hawaited =>
    rw [hawaited] at h
    simp only at h ⊢
    split
    · next e r' hcomplete =>
      rw [hcomplete] at h
      exact h
    · next r' hcomplete =>
      rw [hcomplete] at h
      exact advance_steady S r' hle h

end Walkthrough.Engine
