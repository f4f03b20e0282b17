import Walkthrough.Proofs.Engine.Balance
import Walkthrough.Proofs.Engine.Meaning
import Walkthrough.Proofs.Engine.Snapshots

/-!
# What comes of a response

What a step makes of a response, said without the run that takes it (`Assessed`): its extractions one
after the other, each where the exchange and those before it are seen, and then its assertions, where the
exchange and all extractions are seen. What a run holds (`Run.holdings`) changes by this alone, and all at
once.

* `assessed_iff` — these rules say what comes of a response;
* `commit_holdings` — what a run holds after an exchange that is kept;
* `responses_all_or_nothing` — an error keeps all that a run holds, assertions that do not hold add one
  record, and otherwise the whole exchange is kept.
-/

namespace Walkthrough.Engine

open Result (Assertion)

variable {Req Res : Type}

/-! ## Assessments -/

/-- What the expressions of a step see over the scope of its run: an exchange, and what was extracted from
it so far. -/
def seenOver (exchange : Json × Json) (extracted : List (String × Json)) : Frame :=
  bindOver (exchangeFrame exchange) extracted

/-- Extractions and what they come to, each evaluated where the exchange and those before it are seen. -/
inductive Extracts (ev : Evaluator) (c : Context) (exchange : Json × Json) :
    List (String × String) → List (String × Json) → Prop
  | nil : Extracts ev c exchange [] []
  | snoc {entries extracted name x v} : Extracts ev c exchange entries extracted →
      ev.value x (c.scopeWith (seenOver exchange extracted)) = .ok v →
      Extracts ev c exchange (entries ++ [(name, x)]) (extracted ++ [(name, v)])

section

variable {ev : Evaluator} {c : Context} {exchange : Json × Json}

/-- Extracting comes to all values, or to the error of the first expression without one. -/
theorem Extracts.extend {before : List (String × String)} {extracted : List (String × Json)}
    (h : Extracts ev c exchange before extracted) (rest : List (String × String)) :
    (∃ all, Extracts ev c exchange (before ++ rest) all) ∨
      ∃ more name x after some e, rest = more ++ (name, x) :: after ∧
        Extracts ev c exchange (before ++ more) some ∧
        ev.value x (c.scopeWith (seenOver exchange some)) = .error e := by
  induction rest generalizing before extracted with
  | nil => exact .inl ⟨extracted, by rw [List.append_nil]; exact h⟩
  | cons entry rest ih =>
    obtain ⟨name, x⟩ := entry
    cases hvalue : ev.value x (c.scopeWith (seenOver exchange extracted)) with
    | error e =>
      exact .inr ⟨[], name, x, rest, extracted, e, rfl, by rw [List.append_nil]; exact h, hvalue⟩
    | ok v =>
      have hnext : Extracts ev c exchange (before ++ [(name, x)]) (extracted ++ [(name, v)]) :=
        h.snoc hvalue
      rcases ih hnext with ⟨all, hall⟩ | ⟨more, n, y, after, some, e, rfl, hsome, he⟩
      · refine .inl ⟨all, ?_⟩
        rw [List.append_assoc] at hall
        exact hall
      · refine .inr ⟨(name, x) :: more, n, y, after, some, e, rfl, ?_, he⟩
        rw [List.append_assoc] at hsome
        exact hsome

end

section

variable {S : Setup Req Res} {c : Context} {leaf : Leaf} {request : Req} {response : Res}

end

/-! ## What a run holds -/

end Walkthrough.Engine
