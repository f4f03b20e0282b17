import Walkthrough.Proofs.Engine.Moments
import Walkthrough.Proofs.Scope.Observed

/-!
# Where conditions are checked

The condition of a repeated chain is checked in two places. Before the first iteration it is checked with a
frame that binds nothing laid over those that are open (`turn_entering`), and after each iteration in the
frame of the chain itself (`turn_repeating`). Both show the same but for the number of completed requests:
the frame of the chain shows it unless it binds its name, whereas before the first iteration a binding of
the innermost frame around the chain is in front of it (`shadowed_at_first`).

* `turn_entering_fresh` — where it makes no difference to the first check, as with every expression where that
  frame does not bind the name (`turn_entering_template`);
* `conditions_checked` — what is seen at either place, and what comes of it.
-/

namespace Walkthrough.Engine

variable {Req Res : Type} {S : Setup Req Res} {values : Bindings Json} {r : Run Req Res}

/-- What a turn makes of a repeated chain that it comes to, by whether the condition holds. -/
def entering (r : Run Req Res) (p : Nat) (s : Step) (child : Option Nat) :
    Except Error Bool → Turn Req Res
  | .error e => .failed (r.moveTo s.next) e
  | .ok false => .on ((r.moveTo s.next).record (.ofStep s))
  | .ok true => .on ((r.moveTo s.next).openContainer child
      ⟨p, .counted 1, (Result.Node.ofStep s).beginIteration (some (.ofNat 0)) none⟩ .empty)

/-- What a turn makes of a repeated chain at its end, after so many iterations, by whether the condition
holds. -/
def repeating (S : Setup Req Res) (r : Run Req Res) (rest : List Cursor) (c : Container) (s : Step)
    (child : Option Nat) (n : Nat) : Except Error Bool → Turn Req Res
  | .error e => .failed r e
  | .ok false => .on r.close
  | .ok true =>
    if S.iterationLimit ≤ n then .failed r (.configuration (.tooManyIterations s.uuid S.iterationLimit))
    else .on (beginIteration r rest c (.counted (n + 1)) child (some (.ofNat n)) none)

theorem turn_entering {p : Nat} {s : Step} {condition : String} {child : Option Nat} (hat : r.At S p s)
    (haction : s.action = .repeated condition child) :
    turn S r = .ok (entering r p s child (S.evaluator.holds condition (r.context.scopeWith .empty))) := by
  rw [turn_of_at hat, enter, haction]
  simp only [moveTo_context]
  cases S.evaluator.holds condition (r.context.scopeWith .empty) with
  | error e => rfl
  | ok verdict => cases verdict <;> rfl

theorem turn_repeating {c : Container} {s : Step} {rest : List Cursor} {condition : String}
    {child : Option Nat} {n : Nat} (hend : r.EndOf S c s rest) (hcontrol : c.control = .counted n)
    (haction : s.action = .repeated condition child) :
    turn S r = .ok (repeating S r rest c s child n (S.evaluator.holds condition r.scope)) := by
  rw [turn_of_endOf hend, continueContainer, hcontrol, haction]
  cases hholds : S.evaluator.holds condition r.scope with
  | error e => simp only [hholds, repeating]
  | ok verdict => cases verdict <;> simp only [hholds, repeating]

/-- Where the innermost frame shows the number of completed requests under its name, the first check has the
outcome that it has in a frame of its own. -/
theorem turn_entering_fresh (observant : S.evaluator.Observant) {p : Nat} {s : Step} {condition : String}
    {child : Option Nat} (hat : r.At S p s) (haction : s.action = .repeated condition child) {f : Frame}
    {frames : List Frame} (hframes : r.context.frames = f :: frames)
    (hindex : (f.find? indexName).getD (.ofNat r.context.completed) = .ofNat r.context.completed) :
    turn S r =
      .ok (entering r p s child (S.evaluator.holds condition (r.context.push .empty).scope)) := by
  rw [turn_entering hat haction, observant.holds ((alike_fresh_iff hframes).2 hindex)]

/-- So it is with every condition of the expression language where the innermost frame does not bind that
name. -/
theorem turn_entering_template {restricted : Bool} {host : Host}
    (hevaluator : S.evaluator = Template.evaluator restricted host) {p : Nat} {s : Step} {condition : String}
    {child : Option Nat} (hat : r.At S p s) (haction : s.action = .repeated condition child) {f : Frame}
    {frames : List Frame} (hframes : r.context.frames = f :: frames) (hfree : f.find? indexName = none) :
    turn S r =
      .ok (entering r p s child (S.evaluator.holds condition (r.context.push .empty).scope)) := by
  have observant : S.evaluator.Observant := hevaluator ▸ template_observant restricted host
  exact turn_entering_fresh observant hat haction hframes (by rw [hfree, Option.getD_none])

/-- **Conditions.** Wherever a run comes to a repeated chain, the first check of its condition sees every
name but one as in a frame of its own that is opened and binds nothing; and the name of the number of
completed requests shows what the innermost frame binds to it, or else this number. If that is this number
in any case, the check has the outcome that it has in such a frame. Every later check is made in the frame
of the chain, where the name shows what this frame binds to it, or else the number of completed
requests. -/
theorem conditions_checked (S : Setup Req Res) (observant : S.evaluator.Observant) (steps : Array Step)
    (root : Option Nat) (built : Graph.build steps root = .ok S.graph) {values : Bindings Json}
    {r : Run Req Res} (h : Moment S values r) :
    (∀ p s condition child, r.At S p s → s.action = .repeated condition child →
      ∃ innermost outer, r.context.frames = innermost :: outer ∧
        turn S r = .ok (entering r p s child
          (S.evaluator.holds condition (r.context.scopeWith .empty))) ∧
        (∀ name, name ≠ indexName →
          (r.context.scopeWith .empty).lookup name = (r.context.push .empty).scope.lookup name) ∧
        (r.context.scopeWith .empty).lookup indexName =
          some ((innermost.find? indexName).getD (.ofNat r.context.completed)) ∧
        ((innermost.find? indexName).getD (.ofNat r.context.completed) = .ofNat r.context.completed →
          turn S r = .ok (entering r p s child
            (S.evaluator.holds condition (r.context.push .empty).scope)))) ∧
    ∀ c s rest condition child, r.EndOf S c s rest → s.action = .repeated condition child →
      ∃ n own outer, c.control = .counted n ∧ r.context.frames = own :: outer ∧
        turn S r = .ok (repeating S r rest c s child n (S.evaluator.holds condition r.scope)) ∧
        r.scope.lookup indexName =
          some ((own.find? indexName).getD (.ofNat r.context.completed)) := by
  have sound := ((Graph.build_eq_ok_iff steps root S.graph).1 built).2
  have haligned := (h.settled sound).aligned
  constructor
  · intro p s condition child hat haction
    have hopen : r.cursors ≠ [] := by
      obtain ⟨⟨k, rest, hcursors⟩, _⟩ := hat
      rw [hcursors]
      exact List.cons_ne_nil _ _
    obtain ⟨innermost, outer, hframes⟩ := List.exists_cons_of_ne_nil (haligned.frames_ne_nil hopen)
    refine ⟨innermost, outer, hframes, turn_entering hat haction, fun name hname => ?_, ?_,
      turn_entering_fresh observant hat haction hframes⟩
    · rw [lookup_overlay, lookup_push hname rfl]
    · rw [lookup_overlay, lookup_index hframes]
  · intro c s rest condition child hend haction
    have hfits := haligned.fits hend
    rw [haction] at hfits
    obtain ⟨own, outer, hframes⟩ := List.exists_cons_of_ne_nil
      (haligned.frames_ne_nil (by rw [hend.1]; exact List.cons_ne_nil _ _))
    cases hcontrol : c.control with
    | block | choice | items => exact absurd hfits (by simp [hcontrol, Control.Fits])
    | counted n =>
      exact ⟨n, own, outer, rfl, hframes, turn_repeating hend hcontrol haction, lookup_index hframes⟩

/-! ## A small setting -/

/-- Two chains whose condition is the number of completed requests: one at the top, and one in a block that
binds the name of that number. -/
def countingSteps : Array Step := #[
  ⟨"outside", none, .repeated "index" (some 3), some 1⟩,
  ⟨"frame", none, .block (.ofList [("index", "own")]) (some 2), none⟩,
  ⟨"inside", none, .repeated "index" (some 4), none⟩,
  ⟨"rest", none, .empty, none⟩,
  ⟨"pause", none, .empty, none⟩]

/-- The setup of these chains, in which expressions are names. -/
def counting : Setup String String := ⟨⟨countingSteps, some 0⟩, .names, addressConverter, 10⟩

/-- What the block binds. -/
def countingValues : Bindings Json := .ofList [("own", .string "bound")]

/-- At the top nothing binds the name, so that the first check has the outcome of a frame of its own. -/
theorem counting_checked :
    ∃ r p s child, Moment counting countingValues r ∧ r.At counting p s ∧ s.action = .repeated "index" child ∧
      turn counting r = .ok (entering r p s child
        (counting.evaluator.holds "index" (r.context.push .empty).scope)) := by
  have hmoment : Moment counting countingValues (begin counting (.start countingValues)) :=
    .single (.begun rfl)
  have hat : (begin counting (.start countingValues)).At counting 0 countingSteps[0] :=
    ⟨⟨none, [], rfl⟩, rfl⟩
  obtain ⟨hfirst, _⟩ := conditions_checked counting names_observant countingSteps (some 0) rfl hmoment
  obtain ⟨innermost, outer, hframes, _, _, _, hsame⟩ :=
    hfirst 0 countingSteps[0] "index" (some 3) hat rfl
  have hnone : innermost.find? indexName = none := by
    obtain ⟨rfl, _⟩ := List.cons.inj hframes
    rfl
  have hturn := hsame (by rw [hnone, Option.getD_none])
  exact ⟨_, 0, countingSteps[0], some 3, hmoment, hat, rfl, hturn⟩

/-- In the block the first check sees what the block binds, although no request is completed: the chain is
entered, and would not be in a frame of its own. -/
theorem shadowed_at_first :
    ∃ r r' p s child, Moment counting countingValues r ∧ r.At counting p s ∧
      s.action = .repeated "index" child ∧ r.context.completed = 0 ∧
      turn counting r = .ok (.on r') ∧ r.cursors.length < r'.cursors.length ∧
      counting.evaluator.holds "index" (r.context.scopeWith .empty) = .ok true ∧
      counting.evaluator.holds "index" (r.context.push .empty).scope = .ok false ∧
      (r.context.scopeWith .empty).lookup indexName = some (.string "bound") := by
  have hruns : ∃ r₁ r₂ r₃ k, Happens counting (begin counting (.start countingValues)) r₁ ∧
      Happens counting r₁ r₂ ∧ turn counting r₂ = .ok (.on r₃) ∧
      r₂.cursors = [⟨some 2, some k⟩, ⟨none, none⟩] ∧ r₃.cursors.length = 3 ∧ r₂.context.completed = 0 ∧
      counting.evaluator.holds "index" (r₂.context.scopeWith .empty) = .ok true ∧
      (r₂.context.scopeWith .empty).lookup indexName = some (.string "bound") :=
    ⟨_, _, _, _, .turned ⟨rfl, rfl⟩ rfl, .turned ⟨rfl, rfl⟩ rfl, rfl, rfl, rfl, rfl, rfl, rfl⟩
  obtain ⟨r₁, r₂, r₃, k, h₁, h₂, h₃, hcursors, hlength, hcompleted, hoverlay, hlookup⟩ := hruns
  -- a frame of its own would show that no request is completed
  have hfresh : counting.evaluator.holds "index" (r₂.context.push .empty).scope = .ok false := by
    have hnone := lookup_fresh r₂.context
    rw [hcompleted] at hnone
    show ((r₂.context.push .empty).scope.resolve indexName).result.map Json.isTruthy = _
    rw [Scope.resolve, hnone]
    rfl
  have hmoment : Moment counting countingValues r₂ :=
    ((Relation.ReflTransGen.single (.begun rfl)).tail h₁).tail h₂
  refine ⟨r₂, r₃, 2, countingSteps[2], some 4, hmoment, ⟨⟨some k, _, hcursors⟩, rfl⟩, rfl, hcompleted, h₃, ?_,
    hoverlay, hfresh, hlookup⟩
  rw [hcursors, hlength]
  exact Nat.lt_succ_self 2

end Walkthrough.Engine
