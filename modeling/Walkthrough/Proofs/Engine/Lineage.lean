import Walkthrough.Proofs.Engine.Errors

/-!
# Where requests come from

A request that is handed out was made for its step after the previous exchange; and the previous exchange
is one of a line of exchanges, in which every request is the same as one that was made after the exchange
before (`Descends`). So it is in every run, whatever the caller does (`Reachable.descended`), and what all
requests of such lines have in common needs no further look at runs.
-/

namespace Walkthrough.Engine

variable {Req Res : Type} {S : Setup Req Res} {r r' : Run Req Res}

/-- A request was made for the step at a place, after an exchange. -/
def Made (S : Setup Req Res) (previous : Option (Exchange Req Res)) (place : Nat) (s : Step)
    (request : Req) : Prop :=
  S.graph.step? place = some s ∧
    ∃ scope, S.converter.convert S.evaluator s scope previous = .ok request

/-- The last of a line of exchanges: each has a request that is the same as one that was made after the
exchange before. -/
inductive Descends (S : Setup Req Res) : Option (Exchange Req Res) → Prop
  | first : Descends S none
  | next {previous place s made request response} : Descends S previous →
      Made S previous place s made → S.converter.same made request = true →
      Descends S (some ⟨request, response⟩)

/-- The previous exchange of a run is the last of a line, and a request that waits was made after it. -/
structure Run.Descended (S : Setup Req Res) (r : Run Req Res) : Prop where
  previous : Descends S r.previous
  pending : ∀ place request, r.pending = some ⟨place, some request⟩ →
    ∃ s, Made S r.previous place s request

namespace Run.Descended

/-- A run that knows the same previous exchange, and for which no further request waits. -/
theorem congr (h : r.Descended S) (hprevious : r'.previous = r.previous)
    (hpending : ∀ place request, r'.pending = some ⟨place, some request⟩ → r'.pending = r.pending) :
    r'.Descended S where
  previous := by
    rw [hprevious]
    exact h.previous
  pending place request hwaits := by
    rw [hprevious]
    exact h.pending place request ((hpending place request hwaits).symm.trans hwaits)

theorem standing (h : r.Descended S) (hstanding : r'.standing = r.standing) : r'.Descended S :=
  h.congr (congrArg Standing.previous hstanding) fun _ _ _ => congrArg Standing.pending hstanding

theorem fail (h : r.Descended S) : r.fail.Descended S :=
  h.congr rfl fun _ _ hwaits => absurd hwaits (by simp [Run.fail])

theorem begin (h : r.Descended S) : (begin S r).Descended S := h.congr rfl fun _ _ _ => rfl

theorem ends (h : r.Descended S) {answer : Except Error Unit} (hends : Ends S r answer r') :
    r'.Descended S := by
  cases hends with
  | wanted hturn =>
    exact (h.standing (turn_standing hturn)).congr rfl fun _ _ hwaits => absurd hwaits (by simp [Run.await])
  | finished hturn =>
    exact (h.standing (turn_standing hturn)).congr rfl fun _ _ hwaits => absurd hwaits (by simp [Run.finish])
  | failed hturn => exact Run.Descended.fail (h.standing (turn_standing hturn))

theorem handed (h : r.Descended S) {answer : Except Error (Next Req)}
    (hhanded : Handed S r answer r') : r'.Descended S := by
  cases hhanded with
  | nothing => exact h
  | again => exact h
  | @made p s request hpending hs hconvert =>
    refine ⟨h.previous, fun place q hwaits => ?_⟩
    obtain ⟨rfl, rfl⟩ : p = place ∧ request = q := by simpa using hwaits
    exact ⟨s, hs, r.scope, hconvert⟩
  | unmade => exact h.fail

/-- An exchange that is committed goes on with the line of exchanges. -/
theorem judged (h : r.Descended S) {p : Nat} {s : Step} {request : Req} {response : Res}
    {answer : Except Error Unit} (hawaited : awaited S r request = .ok (.ok (p, s)))
    (hjudged : Judged S r s request response (answer, r')) : r'.Descended S := by
  obtain ⟨_, _, expected, hpending, hsame⟩ := awaited_eq_ok_iff.1 hawaited
  cases hjudged with
  | noRequest => exact h
  | unwritten => exact h
  | unextracted => exact h
  | unjudged => exact h
  | unmet => exact h.standing (record_standing _ _)
  | met =>
    obtain ⟨s', hmade⟩ := h.pending p expected hpending
    exact ⟨.next h.previous hmade hsame, fun _ _ hwaits => absurd hwaits (by simp [commit])⟩

theorem peeked (h : r.Descended S) {answer : Except Error (Next Req)}
    (hpeeked : Peeked S r answer r') : r'.Descended S := by
  cases hpeeked with
  | failed => exact h
  | done => exact h
  | begun _ hturns hends hhanded =>
    exact ((h.begin.standing hturns.standing).ends hends).handed hhanded
  | stopped _ hturns hends => exact (h.begin.standing hturns.standing).ends hends
  | awaiting _ hhanded => exact h.handed hhanded

theorem resumed (h : r.Descended S) {request : Req} {response : Res} {answer : Except Error Unit}
    (hresumed : Resumed S r request response answer r') : r'.Descended S := by
  cases hresumed with
  | refused => exact h
  | @rejected p s e r₁ hawaited hcomplete =>
    have hjudged := judged_of_complete hcomplete
    exact (h.judged hawaited hjudged).fail
  | @taken p s r₁ r₂ _ _ hawaited hcomplete hturns hends =>
    have hjudged := judged_of_complete hcomplete
    exact ((h.judged hawaited hjudged).standing hturns.standing).ends hends

end Run.Descended

/-- In every run the previous exchange is the last of a line, and a request that waits was made after
it. -/
theorem Reachable.descended {values : Bindings Json} (h : Reachable S values r) : r.Descended S := by
  induction h with
  | start => exact ⟨.first, fun _ _ hwaits => absurd hwaits (by simp [Run.start])⟩
  | @call r r' fuel c answer _ hcall ih =>
    cases c with
    | peek =>
      obtain ⟨a, hpeek, _⟩ := peek_of_call hcall
      exact ih.peeked (peeked_of_peek hpeek)
    | resume request response =>
      obtain ⟨a, hresume, _⟩ := resume_of_call hcall
      exact ih.resumed (resumed_of_resume hresume)

/-- A request that is handed out was made for its step after the previous exchange. -/
theorem made_of_peek {values : Bindings Json} (h : Reachable S values r) {fuel place : Nat}
    {uuid : String} {request : Req}
    (hpeek : call S fuel r .peek = .ok (.ok (some (.request place uuid request)), r')) :
    ∃ s, s.uuid = uuid ∧ Made S r'.previous place s request ∧ Descends S r'.previous := by
  obtain ⟨s, huuid, hholds⟩ := holds_of_peek hpeek
  have hdescended := (h.call hpeek).descended
  obtain ⟨s', hmade⟩ := hdescended.pending place request hholds.pending
  obtain rfl : s = s' := Option.some.inj (hholds.step.symm.trans hmade.1)
  exact ⟨s, huuid, hmade, hdescended.previous⟩

end Walkthrough.Engine
