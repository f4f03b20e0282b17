import Walkthrough.Proofs.Engine.Balance

/-!
# The moments of a run

A run goes on from call to call, and inside of a call from turn to turn. What can happen to it at once is
said by a few rules (`Happens`), and its moments are all that these lead to (`Moment`), whether a caller
sees them or not. So what lies between two of them may be any number of calls.

* `Moment.settled` — at every moment a run is balanced, or underway in a call;
* `leads_of_call` — a call is some of these, one after the other;
* `Reachable.moment`, `Passing.moment` — all runs of calls and inside of them are moments.
-/

namespace Walkthrough.Engine

variable {Req Res : Type} {S : Setup Req Res} {values : Bindings Json} {r r' : Run Req Res}

/-- The run is in the middle of a call, and takes turns. -/
def Run.Advances (r : Run Req Res) : Prop := r.phase = .awaiting ∧ r.pending = none

/-- What can happen to a run at once: it begins, takes a turn, or stops with one; the request that waits is
made, or cannot be made; and the response to it is taken or rejected. -/
inductive Happens (S : Setup Req Res) (r : Run Req Res) : Run Req Res → Prop
  | begun : r.phase = .created → Happens S r (begin S r)
  | turned {r₁} : r.Advances → turn S r = .ok (.on r₁) → Happens S r r₁
  | stopped {answer r₁} : r.Advances → Ends S r answer r₁ → Happens S r r₁
  | made {p s request} : r.pending = some ⟨p, none⟩ → S.graph.step? p = some s →
      S.converter.convert S.evaluator s r.scope r.previous = .ok request →
      Happens S r { r with pending := some ⟨p, some request⟩ }
  | unmade {p s e} : r.pending = some ⟨p, none⟩ → S.graph.step? p = some s →
      S.converter.convert S.evaluator s r.scope r.previous = .error e → Happens S r r.fail
  | taken {p s request response r₁} : awaited S r request = .ok (.ok (p, s)) →
      complete S r s request response = (.ok (), r₁) → Happens S r r₁
  | rejected {p s request response e r₁} : awaited S r request = .ok (.ok (p, s)) →
      complete S r s request response = (.error e, r₁) → Happens S r r₁.fail

/-- Some of it happens, one after the other. -/
def Leads (S : Setup Req Res) : Run Req Res → Run Req Res → Prop := Relation.ReflTransGen (Happens S)

/-- The moments of a run over base values, between calls and inside of them. -/
def Moment (S : Setup Req Res) (values : Bindings Json) : Run Req Res → Prop :=
  Leads S (.start values)

/-! ## What holds at every moment -/

/-- A run is balanced, as between calls, or underway in a call. -/
def Settled (S : Setup Req Res) (r : Run Req Res) : Prop := Balanced S r ∨ Underway S r

theorem Settled.aligned (h : Settled S r) : Aligned S r := h.elim (·.aligned) (·.aligned)

/-- A run that advances is in the middle of a call. -/
theorem Settled.underway (h : Settled S r) (hadvances : r.Advances) : Underway S r := by
  rcases h with hbalanced | hunderway
  · obtain ⟨_, p, made, s, hpending, _⟩ := hbalanced.awaiting hadvances.1
    rw [hadvances.2] at hpending
    exact absurd hpending (by simp)
  · exact hunderway

/-- A run in which nothing advances is between calls. -/
theorem Settled.balanced (h : Settled S r) (hrests : ¬ r.Advances) : Balanced S r := by
  rcases h with hbalanced | hunderway
  · exact hbalanced
  · exact absurd ⟨hunderway.phase, hunderway.pending⟩ hrests

theorem not_advances_of_pending {p : Pending Req} (h : r.pending = some p) : ¬ r.Advances := by
  rintro ⟨_, hnone⟩
  rw [h] at hnone
  exact absurd hnone (by simp)

theorem not_advances_of_awaited {request : Req} {p : Nat} {s : Step}
    (h : awaited S r request = .ok (.ok (p, s))) : ¬ r.Advances := by
  obtain ⟨_, _, expected, hpending, _⟩ := awaited_eq_ok_iff.1 h
  exact not_advances_of_pending hpending

/-- A run that takes a response is in a chain. -/
theorem Settled.waits (h : Settled S r) {request : Req} {p : Nat} {s : Step}
    (hawaited : awaited S r request = .ok (.ok (p, s))) : r.cursors ≠ [] := by
  obtain ⟨hphase, _⟩ := awaited_eq_ok_iff.1 hawaited
  exact ((h.balanced (not_advances_of_awaited hawaited)).awaiting hphase).1

theorem Settled.happens (sound : S.graph.Sound) (h : Settled S r) (hhappens : Happens S r r') :
    Settled S r' := by
  cases hhappens with
  | begun hphase =>
    have hbalanced := h.balanced fun hadvances => absurd (hphase.symm.trans hadvances.1) (by simp)
    exact .inr (underway_begin sound hbalanced hphase)
  | turned hadvances hturn => exact .inr ((h.underway hadvances).turn sound hturn)
  | stopped hadvances hends => exact .inl (balanced_of_ends sound (h.underway hadvances) hends)
  | made hpending hs hconvert =>
    have hbalanced := h.balanced (not_advances_of_pending hpending)
    have hphase : r.phase ≠ .created := by
      intro hcreated
      rw [(hbalanced.created hcreated).2.2] at hpending
      exact absurd hpending (by simp)
    exact .inl (hbalanced.handed hphase (.made hpending hs hconvert))
  | unmade hpending _ _ =>
    exact .inl (h.balanced (not_advances_of_pending hpending)).aligned.fail
  | taken hawaited hcomplete =>
    exact .inr (underway_commit (h.balanced (not_advances_of_awaited hawaited)) hawaited hcomplete)
  | rejected hawaited hcomplete =>
    have hjudged := judged_of_complete hcomplete
    exact .inl (h.aligned.judged (h.waits hawaited) hjudged).fail

theorem Moment.settled (sound : S.graph.Sound) (h : Moment S values r) : Settled S r := by
  induction h with
  | refl => exact .inl (balanced_start S values)
  | tail _ hhappens ih => exact ih.happens sound hhappens

/-! ## Calls -/

theorem Turns.leads (hturns : Turns S r r') (hadvances : r.Advances) : Leads S r r' ∧ r'.Advances := by
  induction hturns with
  | refl => exact ⟨.refl, hadvances⟩
  | @tail r₁ r₂ _ hturn ih =>
    obtain ⟨hleads, hadvances₁⟩ := ih
    have hstanding : r₂.standing = r₁.standing := turn_standing hturn
    refine ⟨hleads.tail (.turned hadvances₁ hturn), ?_, ?_⟩
    · exact (congrArg Standing.phase hstanding).trans hadvances₁.1
    · exact (congrArg Standing.pending hstanding).trans hadvances₁.2

theorem leads_of_handed {answer : Except Error (Next Req)} (h : Handed S r answer r') :
    Leads S r r' := by
  cases h with
  | nothing => exact .refl
  | again => exact .refl
  | made hpending hs hconvert => exact .single (.made hpending hs hconvert)
  | unmade hpending hs hconvert => exact .single (.unmade hpending hs hconvert)

/-- A call is some of what can happen to a run, one after the other. -/
theorem leads_of_call (sound : S.graph.Sound) (h : Balanced S r) {fuel : Nat} {c : Call Req Res}
    {answer : Except Error (Option (Next Req))} (hcall : call S fuel r c = .ok (answer, r')) :
    Leads S r r' := by
  cases c with
  | peek =>
    obtain ⟨a, hpeek, _⟩ := peek_of_call hcall
    cases peeked_of_peek hpeek with
    | failed => exact .refl
    | done => exact .refl
    | begun hphase hturns hends hhanded =>
      have hunderway := underway_begin sound h hphase
      obtain ⟨hleads, hadvances⟩ := hturns.leads ⟨hunderway.phase, hunderway.pending⟩
      have hended := hleads.tail (.stopped hadvances hends)
      exact (hended.head (.begun hphase)).trans (leads_of_handed hhanded)
    | stopped hphase hturns hends =>
      have hunderway := underway_begin sound h hphase
      obtain ⟨hleads, hadvances⟩ := hturns.leads ⟨hunderway.phase, hunderway.pending⟩
      exact (hleads.tail (.stopped hadvances hends)).head (.begun hphase)
    | awaiting _ hhanded => exact leads_of_handed hhanded
  | resume request response =>
    obtain ⟨a, hresume, _⟩ := resume_of_call hcall
    cases resumed_of_resume hresume with
    | refused => exact .refl
    | rejected hawaited hcomplete => exact .single (.rejected hawaited hcomplete)
    | taken hawaited hcomplete hturns hends =>
      have hunderway := underway_commit h hawaited hcomplete
      obtain ⟨hleads, hadvances⟩ := hturns.leads ⟨hunderway.phase, hunderway.pending⟩
      exact (hleads.tail (.stopped hadvances hends)).head (.taken hawaited hcomplete)

/-- The runs inside of a call from which turns are taken. -/
inductive During (S : Setup Req Res) (r : Run Req Res) : Call Req Res → Run Req Res → Prop
  | peek {r₁} : r.phase = .created → Turns S (begin S r) r₁ → During S r .peek r₁
  | resume {p s request response r₀ r₁} : awaited S r request = .ok (.ok (p, s)) →
      complete S r s request response = (.ok (), r₀) → Turns S r₀ r₁ →
      During S r (.resume request response) r₁

theorem During.leads (sound : S.graph.Sound) (h : Balanced S r) {c : Call Req Res} {r₁ : Run Req Res}
    (hduring : During S r c r₁) : Leads S r r₁ ∧ r₁.Advances := by
  cases hduring with
  | peek hphase hturns =>
    have hunderway := underway_begin sound h hphase
    obtain ⟨hleads, hadvances⟩ := hturns.leads ⟨hunderway.phase, hunderway.pending⟩
    exact ⟨hleads.head (.begun hphase), hadvances⟩
  | resume hawaited hcomplete hturns =>
    have hunderway := underway_commit h hawaited hcomplete
    obtain ⟨hleads, hadvances⟩ := hturns.leads ⟨hunderway.phase, hunderway.pending⟩
    exact ⟨hleads.head (.taken hawaited hcomplete), hadvances⟩

/-- If a turn inside of a call fails, the call answers its error, and the run has failed. -/
theorem call_of_failed {c : Call Req Res} {r₁ r₂ : Run Req Res} {e : Error} (hduring : During S r c r₁)
    (hturn : turn S r₁ = .ok (.failed r₂ e)) : ∃ fuel, call S fuel r c = .ok (.error e, r₂.fail) := by
  cases hduring with
  | peek hphase hturns =>
    obtain ⟨fuel, hadvance⟩ := advance_of_turns hturns (.failed hturn)
    refine ⟨fuel, ?_⟩
    simp only [call, peek, hphase, hadvance, Except.map]
  | resume hawaited hcomplete hturns =>
    obtain ⟨fuel, hadvance⟩ := advance_of_turns hturns (.failed hturn)
    refine ⟨fuel, ?_⟩
    simp only [call, resume, hawaited, hcomplete, hadvance, Except.map]

/-- Every run between calls is a moment. -/
theorem Reachable.moment (sound : S.graph.Sound) (h : Reachable S values r) : Moment S values r := by
  induction h with
  | start => exact .refl
  | call hreachable hcall ih => exact ih.trans (leads_of_call sound (hreachable.balanced sound) hcall)

/-- Every run from which a turn is taken during a call is a moment. -/
theorem Passing.moment (sound : S.graph.Sound) (h : Passing S values r) : Moment S values r := by
  induction h with
  | begun hreachable hphase => exact (hreachable.moment sound).tail (.begun hphase)
  | taken hreachable hawaited hcomplete =>
    exact (hreachable.moment sound).tail (.taken hawaited hcomplete)
  | turn hpassing hturn ih =>
    have hunderway := hpassing.underway sound
    exact ih.tail (.turned ⟨hunderway.phase, hunderway.pending⟩ hturn)

end Walkthrough.Engine
