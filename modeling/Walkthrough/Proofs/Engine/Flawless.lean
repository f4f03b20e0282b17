import Walkthrough.Proofs.Engine.Accounting

/-!
# Runs without failure

What is recorded in a run in which nothing has failed (`Run.Flawless`): every assertion held, and there are
as many records with a request as completed exchanges. Asking for a request keeps it so (`asked_of_peek`).
Taking a response keeps it so as well, unless assertions do not hold: then the record of the exchange is the
last of the tree, and the only one of which an assertion failed (`took_of_resume`).
-/

namespace Walkthrough.Engine

variable {Req Res : Type}

/-- All assertions that are recorded held, and what carries a request are the completed exchanges. -/
structure Run.Flawless (r : Run Req Res) : Prop where
  orderly : r.Orderly
  held : ∀ f ∈ r.facts, ∀ a ∈ f.assertions, a.passed = true
  counted : (r.facts.filter (·.request.isSome)).length = r.context.completed

/-- A run between calls: before it has begun no chain is open, and while it is awaiting a step waits. -/
structure Run.Poised (r : Run Req Res) : Prop where
  fresh : r.phase = .created → r.cursors = []
  waiting : r.phase = .awaiting → r.pending ≠ none

section

variable {S : Setup Req Res} {r r' : Run Req Res}

theorem flawless_start (values : Bindings Json) : (Run.start values : Run Req Res).Flawless where
  orderly := ⟨trivial, fun _ hcursor => absurd hcursor (by simp [Run.start])⟩
  held := fun _ hf => absurd hf (by simp [Run.facts, Run.tree, Run.start, Run.nestOpen,
    Result.Tree.flatten, Result.Node.flattenAll])
  counted := rfl

theorem poised_start (values : Bindings Json) : (Run.start values : Run Req Res).Poised :=
  ⟨fun _ => rfl, fun h => absurd h (by simp [Run.start])⟩

/-- A run whose phase is neither of the two. -/
theorem poised_of_phase (hcreated : r.phase ≠ .created) (hawaiting : r.phase ≠ .awaiting) : r.Poised :=
  ⟨fun h => absurd h hcreated, fun h => absurd h hawaiting⟩

/-- Where nothing was exchanged nothing fails. -/
theorem Run.Flawless.silent (h : r.Flawless) (hsilent : r.Silent r')
    (hcompleted : r'.context.completed = r.context.completed) : r'.Flawless := by
  obtain ⟨⟨added, hgrows, hbare⟩, _⟩ := hsilent
  refine ⟨hgrows.orderly, fun f hf => ?_, ?_⟩
  · rw [hgrows.facts] at hf
    rcases List.mem_append.1 hf with hold | hnew
    · exact h.held f hold
    · simp [(hbare f hnew).assertions]
  · have hadded : added.filter (·.request.isSome) = [] :=
      List.filter_eq_nil_iff.2 fun f hf => by simp [(hbare f hf).request]
    rw [hgrows.facts, List.filter_append, hadded, List.append_nil, h.counted, hcompleted]

theorem Run.Flawless.fail (h : r.Flawless) : r.fail.Flawless :=
  h.silent (h.orderly.silent.congr rfl rfl rfl) rfl

theorem completed_of_ends {answer : Except Error Unit} (h : Ends S r answer r') :
    r'.context.completed = r.context.completed := by
  cases h with
  | wanted hturn | finished hturn | failed hturn =>
    exact congrArg Standing.completed (turn_standing hturn)

theorem completed_of_handed {answer : Except Error (Next Req)} (h : Handed S r answer r') :
    r'.context.completed = r.context.completed := by
  cases h <;> rfl

/-- Turns and the end of them, from a run that is awaiting. -/
theorem Run.Flawless.ended (h : r.Flawless) {r₁ : Run Req Res} {answer : Except Error Unit}
    (hturns : Turns S r r₁) (hends : Ends S r₁ answer r') :
    r'.Flawless ∧ r'.context.completed = r.context.completed := by
  have hcompleted : r'.context.completed = r.context.completed :=
    (completed_of_ends hends).trans (congrArg Standing.completed hturns.standing)
  have hsilent := (h.orderly.silent_turns hturns).trans fun h₁ => h₁.silent_ends hends
  exact ⟨h.silent hsilent hcompleted, hcompleted⟩

/-! ## Asking -/

/-- Either a step waits, or the run is done and none does. -/
def Run.Stands (r : Run Req Res) : Prop :=
  (r.phase = .awaiting ∧ r.pending ≠ none) ∨ (r.phase = .done ∧ r.pending = none)

theorem stands_of_ends (hphase : r.phase = .awaiting) (h : Ends S r (.ok ()) r') : r'.Stands := by
  cases h with
  | wanted hturn =>
    exact .inl ⟨(congrArg Standing.phase (turn_standing hturn)).trans hphase, by simp [Run.await]⟩
  | finished => exact .inr ⟨rfl, rfl⟩

theorem Run.Stands.poised (h : r.Stands) : r.Poised := by
  rcases h with ⟨hphase, hpending⟩ | ⟨hphase, _⟩
  · exact ⟨fun hcreated => absurd (hphase.symm.trans hcreated) (by simp), fun _ => hpending⟩
  · exact poised_of_phase (by simp [hphase]) (by simp [hphase])

/-- What asking for the next request does to a run in which nothing has failed. -/
structure Asked (S : Setup Req Res) (r : Run Req Res) (answer : Except Error (Next Req))
    (r' : Run Req Res) : Prop where
  flawless : r'.Flawless
  poised : r'.Poised
  completed : r'.context.completed = r.context.completed
  done_iff : answer = .ok .done ↔ r'.phase = .done
  request : ∀ place uuid request, answer = .ok (.request place uuid request) → r'.phase = .awaiting
  raises : ∀ failure, answer = .error (.expectation failure) → Raises S (.expectation failure)

/-- Asking a run in which a step waits, or which is done. -/
theorem asked_of_handed {answer : Except Error (Next Req)} (h : r.Flawless) (hstands : r.Stands)
    (hhanded : Handed S r answer r') : Asked S r answer r' := by
  have hflawless := h.silent (h.orderly.silent_handed hhanded) (completed_of_handed hhanded)
  have awaiting : ∀ {p}, r.pending = some p → r.phase = .awaiting := by
    intro p hp
    rcases hstands with ⟨hphase, _⟩ | ⟨_, hnone⟩
    · exact hphase
    · exact absurd (hnone.symm.trans hp) (by simp)
  cases hhanded with
  | nothing hnone =>
    have hdone : r.phase = .done := by
      rcases hstands with ⟨_, hsome⟩ | ⟨hphase, _⟩
      · exact absurd hnone hsome
      · exact hphase
    exact ⟨h, hstands.poised, rfl, ⟨fun _ => hdone, fun _ => rfl⟩, by simp, by simp⟩
  | again hpending =>
    have hphase := awaiting hpending
    exact ⟨h, hstands.poised, rfl, by simp [hphase], fun _ _ _ _ => hphase, by simp⟩
  | made hpending =>
    have hphase := awaiting hpending
    refine ⟨hflawless, ⟨fun hcreated => ?_, fun _ => by simp⟩, rfl, by simp [hphase],
      fun _ _ _ _ => hphase, by simp⟩
    exact absurd (hphase.symm.trans hcreated) (by simp)
  | unmade _ _ hconvert =>
    refine ⟨hflawless, poised_of_phase (by simp [Run.fail]) (by simp [Run.fail]), rfl,
      by simp [Run.fail], by simp, ?_⟩
    rintro failure hfailure
    obtain rfl := Except.error.inj hfailure
    exact .convert hconvert

/-- Asking for the next request keeps a run without failure so, and only inside of the evaluator or the
converter anything can be raised that looks like a failure. -/
theorem asked_of_peek {fuel : Nat} {answer : Except Error (Next Req)} (h : r.Flawless)
    (hpoised : r.Poised) (hpeek : peek S fuel r = .ok (answer, r')) : Asked S r answer r' := by
  cases peeked_of_peek hpeek with
  | failed hphase => exact ⟨h, hpoised, rfl, by simp [hphase], by simp, by simp⟩
  | done hphase => exact ⟨h, hpoised, rfl, by simp [hphase], by simp, by simp⟩
  | begun hphase hturns hends hhanded =>
    have hbegin : (begin S r).Flawless := h.silent (h.orderly.silent_begin (hpoised.fresh hphase)) rfl
    obtain ⟨hended, hcompleted⟩ := hbegin.ended hturns hends
    have hstands := stands_of_ends (congrArg Standing.phase hturns.standing) hends
    have hasked := asked_of_handed hended hstands hhanded
    exact ⟨hasked.flawless, hasked.poised, hasked.completed.trans hcompleted, hasked.done_iff,
      hasked.request, hasked.raises⟩
  | stopped hphase hturns hends =>
    have hbegin : (begin S r).Flawless := h.silent (h.orderly.silent_begin (hpoised.fresh hphase)) rfl
    obtain ⟨hended, hcompleted⟩ := hbegin.ended hturns hends
    obtain ⟨hfailed, horigin⟩ := error_of_ends hends
    refine ⟨hended, poised_of_phase (by simp [hfailed]) (by simp [hfailed]), hcompleted,
      by simp [hfailed], by simp, ?_⟩
    rintro failure hfailure
    obtain rfl := Except.error.inj hfailure
    exact raises_of_expectation horigin
  | awaiting hphase hhanded =>
    exact asked_of_handed h (.inl ⟨hphase, hpoised.waiting hphase⟩) hhanded

/-! ## Taking responses -/

/-- If nothing is said of assertions that do not hold, all hold. -/
theorem passed_of_failuresOf {outcomes : List Result.Assertion} (h : failuresOf outcomes = []) :
    ∀ a ∈ outcomes, a.passed = true := by
  rw [failuresOf, List.map_eq_nil_iff, List.filter_eq_nil_iff] at h
  intro a ha
  simpa using h a ha

/-- What taking a response does to a run in which nothing has failed: it goes on, an error breaks it, or
assertions do not hold, whose record is the last. -/
inductive Took (S : Setup Req Res) (r : Run Req Res) : Except Error Unit → Run Req Res → Prop
  | on {r₁} : r₁.Flawless → r₁.Poised → r₁.context.completed = r.context.completed + 1 →
      Took S r (.ok ()) r₁
  | broken {r₁ e} : r₁.Flawless → r₁.phase ≠ .done →
      (r₁.context.completed = r.context.completed ∨
        r₁.context.completed = r.context.completed + 1) →
      (∀ failure, e = .expectation failure → Raises S (.expectation failure)) →
      Took S r (.error e) r₁
  | unmet {r₁ failure f} : r₁.facts = r.facts ++ [f] → failure.failures = failuresOf f.assertions →
      failure.failures ≠ [] → r₁.phase = .failed → r₁.context.completed = r.context.completed →
      Took S r (.error (.expectation failure)) r₁

theorem Run.Flawless.commit (h : r.Flawless) (s : Step) {request : Req} {response : Res}
    {exchange : Json × Json} {extracted : Bindings Json} {outcomes : List Result.Assertion}
    (hmet : failuresOf outcomes = []) :
    (commit r request response extracted (exchangeNode s exchange extracted outcomes)).Flawless ∧
      (Engine.commit r request response extracted
        (exchangeNode s exchange extracted outcomes)).context.completed = r.context.completed + 1 := by
  let node := exchangeNode s exchange extracted outcomes
  let kept : Run Req Res := { r with
    context := (bindAll r.context extracted.entries).recordCompleted
    extractions := r.extractions.extend extracted }
  have hkept : kept.Orderly := h.orderly.congr rfl
  have hgrows := hkept.record node
  have hfacts : (Engine.commit r request response extracted node).facts = r.facts ++ [node.facts] :=
    (Run.facts_congr rfl rfl).trans (hgrows.facts.trans (congrArg (· ++ _) (Run.facts_congr rfl rfl)))
  have hcompleted : (Engine.commit r request response extracted node).context.completed =
      r.context.completed + 1 := by
    simp [Engine.commit, Context.recordCompleted]
  refine ⟨⟨hgrows.orderly.congr rfl, fun f hf => ?_, ?_⟩, hcompleted⟩
  · rw [hfacts] at hf
    rcases List.mem_append.1 hf with hold | hnew
    · exact h.held f hold
    · obtain rfl := List.mem_singleton.1 hnew
      exact passed_of_failuresOf hmet
  · rw [hfacts, List.filter_append, List.length_append, h.counted, hcompleted]
    rfl

theorem took_of_resume {fuel : Nat} {request : Req} {response : Res} {answer : Except Error Unit}
    (h : r.Flawless) (hphase : r.phase = .awaiting)
    (hresume : resume S fuel r request response = .ok (answer, r')) : Took S r answer r' := by
  cases resumed_of_resume hresume with
  | refused hawaited =>
    obtain ⟨fault, rfl⟩ := awaited_eq_error hawaited
    exact .broken h (by simp [hphase]) (.inl rfl) (by simp)
  | @rejected p s e r₁ hawaited hcomplete =>
    have hjudged := judged_of_complete hcomplete
    have broken : ∀ {e}, Origin S e → Took S r (.error e) r.fail := by
      rintro e horigin
      refine .broken h.fail (by simp [Run.fail]) (.inl rfl) ?_
      rintro failure rfl
      exact raises_of_expectation horigin
    cases hjudged with
    | noRequest => exact broken (.configuration _)
    | unwritten _ hjson =>
      obtain ⟨fault, rfl⟩ := serialization_of_exchangeJson hjson
      exact broken (.serialization fault)
    | unextracted _ _ hextract => exact broken (.raised (raisesAt_of_extract hextract).raises)
    | unjudged _ _ _ hjudge => exact broken (.raised (raisesAt_of_judge hjudge).raises)
    | @unmet leaf exchange f extracted outcomes _ _ _ _ hunmet =>
      let node := exchangeNode s exchange extracted outcomes
      have hfacts : (r.record node).fail.facts = r.facts ++ [node.facts] :=
        (Run.facts_congr rfl rfl).trans (h.orderly.record node).facts
      exact .unmet hfacts rfl hunmet rfl (congrArg Context.completed (record_context r node))
  | @taken p s r₁ r₂ _ _ hawaited hcomplete hturns hends =>
    have hawaiting := phase_of_taken hawaited hcomplete hturns
    have hjudged := judged_of_complete hcomplete
    cases hjudged with
    | met _ _ _ _ hmet =>
      obtain ⟨hcommit, hcommitted⟩ := h.commit s hmet
      obtain ⟨hended, hcompleted⟩ := hcommit.ended hturns hends
      have hone := hcompleted.trans hcommitted
      cases answer with
      | ok u => exact .on hended (stands_of_ends hawaiting hends).poised hone
      | error e =>
        obtain ⟨hfailed, horigin⟩ := error_of_ends hends
        refine .broken hended (by simp [hfailed]) (.inr hone) ?_
        rintro failure rfl
        exact raises_of_expectation horigin

end

end Walkthrough.Engine
