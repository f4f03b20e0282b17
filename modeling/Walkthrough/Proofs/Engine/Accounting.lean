import Mathlib.Data.List.Forall2
import Walkthrough.Proofs.Engine.Errors
import Walkthrough.Proofs.Engine.Ledger
import Walkthrough.Proofs.Engine.Tree
import Walkthrough.Proofs.Merging

/-!
# The account of a run

What the tree of a run shows of its exchanges, after any calls in any order (`Told`). The records that
carry a request are those of the committed exchanges, in order, and one more if the run failed over
assertions that do not hold; the log of extractions is what those of the committed exchanges come to
(`exchanges_recorded`).
-/

namespace Walkthrough.Engine

open Result (Facts)

variable {Req Res : Type}

/-- The events of calls, what the calls answered, and the run that they lead to, as far as the calls
return. -/
inductive Told (S : Setup Req Res) (values : Bindings Json) :
    List (Event Req Res) → List (Answered Req) → Run Req Res → Prop
  | start : Told S values [] [] (.start values)
  | call {log answers r r' fuel c answer} : Told S values log answers r →
      Engine.call S fuel r c = .ok (answer, r') →
      Told S values (log ++ callEvents S fuel r c) (answers ++ [answer]) r'

/-- Every run that calls lead to has a past. -/
theorem Reachable.told {S : Setup Req Res} {values : Bindings Json} {r : Run Req Res}
    (h : Reachable S values r) : ∃ log answers, Told S values log answers r := by
  induction h with
  | start => exact ⟨[], [], .start⟩
  | call _ hcall ih =>
      obtain ⟨log, answers, htold⟩ := ih
      exact ⟨_, _, htold.call hcall⟩

theorem Told.history {S : Setup Req Res} {values : Bindings Json} {log : List (Event Req Res)}
    {answers : List (Answered Req)} {r : Run Req Res} (h : Told S values log answers r) :
    History S values log r := by
  induction h with
  | start => exact .start
  | call _ hcall ih => exact ih.call hcall

theorem Told.callAll {S : Setup Req Res} {values : Bindings Json} {log : List (Event Req Res)}
    {answers answers' : List (Answered Req)} {r r' : Run Req Res} {fuel : Nat}
    {calls : List (Call Req Res)} (h : Told S values log answers r)
    (hcalls : Engine.callAll S fuel calls r = .ok (answers', r')) :
    ∃ log', Told S values log' (answers ++ answers') r' := by
  induction calls generalizing log answers answers' r with
  | nil =>
      obtain ⟨rfl, rfl⟩ := Prod.mk.inj (Except.ok.inj hcalls)
      exact ⟨log, by rw [List.append_nil]; exact h⟩
  | cons c calls ih =>
      obtain ⟨answer, r₁, more, hcall, hrest, rfl⟩ := callAll_cons_eq_ok hcalls
      obtain ⟨log', htold⟩ := ih (h.call hcall) hrest
      rw [List.append_assoc] at htold
      exact ⟨log', htold⟩

/-! ## Books -/

/-- A record shows an exchange. -/
def Shows (S : Setup Req Res) (x : Exchange Req Res) (n : Facts) : Prop :=
  ∃ shown, exchangeJson S x.request x.response = .ok shown ∧
    n.request = some shown.1 ∧ n.response = some shown.2

/-- What the records that carry a request are: those of committed exchanges, in order, and the one of the
exchange over which the run failed. -/
structure Books where
  settled : List Facts
  failing : Option Facts

/-- Books of exchanges agree with the tree of a run and with its log of extractions. -/
structure Books.Agree (S : Setup Req Res) (exchanges : List (Exchange Req Res)) (r : Run Req Res)
    (b : Books) : Prop where
  orderly : r.Orderly
  carried : r.facts.filter (·.request.isSome) = b.settled ++ b.failing.toList
  shown : List.Forall₂ (Shows S) exchanges b.settled
  extractions : r.extractions.Merges (b.settled.flatMap (·.extractions.entries))

/-- The run failed over an exchange, of which the last event of a log tells. Its record shows it, and the
failure says what its assertions said, and what was extracted up to and with it. -/
structure FailedAt (S : Setup Req Res) (log : List (Event Req Res)) (r : Run Req Res) (n : Facts)
    (failure : ExpectationFailure) : Prop where
  phase : r.phase = .failed
  last : ∃ place x, log.getLast? = some (.accepted place x) ∧ Shows S x n
  step : failure.step = n.uuid
  failures : failure.failures = (n.assertions.filter (!·.passed)).map
      (fun a => s!"Assertion failed: {a.expression}") ∧ failure.failures ≠ []
  extractions : failure.extractions = r.extractions.extend n.extractions

section

variable {S : Setup Req Res} {r r' : Run Req Res}

/-- Where nothing was exchanged the books stay as they are. -/
theorem Books.Agree.silent {exchanges : List (Exchange Req Res)} {b : Books}
    (h : b.Agree S exchanges r) (hsilent : r.Silent r') : b.Agree S exchanges r' := by
  obtain ⟨⟨added, hgrows, hnone⟩, hextractions⟩ := hsilent
  have hadded : added.filter (·.request.isSome) = [] :=
    List.filter_eq_nil_iff.2 fun n hn => by simp [(hnone n hn).request]
  refine ⟨hgrows.orderly, ?_, h.shown, ?_⟩
  · rw [hgrows.facts, List.filter_append, hadded, List.append_nil]
    exact h.carried
  · rw [hextractions]
    exact h.extractions

theorem carried_record (h : r.Orderly) (s : Step) (exchange : Json × Json) (extracted : Bindings Json)
    (outcomes : List Result.Assertion) :
    (r.record (exchangeNode s exchange extracted outcomes)).facts.filter (·.request.isSome) =
      r.facts.filter (·.request.isSome) ++ [(exchangeNode s exchange extracted outcomes).facts] := by
  rw [(h.record _).facts, List.filter_append]
  rfl

/-- A committed exchange is the next in the books. -/
theorem Books.Agree.met {exchanges : List (Exchange Req Res)} {settled : List Facts} {s : Step}
    {request : Req} {response : Res} (h : Agree S exchanges r ⟨settled, none⟩)
    (hjudged : Judged S r s request response (.ok (), r')) :
    ∃ n, Agree S (exchanges ++ [⟨request, response⟩]) r' ⟨settled ++ [n], none⟩ := by
  cases hjudged with
  | @met leaf exchange f extracted outcomes _ hjson =>
      have hcarried := h.carried
      rw [Option.toList_none, List.append_nil] at hcarried
      -- what was extracted is bound and kept before the exchange is recorded
      let kept : Run Req Res := { r with
        context := (bindAll r.context extracted.entries).recordCompleted
        extractions := r.extractions.extend extracted }
      have hkept : kept.Orderly := h.orderly.congr rfl
      let node := exchangeNode s exchange extracted outcomes
      refine ⟨node.facts, ?_, ?_, ?_, ?_⟩
      · exact (hkept.record node).orderly.congr rfl
      · have hfacts : (commit r request response extracted node).facts = (kept.record node).facts :=
          Run.facts_congr rfl rfl
        have hbefore : kept.facts = r.facts := Run.facts_congr rfl rfl
        rw [hfacts, carried_record hkept, hbefore, hcarried, Option.toList_none, List.append_nil]
      · exact List.rel_append h.shown (.cons ⟨exchange, hjson, rfl, rfl⟩ .nil)
      · have hextractions : (commit r request response extracted node).extractions =
            r.extractions.extend extracted := record_extractions kept node
        have hmerges := h.extractions.extend extracted
        rw [hextractions, List.flatMap_append]
        simpa [node, exchangeNode] using hmerges

/-- An exchange whose assertions do not hold is the last in the books; other errors leave no trace. -/
theorem Books.Agree.rejected {exchanges : List (Exchange Req Res)} {settled : List Facts} {s : Step}
    {request : Req} {response : Res} {e : Error} (h : Agree S exchanges r ⟨settled, none⟩)
    (hjudged : Judged S r s request response (.error e, r')) (place : Nat) :
    (Agree S exchanges r'.fail ⟨settled, none⟩ ∧ Origin S e) ∨
      ∃ n failure, Agree S exchanges r'.fail ⟨settled, some n⟩ ∧ e = .expectation failure ∧
        FailedAt S [.accepted place ⟨request, response⟩] r'.fail n failure := by
  have hfailed : Agree S exchanges r.fail ⟨settled, none⟩ :=
    h.silent (h.orderly.silent.congr rfl rfl rfl)
  cases hjudged with
  | noRequest => exact .inl ⟨hfailed, .configuration _⟩
  | unwritten _ hjson =>
      obtain ⟨fault, rfl⟩ := serialization_of_exchangeJson hjson
      exact .inl ⟨hfailed, .serialization fault⟩
  | unextracted _ _ hextract => exact .inl ⟨hfailed, .raised (raisesAt_of_extract hextract).raises⟩
  | unjudged _ _ _ hjudge => exact .inl ⟨hfailed, .raised (raisesAt_of_judge hjudge).raises⟩
  | @unmet leaf exchange f extracted outcomes _ hjson _ _ hunmet =>
      have hcarried := h.carried
      rw [Option.toList_none, List.append_nil] at hcarried
      let node := exchangeNode s exchange extracted outcomes
      have hextractions : (r.record node).fail.extractions = r.extractions := record_extractions r node
      refine .inr ⟨node.facts, _, ⟨(h.orderly.record node).orderly.congr rfl, ?_, h.shown, ?_⟩, rfl, ?_⟩
      · have hfacts : (r.record node).fail.facts = (r.record node).facts := Run.facts_congr rfl rfl
        rw [hfacts, carried_record h.orderly, hcarried]
        rfl
      · rw [hextractions]
        exact h.extractions
      · refine ⟨rfl, ⟨place, ⟨request, response⟩, rfl, exchange, hjson, rfl, rfl⟩, rfl,
          ⟨rfl, hunmet⟩, ?_⟩
        rw [hextractions]
        rfl

/-! ## Calls -/

theorem raises_of_expectation {failure : ExpectationFailure}
    (h : Origin S (.expectation failure)) : Raises S (.expectation failure) := by
  cases h with
  | raised hraises => exact hraises

theorem created_of_call {fuel : Nat} {c : Call Req Res} {answer : Answered Req}
    (hcall : call S fuel r c = .ok (answer, r')) (hphase : r'.phase = .created) : r' = r := by
  have handed : ∀ {r₁ : Run Req Res} {a : Except Error (Next Req)}, r₁.phase ≠ .created →
      ¬ Handed S r₁ a r' := by
    intro r₁ a hbegun hhanded
    cases hhanded with
    | nothing => exact hbegun hphase
    | again => exact hbegun hphase
    | made => exact hbegun hphase
    | unmade => exact absurd hphase (by simp [Run.fail])
  cases c with
  | peek =>
      obtain ⟨a, hpeek, _⟩ := peek_of_call hcall
      cases peeked_of_peek hpeek with
      | failed => rfl
      | done => rfl
      | begun _ hturns hends hhanded =>
          have hawaiting := congrArg Standing.phase hturns.standing
          exact absurd hhanded (handed (phase_of_ends hawaiting hends))
      | stopped _ hturns hends =>
          have hawaiting := congrArg Standing.phase hturns.standing
          exact absurd hphase (phase_of_ends hawaiting hends)
      | awaiting hawaiting hhanded => exact absurd hhanded (handed (by simp [hawaiting]))
  | resume request response =>
      obtain ⟨a, hresume, _⟩ := resume_of_call hcall
      cases resumed_of_resume hresume with
      | refused => rfl
      | rejected => exact absurd hphase (by simp [Run.fail])
      | taken hawaited hcomplete hturns hends =>
          exact absurd hphase (phase_of_ends (phase_of_taken hawaited hcomplete hturns) hends)

/-- Asking for the next request exchanges nothing, and fails only over what is raised inside. -/
theorem silent_of_peek {fuel : Nat} {answer : Except Error (Next Req)} (h : r.Orderly)
    (hfresh : r.phase = .created → r.cursors = []) (hpeek : peek S fuel r = .ok (answer, r')) :
    r.Silent r' ∧ ∀ failure, answer = .error (.expectation failure) →
      Raises S (.expectation failure) := by
  cases peeked_of_peek hpeek with
  | failed => exact ⟨h.silent, by simp⟩
  | done => exact ⟨h.silent, by simp⟩
  | begun hphase hturns hends hhanded =>
      have hturned := (h.silent_begin (hfresh hphase)).trans fun h₁ => h₁.silent_turns hturns
      have hended := hturned.trans fun h₁ => h₁.silent_ends hends
      refine ⟨hended.trans fun h₁ => h₁.silent_handed hhanded, ?_⟩
      rintro failure rfl
      exact raises_of_expectation (error_of_handed hhanded).2
  | stopped hphase hturns hends =>
      have hturned := (h.silent_begin (hfresh hphase)).trans fun h₁ => h₁.silent_turns hturns
      refine ⟨hturned.trans fun h₁ => h₁.silent_ends hends, ?_⟩
      rintro failure hfailure
      obtain rfl := Except.error.inj hfailure
      exact raises_of_expectation (error_of_ends hends).2
  | awaiting _ hhanded =>
      refine ⟨h.silent_handed hhanded, ?_⟩
      rintro failure rfl
      exact raises_of_expectation (error_of_handed hhanded).2

theorem committedIn_peekEvents (S : Setup Req Res) (fuel : Nat) (r : Run Req Res) :
    committedIn (peekEvents S fuel r) = [] := by
  have hhanded : ∀ result : Except Stop (Except Error (Next Req) × Run Req Res),
      committedIn (handedBy result : List (Event Req Res)) = [] := by
    intro result
    unfold handedBy
    split <;> rfl
  unfold peekEvents
  split
  · rw [committedIn_append, committedIn_reachedBy, hhanded, List.append_nil]
  · exact hhanded _

/-- What a run answered and what happened last agree with the record of the exchange over which it
failed: there is one exactly if assertions did not hold. -/
structure Blames (S : Setup Req Res) (log : List (Event Req Res)) (answers : List (Answered Req))
    (r : Run Req Res) (failing : Option Facts) : Prop where
  recorded : ∀ n, failing = some n →
    ∃ failure, .error (.expectation failure) ∈ answers ∧ FailedAt S log r n failure
  answered : ∀ failure, .error (.expectation failure) ∈ answers →
    Raises S (.expectation failure) ∨ ∃ n, failing = some n ∧ FailedAt S log r n failure

theorem blames_none {log : List (Event Req Res)} {answer : Answered Req}
    (h : ∀ failure, answer = .error (.expectation failure) → Raises S (.expectation failure)) :
    Blames S log [answer] r none where
  recorded := by simp
  answered failure hmem := .inl (h failure (List.mem_singleton.1 hmem).symm)

/-- A call adds to the books what it commits or fails over. -/
theorem Books.Agree.called {exchanges : List (Exchange Req Res)} {settled : List Facts} {fuel : Nat}
    {c : Call Req Res} {answer : Answered Req} (h : Agree S exchanges r ⟨settled, none⟩)
    (hfresh : r.phase = .created → r.cursors = []) (hcall : call S fuel r c = .ok (answer, r')) :
    ∃ b : Books, b.Agree S (exchanges ++ committedIn (callEvents S fuel r c)) r' ∧
      Blames S (callEvents S fuel r c) [answer] r' b.failing := by
  cases c with
  | peek =>
      obtain ⟨a, hpeek, rfl⟩ := peek_of_call hcall
      obtain ⟨hsilent, hraises⟩ := silent_of_peek h.orderly hfresh hpeek
      refine ⟨⟨settled, none⟩, ?_, blames_none fun failure ha => hraises failure (error_of_map ha)⟩
      rw [callEvents, committedIn_peekEvents, List.append_nil]
      exact h.silent hsilent
  | resume request response =>
      obtain ⟨a, hresume, rfl⟩ := resume_of_call hcall
      cases resumed_of_resume hresume with
      | @refused e hawaited =>
          obtain ⟨fault, rfl⟩ := awaited_eq_error hawaited
          refine ⟨⟨settled, none⟩, ?_, blames_none fun failure ha => absurd ha (by simp [Except.map])⟩
          simpa [callEvents, resumeEvents, hawaited, committedIn] using h
      | @rejected p s e r₁ hawaited hcomplete =>
          -- the exchange is taken and not committed; only failed assertions leave a record of it
          have hjudged := judged_of_complete hcomplete
          have hevents : callEvents S fuel r (.resume request response) =
              [.accepted p ⟨request, response⟩] := by
            simp [callEvents, resumeEvents, hawaited, hcomplete]
          have hcommitted : exchanges ++ committedIn (callEvents S fuel r (.resume request response)) =
              exchanges := by
            rw [hevents]
            exact List.append_nil _
          rw [hcommitted, hevents]
          rcases h.rejected hjudged p with ⟨hagree, horigin⟩ | ⟨n, failure, hagree, rfl, hat⟩
          · refine ⟨_, hagree, blames_none ?_⟩
            intro failure ha
            obtain rfl := Except.error.inj ha
            exact raises_of_expectation horigin
          · refine ⟨_, hagree, ?_, ?_⟩
            · rintro _ ⟨⟩
              exact ⟨failure, List.mem_singleton.2 rfl, hat⟩
            · intro failure' hmem
              obtain rfl : failure' = failure := by
                simpa [Except.map] using hmem
              exact .inr ⟨n, rfl, hat⟩
      | @taken p s r₁ r₂ _ _ hawaited hcomplete hturns hends =>
          have hjudged := judged_of_complete hcomplete
          obtain ⟨n, hagree⟩ := h.met hjudged
          have hsilent := (hagree.orderly.silent_turns hturns).trans fun h₂ => h₂.silent_ends hends
          refine ⟨⟨settled ++ [n], none⟩, ?_, blames_none ?_⟩
          · have hcommitted : committedIn (callEvents S fuel r (.resume request response)) =
                [⟨request, response⟩] := by
              have hreached := committedIn_reachedBy (advance S fuel r₁)
              simp only [callEvents, resumeEvents, hawaited, hcomplete]
              exact congrArg _ hreached
            rw [hcommitted]
            exact hagree.silent hsilent
          · intro failure ha
            obtain rfl := error_of_map ha
            exact raises_of_expectation (error_of_ends hends).2

end

/-! ## Runs -/

/-- Where the account of a run stands after calls. -/
structure Accounted (S : Setup Req Res) (log : List (Event Req Res)) (answers : List (Answered Req))
    (r : Run Req Res) (b : Books) : Prop where
  agree : b.Agree S (committedIn log) r
  fresh : r.phase = .created → r.cursors = []
  blames : Blames S log answers r b.failing
  failed : ∀ failure, .error (.expectation failure) ∈ answers → r.phase = .failed

theorem callEvents_failed {S : Setup Req Res} {r : Run Req Res} (h : r.phase = .failed) (fuel : Nat)
    (c : Call Req Res) : callEvents S fuel r c = [] := by
  cases c with
  | peek => simp [callEvents, peekEvents, peek, handedBy, h]
  | resume request response => simp [callEvents, resumeEvents, awaited, h]

theorem Accounted.called {S : Setup Req Res} {log : List (Event Req Res)}
    {answers : List (Answered Req)} {r r' : Run Req Res} {b : Books} {fuel : Nat} {c : Call Req Res}
    {answer : Answered Req} (h : Accounted S log answers r b)
    (hcall : call S fuel r c = .ok (answer, r')) :
    ∃ b' : Books, Accounted S (log ++ callEvents S fuel r c) (answers ++ [answer]) r' b' := by
  by_cases hphase : r.phase = .failed
  · -- a run that has failed only refuses
    obtain ⟨rfl, rfl⟩ := Prod.mk.inj (Except.ok.inj ((call_failed hphase fuel c).symm.trans hcall))
    have hrefused : ∀ failure, (c.whenFailed : Answered Req) ≠ .error (.expectation failure) := by
      cases c <;> simp [Call.whenFailed]
    have hanswers : ∀ failure, .error (.expectation failure) ∈ answers ++ [c.whenFailed] ↔
        .error (.expectation failure) ∈ answers := by
      intro failure
      simp [(hrefused failure).symm]
    rw [callEvents_failed hphase, List.append_nil]
    refine ⟨b, h.agree, h.fresh, ⟨?_, ?_⟩, fun _ _ => hphase⟩
    · intro n hn
      obtain ⟨failure, hmem, hat⟩ := h.blames.recorded n hn
      exact ⟨failure, (hanswers failure).2 hmem, hat⟩
    · intro failure hmem
      exact h.blames.answered failure ((hanswers failure).1 hmem)
  · -- until now nothing has failed, so that all is up to the call
    have hnever : ∀ failure, .error (.expectation failure) ∉ answers := fun failure hmem =>
      hphase (h.failed failure hmem)
    obtain ⟨settled, failing⟩ := b
    obtain rfl : failing = none := by
      rw [Option.eq_none_iff_forall_not_mem]
      intro n hn
      obtain ⟨failure, hmem, _⟩ := h.blames.recorded n hn
      exact hnever failure hmem
    have hanswers : ∀ failure, .error (.expectation failure) ∈ answers ++ [answer] ↔
        .error (.expectation failure) ∈ [answer] := by
      intro failure
      simp [hnever failure]
    obtain ⟨b', hagree, hblames⟩ := h.agree.called h.fresh hcall
    have later : ∀ {n failure}, FailedAt S (callEvents S fuel r c) r' n failure →
        FailedAt S (log ++ callEvents S fuel r c) r' n failure := by
      intro n failure hat
      obtain ⟨place, x, hlast, hshows⟩ := hat.last
      refine ⟨hat.phase, ⟨place, x, ?_, hshows⟩, hat.step, hat.failures, hat.extractions⟩
      rw [List.getLast?_append, hlast]
      rfl
    refine ⟨b', ?_, ?_, ⟨?_, ?_⟩, ?_⟩
    · rw [committedIn_append]
      exact hagree
    · intro hcreated
      obtain rfl := created_of_call hcall hcreated
      exact h.fresh hcreated
    · intro n hn
      obtain ⟨failure, hmem, hat⟩ := hblames.recorded n hn
      exact ⟨failure, (hanswers failure).2 hmem, later hat⟩
    · intro failure hmem
      rcases hblames.answered failure ((hanswers failure).1 hmem) with hraises | ⟨n, hn, hat⟩
      · exact .inl hraises
      · exact .inr ⟨n, hn, later hat⟩
    · intro failure hmem
      obtain rfl := List.mem_singleton.1 ((hanswers failure).1 hmem)
      rcases call_error hcall with ⟨⟨fault, hfault⟩, _⟩ | ⟨hfailed, _⟩
      · exact absurd hfault (by simp)
      · exact hfailed

theorem Told.accounted {S : Setup Req Res} {values : Bindings Json} {log : List (Event Req Res)}
    {answers : List (Answered Req)} {r : Run Req Res} (h : Told S values log answers r) :
    ∃ b : Books, Accounted S log answers r b := by
  induction h with
  | start =>
      refine ⟨⟨[], none⟩, ⟨⟨trivial, ?_⟩, rfl, .nil, Bindings.merges_empty⟩, fun _ => rfl, ?_, ?_⟩
      · exact fun cursor hmem => absurd hmem (by simp [Run.start])
      · exact ⟨by simp, by simp⟩
      · simp
  | call _ hcall ih =>
      obtain ⟨b, haccounted⟩ := ih
      exact haccounted.called hcall

end Walkthrough.Engine
