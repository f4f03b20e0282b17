import Walkthrough.Proofs.Engine.Flawless
import Walkthrough.Proofs.Engine.Raised
import Walkthrough.Proofs.Session.Returns

/-!
# What reports say

A session is followed exchange by exchange: between exchanges as many requests were sent as exchanges are
completed (`Session.Clear`), and while a response is expected there is one more (`Session.Sending`). How a
session is over decides what its report says of the results (`Session.Over`, `Outcome.Truthful`). As the
evaluator of the expression language raises nothing that looks like failed assertions
(`not_raises_expectation`), a report of failure is about assertions.
-/

namespace Walkthrough

open Engine (Run Setup Raises failuresOf)

/-- Neither the evaluator of the expression language nor the making of requests raises what looks like
failed assertions. -/
theorem Template.not_raises_expectation {restricted : Bool} {host : Host}
    {S : Setup Request Response} {m : RequestMaker}
    (hevaluator : S.evaluator = Template.evaluator restricted host) (hconverter : S.converter = m.converter)
    (failure : ExpectationFailure) : ¬ Raises S (.expectation failure) := by
  intro hraises
  cases Template.raised_of_template hevaluator hconverter hraises with
  | value hvalue => cases hvalue

/-! ## Sessions -/

namespace Session

variable {S : Setup Request Response} {p : Plan} {s s' : Session}

/-- A session between exchanges, in which nothing has failed. -/
structure Clear (S : Setup Request Response) (s : Session) : Prop where
  setup : s.setup = S
  flawless : s.run.Flawless
  poised : s.run.Poised
  counted : s.sent.length = s.run.context.completed

/-- A session that has just sent a request. -/
structure Sending (S : Setup Request Response) (s : Session) : Prop where
  setup : s.setup = S
  flawless : s.run.Flawless
  phase : s.run.phase = .awaiting
  counted : s.sent.length = s.run.context.completed + 1

/-- How a session is over: its run is done, something broke it, or assertions did not hold. -/
inductive Over (S : Setup Request Response) (s : Session) : Ending → Prop
  | done : s.run.Flawless → s.run.phase = .done → s.sent.length = s.run.context.completed →
      Over S s .done
  | broken {ending} : ending ≠ .done →
      (∀ failure, ending = .error (.expectation failure) → Raises S (.expectation failure)) →
      s.run.Flawless → s.run.phase ≠ .done →
      (s.sent.length = s.run.context.completed ∨ s.sent.length = s.run.context.completed + 1) →
      Over S s ending
  | unmet {before f failure} : s.run.facts = before ++ [f] →
      (∀ g ∈ before, ∀ a ∈ g.assertions, a.passed = true) →
      failure.failures = failuresOf f.assertions → failure.failures ≠ [] → s.run.phase = .failed →
      s.sent.length = s.run.context.completed + 1 → Over S s (.error (.expectation failure))

/-- What a session is that was asked for the next request. -/
def Asked (S : Setup Request Response) (s : Session) : Except Ending Request → Prop
  | .ok _ => s.Sending S
  | .error ending => s.Over S ending

/-- What a session is after an exchange. -/
def Turned (S : Setup Request Response) (s : Session) : Option Ending → Prop
  | none => s.Clear S
  | some ending => s.Over S ending

theorem clear_start {sc : Scenario} (h : Session.start p sc = .ok s) : s.Clear s.setup := by
  obtain ⟨m, rfl⟩ := start_eq_ok h
  exact ⟨rfl, Engine.flawless_start _, Engine.poised_start _, rfl⟩

/-- Asking a session leads to a request that is sent, or to the end. -/
theorem Clear.asked {fuel : Nat} {next : Except Ending Request} (h : s.Clear S)
    (hask : s.ask fuel = .ok (s', next)) : s'.Asked S next := by
  unfold ask at hask
  split at hask
  · exact absurd hask (by simp)
  · next e r hpeek =>
    obtain ⟨rfl, rfl⟩ := Prod.mk.inj (Except.ok.inj hask)
    have hasked := Engine.asked_of_peek h.flawless h.poised hpeek
    refine Over.broken (by simp) ?_ hasked.flawless (fun hdone => ?_)
      (.inl (h.counted.trans hasked.completed.symm))
    · rintro failure hfailure
      obtain rfl : e = .expectation failure := by simpa using hfailure
      rw [← h.setup]
      exact hasked.raises failure rfl
    · exact absurd (hasked.done_iff.2 hdone) (by simp)
  · next r hpeek =>
    obtain ⟨rfl, rfl⟩ := Prod.mk.inj (Except.ok.inj hask)
    have hasked := Engine.asked_of_peek h.flawless h.poised hpeek
    exact Over.done hasked.flawless (hasked.done_iff.1 rfl) (h.counted.trans hasked.completed.symm)
  · next place uuid request r hpeek =>
    obtain ⟨rfl, rfl⟩ := Prod.mk.inj (Except.ok.inj hask)
    have hasked := Engine.asked_of_peek h.flawless h.poised hpeek
    refine ⟨h.setup, hasked.flawless, hasked.request place uuid request rfl, ?_⟩
    simp [h.counted, hasked.completed]

/-- What came of a request leads to the next exchange, or to the end. -/
theorem Sending.taken {fuel : Nat} {request : Request} {answer : Except TransportFault Response}
    {next : Option Ending} (h : s.Sending S) (htake : s.take fuel request answer = .ok (s', next)) :
    s'.Turned S next := by
  cases answer with
  | error fault =>
    obtain ⟨rfl, rfl⟩ := Prod.mk.inj (Except.ok.inj htake)
    exact Over.broken (by simp) (by simp) h.flawless (by simp [h.phase]) (.inr h.counted)
  | ok response =>
    unfold take at htake
    simp only at htake
    split at htake
    · exact absurd htake (by simp)
    · next e r hresume =>
      obtain ⟨rfl, rfl⟩ := Prod.mk.inj (Except.ok.inj htake)
      cases Engine.took_of_resume h.flawless h.phase hresume with
      | broken hflawless hphase hcompleted hraises =>
        refine Over.broken (by simp) ?_ hflawless hphase ?_
        · rintro failure hfailure
          rw [← h.setup]
          exact hraises failure (by simpa using hfailure)
        · -- what was sent is one more than was completed before
          have hcounted := h.counted
          simp only
          omega
      | unmet hfacts hfailures hsome hphase hcompleted =>
        exact Over.unmet hfacts h.flawless.held hfailures hsome hphase
          (h.counted.trans (congrArg (· + 1) hcompleted.symm))
    · next r hresume =>
      obtain ⟨rfl, rfl⟩ := Prod.mk.inj (Except.ok.inj htake)
      cases Engine.took_of_resume h.flawless h.phase hresume with
      | on hflawless hpoised hcompleted =>
        exact ⟨h.setup, hflawless, hpoised, h.counted.trans hcompleted.symm⟩

/-- An exchange leads to the next one, or to the end. -/
theorem Clear.turned {fuel : Nat} {next : Option Ending} (h : s.Clear S)
    (hturn : s.turn p fuel = .ok (s', next)) : s'.Turned S next := by
  obtain ⟨ending, rfl, hask⟩ | ⟨s₁, request, hask, htake⟩ := turn_cases hturn
  · exact h.asked hask
  · have hsending : s₁.Sending S := h.asked hask
    exact hsending.taken htake

/-- A session that is finished is over. -/
theorem Clear.finished {fuel exchanges : Nat} {ending : Ending} (h : s.Clear S)
    (hfinish : s.finish p fuel exchanges = .ok (s', ending)) : s'.Over S ending := by
  induction exchanges generalizing s with
  | zero => exact absurd hfinish (by simp [finish])
  | succ exchanges ih =>
    unfold finish at hfinish
    split at hfinish
    · exact absurd hfinish (by simp)
    · next s₁ ending' hturn =>
      obtain ⟨rfl, rfl⟩ := Prod.mk.inj (Except.ok.inj hfinish)
      exact h.turned hturn
    · next s₁ hturn => exact ih (h.turned hturn) hfinish

end Session

/-! ## Reports -/

/-- What the status of a report says of its results and of the requests that were sent: how many there
are, of which node assertions failed, and which these are. -/
structure Outcome.Truthful (o : Outcome) : Prop where
  passed : o.report.status = .passed →
    (∀ n ∈ o.report.results.flatten, n.passed = true) ∧
      o.report.results.requestCount = o.report.requests ∧ o.sent.length = o.report.requests
  failed : o.report.status = .failed →
    ∃ before n, o.report.results.flatten = before ++ [n] ∧ (∀ m ∈ before, m.passed = true) ∧
      n.passed = false ∧
      o.report.failures = (n.facts.assertions.filter (!·.passed)).map
        (fun a => s!"Assertion failed: {a.expression}") ∧
      o.sent.length = o.report.requests + 1
  errored : o.report.status = .errored →
    o.report.error ≠ none ∧ o.report.failures = [] ∧
      (∀ n ∈ o.report.results.flatten, n.passed = true) ∧
      (o.sent.length = o.report.requests ∨ o.sent.length = o.report.requests + 1)

namespace Outcome

variable {S : Setup Request Response} {s : Session} {ending : Ending} {o : Outcome}

theorem Truthful.of_passed (hstatus : o.report.status = .passed)
    (hheld : ∀ n ∈ o.report.results.flatten, n.passed = true)
    (hcounted : o.report.results.requestCount = o.report.requests)
    (hsent : o.sent.length = o.report.requests) : o.Truthful where
  passed _ := ⟨hheld, hcounted, hsent⟩
  failed h := absurd (hstatus.symm.trans h) (by decide)
  errored h := absurd (hstatus.symm.trans h) (by decide)

theorem Truthful.of_failed {before : List Result.Node} {n : Result.Node}
    (hstatus : o.report.status = .failed) (hflatten : o.report.results.flatten = before ++ [n])
    (hheld : ∀ m ∈ before, m.passed = true)
    (hfailures : o.report.failures = (n.facts.assertions.filter (!·.passed)).map
      fun a => s!"Assertion failed: {a.expression}") (hsome : o.report.failures ≠ [])
    (hsent : o.sent.length = o.report.requests + 1) : o.Truthful where
  passed h := absurd (hstatus.symm.trans h) (by decide)
  failed _ := by
    refine ⟨before, n, hflatten, hheld, ?_, hfailures, hsent⟩
    by_contra hpassed
    rw [Bool.not_eq_false, Result.Node.passed, List.all_eq_true] at hpassed
    refine hsome (hfailures.trans ?_)
    rw [List.map_eq_nil_iff, List.filter_eq_nil_iff]
    exact fun a ha => by simp [hpassed a ha]
  errored h := absurd (hstatus.symm.trans h) (by decide)

theorem Truthful.of_errored (hstatus : o.report.status = .errored) (herror : o.report.error ≠ none)
    (hfailures : o.report.failures = []) (hheld : ∀ n ∈ o.report.results.flatten, n.passed = true)
    (hsent : o.sent.length = o.report.requests ∨ o.sent.length = o.report.requests + 1) :
    o.Truthful where
  passed h := absurd (hstatus.symm.trans h) (by decide)
  failed h := absurd (hstatus.symm.trans h) (by decide)
  errored _ := ⟨herror, hfailures, hheld, hsent⟩

theorem truthful_unstarted (name : String) (e : Error) : (unstarted name e).Truthful :=
  .of_errored rfl (by simp [unstarted, Report.unstarted]) rfl (fun _ hn => absurd hn List.not_mem_nil)
    (.inl rfl)

theorem passed_of_flawless {r : Run Request Response} (h : r.Flawless) :
    ∀ n ∈ r.tree.flatten, n.passed = true := fun _ hn =>
  List.all_eq_true.2 (h.held _ (List.mem_map_of_mem hn))

/-- What neither is done nor says that assertions failed is reported as an error. -/
theorem ofSession_broken (hdone : ending ≠ .done)
    (hbreak : ∀ failure, ending ≠ .error (.expectation failure)) :
    ∃ message, Report.ofSession s ending = ⟨s.name, .errored, [], some message,
      s.run.context.completed, s.run.tree⟩ := by
  unfold Report.ofSession
  split
  · exact absurd rfl hdone
  · next failure => exact absurd rfl (hbreak failure)
  · exact ⟨_, rfl⟩
  · exact ⟨_, rfl⟩

/-- The status of a report tells how its session is over. -/
theorem status_of_over (h : s.Over S ending)
    (hraises : ∀ failure, ¬ Raises S (.expectation failure)) :
    ((ofSession s ending).report.status = .passed ↔ s.run.phase = .done) ∧
      ((ofSession s ending).report.status = .failed ↔
        ∃ failure, ending = .error (.expectation failure)) := by
  cases h with
  | done _ hphase => simp [hphase, ofSession, Report.ofSession, Report.ofSession.told]
  | unmet _ _ _ _ hphase => simp [hphase, ofSession, Report.ofSession, Report.ofSession.told]
  | broken hdone hexpectation _ hphase =>
    have hbreak : ∀ failure, ending ≠ .error (.expectation failure) := fun failure hfailure =>
      hraises failure (hexpectation failure hfailure)
    obtain ⟨message, hreport⟩ := ofSession_broken (s := s) hdone hbreak
    simp [ofSession, hreport, hphase, hbreak]

theorem truthful_of_over (h : s.Over S ending)
    (hraises : ∀ failure, ¬ Raises S (.expectation failure)) : (ofSession s ending).Truthful := by
  cases h with
  | done hflawless _ hcounted =>
    refine .of_passed rfl (passed_of_flawless hflawless) ?_ hcounted
    refine Eq.trans ?_ hflawless.counted
    rw [Run.facts, List.filter_map, List.length_map]
    rfl
  | @unmet before f failure hfacts hheld hfailures hsome _ hcounted =>
    -- the nodes are those whose facts are known
    obtain ⟨nodes, last, hflatten, rfl, hlast⟩ := List.map_eq_append_iff.1 hfacts
    obtain ⟨n, rfl, rfl⟩ := List.map_eq_singleton_iff.1 hlast
    exact .of_failed rfl hflatten
      (fun m hm => List.all_eq_true.2 (hheld _ (List.mem_map_of_mem hm))) hfailures hsome hcounted
  | broken hdone hexpectation hflawless _ hcounted =>
    obtain ⟨message, hreport⟩ := ofSession_broken (s := s) hdone fun failure hfailure =>
      hraises failure (hexpectation failure hfailure)
    have hofSession : ofSession s ending = ⟨⟨s.name, .errored, [], some message,
        s.run.context.completed, s.run.tree⟩, s.sent⟩ := congrArg (Outcome.mk · s.sent) hreport
    rw [hofSession]
    exact .of_errored rfl (by simp) rfl (passed_of_flawless hflawless) hcounted

/-- **Reports.** Over a graph that was built and whose links do not run in a circle, a scenario that is run
on its own comes to an outcome. Whatever outcome a scenario comes to, its report and what was sent agree with
the results: all assertions held if it passed; the last node is the only one with failed assertions, which
are listed, if it failed; and otherwise an error is told and no assertion failed. It passed if and only if the
run reached the end of the graph, and failed if and only if the run ended because assertions failed. -/
theorem reports_truthful (p : Plan) (restricted : Bool) (host : Host)
    (hevaluator : p.evaluator = Template.evaluator restricted host) (s : Scenario) :
    (∀ steps root, Graph.build steps root = .ok s.graph → s.graph.Acyclic → ∃ o, s.ComesTo p o) ∧
    ∀ fuel o, within p fuel s = .ok o → o.Truthful ∧
      match Session.start p s with
      | .error e => o = unstarted s.name e
      | .ok session => ∃ ended ending, session.finish p fuel fuel = .ok (ended, ending) ∧
          o = ofSession ended ending ∧
          (o.report.status = .passed ↔ ended.run.phase = .done) ∧
          (o.report.status = .failed ↔ ∃ failure, ending = .error (.expectation failure)) := by
  refine ⟨fun steps root built acyclic => Scenario.comesTo_of_acyclic p built acyclic, ?_⟩
  intro fuel o hwithin
  unfold within at hwithin
  cases hstart : Session.start p s with
  | error e =>
    rw [hstart] at hwithin
    obtain rfl := Except.ok.inj hwithin
    exact ⟨truthful_unstarted s.name e, rfl⟩
  | ok session =>
    rw [hstart] at hwithin
    obtain ⟨⟨ended, ending⟩, hfinish, rfl⟩ := map_eq_ok hwithin
    obtain ⟨m, hsession⟩ := Session.start_eq_ok hstart
    have hover := (Session.clear_start hstart).finished hfinish
    have hraises := Template.not_raises_expectation (S := session.setup) (m := m)
      (by rw [hsession, hevaluator]) (by rw [hsession])
    obtain ⟨hpassed, hfailed⟩ := status_of_over hover hraises
    exact ⟨truthful_of_over hover hraises, ended, ending, hfinish, rfl, hpassed, hfailed⟩

/-- The second page is not found and has no headers, but it is empty: one exchange is completed, two requests
were sent, and the report lists the assertions that failed, in order. -/
theorem outing_truthful :
    Graph.build outingSteps (some 0) = .ok outing.graph ∧ outing.graph.Acyclic ∧
      ∃ o, outing.ComesTo outingPlan o ∧ o.report.status = .failed ∧ o.report.requests = 1 ∧
        o.sent.length = 2 ∧
        o.report.failures =
          ["Assertion failed: response.status == 200", "Assertion failed: response.headers"] ∧
        ∃ before n, o.report.results.flatten = before ++ [n] ∧
          (∀ m ∈ before, m.passed = true) ∧ n.passed = false ∧
          o.report.failures = (n.facts.assertions.filter (!·.passed)).map
            (fun a => s!"Assertion failed: {a.expression}") := by
  have acyclic : outing.graph.Acyclic := Graph.acyclic_of_ascends rfl
  obtain ⟨hreturns, htruthful⟩ := reports_truthful outingPlan true .empty rfl outing
  obtain ⟨o, ho⟩ := hreturns outingSteps (some 0) rfl acyclic
  have hrun : (within outingPlan 3 outing).map
      (fun o => (o.report.status, o.report.requests, o.sent.length, o.report.failures)) =
      .ok (.failed, 1, 2,
        ["Assertion failed: response.status == 200", "Assertion failed: response.headers"]) := by
    decide +kernel
  obtain ⟨o', ho', hsummary⟩ := map_eq_ok hrun
  obtain ⟨enough, henough⟩ := ho
  obtain rfl : o = o' := (within_steady outingPlan outing).unique (henough enough (Nat.le_refl _)) ho'
  obtain ⟨hstatus, hrequests, hsent, hlisted⟩ : o.report.status = .failed ∧ o.report.requests = 1 ∧
      o.sent.length = 2 ∧ o.report.failures =
        ["Assertion failed: response.status == 200", "Assertion failed: response.headers"] := by
    simpa using hsummary
  obtain ⟨before, n, hflatten, hbefore, hn, hfailures, _⟩ := (htruthful 3 o ho').1.failed hstatus
  exact ⟨rfl, acyclic, o, ⟨enough, henough⟩, hstatus, hrequests, hsent, hlisted, before, n, hflatten,
    hbefore, hn, hfailures⟩

end Outcome

end Walkthrough
