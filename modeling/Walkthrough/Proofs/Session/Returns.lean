import Walkthrough.Proofs.Engine.Fuel
import Walkthrough.Proofs.Engine.Termination
import Walkthrough.Proofs.Fallible
import Walkthrough.Report
import Walkthrough.Template.Evaluator

/-!
# What a scenario comes to

A scenario that is run on its own comes to at most one outcome, whatever the fuel (`within_steady`), and
over a graph that was built and whose links do not run in a circle it comes to one (`comesTo_of_acyclic`):
its session asks for what a driven run asks for, as long as the transport answers.
-/

namespace Walkthrough

open Engine (Steady drive steady_const)

/-- From some fuel on, a scenario has an outcome when it is run on its own. -/
def Scenario.ComesTo (p : Plan) (s : Scenario) (o : Outcome) : Prop :=
  ∃ enough, ∀ fuel, enough ≤ fuel → Outcome.within p fuel s = .ok o

/-! ## Fuel -/

namespace Session

variable {p : Plan} {s : Session}

theorem ask_steady (s : Session) : Steady fun fuel => s.ask fuel := by
  refine (Engine.peek_steady s.setup s.run).next (fun fuel stop h => by simp only [ask, h]) fun answer => ?_
  exact ⟨_, steady_const _, fun fuel h => by simp only [ask, h]; rfl⟩

theorem take_steady (s : Session) (request : Request) (answer : Except TransportFault Response) :
    Steady fun fuel => s.take fuel request answer := by
  cases answer with
  | error fault => exact steady_const _
  | ok response =>
    refine (Engine.resume_steady s.setup s.run request response).next
      (fun fuel stop h => by simp only [take, h]) fun result => ?_
    exact ⟨_, steady_const _, fun fuel h => by simp only [take, h]; rfl⟩

theorem turn_steady (p : Plan) (s : Session) : Steady fun fuel => s.turn p fuel := by
  refine (ask_steady s).next (fun fuel stop h => by simp only [turn, h]) fun asked => ?_
  obtain ⟨s', ending | request⟩ := asked
  · exact ⟨_, steady_const _, fun fuel h => by simp only [turn, h]; rfl⟩
  · exact ⟨_, take_steady s' request (p.transport s'.sent request), fun fuel h => by simp only [turn, h]⟩

/-- Either no request is left to send, or one is sent and what came of it is taken. -/
theorem turn_cases {fuel : Nat} {s' : Session} {next : Option Ending}
    (h : s.turn p fuel = .ok (s', next)) :
    (∃ ending, next = some ending ∧ s.ask fuel = .ok (s', .error ending)) ∨
      ∃ s₁ request, s.ask fuel = .ok (s₁, .ok request) ∧
        s₁.take fuel request (p.transport s₁.sent request) = .ok (s', next) := by
  unfold turn at h
  split at h
  · exact absurd h (by simp)
  · next s₁ ending hask =>
    obtain ⟨rfl, rfl⟩ := Prod.mk.inj (Except.ok.inj h)
    exact .inl ⟨ending, rfl, hask⟩
  · next s₁ request hask => exact .inr ⟨s₁, request, hask, h⟩

/-- More fuel for the exchanges, or more exchanges. -/
theorem finish_more {fuel more exchanges exchanges' : Nat} {result : Session × Ending}
    (hfuel : fuel ≤ more) (hexchanges : exchanges ≤ exchanges')
    (h : s.finish p fuel exchanges = .ok result) : s.finish p more exchanges' = .ok result := by
  induction exchanges generalizing s exchanges' with
  | zero => exact absurd h (by simp [finish])
  | succ exchanges ih =>
    obtain ⟨exchanges', rfl⟩ :=
      Nat.exists_eq_add_of_le' (Nat.le_trans (Nat.le_add_left 1 exchanges) hexchanges)
    simp only [finish] at h ⊢
    cases hturn : s.turn p fuel with
    | error stop =>
      rw [hturn] at h
      exact absurd h (by simp)
    | ok turned =>
      rw [hturn] at h
      have hmore : s.turn p more = .ok turned := turn_steady p s hfuel hturn
      rw [hmore]
      obtain ⟨s', none | ending⟩ := turned
      · exact ih (Nat.le_of_succ_le_succ hexchanges) h
      · exact h

end Session

theorem within_of_finish {p : Plan} {s : Scenario} {session : Session} {result : Session × Ending}
    {fuel : Nat} (hstart : Session.start p s = .ok session)
    (hfinish : session.finish p fuel fuel = .ok result) :
    Outcome.within p fuel s = .ok (.ofSession result.1 result.2) := by
  rw [Outcome.within, hstart]
  simp only [hfinish]
  rfl

theorem within_steady (p : Plan) (s : Scenario) : Steady fun fuel => Outcome.within p fuel s := by
  intro fuel more o hle h
  simp only [Outcome.within] at h ⊢
  split
  · next e hstart =>
    rw [hstart] at h
    exact h
  · next session hstart =>
    rw [hstart] at h
    obtain ⟨result, hfinish, rfl⟩ := map_eq_ok h
    rw [Session.finish_more hle hle hfinish]
    rfl

theorem Scenario.comesTo_iff {p : Plan} {s : Scenario} {o : Outcome} :
    s.ComesTo p o ↔ ∃ fuel, Outcome.within p fuel s = .ok o := by
  constructor
  · rintro ⟨enough, h⟩
    exact ⟨enough, h enough (Nat.le_refl _)⟩
  · rintro ⟨fuel, h⟩
    exact ⟨fuel, fun more hle => within_steady p s hle h⟩

/-! ## Coming to an outcome -/

/-- What a transport answers to the last of the requests that a run handed out; where it has no answer the
session is over, and the response does not matter. -/
def Plan.respond (p : Plan) (asked : List (Nat × Request)) : Response :=
  match asked.getLast?.map fun a => p.transport (asked.map Prod.snd) a.2 with
  | some (.ok response) => response
  | _ => .new 0

theorem Plan.respond_concat {p : Plan} {asked : List (Nat × Request)} {place : Nat}
    {request : Request} {response : Response}
    (h : p.transport (asked.map Prod.snd ++ [request]) request = .ok response) :
    p.respond (asked ++ [(place, request)]) = response := by
  simp [respond, h]

/-- A session comes to an end if driving its run does, with the answers of the transport. -/
theorem Session.finish_of_drive {p : Plan} {s : Session} {asked : List (Nat × Request)}
    {fuel exchanges : Nat} {account : Engine.Account Request}
    (hsent : s.sent = asked.map Prod.snd)
    (h : drive s.setup p.respond fuel exchanges asked s.run = .ok account) :
    ∃ result, s.finish p fuel exchanges = .ok result := by
  induction exchanges generalizing s asked with
  | zero => exact absurd h (by simp [drive])
  | succ exchanges ih =>
    simp only [drive] at h
    simp only [finish, turn, ask]
    split at h
    · exact absurd h (by simp)
    · next e r hpeek => exact ⟨_, by rw [hpeek]⟩
    · next r hpeek => exact ⟨_, by rw [hpeek]⟩
    · next place uuid request r hpeek =>
      rw [hpeek]
      simp only
      cases hanswer : p.transport (s.sent ++ [request]) request with
      | error fault => exact ⟨_, rfl⟩
      | ok response =>
        rw [hsent] at hanswer
        rw [Plan.respond_concat hanswer] at h
        simp only [take]
        split at h
        · exact absurd h (by simp)
        · next e r' hresume => exact ⟨_, by rw [hresume]⟩
        · next r' hresume =>
          rw [hresume]
          exact ih (s := ⟨s.name, s.setup, r', s.sent ++ [request]⟩) (by simp [hsent]) h

/-- A session starts with the values of its scenario and of the plan, and nothing is sent yet. -/
theorem Session.start_eq_ok {p : Plan} {s : Scenario} {session : Session}
    (h : Session.start p s = .ok session) : ∃ m : RequestMaker, session =
      ⟨s.name, ⟨s.graph, p.evaluator, m.converter, Engine.defaultIterationLimit⟩,
        .start (s.values.extend p.values), []⟩ := by
  unfold Session.start at h
  split at h
  · exact absurd h (by simp)
  · next m _ => exact ⟨m, (Except.ok.inj h).symm⟩

/-- A scenario comes to an outcome over a graph that was built and whose links do not run in a circle. -/
theorem Scenario.comesTo_of_acyclic (p : Plan) {s : Scenario} {steps : Array Step} {root : Option Nat}
    (built : Graph.build steps root = .ok s.graph) (acyclic : s.graph.Acyclic) :
    ∃ o, s.ComesTo p o := by
  have sound : s.graph.Sound := ((Graph.build_eq_ok_iff steps root s.graph).1 built).2
  cases hstart : Session.start p s with
  | error e => exact ⟨_, 0, fun fuel _ => by rw [Outcome.within, hstart]⟩
  | ok session =>
    obtain ⟨m, rfl⟩ := Session.start_eq_ok hstart
    let S : Engine.Setup Request Response :=
      ⟨s.graph, p.evaluator, m.converter, Engine.defaultIterationLimit⟩
    let values := s.values.extend p.values
    have hbegin : Engine.Underway S (Engine.begin S (.start values)) :=
      Engine.underway_begin sound (Engine.balanced_start S values) rfl
    obtain ⟨d, account, hgoes, hover⟩ := Engine.goes_over sound acyclic p.respond hbegin []
    obtain ⟨enough, hdrive⟩ := Engine.drive_of_goes hgoes hover
    have hfinish := Session.finish_of_drive (p := p) (s := ⟨s.name, S, .start values, []⟩) rfl
      (hdrive enough enough (Nat.le_refl _) (Nat.le_refl _))
    obtain ⟨result, hfinish⟩ := hfinish
    exact ⟨_, comesTo_iff.2 ⟨enough, within_of_finish hstart hfinish⟩⟩

/-! ## An outing -/

/-- Two pages, both of which are to be found. The second is to be empty, and to have headers. -/
def outingSteps : Array Step := #[
  ⟨"first", none, .visit "'http://a.test/1'" none none ⟨.empty, .empty, ["response.status == 200"]⟩,
    some 1⟩,
  ⟨"second", none, .visit "'http://a.test/2'" none none
    ⟨.empty, .empty, ["response.status == 200", "response.body == ''", "response.headers"]⟩, none⟩]

def outing : Scenario := ⟨"outing", none, ⟨outingSteps, some 0⟩, .empty⟩

/-- Only the first page is found. -/
def outingPlan : Plan where
  endpoint := none
  values := .empty
  evaluator := Template.evaluator true .empty
  stripped := []
  transport _ r := .ok (.new (if r.url = "http://a.test/1" then 200 else 404))

end Walkthrough
