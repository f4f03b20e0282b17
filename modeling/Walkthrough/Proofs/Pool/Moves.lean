import Mathlib.Logic.Relation
import Walkthrough.Pool
import Walkthrough.Proofs.Session.Returns

/-!
# Moves of a task

What a task does move by move (`Task.Moves`), as rules. Where the answers of the transport depend on the
request alone, every task has at most one move (`Task.Moves.unique`), so that the number of moves that are
left and the outcome at their end are fixed (`Task.Leads`): the outcome is what the scenario comes to when
it is run on its own (`Task.leads_iff_comesTo`).
-/

namespace Walkthrough

open Engine (Steady)

/-- What the transport answers depends on the request alone. -/
def Plan.Memoryless (p : Plan) : Prop :=
  ∀ sent sent' request, p.transport sent request = p.transport sent' request

namespace Task

/-- A move of a task. -/
inductive Moves (p : Plan) : Task → Task → Prop
  | enter {scenario} : Moves p (.waiting scenario) (.admitted scenario)
  | begin {scenario} : Moves p (.admitted scenario) (begin p scenario)
  | send {fuel s s' request} : s.ask fuel = .ok (s', .ok request) →
      Moves p (.running s) (.sending s' request)
  | finish {fuel s s' ending} : s.ask fuel = .ok (s', .error ending) →
      Moves p (.running s) (.finished (.ofSession s' ending))
  | answer {fuel sent s s' request} :
      s.take fuel request (p.transport sent request) = .ok (s', none) →
      Moves p (.sending s request) (.running s')
  | lose {fuel sent s s' request ending} :
      s.take fuel request (p.transport sent request) = .ok (s', some ending) →
      Moves p (.sending s request) (.finished (.ofSession s' ending))

/-- The task finishes with an outcome after a number of moves. -/
inductive Leads (p : Plan) : Nat → Task → Outcome → Prop
  | finished {o} : Leads p 0 (.finished o) o
  | move {n t t' o} : t.Moves p t' → Leads p n t' o → Leads p (n + 1) t o

variable {p : Plan} {t t' : Task} {s s' : Session} {o : Outcome}

theorem moves_of_move? {fuel : Nat} {free : Bool} {sent : List Request} {request : Option Request}
    (h : t.move? p fuel free sent = .ok (some (t', request))) :
    t.Moves p t' ∧ (t.holdsPermit = true ∨ free = true) := by
  cases t with
  | waiting scenario =>
    cases free with
    | false => exact absurd h (by simp [move?])
    | true =>
      obtain ⟨rfl, _⟩ := Prod.mk.inj (Option.some.inj (Except.ok.inj h))
      exact ⟨.enter, .inr rfl⟩
  | admitted scenario =>
    obtain ⟨rfl, _⟩ := Prod.mk.inj (Option.some.inj (Except.ok.inj h))
    exact ⟨.begin, .inl rfl⟩
  | running s =>
    simp only [move?] at h
    split at h
    · exact absurd h (by simp)
    · next hask =>
      obtain ⟨rfl, _⟩ := Prod.mk.inj (Option.some.inj (Except.ok.inj h))
      exact ⟨.send hask, .inl rfl⟩
    · next hask =>
      obtain ⟨rfl, _⟩ := Prod.mk.inj (Option.some.inj (Except.ok.inj h))
      exact ⟨.finish hask, .inl rfl⟩
  | sending s request =>
    simp only [move?] at h
    split at h
    · exact absurd h (by simp)
    · next htake =>
      obtain ⟨rfl, _⟩ := Prod.mk.inj (Option.some.inj (Except.ok.inj h))
      exact ⟨.answer htake, .inl rfl⟩
    · next htake =>
      obtain ⟨rfl, _⟩ := Prod.mk.inj (Option.some.inj (Except.ok.inj h))
      exact ⟨.lose htake, .inl rfl⟩
  | finished o => exact absurd h (by simp [move?])

/-- A move is made with fuel enough, if there is a permit for it, whatever was sent before. -/
theorem Moves.move? (hmemoryless : p.Memoryless) (h : t.Moves p t') :
    ∃ enough request, ∀ fuel free sent, enough ≤ fuel → (t.holdsPermit = true ∨ free = true) →
      t.move? p fuel free sent = .ok (some (t', request)) := by
  cases h with
  | enter =>
    refine ⟨0, none, fun fuel free sent _ hfree => ?_⟩
    obtain rfl : free = true := by simpa [holdsPermit] using hfree
    rfl
  | begin => exact ⟨0, none, fun _ _ _ _ _ => rfl⟩
  | @send enough s s' request hask =>
    refine ⟨enough, some request, fun fuel free sent hfuel _ => ?_⟩
    simp only [Task.move?, Session.ask_steady s hfuel hask]
  | @finish enough s s' ending hask =>
    refine ⟨enough, none, fun fuel free sent hfuel _ => ?_⟩
    simp only [Task.move?, Session.ask_steady s hfuel hask]
  | @answer enough sent' s s' request htake =>
    refine ⟨enough, none, fun fuel free sent hfuel _ => ?_⟩
    rw [hmemoryless sent' sent] at htake
    simp only [Task.move?, Session.take_steady s request _ hfuel htake]
  | @lose enough sent' s s' request ending htake =>
    refine ⟨enough, none, fun fuel free sent hfuel _ => ?_⟩
    rw [hmemoryless sent' sent] at htake
    simp only [Task.move?, Session.take_steady s request _ hfuel htake]

/-- There is at most one move. -/
theorem Moves.unique (hmemoryless : p.Memoryless) {t₁ t₂ : Task} (h₁ : t.Moves p t₁)
    (h₂ : t.Moves p t₂) : t₁ = t₂ := by
  obtain ⟨enough₁, request₁, hmove₁⟩ := h₁.move? hmemoryless
  obtain ⟨enough₂, request₂, hmove₂⟩ := h₂.move? hmemoryless
  have heq := (hmove₁ (max enough₁ enough₂) true [] (Nat.le_max_left ..) (.inr rfl)).symm.trans
    (hmove₂ (max enough₁ enough₂) true [] (Nat.le_max_right ..) (.inr rfl))
  exact (Prod.mk.inj (Option.some.inj (Except.ok.inj heq))).1

/-- A task that has finished does not move. -/
theorem not_moves_finished : ¬ Moves p (.finished o) t := fun h => nomatch h

/-! ## To the end -/

theorem Leads.of_finished {n : Nat} {o' : Outcome} (h : Leads p n (.finished o') o) :
    n = 0 ∧ o' = o := by
  cases h with
  | finished => exact ⟨rfl, rfl⟩
  | move hmoves => exact absurd hmoves not_moves_finished

theorem leads_of_path (h : Relation.ReflTransGen (Moves p) t (.finished o)) :
    ∃ n, t.Leads p n o := by
  induction h using Relation.ReflTransGen.head_induction_on with
  | refl => exact ⟨0, .finished⟩
  | head hmoves _ ih =>
    obtain ⟨n, hleads⟩ := ih
    exact ⟨n + 1, .move hmoves hleads⟩

/-- A move brings a task nearer to its end, and changes nothing about it. -/
theorem Leads.moved (hmemoryless : p.Memoryless) {n : Nat} (h : t.Leads p n o)
    (hmoves : t.Moves p t') : ∃ m, n = m + 1 ∧ t'.Leads p m o := by
  cases h with
  | finished => exact absurd hmoves not_moves_finished
  | move hmoves' hleads =>
    obtain rfl := hmoves'.unique hmemoryless hmoves
    exact ⟨_, rfl, hleads⟩

/-- The moves of a session that is finished on its own. -/
theorem leads_of_finish {fuel exchanges : Nat} {ending : Ending}
    (h : s.finish p fuel exchanges = .ok (s', ending)) :
    ∃ n, Leads p n (.running s) (.ofSession s' ending) := by
  induction exchanges generalizing s with
  | zero => exact absurd h (by simp [Session.finish])
  | succ exchanges ih =>
    unfold Session.finish at h
    split at h
    · exact absurd h (by simp)
    · next hturn =>
      obtain ⟨rfl, rfl⟩ := Prod.mk.inj (Except.ok.inj h)
      obtain ⟨_, hending, hask⟩ | ⟨s₁, request, hask, htake⟩ := Session.turn_cases hturn
      · obtain rfl := Option.some.inj hending
        exact ⟨1, .move (.finish hask) .finished⟩
      · exact ⟨2, .move (.send hask) (.move (.lose htake) .finished)⟩
    · next hturn =>
      obtain ⟨_, hending, _⟩ | ⟨s₁, request, hask, htake⟩ := Session.turn_cases hturn
      · exact absurd hending (by simp)
      · obtain ⟨n, hleads⟩ := ih h
        exact ⟨n + 2, .move (.send hask) (.move (.answer htake) hleads)⟩

/-- The moves of a session make up exchanges, two moves each. -/
theorem finish_of_leads (hmemoryless : p.Memoryless) {n : Nat} (h : Leads p n (.running s) o) :
    ∃ fuel exchanges result, s.finish p fuel exchanges = .ok result ∧
      o = .ofSession result.1 result.2 := by
  induction n using Nat.strong_induction_on generalizing s with
  | _ n ih =>
    cases h with
    | move hmoves hleads =>
      cases hmoves with
      | @finish fuel _ s₁ ending hask =>
        obtain ⟨rfl, rfl⟩ := hleads.of_finished
        exact ⟨fuel, 1, (s₁, ending), by simp [Session.finish, Session.turn, hask], rfl⟩
      | @send fuel _ s₁ request hask =>
        cases hleads with
        | move hmoves hleads =>
          cases hmoves with
          | @lose fuel' sent _ s₂ _ ending htake =>
            obtain ⟨rfl, rfl⟩ := hleads.of_finished
            rw [hmemoryless sent s₁.sent] at htake
            refine ⟨max fuel fuel', 1, (s₂, ending), ?_, rfl⟩
            simp [Session.finish, Session.turn,
              Session.ask_steady s (Nat.le_max_left fuel fuel') hask,
              Session.take_steady s₁ request _ (Nat.le_max_right fuel fuel') htake]
          | @answer fuel' sent _ s₂ _ htake =>
            rw [hmemoryless sent s₁.sent] at htake
            obtain ⟨rest, exchanges, result, hfinish, ho⟩ := ih _ (by omega) hleads
            let enough := max rest (max fuel fuel')
            have hask' := Session.ask_steady s (show fuel ≤ enough by omega) hask
            have htake' := Session.take_steady s₁ request _ (show fuel' ≤ enough by omega) htake
            have hfinish' := Session.finish_more (show rest ≤ enough by omega)
              (Nat.le_refl exchanges) hfinish
            refine ⟨enough, exchanges + 1, result, ?_, ho⟩
            simp only [Session.finish, Session.turn, hask', htake']
            exact hfinish'

/-- **A task on its own.** The outcome that a task leads to is the one that its scenario comes to. -/
theorem leads_iff_comesTo (hmemoryless : p.Memoryless) {scenario : Scenario} :
    (∃ n, Leads p n (.waiting scenario) o) ↔ scenario.ComesTo p o := by
  constructor
  · rintro ⟨n, hleads⟩
    obtain ⟨_, rfl, hadmitted⟩ := hleads.moved hmemoryless .enter
    obtain ⟨_, rfl, hbegun⟩ := hadmitted.moved hmemoryless .begin
    unfold begin at hbegun
    split at hbegun
    · next session hstart =>
      obtain ⟨fuel, exchanges, result, hfinish, rfl⟩ := finish_of_leads hmemoryless hbegun
      have hfinish' := Session.finish_more (Nat.le_max_left fuel exchanges)
        (Nat.le_max_right fuel exchanges) hfinish
      exact Scenario.comesTo_iff.2 ⟨_, within_of_finish hstart hfinish'⟩
    · next e hstart =>
      obtain ⟨_, rfl⟩ := hbegun.of_finished
      exact Scenario.comesTo_iff.2 ⟨0, by rw [Outcome.within, hstart]⟩
  · intro hcomes
    obtain ⟨fuel, hwithin⟩ := Scenario.comesTo_iff.1 hcomes
    suffices hbegun : ∃ n, (begin p scenario).Leads p n o by
      obtain ⟨n, hleads⟩ := hbegun
      exact ⟨n + 2, .move .enter (.move .begin hleads)⟩
    unfold begin
    unfold Outcome.within at hwithin
    cases hstart : Session.start p scenario with
    | error e =>
      rw [hstart] at hwithin
      obtain rfl := Except.ok.inj hwithin
      exact ⟨0, .finished⟩
    | ok session =>
      rw [hstart] at hwithin
      obtain ⟨⟨s', ending⟩, hfinish, rfl⟩ := map_eq_ok hwithin
      exact leads_of_finish hfinish

end Task

end Walkthrough
