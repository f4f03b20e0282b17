import Mathlib.Data.List.Forall2
import Walkthrough.Proofs.Pool.Moves

/-!
# Schedules of a pool

The moves of a pool in any order that permits allow (`Pool.Schedule`). No more permits are in use than there
are (`Schedule.inUse_le`). Where the answers of the transport depend on the request alone, a move of one task
changes nothing about what the others come to (`Remain.moved`): all schedules have the same number of moves
to their end, and there every scenario has the outcome that it comes to on its own (`schedules_agree`).
-/

namespace Walkthrough

open Relation (ReflTransGen)

/-- Tasks finish with outcomes, after a number of moves altogether. -/
inductive Remain (p : Plan) : Nat → List Task → List Outcome → Prop
  | nil : Remain p 0 [] []
  | cons {n m t ts o os} : t.Leads p n o → Remain p m ts os → Remain p (n + m) (t :: ts) (o :: os)

section

variable {p : Plan} {n place : Nat} {t t' : Task} {ts : List Task} {os : List Outcome}

/-- A move of one task leaves to the others what they come to. -/
theorem Remain.moved (hmemoryless : p.Memoryless) (h : Remain p n ts os)
    (hplace : ts[place]? = some t) (hmoves : t.Moves p t') :
    ∃ m, n = m + 1 ∧ Remain p m (ts.set place t') os := by
  induction h generalizing place with
  | nil => exact absurd hplace (by simp)
  | @cons n m u us o os hleads hrest ih =>
    cases place with
    | zero =>
      obtain rfl : u = t := by simpa using hplace
      obtain ⟨k, rfl, hleads'⟩ := hleads.moved hmemoryless hmoves
      exact ⟨k + m, by omega, .cons hleads' hrest⟩
    | succ place =>
      obtain ⟨k, rfl, hrest'⟩ := ih (List.getElem?_cons_succ.symm.trans hplace)
      exact ⟨n + k, by omega, .cons hleads hrest'⟩

/-- A task that has not finished has a move. -/
theorem Remain.moves (h : Remain p n ts os) (hplace : ts[place]? = some t)
    (hopen : t.outcome? = none) : ∃ t', t.Moves p t' := by
  induction h generalizing place with
  | nil => exact absurd hplace (by simp)
  | cons hleads _ ih =>
    cases place with
    | zero =>
      obtain rfl := Option.some.inj (List.getElem?_cons_zero.symm.trans hplace)
      cases hleads with
      | finished => exact absurd hopen (by simp [Task.outcome?])
      | move hmoves => exact ⟨_, hmoves⟩
    | succ place => exact ih (List.getElem?_cons_succ.symm.trans hplace)

/-- If moves are left, a task has not finished. -/
theorem Remain.exists_open (h : Remain p n ts os) (hn : n ≠ 0) :
    ∃ t ∈ ts, t.outcome? = none := by
  induction h with
  | nil => exact absurd rfl hn
  | cons hleads _ ih =>
    cases hleads with
    | finished =>
      obtain ⟨t, ht, hopen⟩ := ih (by omega)
      exact ⟨t, List.mem_cons_of_mem _ ht, hopen⟩
    | move hmoves =>
      refine ⟨_, List.mem_cons_self, ?_⟩
      cases hmoves <;> rfl

theorem outcomes_eq_some : ts.mapM Task.outcome? = some os ↔ ts = os.map .finished := by
  induction ts generalizing os with
  | nil => cases os <;> simp
  | cons t ts ih =>
    cases t <;> cases os <;> simp [Task.outcome?, Option.bind_eq_some_iff, ih, and_comm]

/-- If no moves are left, the tasks have finished. -/
theorem Remain.finished (h : Remain p 0 ts os) : ts = os.map .finished := by
  generalize hn : 0 = n at h
  induction h with
  | nil => rfl
  | cons hleads _ ih =>
    obtain ⟨rfl, rfl⟩ := Nat.add_eq_zero_iff.1 hn.symm
    cases hleads
    rw [ih rfl]
    rfl

/-- If the tasks have finished, no moves are left. -/
theorem Remain.of_finished {os' : List Outcome} (h : Remain p n (os'.map .finished) os) :
    n = 0 ∧ os' = os := by
  induction os' generalizing n os with
  | nil =>
    cases h
    exact ⟨rfl, rfl⟩
  | cons o' os' ih =>
    cases h with
    | cons hleads hrest =>
      obtain ⟨rfl, rfl⟩ := hleads.of_finished
      obtain ⟨rfl, rfl⟩ := ih hrest
      exact ⟨rfl, rfl⟩

theorem remain_of_comesTo (hmemoryless : p.Memoryless) {scenarios : List Scenario}
    (h : List.Forall₂ (Scenario.ComesTo p) scenarios os) :
    ∃ n, Remain p n (scenarios.map .waiting) os := by
  induction h with
  | nil => exact ⟨0, .nil⟩
  | cons hcomes _ ih =>
    obtain ⟨n, hleads⟩ := (Task.leads_iff_comesTo hmemoryless).2 hcomes
    obtain ⟨m, hrest⟩ := ih
    exact ⟨n + m, .cons hleads hrest⟩

end

namespace Pool

/-- A move of a pool, by any of its tasks that can move. -/
def Moves (p : Plan) (q q' : Pool) : Prop := ∃ fuel place, q.move? p fuel place = .ok (some q')

/-- Moves of a pool, one after the other. -/
inductive Schedule (p : Plan) : Nat → Pool → Pool → Prop
  | start {q} : Schedule p 0 q q
  | move {n q q' q''} : Schedule p n q q' → q'.Moves p q'' → Schedule p (n + 1) q q''

variable {p : Plan} {q q' : Pool} {os : List Outcome}

/-- What a move of a pool is: one task moves, which has a permit or gets one that is not in use. -/
theorem move?_eq_some {fuel place : Nat} (h : q.move? p fuel place = .ok (some q')) :
    ∃ t t', q.tasks[place]? = some t ∧ t.Moves p t' ∧
      (t.holdsPermit = true ∨ q.inUse < q.permits) ∧
      q'.permits = q.permits ∧ q'.tasks = q.tasks.set place t' := by
  unfold move? at h
  split at h
  · exact absurd h (by simp)
  · next t hplace =>
    split at h
    · exact absurd h (by simp)
    · exact absurd h (by simp)
    · next t' request hmove =>
      obtain rfl := Option.some.inj (Except.ok.inj h)
      obtain ⟨hmoves, hpermit⟩ := Task.moves_of_move? hmove
      exact ⟨t, t', hplace, hmoves, by simpa using hpermit, rfl, rfl⟩

/-- A task that has a permit, or for which there is one, moves with fuel enough. -/
theorem move?_of_moves (hmemoryless : p.Memoryless) {place : Nat} {t t' : Task}
    (hplace : q.tasks[place]? = some t) (hmoves : t.Moves p t')
    (hpermit : t.holdsPermit = true ∨ q.inUse < q.permits) :
    ∃ q' enough, q'.permits = q.permits ∧ q'.tasks = q.tasks.set place t' ∧
      ∀ fuel, enough ≤ fuel → q.move? p fuel place = .ok (some q') := by
  obtain ⟨enough, request, hmove⟩ := hmoves.move? hmemoryless
  refine ⟨⟨q.permits, q.tasks.set place t', q.sent ++ request.toList⟩, enough, rfl, rfl, ?_⟩
  intro fuel hfuel
  simp only [move?, hplace, hmove fuel (decide (q.inUse < q.permits)) q.sent hfuel (by simpa using hpermit)]

/-! ## Permits -/

/-- A move takes a permit only if there is one left. -/
theorem Moves.inUse_le (h : q.Moves p q') (hle : q.inUse ≤ q.permits) :
    q'.inUse ≤ q'.permits := by
  obtain ⟨fuel, place, hmove⟩ := h
  obtain ⟨t, t', hplace, -, hpermit, hpermits, htasks⟩ := move?_eq_some hmove
  obtain ⟨hlt, rfl⟩ := List.getElem?_eq_some_iff.1 hplace
  have hcount := List.countP_set (p := Task.holdsPermit) (a := t') hlt
  rw [hpermits, inUse, htasks, hcount]
  unfold inUse at hle hpermit
  by_cases hholds : q.tasks[place].holdsPermit = true
  · -- the permit that the task had is among those that were in use
    have hheld : 0 < q.tasks.countP Task.holdsPermit :=
      List.countP_pos_iff.2 ⟨_, List.getElem_mem hlt, hholds⟩
    rw [if_pos hholds]
    split <;> omega
  · have hfree : q.tasks.countP Task.holdsPermit < q.permits := hpermit.resolve_left hholds
    rw [if_neg hholds]
    split <;> omega

/-- However a pool is scheduled, there are never more permits in use than there are. -/
theorem Schedule.inUse_le {n : Nat} (h : Schedule p n q q') (hle : q.inUse ≤ q.permits) :
    q'.inUse ≤ q'.permits ∧ q'.permits = q.permits := by
  induction h with
  | start => exact ⟨hle, rfl⟩
  | move _ hmoves ih =>
    obtain ⟨hbefore, hpermits⟩ := ih hle
    obtain ⟨fuel, place, hmove⟩ := hmoves
    obtain ⟨_, _, _, _, _, hkept, _⟩ := move?_eq_some hmove
    exact ⟨Moves.inUse_le ⟨fuel, place, hmove⟩ hbefore, hkept.trans hpermits⟩

theorem inUse_start (limit : Nat) (scenarios : List Scenario) : (start limit scenarios).inUse = 0 := by
  simp [inUse, start, List.countP_map, Task.holdsPermit, Function.comp_def]

/-! ## What tasks come to -/

/-- Every task has come from its scenario. -/
def Stems (p : Plan) (scenarios : List Scenario) (q : Pool) : Prop :=
  List.Forall₂ (fun s t => ReflTransGen (Task.Moves p) (.waiting s) t) scenarios q.tasks

theorem stems_start (limit : Nat) (scenarios : List Scenario) :
    Stems p scenarios (start limit scenarios) :=
  List.forall₂_map_right_iff.2 (List.forall₂_same.2 fun _ _ => .refl)

theorem forall₂_set {α β : Type} {R : α → β → Prop} {xs : List α} {ys : List β}
    (h : List.Forall₂ R xs ys) {place : Nat} {y y' : β} (hplace : ys[place]? = some y)
    (hy : ∀ x, R x y → R x y') : List.Forall₂ R xs (ys.set place y') := by
  induction h generalizing place with
  | nil => exact absurd hplace (by simp)
  | @cons x z xs ys hz hrest ih =>
    cases place with
    | zero =>
      obtain rfl : z = y := by simpa using hplace
      exact .cons (hy x hz) hrest
    | succ place => exact .cons hz (ih (by simpa using hplace))

theorem Stems.scheduled {scenarios : List Scenario} {n : Nat} (h : Stems p scenarios q)
    (hschedule : Schedule p n q q') : Stems p scenarios q' := by
  induction hschedule with
  | start => exact h
  | move _ hmoves ih =>
    obtain ⟨fuel, place, hmove⟩ := hmoves
    obtain ⟨t, t', hplace, hmoves, -, -, htasks⟩ := move?_eq_some hmove
    unfold Stems
    rw [htasks]
    exact forall₂_set (ih h) hplace fun _ hpath => hpath.tail hmoves

/-- The outcomes of tasks that have finished are those of their scenarios. -/
theorem Stems.comesTo (hmemoryless : p.Memoryless) {scenarios : List Scenario}
    (h : Stems p scenarios q) (houtcomes : q.outcomes? = some os) :
    List.Forall₂ (Scenario.ComesTo p) scenarios os := by
  unfold Stems at h
  rw [outcomes_eq_some.1 houtcomes] at h
  exact (List.forall₂_map_right_iff.1 h).imp fun s o hpath =>
    (Task.leads_iff_comesTo hmemoryless).1 (Task.leads_of_path hpath)

/-! ## The moves that are left -/

/-- Of the moves that are left, any schedule makes as many as it has. -/
theorem Schedule.remain (hmemoryless : p.Memoryless) {n k : Nat} (h : Schedule p k q q')
    (hremain : Remain p n q.tasks os) : ∃ m, n = k + m ∧ Remain p m q'.tasks os := by
  induction h with
  | start => exact ⟨n, (Nat.zero_add n).symm, hremain⟩
  | @move k _ _ _ _ hmoves ih =>
    obtain ⟨m, hm, hbefore⟩ := ih hremain
    obtain ⟨fuel, place, hmove⟩ := hmoves
    obtain ⟨t, t', hplace, hmoves, -, -, htasks⟩ := move?_eq_some hmove
    obtain ⟨m', rfl, hafter⟩ := hbefore.moved hmemoryless hplace hmoves
    exact ⟨m', by omega, htasks ▸ hafter⟩

/-- As long as moves are left there is one to make: by a task that has a permit or, if no task has one, by
any that has not finished. -/
theorem moves_of_remain (hmemoryless : p.Memoryless) {n : Nat} (hpermits : 0 < q.permits)
    (h : Remain p (n + 1) q.tasks os) : ∃ q', q.Moves p q' := by
  have move : ∀ {place : Nat} {t : Task}, q.tasks[place]? = some t → t.outcome? = none →
      (t.holdsPermit = true ∨ q.inUse < q.permits) → ∃ q', q.Moves p q' := by
    intro place t hplace hopen hpermit
    obtain ⟨t', hmoves⟩ := h.moves hplace hopen
    obtain ⟨q', enough, -, -, hmove⟩ := move?_of_moves hmemoryless hplace hmoves hpermit
    exact ⟨q', enough, place, hmove enough (Nat.le_refl _)⟩
  by_cases hheld : ∃ t ∈ q.tasks, t.holdsPermit = true
  · obtain ⟨t, ht, hholds⟩ := hheld
    obtain ⟨place, hplace⟩ := List.mem_iff_getElem?.1 ht
    have hopen : t.outcome? = none := by
      cases t <;> simp_all [Task.holdsPermit, Task.outcome?]
    exact move hplace hopen (.inl hholds)
  · have hnone : q.inUse = 0 := List.countP_eq_zero.2 fun t ht hholds => hheld ⟨t, ht, hholds⟩
    obtain ⟨t, ht, hopen⟩ := h.exists_open (by omega)
    obtain ⟨place, hplace⟩ := List.mem_iff_getElem?.1 ht
    exact move hplace hopen (.inr (by omega))

/-! ## In turn -/

/-- Behind the first task that has not finished all still wait. -/
def InTurn (q : Pool) : Prop :=
  ∀ place t, q.first < place → q.tasks[place]? = some t → ∃ s, t = .waiting s

theorem inTurn_start (limit : Nat) (scenarios : List Scenario) : (start limit scenarios).InTurn := by
  intro place t _ hplace
  obtain ⟨s, _, rfl⟩ := List.mem_map.1 (List.mem_of_getElem? hplace)
  exact ⟨s, rfl⟩

theorem outcome?_of_lt_first {place : Nat} {t : Task} (hlt : place < q.first)
    (hplace : q.tasks[place]? = some t) : t.outcome? ≠ none := by
  obtain ⟨hlength, rfl⟩ := List.getElem?_eq_some_iff.1 hplace
  have hfinished : q.tasks[place].outcome?.isNone = false := List.not_of_lt_findIdx hlt
  intro hnone
  simp [hnone] at hfinished

theorem first_open (h : q.first < q.tasks.length) :
    ∃ t, q.tasks[q.first]? = some t ∧ t.outcome? = none := by
  have hfound : q.tasks[q.first].outcome?.isNone = true :=
    List.findIdx_getElem (p := fun t : Task => t.outcome?.isNone) (w := h)
  exact ⟨_, List.getElem?_eq_getElem h, Option.isNone_iff_eq_none.1 hfound⟩

/-- The first task that has not finished has a permit, or all permits are left. -/
theorem InTurn.permit (h : q.InTurn) (hpermits : 0 < q.permits) {t : Task}
    (hfirst : q.tasks[q.first]? = some t) : t.holdsPermit = true ∨ q.inUse < q.permits := by
  by_cases hholds : t.holdsPermit = true
  · exact .inl hholds
  · have hnone : q.inUse = 0 := by
      refine List.countP_eq_zero.2 fun u hu => ?_
      obtain ⟨place, hplace⟩ := List.mem_iff_getElem?.1 hu
      rcases Nat.lt_trichotomy place q.first with hlt | rfl | hlt
      · have hfinished := outcome?_of_lt_first hlt hplace
        cases u <;> simp_all [Task.holdsPermit, Task.outcome?]
      · obtain rfl := Option.some.inj (hfirst.symm.trans hplace)
        exact hholds
      · obtain ⟨s, rfl⟩ := h place u hlt hplace
        simp [Task.holdsPermit]
    exact .inr (by omega)

/-- Moving the first task that has not finished keeps the turns. -/
theorem InTurn.moved (h : q.InTurn) {t' : Task} (htasks : q'.tasks = q.tasks.set q.first t') :
    q'.InTurn := by
  have hle : q.first ≤ q'.first := by
    by_contra hlt
    have hlength : q'.first < q'.tasks.length := by
      have hfirst : q.first ≤ q.tasks.length := List.findIdx_le_length
      rw [htasks, List.length_set]
      omega
    obtain ⟨t, ht, hopen⟩ := first_open hlength
    rw [htasks, List.getElem?_set_ne (by omega)] at ht
    exact outcome?_of_lt_first (by omega) ht hopen
  intro place t hplace ht
  rw [htasks, List.getElem?_set_ne (by omega)] at ht
  exact h place t (by omega) ht

/-- A pool that nobody waits in comes to the outcomes of its tasks. -/
theorem finish_of_remain (hmemoryless : p.Memoryless) {n : Nat} (h : Remain p n q.tasks os)
    (hturn : q.InTurn) (hpermits : 0 < q.permits) :
    ∃ enough, ∀ fuel moves, enough ≤ fuel → n < moves → q.finish p fuel moves = .ok os := by
  induction n generalizing q with
  | zero =>
    have houtcomes : q.outcomes? = some os := outcomes_eq_some.2 h.finished
    refine ⟨0, fun fuel moves _ hmoves => ?_⟩
    obtain ⟨moves, rfl⟩ := Nat.exists_eq_add_of_le' hmoves
    simp only [finish, houtcomes]
  | succ n ih =>
    obtain ⟨u, hu, hopen⟩ := h.exists_open (by omega)
    have hlength : q.first < q.tasks.length := List.findIdx_lt_length.2 ⟨u, hu, by simp [hopen]⟩
    have houtcomes : q.outcomes? = none := by
      cases hsome : q.outcomes? with
      | none => rfl
      | some os' =>
        rw [outcomes_eq_some.1 hsome] at h
        exact absurd h.of_finished.1 (by simp)
    obtain ⟨t, ht, hopen⟩ := first_open hlength
    obtain ⟨t', hmoves⟩ := h.moves ht hopen
    obtain ⟨q', enough, hkept, htasks, hmove⟩ :=
      move?_of_moves hmemoryless ht hmoves (hturn.permit hpermits ht)
    obtain ⟨m, hm, hremain⟩ := h.moved hmemoryless ht hmoves
    obtain rfl : n = m := by omega
    obtain ⟨enough', hfinish⟩ := ih (htasks ▸ hremain) (hturn.moved htasks) (hkept ▸ hpermits)
    refine ⟨max enough enough', fun fuel moves hfuel hlt => ?_⟩
    obtain ⟨moves, rfl⟩ := Nat.exists_eq_add_of_le' (Nat.le_trans (Nat.le_add_left 1 _) hlt)
    simp only [finish, houtcomes, hmove fuel (by omega)]
    exact hfinish fuel moves (by omega) (by omega)

theorem Schedule.head {n : Nat} {q'' : Pool} (hmoves : q.Moves p q') (h : Schedule p n q' q'') :
    Schedule p (n + 1) q q'' := by
  induction h with
  | start => exact .move .start hmoves
  | move _ hlast ih => exact .move (ih hmoves) hlast

/-- What a pool does that nobody waits in is a schedule. -/
theorem schedule_of_finish {fuel moves : Nat} (h : q.finish p fuel moves = .ok os) :
    ∃ n q', Schedule p n q q' ∧ q'.outcomes? = some os := by
  induction moves generalizing q with
  | zero => exact absurd h (by simp [finish])
  | succ moves ih =>
    unfold finish at h
    split at h
    · next houtcomes =>
      obtain rfl := Except.ok.inj h
      exact ⟨0, q, .start, houtcomes⟩
    · split at h
      · exact absurd h (by simp)
      · next moved hmove =>
        obtain ⟨n, q', hschedule, houtcomes⟩ := ih h
        cases moved with
        | none => exact ⟨n, q', hschedule, houtcomes⟩
        | some q₁ => exact ⟨n + 1, q', hschedule.head ⟨fuel, q.first, hmove⟩, houtcomes⟩

/-- If every scenario comes to an outcome, together they come to a list of outcomes. -/
theorem exists_comesTo {scenarios : List Scenario} (h : ∀ s ∈ scenarios, ∃ o, s.ComesTo p o) :
    ∃ os, List.Forall₂ (Scenario.ComesTo p) scenarios os := by
  induction scenarios with
  | nil => exact ⟨[], .nil⟩
  | cons s scenarios ih =>
    obtain ⟨o, ho⟩ := h s List.mem_cons_self
    obtain ⟨os, hos⟩ := ih fun s' hs' => h s' (List.mem_cons_of_mem _ hs')
    exact ⟨o :: os, .cons ho hos⟩

/-- **Schedules.** Let the answers of the transport depend on the request alone. Whatever moves a pool makes
in whatever order, no more permits are in use than its limit, or one if that is none; and when all tasks have
finished, each scenario has, in the order of the scenarios, the outcome that it comes to when it is run on
its own. The same is so for the moves of a pool that nobody waits in. If all scenarios come to outcomes on
their own, the moves to these are as many in every order, and there is always one that is left to make; and
so they do over graphs that were built and whose links do not run in a circle. -/
theorem schedules_agree (p : Plan) (hanswers : p.Memoryless) (limit : Nat)
    (scenarios : List Scenario) :
    (∀ n q, Schedule p n (start limit scenarios) q → q.inUse ≤ max 1 limit ∧
      ∀ os, q.outcomes? = some os → List.Forall₂ (Scenario.ComesTo p) scenarios os) ∧
    (∀ fuel os, runWithin p fuel limit scenarios = .ok os →
      List.Forall₂ (Scenario.ComesTo p) scenarios os) ∧
    (∀ os, List.Forall₂ (Scenario.ComesTo p) scenarios os →
      (∃ n, ∀ k q, Schedule p k (start limit scenarios) q →
        k ≤ n ∧ (k < n → ∃ q', q.Moves p q') ∧ (k = n → q.outcomes? = some os)) ∧
      ∃ enough, ∀ fuel, enough ≤ fuel → runWithin p fuel limit scenarios = .ok os) ∧
    ((∀ s ∈ scenarios, ∃ steps root, Graph.build steps root = .ok s.graph ∧ s.graph.Acyclic) →
      ∃ os, List.Forall₂ (Scenario.ComesTo p) scenarios os) := by
  have hstart : (start limit scenarios).inUse ≤ (start limit scenarios).permits := by
    rw [inUse_start]
    exact Nat.zero_le _
  have hpermits : 0 < (start limit scenarios).permits := Nat.le_max_left 1 limit
  refine ⟨fun n q hschedule => ?_, fun fuel os hrun => ?_, fun os hos => ?_, fun hbuilt => ?_⟩
  · obtain ⟨hle, hkept⟩ := hschedule.inUse_le hstart
    rw [hkept] at hle
    exact ⟨hle, fun os => ((stems_start limit scenarios).scheduled hschedule).comesTo hanswers⟩
  · obtain ⟨n, q, hschedule, houtcomes⟩ := schedule_of_finish hrun
    exact ((stems_start limit scenarios).scheduled hschedule).comesTo hanswers houtcomes
  · obtain ⟨n, hremain⟩ := remain_of_comesTo hanswers hos
    refine ⟨⟨n, fun k q hschedule => ?_⟩, ?_⟩
    · obtain ⟨m, rfl, hleft⟩ := hschedule.remain hanswers hremain
      obtain ⟨-, hkept⟩ := hschedule.inUse_le hstart
      refine ⟨Nat.le_add_right k m, fun hlt => ?_, fun hend => ?_⟩
      · obtain ⟨m, rfl⟩ := Nat.exists_eq_succ_of_ne_zero (show m ≠ 0 by omega)
        exact moves_of_remain hanswers (hkept ▸ hpermits) hleft
      · obtain rfl : m = 0 := by omega
        exact outcomes_eq_some.2 hleft.finished
    · obtain ⟨enough, hfinish⟩ := finish_of_remain hanswers hremain (inTurn_start limit scenarios) hpermits
      exact ⟨max enough (n + 1), fun fuel hfuel => hfinish fuel fuel (by omega) (by omega)⟩
  · refine exists_comesTo fun s hs => ?_
    obtain ⟨steps, root, built, acyclic⟩ := hbuilt s hs
    exact Scenario.comesTo_of_acyclic p built acyclic

/-- A scenario with the first page only. -/
def strollSteps : Array Step := #[
  ⟨"only", none, .visit "'http://a.test/1'" none none ⟨.empty, .empty, ["response.status == 200"]⟩, none⟩]

def stroll : Scenario := ⟨"stroll", none, ⟨strollSteps, some 0⟩, .empty⟩

/-- Without a permit to spare, the outing fails and the stroll after it passes, as they do on their own. -/
theorem outings_agree :
    outingPlan.Memoryless ∧ (∃ os, List.Forall₂ (Scenario.ComesTo outingPlan) [outing, stroll] os) ∧
      ∃ os, runWithin outingPlan 12 0 [outing, stroll] = .ok os ∧
        os.map (·.report.status) = [.failed, .passed] ∧
        List.Forall₂ (Scenario.ComesTo outingPlan) [outing, stroll] os ∧
        (∃ n, ∀ k q, Schedule outingPlan k (start 0 [outing, stroll]) q →
          k ≤ n ∧ (k < n → ∃ q', q.Moves outingPlan q') ∧ (k = n → q.outcomes? = some os)) ∧
        ∃ n q, Schedule outingPlan n (start 0 [outing, stroll]) q ∧ q.inUse ≤ 1 ∧
          q.outcomes? = some os := by
  have hanswers : outingPlan.Memoryless := fun _ _ _ => rfl
  obtain ⟨hscheduled, hrun, hcomes, hreturns⟩ := schedules_agree outingPlan hanswers 0 [outing, stroll]
  have hbuilt : ∀ s ∈ [outing, stroll], ∃ steps root,
      Graph.build steps root = .ok s.graph ∧ s.graph.Acyclic := by
    intro s hs
    rcases List.mem_pair.1 hs with rfl | rfl
    · exact ⟨outingSteps, some 0, rfl, Graph.acyclic_of_ascends rfl⟩
    · exact ⟨strollSteps, some 0, rfl, Graph.acyclic_of_ascends rfl⟩
  have hstatus : (runWithin outingPlan 12 0 [outing, stroll]).map
      (fun os => os.map (·.report.status)) = .ok [.failed, .passed] := by
    decide +kernel
  obtain ⟨os, hos, hstatuses⟩ := map_eq_ok hstatus
  obtain ⟨n, q, hschedule, houtcomes⟩ := schedule_of_finish hos
  exact ⟨hanswers, hreturns hbuilt, os, hos, hstatuses, hrun 12 os hos, (hcomes os (hrun 12 os hos)).1,
    n, q, hschedule, (hscheduled n q hschedule).1, houtcomes⟩

end Pool

end Walkthrough
