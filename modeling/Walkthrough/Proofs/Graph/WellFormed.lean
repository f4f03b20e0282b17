import Walkthrough.Proofs.Graph.Links

/-!
# Well-formed graphs

Building a graph checks its steps as it goes over them. What it comes to is said here position by position, of
every place that a step can hold (`Step.Refers`), of identifiers and of loops (`Graph.WellFormed`).

* `Graph.sound_iff` — what building checks is that the steps make a graph;
* `Graph.find?_of_step` — a step is found by its identifier;
* `Graph.held` — the places that an iterator over a chain comes to; all have a step, and they are the chain
  (`Graph.getElem?_chain`).
-/

namespace Walkthrough

/-! ## What building checks -/

/-- A step holds a place: as the next of its chain, or as the first step of a chain that it contains. -/
inductive Step.Refers (s : Step) (p : Nat) : Prop
  | next : s.next = some p → s.Refers p
  | block {declarations} : s.action = .block declarations (some p) → s.Refers p
  | each {collection key value} : s.action = .each collection key value (some p) → s.Refers p
  | repeated {condition} : s.action = .repeated condition (some p) → s.Refers p
  | holds {condition otherwise} : s.action = .choice condition (some p) otherwise → s.Refers p
  | otherwise {condition holds} : s.action = .choice condition holds (some p) → s.Refers p

theorem Step.refers_iff (s : Step) (p : Nat) : s.Refers p ↔ s.next = some p ∨ p ∈ s.action.children := by
  constructor
  · intro h
    cases h with
    | next hnext => exact .inl hnext
    | block h | each h | repeated h | holds h | otherwise h => exact .inr (by simp [h, Action.children])
  · rintro (hnext | hchild)
    · exact .next hnext
    · cases haction : s.action with
      | visit | click | reload | follow | empty => simp [haction, Action.children] at hchild
      | block declarations child =>
        obtain rfl : child = some p := by simpa [haction, Action.children] using hchild
        exact .block haction
      | each collection key value child =>
        obtain rfl : child = some p := by simpa [haction, Action.children] using hchild
        exact .each haction
      | repeated condition child =>
        obtain rfl : child = some p := by simpa [haction, Action.children] using hchild
        exact .repeated haction
      | choice condition holds otherwise =>
        have hbranch : holds = some p ∨ otherwise = some p := by
          simpa [haction, Action.children] using hchild
        rcases hbranch with rfl | rfl
        · exact .holds haction
        · exact .otherwise haction

namespace Graph

/-- Steps that make a graph: no place that they or the root hold is outside, no two have one identifier, and
every loop has names for its key and value, and different ones. -/
structure WellFormed (steps : Array Step) (root : Option Nat) : Prop where
  root : ∀ p, root = some p → p < steps.size
  places : ∀ s ∈ steps, ∀ p, s.Refers p → p < steps.size
  uuids : ∀ (i j : Nat) (s t : Step), steps[i]? = some s → steps[j]? = some t → s.uuid = t.uuid → i = j
  loops : ∀ s ∈ steps, ∀ collection key value child, s.action = .each collection key value child →
    key ≠ "" ∧ value ≠ "" ∧ key ≠ value

theorem placed_iff (g : Graph) (head : Option Nat) : g.Placed head ↔ ∀ p, head = some p → p < g.size := by
  cases head with
  | none => simp
  | some p => simp [placed_some_iff]

theorem linksWithin_iff (size : Nat) (s : Step) :
    linksWithin size s = true ↔ ∀ p, s.Refers p → p < size := by
  simp only [Step.refers_iff, linksWithin, within, Bool.and_eq_true, Option.all_eq_true, List.all_eq_true,
    decide_eq_true_eq]
  constructor
  · rintro ⟨hnext, hchildren⟩ p (h | h)
    · exact hnext p h
    · exact hchildren p h
  · intro h
    exact ⟨fun p hp => h p (.inl hp), fun p hp => h p (.inr hp)⟩

theorem loopFault?_eq_none_iff (s : Step) :
    loopFault? s = none ↔ ∀ collection key value child, s.action = .each collection key value child →
      key ≠ "" ∧ value ≠ "" ∧ key ≠ value := by
  unfold loopFault?
  cases haction : s.action with
  | each collection key value child =>
    by_cases hnamed : key = "" ∨ value = ""
    · refine iff_of_false (by simp [hnamed]) fun h => ?_
      obtain ⟨hkey, hvalue, _⟩ := h _ _ _ _ rfl
      exact hnamed.elim hkey hvalue
    · obtain ⟨hkey, hvalue⟩ := not_or.1 hnamed
      simp only [String.isEmpty_iff, Bool.or_eq_true, hnamed, if_false]
      by_cases hsame : key = value
      · rw [if_pos hsame]
        exact iff_of_false (by simp) fun h => (h _ _ _ _ rfl).2.2 hsame
      · rw [if_neg hsame]
        refine iff_of_true rfl ?_
        rintro _ _ _ _ ⟨⟩
        exact ⟨hkey, hvalue, hsame⟩
  | visit | click | reload | follow | empty | block | repeated | choice =>
    exact iff_of_true rfl fun _ _ _ _ h => nomatch h

/-- A loop names its key and its value apart. -/
theorem Sound.loop_names {g : Graph} (sound : g.Sound) {p : Nat} {s : Step} (h : g.step? p = some s)
    {collection key value : String} {child : Option Nat}
    (haction : s.action = .each collection key value child) : key ≠ value := by
  have hloop := (loopFault?_eq_none_iff s).1 (sound.loops s (mem_of_step h))
  exact (hloop collection key value child haction).2.2

/-- No two places have steps with one identifier. -/
theorem nodup_uuids_iff (g : Graph) : (g.steps.toList.map Step.uuid).Nodup ↔
    ∀ i j s t, g.step? i = some s → g.step? j = some t → s.uuid = t.uuid → i = j := by
  have hget : ∀ i, (g.steps.toList.map Step.uuid)[i]? = (g.step? i).map Step.uuid := fun i => by
    simp [step?]
  constructor
  · intro hnodup i j s t hs ht huuid
    have hi : i < (g.steps.toList.map Step.uuid).length := by
      rw [List.length_map, Array.length_toList]
      exact lt_size_of_step hs
    refine (List.getElem?_inj hi hnodup).1 ?_
    rw [hget, hget, hs, ht]
    exact congrArg some huuid
  · intro hinj
    rw [List.nodup_iff_getElem?_ne_getElem?]
    intro i j hij hj hsame
    rw [List.length_map, Array.length_toList] at hj
    obtain ⟨s, hs⟩ := ((placed_some_iff g i).2 (hij.trans hj)).step
    obtain ⟨t, ht⟩ := ((placed_some_iff g j).2 hj).step
    rw [hget, hget, hs, ht] at hsame
    exact hij.ne (hinj i j s t hs ht (Option.some.inj hsame))

/-- What building checks is that the steps make a graph. -/
theorem sound_iff (steps : Array Step) (root : Option Nat) :
    Sound ⟨steps, root⟩ ↔ WellFormed steps root := by
  constructor
  · intro h
    refine ⟨(placed_iff _ root).1 h.root, fun s hs => ?_, (nodup_uuids_iff _).1 h.uuids, fun s hs => ?_⟩
    · exact (linksWithin_iff _ s).1 (h.links s (Array.mem_toList_iff.2 hs))
    · exact (loopFault?_eq_none_iff s).1 (h.loops s (Array.mem_toList_iff.2 hs))
  · intro h
    refine ⟨(placed_iff ⟨steps, root⟩ root).2 h.root, fun s hs => ?_,
      (nodup_uuids_iff ⟨steps, root⟩).2 h.uuids, fun s hs => ?_⟩
    · exact (linksWithin_iff _ s).2 (h.places s (Array.mem_toList_iff.1 hs))
    · exact (loopFault?_eq_none_iff s).2 (h.loops s (Array.mem_toList_iff.1 hs))

/-- The step at a place is the one that its identifier finds. -/
theorem find?_of_step {g : Graph} (sound : g.Sound) {p : Nat} {s : Step} (h : g.step? p = some s) :
    g.find? s.uuid = some p := by
  obtain ⟨hlt, hget⟩ := Array.getElem?_eq_some_iff.1 (show g.steps[p]? = some s from h)
  refine Array.findIdx?_eq_some_iff_getElem.2 ⟨hlt, by simp [hget], fun q hq hsame => ?_⟩
  have hqsize : q < g.steps.size := hq.trans hlt
  have huuid : g.steps[q].uuid = s.uuid := by simpa using hsame
  exact hq.ne ((nodup_uuids_iff g).1 sound.uuids q p _ s (Array.getElem?_eq_getElem hqsize) h huuid)

/-! ## Iterating over a chain -/

/-- The place of the next step of a chain. -/
def after (g : Graph) (p : Nat) : Option Nat := (g.step? p).bind Step.next

/-- The place that an iterator over a chain holds when it is asked for the next step, after some steps. -/
def held (g : Graph) : Nat → Option Nat → Option Nat
  | 0, head => head
  | k + 1, head => g.held k (head.bind g.after)

theorem held_none (g : Graph) (k : Nat) : g.held k none = none := by
  induction k with
  | zero => rfl
  | succ k ih => exact ih

theorem Placed.after {g : Graph} (sound : g.Sound) {head : Option Nat} (h : g.Placed head) :
    g.Placed (head.bind g.after) := by
  cases head with
  | none => exact h
  | some p =>
    obtain ⟨s, hs⟩ := h.step
    show g.Placed ((g.step? p).bind Step.next)
    rw [hs]
    exact sound.next hs

theorem Placed.held {g : Graph} (sound : g.Sound) {head : Option Nat} (h : g.Placed head) (k : Nat) :
    g.Placed (g.held k head) := by
  induction k generalizing head with
  | zero => exact h
  | succ k ih => exact ih (h.after sound)

/-- Every place that the iterator holds gives a step: the chain is not cut off. -/
theorem getElem?_chain {g : Graph} (sound : g.Sound) {head : Option Nat} (h : g.Placed head)
    {limit i : Nat} (hi : i < limit) : (g.chain limit head)[i]? = g.held i head := by
  -- on the limit, which goes down with the rest of the chain
  induction limit generalizing head i with
  | zero => exact absurd hi (Nat.not_lt_zero i)
  | succ limit ih =>
    cases head with
    | none => exact (held_none g i).symm
    | some p =>
      obtain ⟨s, hs⟩ := h.step
      have hafter : (some p).bind g.after = s.next := by
        show (g.step? p).bind Step.next = s.next
        rw [hs]
        rfl
      simp only [chain, hs]
      cases i with
      | zero => rfl
      | succ i =>
        show (g.chain limit s.next)[i]? = g.held i ((some p).bind g.after)
        rw [hafter]
        exact ih (sound.next hs) (Nat.lt_of_succ_lt_succ hi)

end Graph

end Walkthrough
