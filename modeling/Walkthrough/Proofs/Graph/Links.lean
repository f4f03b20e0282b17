import Mathlib.Data.Finset.Card
import Mathlib.Data.Finset.Range
import Mathlib.Logic.Relation
import Walkthrough.Graph

/-!
# Links of a graph

What building a graph checks (`Graph.Sound`), and graphs whose links do not run in a circle
(`Graph.Acyclic`):

* a graph is built exactly if it is sound (`build_eq_ok_iff`);
* in a sound graph every link leads to a step (`Sound.next`, `Sound.child`);
* a graph whose links lead to later places is acyclic (`acyclic_of_ascends`);
* the links of a sound acyclic graph go down in rank, and no rank exceeds the size of the graph
  (`rank_lt_of_links`, `rank_le_size`);
* what a chain reaches is its first step, and what the chains inside that step and the rest of the chain
  reach (`reaches_some_iff`).
-/

namespace Walkthrough

/-- The first step of the chain that an action contains; of two chains, that of the branch that is taken
if the condition holds. -/
def Action.inner : Action → Option Nat
  | .block _ child | .each _ _ _ child | .repeated _ child => child
  | .choice _ holds _ => holds
  | _ => none

/-- The first step of the other branch of a choice. -/
def Action.other : Action → Option Nat
  | .choice _ _ otherwise => otherwise
  | _ => none

theorem Action.mem_children_iff (a : Action) (q : Nat) :
    q ∈ a.children ↔ a.inner = some q ∨ a.other = some q := by
  cases a <;> simp [Action.children, Action.inner, Action.other]

namespace Graph

/-! ## Sound graphs -/

/-- What building a graph checks. -/
structure Sound (g : Graph) : Prop where
  root : within g.size g.root = true
  links : ∀ s ∈ g.steps.toList, linksWithin g.size s = true
  uuids : (g.steps.toList.map Step.uuid).Nodup
  loops : ∀ s ∈ g.steps.toList, loopFault? s = none

theorem stepsFault?_eq_none_iff (size : Nat) (seen : List String) (steps : List Step) :
    stepsFault? size seen steps = none ↔
      (∀ s ∈ steps, linksWithin size s = true) ∧ (∀ s ∈ steps, loopFault? s = none) ∧
        (steps.map Step.uuid).Nodup ∧ ∀ s ∈ steps, s.uuid ∉ seen := by
  induction steps generalizing seen with
  | nil => simp [stepsFault?]
  | cons s rest ih =>
      rw [stepsFault?]
      by_cases hseen : seen.contains s.uuid
      · rw [if_pos hseen]
        refine iff_of_false (by simp) ?_
        rintro ⟨_, _, _, hfresh⟩
        exact hfresh s List.mem_cons_self (by simpa using hseen)
      · rw [if_neg hseen]
        by_cases hlinks : linksWithin size s = true
        · rw [hlinks, Bool.not_true, if_neg (by simp)]
          cases hloop : loopFault? s with
          | some fault =>
              refine iff_of_false (by simp) ?_
              rintro ⟨_, hloops, _⟩
              have := hloops s List.mem_cons_self
              rw [hloop] at this
              exact absurd this (by simp)
          | none =>
              simp only [ih, List.mem_cons, not_or, List.map_cons, List.nodup_cons, List.mem_map,
                not_exists, not_and, forall_eq_or_imp, hlinks, hloop, true_and]
              have hnew : s.uuid ∉ seen := by simpa using hseen
              constructor
              · rintro ⟨hl, hf, hn, hs⟩
                exact ⟨hl, hf, ⟨fun t ht => (hs t ht).1, hn⟩, hnew, fun t ht => (hs t ht).2⟩
              · rintro ⟨hl, hf, ⟨hu, hn⟩, _, hs⟩
                exact ⟨hl, hf, hn, fun t ht => ⟨hu t ht, hs t ht⟩⟩
        · rw [if_pos (by simp [hlinks])]
          refine iff_of_false (by simp) ?_
          rintro ⟨hall, _⟩
          exact hlinks (hall s List.mem_cons_self)

theorem fault?_eq_none_iff (g : Graph) : g.fault? = none ↔ g.Sound := by
  unfold fault?
  by_cases hroot : within g.size g.root = true
  · rw [hroot, Bool.not_true, if_neg (by simp), stepsFault?_eq_none_iff]
    constructor
    · rintro ⟨hlinks, hloops, huuids, _⟩
      exact ⟨hroot, hlinks, huuids, hloops⟩
    · intro h
      exact ⟨h.links, h.loops, h.uuids, by simp⟩
  · rw [if_pos (by simp [hroot])]
    exact iff_of_false (by simp) fun h => hroot h.root

/-- Steps make a graph exactly if they are sound, and then the graph is made of them. -/
theorem build_eq_ok_iff (steps : Array Step) (root : Option Nat) (g : Graph) :
    build steps root = .ok g ↔ g = ⟨steps, root⟩ ∧ g.Sound := by
  rw [← fault?_eq_none_iff]
  cases hfault : fault? ⟨steps, root⟩ with
  | some fault =>
      refine iff_of_false (by simp [build, hfault]) ?_
      rintro ⟨rfl, h⟩
      rw [hfault] at h
      exact absurd h (by simp)
  | none =>
      have hbuild : build steps root = .ok ⟨steps, root⟩ := by simp [build, hfault]
      rw [hbuild]
      constructor
      · intro h
        have hg : (⟨steps, root⟩ : Graph) = g := by simpa using h
        exact ⟨hg.symm, hg ▸ hfault⟩
      · rintro ⟨rfl, _⟩
        rfl

/-- A place, if any, is that of a step. -/
def Placed (g : Graph) (place : Option Nat) : Prop := within g.size place = true

@[simp] theorem placed_none (g : Graph) : g.Placed none := rfl

theorem placed_some_iff (g : Graph) (p : Nat) : g.Placed (some p) ↔ p < g.size := by
  simp [Placed, within]

theorem Placed.step {g : Graph} {p : Nat} (h : g.Placed (some p)) : ∃ s, g.step? p = some s := by
  have hlt : p < g.steps.size := (placed_some_iff g p).1 h
  exact ⟨g.steps[p], Array.getElem?_eq_getElem hlt⟩

theorem lt_size_of_step {g : Graph} {p : Nat} {s : Step} (h : g.step? p = some s) : p < g.size := by
  unfold step? at h
  exact (Array.getElem?_eq_some_iff.1 h).1

theorem mem_of_step {g : Graph} {p : Nat} {s : Step} (h : g.step? p = some s) :
    s ∈ g.steps.toList := by
  unfold step? at h
  exact Array.mem_toList_iff.2 (Array.mem_of_getElem? h)

theorem Sound.next {g : Graph} (sound : g.Sound) {p : Nat} {s : Step} (h : g.step? p = some s) :
    g.Placed s.next := by
  have hlinks := sound.links s (mem_of_step h)
  unfold linksWithin at hlinks
  exact (Bool.and_eq_true_iff.1 hlinks).1

theorem Sound.child {g : Graph} (sound : g.Sound) {p q : Nat} {s : Step} (h : g.step? p = some s)
    (hq : q ∈ s.action.children) : g.Placed (some q) := by
  have hlinks := sound.links s (mem_of_step h)
  unfold linksWithin at hlinks
  have hall := List.all_eq_true.1 (Bool.and_eq_true_iff.1 hlinks).2 q hq
  exact (placed_some_iff g q).2 (by simpa using hall)

theorem Sound.inner {g : Graph} (sound : g.Sound) {p : Nat} {s : Step} (h : g.step? p = some s) :
    g.Placed s.action.inner := by
  cases hq : s.action.inner with
  | none => rfl
  | some q => exact sound.child h ((Action.mem_children_iff _ q).2 (.inl hq))

theorem Sound.other {g : Graph} (sound : g.Sound) {p : Nat} {s : Step} (h : g.step? p = some s) :
    g.Placed s.action.other := by
  cases hq : s.action.other with
  | none => rfl
  | some q => exact sound.child h ((Action.mem_children_iff _ q).2 (.inr hq))

/-! ## Acyclic graphs -/

/-- A step refers to another as the next of its chain or as the first of a chain that it contains. -/
def Links (g : Graph) (p q : Nat) : Prop :=
  ∃ s, g.step? p = some s ∧ (s.next = some q ∨ q ∈ s.action.children)

/-- No step is reached from itself. -/
def Acyclic (g : Graph) : Prop := ∀ p, ¬ Relation.TransGen g.Links p p

/-- A graph whose links all go down in some measure is acyclic. -/
theorem acyclic_of_measure {g : Graph} (measure : Nat → Nat)
    (h : ∀ p q, g.Links p q → measure q < measure p) : g.Acyclic := by
  have hdown : ∀ p q, Relation.TransGen g.Links p q → measure q < measure p := by
    intro p q hpq
    induction hpq with
    | single hlink => exact h _ _ hlink
    | tail _ hlink ih => exact lt_trans (h _ _ hlink) ih
  exact fun p hp => lt_irrefl _ (hdown p p hp)

/-- Every link of a graph leads to a later place. -/
def ascends (g : Graph) : Bool :=
  g.steps.toList.zipIdx.all fun (s, p) => (s.next.toList ++ s.action.children).all fun q => p < q

theorem acyclic_of_ascends {g : Graph} (h : g.ascends = true) : g.Acyclic := by
  refine acyclic_of_measure (fun p => g.size - p) ?_
  rintro p q ⟨s, hs, hlink⟩
  have hp : p < g.size := lt_size_of_step hs
  have hmem : (s, p) ∈ g.steps.toList.zipIdx := by
    rw [List.mk_mem_zipIdx_iff_getElem?, Array.getElem?_toList]
    exact hs
  have hq : q ∈ s.next.toList ++ s.action.children := by
    rcases hlink with hnext | hchild
    · rw [hnext]
      exact List.mem_cons_self
    · exact List.mem_append_right _ hchild
  have hlater : p < q := by
    simpa using List.all_eq_true.1 (List.all_eq_true.1 h _ hmem) q hq
  omega

open Classical in
/-- How many steps are reached from a step. -/
noncomputable def rank (g : Graph) (p : Nat) : Nat :=
  ((Finset.range g.size).filter fun q => Relation.TransGen g.Links p q).card

theorem rank_le_size (g : Graph) (p : Nat) : g.rank p ≤ g.size := by
  classical
  calc g.rank p ≤ (Finset.range g.size).card := Finset.card_filter_le _ _
    _ = g.size := Finset.card_range _

/-- Of two linked steps the second reaches fewer. -/
theorem rank_lt_of_links {g : Graph} (sound : g.Sound) (acyclic : g.Acyclic) {p q : Nat}
    (h : g.Links p q) : g.rank q < g.rank p := by
  classical
  have hplaced : q < g.size := by
    obtain ⟨s, hs, hnext | hchild⟩ := h
    · exact (placed_some_iff g q).1 (hnext ▸ sound.next hs)
    · exact (placed_some_iff g q).1 (sound.child hs hchild)
  refine Finset.card_lt_card (Finset.ssubset_iff_of_subset ?_ |>.2 ⟨q, ?_, ?_⟩)
  · intro x hx
    rw [Finset.mem_filter] at hx ⊢
    exact ⟨hx.1, Relation.TransGen.head h hx.2⟩
  · rw [Finset.mem_filter]
    exact ⟨Finset.mem_range.2 hplaced, .single h⟩
  · rw [Finset.mem_filter]
    exact fun hx => acyclic q hx.2

/-! ## Reaching -/

/-- Links lead from the first step of a chain, if it has one, to a place. -/
def Reaches (g : Graph) (head : Option Nat) (p : Nat) : Prop :=
  ∃ first, head = some first ∧ Relation.ReflTransGen g.Links first p

theorem not_reaches_none {g : Graph} {p : Nat} : ¬ g.Reaches none p := by
  rintro ⟨first, hfirst, _⟩
  exact absurd hfirst (by simp)

theorem Reaches.refl (g : Graph) (p : Nat) : g.Reaches (some p) p := ⟨p, rfl, .refl⟩

theorem Reaches.link {g : Graph} {head : Option Nat} {p q : Nat} (h : g.Reaches head p)
    (hlink : g.Links p q) : g.Reaches head q := by
  obtain ⟨first, hfirst, hpath⟩ := h
  exact ⟨first, hfirst, hpath.tail hlink⟩

/-- Whatever a chain that a reached step refers to reaches, is reached. -/
theorem Reaches.trans {g : Graph} {head head' : Option Nat} {p q : Nat} (h : g.Reaches head p)
    (hlinks : ∀ first, head' = some first → g.Links p first) (h' : g.Reaches head' q) :
    g.Reaches head q := by
  obtain ⟨first, hfirst, hpath⟩ := h
  obtain ⟨first', hfirst', hpath'⟩ := h'
  exact ⟨first, hfirst, (hpath.tail (hlinks first' hfirst')).trans hpath'⟩

section

variable {g : Graph} {p : Nat} {s : Step}

theorem links_next (hs : g.step? p = some s) (q : Nat) (hq : s.next = some q) : g.Links p q :=
  ⟨s, hs, .inl hq⟩

theorem links_inner (hs : g.step? p = some s) (q : Nat) (hq : s.action.inner = some q) :
    g.Links p q :=
  ⟨s, hs, .inr ((Action.mem_children_iff _ q).2 (.inl hq))⟩

theorem links_other (hs : g.step? p = some s) (q : Nat) (hq : s.action.other = some q) :
    g.Links p q :=
  ⟨s, hs, .inr ((Action.mem_children_iff _ q).2 (.inr hq))⟩

theorem reaches_some_iff (hs : g.step? p = some s) (q : Nat) :
    g.Reaches (some p) q ↔ q = p ∨ g.Reaches s.action.inner q ∨ g.Reaches s.action.other q ∨
      g.Reaches s.next q := by
  constructor
  · rintro ⟨first, hfirst, hpath⟩
    obtain rfl : p = first := Option.some.inj hfirst
    rcases Relation.ReflTransGen.cases_head hpath with rfl | ⟨next, ⟨s', hs', hlink⟩, hpath⟩
    · exact .inl rfl
    · obtain rfl : s = s' := Option.some.inj (hs.symm.trans hs')
      rcases hlink with hnext | hchild
      · exact .inr (.inr (.inr ⟨next, hnext, hpath⟩))
      · rcases (Action.mem_children_iff _ next).1 hchild with hinner | hother
        · exact .inr (.inl ⟨next, hinner, hpath⟩)
        · exact .inr (.inr (.inl ⟨next, hother, hpath⟩))
  · have hself := Reaches.refl g p
    rintro (rfl | hinner | hother | hnext)
    · exact hself
    · exact hself.trans (links_inner hs) hinner
    · exact hself.trans (links_other hs) hother
    · exact hself.trans (links_next hs) hnext

end

end Graph

end Walkthrough
