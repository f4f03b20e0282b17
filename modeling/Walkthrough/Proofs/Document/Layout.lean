import Walkthrough.Document.Outline
import Walkthrough.Proofs.Graph.Script

/-!
# Layout of outlines

Steps are added to a draft after all that they contain, and chains are linked when their steps are there.
So each outline has a stretch of places of its own, in which its step comes last; stretches of siblings
follow each other (`Stands`, `StandAll`). Linking a chain does not touch what its steps contain
(`chained_of_standAll`), and adding steps does not touch those before (`Draft.Extends`).

* `addOutline_stands`, `addChain_chained` — where outlines are laid out
* `ofOutlines_lays` — a graph of outlines reads as the outlines, each step once, children before and the
  rest of a chain after their step
-/

namespace Walkthrough

/-! ## Outlines, apart from their kinds -/

namespace Outline

/-- What a step is known by. -/
def label : Outline → Label
  | .visit label _ _ _ _ | .click label _ _ | .reload label _ | .follow label _ | .empty label
  | .block label _ _ | .each label _ _ _ _ | .repeated label _ _ | .choice label _ _ _ => label

/-- What a step does, given the first steps of the chains that it contains. -/
def action (inner other : Option Nat) : Outline → Action
  | .visit _ url method body leaf => .visit url method body leaf
  | .click _ link leaf => .click link leaf
  | .reload _ leaf => .reload leaf
  | .follow _ leaf => .follow leaf
  | .empty _ => .empty
  | .block _ declarations _ => .block declarations inner
  | .each _ collection key value _ => .each collection key value inner
  | .repeated _ condition _ => .repeated condition inner
  | .choice _ condition _ _ => .choice condition inner other

/-- The steps that a step contains; of a choice, those for a condition that holds. -/
def inner : Outline → List Outline
  | .block _ _ steps | .each _ _ _ _ steps | .repeated _ _ steps => steps
  | .choice _ _ holds _ => holds
  | _ => []

/-- The steps of the other branch of a choice. -/
def other : Outline → List Outline
  | .choice _ _ _ otherwise => otherwise
  | _ => []

theorem sizeOf_inner_le (o : Outline) : sizeOf o.inner ≤ sizeOf o := by
  cases o <;> simp [inner] <;> omega

theorem sizeOf_other_le (o : Outline) : sizeOf o.other ≤ sizeOf o := by
  cases o <;> simp [other] <;> omega

end Outline

namespace Draft

variable (fresh : Nat → String) (d : Draft)

/-- Steps of all kinds are added in one way: the chains that they contain, and then the step. -/
theorem addOutline_eq (o : Outline) : d.addOutline fresh o =
    let inside := d.addChain fresh o.inner
    let beside := inside.1.addChain fresh o.other
    beside.1.addLabelled fresh o.label (o.action inside.2 beside.2) := by
  cases o <;> rfl

theorem addChain_eq (os : List Outline) :
    d.addChain fresh os = (d.addAll fresh os).1.chained (d.addAll fresh os).2 := by
  cases os <;> rfl

/-! ## Drafts -/

/-- The steps of a draft as a graph. -/
def graph : Graph := ⟨d.steps, none⟩

/-- How many steps a draft has. -/
def size : Nat := d.steps.size

/-- Two drafts have the same steps at the places from one on and before another. -/
def Agree (d d' : Draft) (first past : Nat) : Prop :=
  ∀ p, first ≤ p → p < past → d'.graph.step? p = d.graph.step? p

/-- Steps were added to a draft, and those before are as they were. -/
structure Extends (d d' : Draft) : Prop where
  size : d.size ≤ d'.size
  agree : Agree d d' 0 d.size

variable {d}

theorem Extends.refl (d : Draft) : Extends d d := ⟨le_rfl, fun _ _ _ => rfl⟩

theorem Extends.trans {d' d'' : Draft} (h : Extends d d') (h' : Extends d' d'') : Extends d d'' where
  size := h.size.trans h'.size
  agree p hfirst hp := (h'.agree p hfirst (hp.trans_le h.size)).trans (h.agree p hfirst hp)

theorem Extends.agree_of_le {d' : Draft} (h : Extends d d') {first past : Nat} (hpast : past ≤ d.size) :
    Agree d d' first past := fun p _ hp => h.agree p (Nat.zero_le p) (hp.trans_le hpast)

theorem extends_add (d : Draft) (s : Step) : Extends d (d.add s).1 where
  size := by
    show d.steps.size ≤ (d.steps.push s).size
    rw [Array.size_push]
    exact Nat.le_succ _
  agree p _ hp := by
    show (d.steps.push s)[p]? = d.steps[p]?
    have hne : p ≠ d.steps.size := Nat.ne_of_lt hp
    rw [Array.getElem?_push, if_neg hne]

theorem step?_add (d : Draft) (s : Step) : (d.add s).1.graph.step? d.size = some s := by
  show (d.steps.push s)[d.steps.size]? = some s
  rw [Array.getElem?_push, if_pos rfl]

/-! ## Linking -/

theorem link_size (d : Draft) (p q : Nat) : (d.link p q).size = d.size := Array.size_modify

theorem step?_link (d : Draft) (p q x : Nat) : (d.link p q).graph.step? x =
    if p = x then (d.graph.step? x).map fun s => { s with next := some q } else d.graph.step? x :=
  Array.getElem?_modify

/-- Make a step, if there is one, the next of another. -/
def linkTo (d : Draft) (p : Nat) : Option Nat → Draft
  | none => d
  | some q => d.link p q

theorem chain_cons (d : Draft) (p : Nat) (places : List Nat) :
    d.chain (p :: places) = (d.linkTo p places.head?).chain places := by
  cases places with
  | nil => rfl
  | cons q places => rfl

theorem linkTo_size (d : Draft) (p : Nat) (q : Option Nat) : (d.linkTo p q).size = d.size := by
  cases q with
  | none => rfl
  | some q => exact link_size d p q

theorem step?_linkTo_of_ne (d : Draft) {p x : Nat} (q : Option Nat) (hne : p ≠ x) :
    (d.linkTo p q).graph.step? x = d.graph.step? x := by
  cases q with
  | none => rfl
  | some q => rw [linkTo, step?_link, if_neg hne]

theorem step?_linkTo (d : Draft) {p : Nat} {s : Step} (hs : d.graph.step? p = some s)
    (hnext : s.next = none) (q : Option Nat) :
    (d.linkTo p q).graph.step? p = some { s with next := q } := by
  cases q with
  | none => rw [linkTo, hs, ← hnext]
  | some q =>
      rw [linkTo, step?_link, if_pos rfl, hs]
      rfl

theorem chain_size (d : Draft) (places : List Nat) : (d.chain places).size = d.size := by
  induction places generalizing d with
  | nil => rfl
  | cons p places ih => rw [chain_cons, ih, linkTo_size]

/-- Linking a chain changes the steps of the chain only. -/
theorem step?_chain (d : Draft) {places : List Nat} {x : Nat} (hx : x ∉ places) :
    (d.chain places).graph.step? x = d.graph.step? x := by
  induction places generalizing d with
  | nil => rfl
  | cons p places ih =>
      have hne : p ≠ x := fun heq => hx (heq ▸ List.mem_cons_self)
      rw [chain_cons, ih _ fun hmem => hx (List.mem_cons_of_mem _ hmem), step?_linkTo_of_ne d _ hne]

end Draft

/-! ## Where outlines stand -/

/-- A script lays outlines out: its steps are known as the outlines are, or by a fresh identifier of their
place, and do what the outlines say; what they contain is laid out likewise. -/
inductive Lays (fresh : Nat → String) : List Outline → Script → Prop
  | stop : Lays fresh [] .stop
  | step {o os p s inner other rest} :
      s.uuid = o.label.uuid.getD (fresh p) → s.name = o.label.name →
      s.action = o.action s.action.inner s.action.other →
      Lays fresh o.inner inner → Lays fresh o.other other → Lays fresh os rest →
      Lays fresh (o :: os) (.step p s inner other rest)

/-- Every step of a script comes after all that it contains, and before the rest of its chain. -/
def Script.Ordered : Script → Prop
  | .stop => True
  | .step p _ inner other rest =>
    (∀ q ∈ inner.places ++ other.places, q < p) ∧ (∀ q ∈ rest.places, p < q) ∧
      inner.Ordered ∧ other.Ordered ∧ rest.Ordered

/-- A chain of a draft reads as outlines, and takes the places from one on and before another. -/
structure Chained (fresh : Nat → String) (d : Draft) (first past : Nat) (os : List Outline)
    (head : Option Nat) (script : Script) : Prop where
  reads : d.graph.Reads head script
  lays : Lays fresh os script
  ordered : script.Ordered
  places : script.places.Perm (List.range' first (past - first))
  le : first ≤ past

/-- An outline takes the places of a draft from one on; its step comes last, and is the next of none. -/
inductive Stands (fresh : Nat → String) (d : Draft) (first : Nat) (o : Outline) (p : Nat) : Prop
  | intro {s : Step} {between : Nat} {inner other : Script} :
      d.graph.step? p = some s → s.next = none → s.uuid = o.label.uuid.getD (fresh p) →
      s.name = o.label.name → s.action = o.action s.action.inner s.action.other →
      Chained fresh d first between o.inner s.action.inner inner →
      Chained fresh d between p o.other s.action.other other → Stands fresh d first o p

/-- Outlines take the places of a draft from one on and before another, one after the other; their steps
are at the places given. -/
def StandAll (fresh : Nat → String) (d : Draft) : Nat → List Outline → List Nat → Nat → Prop
  | first, [], [], past => first = past
  | first, o :: os, p :: places, past =>
    Stands fresh d first o p ∧ StandAll fresh d (p + 1) os places past
  | _, _, _, _ => False

section

variable {fresh : Nat → String} {d d' : Draft} {first past p : Nat} {os : List Outline} {o : Outline}
  {places : List Nat} {head : Option Nat} {script : Script}

theorem Chained.mem_places (h : Chained fresh d first past os head script) (q : Nat) :
    q ∈ script.places ↔ first ≤ q ∧ q < past := by
  have hle := h.le
  rw [h.places.mem_iff, List.mem_range'_1]
  omega

theorem Chained.congr (h : Chained fresh d first past os head script)
    (hagree : Draft.Agree d d' first past) : Chained fresh d' first past os head script :=
  { h with reads := h.reads.congr fun q hq =>
      hagree q ((h.mem_places q).1 hq).1 ((h.mem_places q).1 hq).2 }

theorem Stands.le (h : Stands fresh d first o p) : first ≤ p := by
  cases h with
  | intro _ _ _ _ _ hinner hother => exact hinner.le.trans hother.le

theorem Stands.congr (h : Stands fresh d first o p) (hagree : Draft.Agree d d' first (p + 1)) :
    Stands fresh d' first o p := by
  have hle := h.le
  cases h with
  | @intro s between inner other hs hnext huuid hname haction hinner hother =>
    have hle₁ := hinner.le
    have hle₂ := hother.le
    refine .intro ?_ hnext huuid hname haction (hinner.congr fun q hq hq' => ?_)
      (hother.congr fun q hq hq' => ?_)
    · rw [hagree p hle (Nat.lt_succ_self p), hs]
    · exact hagree q hq (by omega)
    · exact hagree q (by omega) (by omega)

theorem StandAll.le (h : StandAll fresh d first os places past) : first ≤ past := by
  induction os generalizing first places with
  | nil =>
    cases places with
    | nil => exact h.le
    | cons p places => exact absurd h (by simp [StandAll])
  | cons o os ih =>
    cases places with
    | nil => exact absurd h (by simp [StandAll])
    | cons p places =>
      have hfirst := h.1.le
      have hrest := ih h.2
      omega

theorem StandAll.congr (h : StandAll fresh d first os places past)
    (hagree : Draft.Agree d d' first past) : StandAll fresh d' first os places past := by
  induction os generalizing first places with
  | nil =>
    cases places with
    | nil => exact h
    | cons p places => exact absurd h (by simp [StandAll])
  | cons o os ih =>
    cases places with
    | nil => exact absurd h (by simp [StandAll])
    | cons p places =>
      have hle := h.2.le
      have hfirst := h.1.le
      refine ⟨h.1.congr fun q hq hq' => hagree q hq (by omega), ih h.2 fun q hq hq' => ?_⟩
      exact hagree q (by omega) hq'

/-- The steps of outlines are at places of these. -/
theorem StandAll.mem_places (h : StandAll fresh d first os places past) {q : Nat} (hq : q ∈ places) :
    first ≤ q ∧ q < past := by
  induction os generalizing first places with
  | nil =>
    cases places with
    | nil => exact absurd hq (by simp)
    | cons p places => exact absurd h (by simp [StandAll])
  | cons o os ih =>
    cases places with
    | nil => exact absurd hq (by simp)
    | cons p places =>
      have hfirst := h.1.le
      have hle := h.2.le
      rcases List.mem_cons.1 hq with rfl | hq
      · omega
      · have hrest := ih h.2 hq
        omega

/-! ## Chains -/

open scoped List

theorem range'_append_range' {a b c : Nat} (hab : a ≤ b) (hbc : b ≤ c) :
    List.range' a (b - a) ++ List.range' b (c - b) = List.range' a (c - a) := by
  obtain ⟨m, rfl⟩ := Nat.exists_eq_add_of_le hab
  obtain ⟨n, rfl⟩ := Nat.exists_eq_add_of_le hbc
  rw [Nat.add_sub_cancel_left, Nat.add_sub_cancel_left, List.range'_append_1]
  congr 1
  omega

/-- The first step of a chain, before it is linked, and the rest of the chain make a chain. -/
theorem Stands.chained (h : Stands fresh d first o p) {next : Option Nat}
    (hagree : Draft.Agree d d' first p)
    (hlinked : ∀ s, d.graph.step? p = some s → s.next = none →
      d'.graph.step? p = some { s with next })
    (hrest : Chained fresh d' (p + 1) past os next script) :
    ∃ script, Chained fresh d' first past (o :: os) (some p) script := by
  have hfirst := h.le
  have hpast := hrest.le
  cases h with
  | @intro s between inner other hs hnext huuid hname haction hinner hother =>
    have hbefore := hinner.le
    have hafter := hother.le
    have hinner' : Chained fresh d' first between o.inner s.action.inner inner :=
      hinner.congr fun q hq hq' => hagree q hq (by omega)
    have hother' : Chained fresh d' between p o.other s.action.other other :=
      hother.congr fun q hq hq' => hagree q (by omega) hq'
    refine ⟨.step p { s with next } inner other script, ?_, ?_, ?_, ?_, by omega⟩
    · exact .step (hlinked s hs hnext) hinner'.reads hother'.reads hrest.reads
    · exact .step huuid hname haction hinner.lays hother.lays hrest.lays
    · refine ⟨fun q hq => ?_, fun q hq => ?_, hinner.ordered, hother.ordered, hrest.ordered⟩
      · rcases List.mem_append.1 hq with hq | hq
        · have := (hinner.mem_places q).1 hq
          omega
        · exact ((hother.mem_places q).1 hq).2
      · exact ((hrest.mem_places q).1 hq).1
    · have hinside : (inner.places ++ other.places).Perm (List.range' first (p - first)) := by
        rw [← range'_append_range' hbefore hafter]
        exact hinner.places.append hother.places
      have hself : List.range' p (past - p) = p :: List.range' (p + 1) (past - (p + 1)) := by
        rw [show past - p = past - (p + 1) + 1 by omega]
        rfl
      calc p :: (inner.places ++ other.places ++ script.places)
          _ ~ inner.places ++ other.places ++ p :: script.places := List.perm_middle.symm
          _ ~ List.range' first (p - first) ++ List.range' p (past - p) := by
            rw [hself]
            exact hinside.append (hrest.places.cons p)
          _ = List.range' first (past - first) := range'_append_range' hfirst (by omega)

/-- Outlines that stand one after the other become a chain when their steps are linked. -/
theorem chained_of_standAll (h : StandAll fresh d first os places past) :
    ∃ script, Chained fresh (d.chain places) first past os places.head? script := by
  induction os generalizing d first places with
  | nil =>
    cases places with
    | nil =>
      obtain rfl : first = past := h
      exact ⟨.stop, .stop, .stop, trivial, by simp [Script.places], le_rfl⟩
    | cons p places => exact absurd h (by simp [StandAll])
  | cons o os ih =>
    cases places with
    | nil => exact absurd h (by simp [StandAll])
    | cons p places =>
      rw [Draft.chain_cons]
      -- the link does not touch what comes after the step, and linking that does not touch the step
      have hlink : Draft.Agree d (d.linkTo p places.head?) (p + 1) past := fun q hq _ =>
        Draft.step?_linkTo_of_ne d _ (by omega)
      have hlater : ∀ q, q < p + 1 → q ∉ places := fun q hq hmem => by
        have := (h.2.mem_places hmem).1
        omega
      obtain ⟨script, hrest⟩ := ih (h.2.congr hlink)
      refine h.1.chained (fun q hq hq' => ?_) (fun s hs hnext => ?_) hrest
      · rw [Draft.step?_chain _ (hlater q (by omega)), Draft.step?_linkTo_of_ne d _ (by omega)]
      · rw [Draft.step?_chain _ (hlater p (by omega)), Draft.step?_linkTo d hs hnext]

/-! ## Adding outlines -/

/-- Without steps there is no first one. -/
theorem Chained.head_eq_none (h : Chained fresh d first past [] head script) : head = none := by
  have hlays := h.lays
  have hreads := h.reads
  cases hlays with
  | stop =>
    cases hreads with
    | stop => rfl

theorem inner_action {o : Outline} {a b : Option Nat} (h : o.inner = [] → a = none) :
    (o.action a b).inner = a := by
  cases o with
  | block | each | repeated | choice => rfl
  | visit | click | reload | follow | empty => exact (h rfl).symm

theorem other_action {o : Outline} {a b : Option Nat} (h : o.other = [] → b = none) :
    (o.action a b).other = b := by
  cases o with
  | choice => rfl
  | visit | click | reload | follow | empty | block | each | repeated => exact (h rfl).symm

/-- A step that is added after the chains that it contains stands with them. -/
theorem stands_addLabelled {between : Nat} {a b : Option Nat} {inner other : Script}
    (hinner : Chained fresh d first between o.inner a inner)
    (hother : Chained fresh d between d.size o.other b other) :
    Stands fresh (d.addLabelled fresh o.label (o.action a b)).1 first o d.size := by
  have hadd := Draft.extends_add d ⟨o.label.uuid.getD (fresh d.size), o.label.name, o.action a b, none⟩
  have hfirst : (o.action a b).inner = a := inner_action fun hnil => (hnil ▸ hinner).head_eq_none
  have hsecond : (o.action a b).other = b := other_action fun hnil => (hnil ▸ hother).head_eq_none
  have hinner' : Chained fresh (d.addLabelled fresh o.label (o.action a b)).1 first between o.inner
      (o.action a b).inner inner := by
    rw [hfirst]
    exact hinner.congr (hadd.agree_of_le hother.le)
  have hother' : Chained fresh (d.addLabelled fresh o.label (o.action a b)).1 between d.size o.other
      (o.action a b).other other := by
    rw [hsecond]
    exact hother.congr (hadd.agree_of_le le_rfl)
  refine .intro (Draft.step?_add _ _) rfl rfl rfl ?_ hinner' hother'
  show o.action a b = o.action (o.action a b).inner (o.action a b).other
  rw [hfirst, hsecond]

mutual

/-- An outline is added at the end of a draft, its step last. -/
theorem addOutline_stands (fresh : Nat → String) (d : Draft) (o : Outline) :
    Draft.Extends d (d.addOutline fresh o).1 ∧
      (d.addOutline fresh o).1.size = (d.addOutline fresh o).2 + 1 ∧
      Stands fresh (d.addOutline fresh o).1 d.size o (d.addOutline fresh o).2 := by
  obtain ⟨hextends, script, hinner⟩ := addChain_chained fresh d o.inner
  obtain ⟨hextends', script', hother⟩ :=
    addChain_chained fresh (d.addChain fresh o.inner).1 o.other
  rw [Draft.addOutline_eq]
  refine ⟨(hextends.trans hextends').trans (Draft.extends_add _ _), Array.size_push _, ?_⟩
  exact stands_addLabelled (hinner.congr (hextends'.agree_of_le le_rfl)) hother
termination_by (sizeOf o, 2)
decreasing_by
  · have := o.sizeOf_inner_le
    simp [Prod.lex_def]; omega
  · have := o.sizeOf_other_le
    simp [Prod.lex_def]; omega

/-- Outlines are added one after the other. -/
theorem addAll_standAll (fresh : Nat → String) (d : Draft) (os : List Outline) :
    Draft.Extends d (d.addAll fresh os).1 ∧
      StandAll fresh (d.addAll fresh os).1 d.size os (d.addAll fresh os).2 (d.addAll fresh os).1.size := by
  cases os with
  | nil => exact ⟨.refl d, rfl⟩
  | cons o os =>
    obtain ⟨hextends, hsize, hstands⟩ := addOutline_stands fresh d o
    obtain ⟨hextends', hrest⟩ := addAll_standAll fresh (d.addOutline fresh o).1 os
    rw [hsize] at hrest
    refine ⟨hextends.trans hextends', hstands.congr (hextends'.agree_of_le hsize.ge), hrest⟩
termination_by (sizeOf os, 0)

/-- A chain is added at the end of a draft. -/
theorem addChain_chained (fresh : Nat → String) (d : Draft) (os : List Outline) :
    Draft.Extends d (d.addChain fresh os).1 ∧ ∃ script, Chained fresh (d.addChain fresh os).1 d.size
      (d.addChain fresh os).1.size os (d.addChain fresh os).2 script := by
  obtain ⟨hextends, hall⟩ := addAll_standAll fresh d os
  rw [Draft.addChain_eq]
  unfold Draft.chained
  simp only [Draft.chain_size]
  refine ⟨⟨?_, fun q hq hq' => ?_⟩, chained_of_standAll hall⟩
  · rw [Draft.chain_size]
    exact hextends.size
  · have hnot : q ∉ (d.addAll fresh os).2 := fun hmem => by
      have := (hall.mem_places hmem).1
      omega
    rw [Draft.step?_chain _ hnot, hextends.agree q hq hq']
termination_by (sizeOf os, 1)

end

end

/-! ## Graphs of outlines -/

/-- The links of steps of an ordered script lead back into what they contain, and on to the next of their
chain. -/
theorem links_ordered {g : Graph} {head : Option Nat} {script : Script} (h : g.Reads head script)
    (hordered : script.Ordered) {p : Nat} (hp : p ∈ script.places) {s : Step} (hs : g.step? p = some s) :
    (∀ q ∈ s.action.children, q < p) ∧ ∀ q, s.next = some q → p < q := by
  induction h with
  | stop => exact absurd hp (by simp [Script.places])
  | @step p' s' inner other rest hs' hinner hother hrest ihInner ihOther ihRest =>
    obtain ⟨hinside, hafter, hinnerOrdered, hotherOrdered, hrestOrdered⟩ := hordered
    simp only [Script.places, List.mem_cons, List.mem_append] at hp
    rcases hp with rfl | (hp | hp) | hp
    · obtain rfl := Option.some.inj (hs.symm.trans hs')
      refine ⟨fun q hq => ?_, fun q hq => ?_⟩
      · rcases (Action.mem_children_iff _ q).1 hq with hfirst | hsecond
        · rw [hfirst] at hinner
          exact hinside q (List.mem_append_left _ hinner.head_mem)
        · rw [hsecond] at hother
          exact hinside q (List.mem_append_right _ hother.head_mem)
      · rw [hq] at hrest
        exact hafter q hrest.head_mem
    · exact ihInner hinnerOrdered hp
    · exact ihOther hotherOrdered hp
    · exact ihRest hrestOrdered hp

/-- A graph of outlines reads as a script that lays the outlines out, in order, and has each of its steps
once. -/
theorem ofOutlines_lays {fresh : Nat → String} {os : List Outline} {g : Graph}
    (h : Graph.ofOutlines fresh os = .ok g) :
    g.Sound ∧ ∃ script, g.Reads g.root script ∧ Lays fresh os script ∧ script.Ordered ∧
      script.places.Perm (List.range g.size) := by
  unfold Graph.ofOutlines Draft.build at h
  obtain ⟨rfl, hsound⟩ := (Graph.build_eq_ok_iff _ _ g).1 h
  obtain ⟨-, script, hchained⟩ := addChain_chained fresh .empty os
  refine ⟨hsound, script, hchained.reads.congr fun _ _ => rfl, hchained.lays, hchained.ordered, ?_⟩
  rw [List.range_eq_range']
  exact hchained.places

end Walkthrough
