import Walkthrough.Proofs.Graph.Headings
import Walkthrough.Proofs.Result.Children

/-!
# Records that mirror chains

A record of a container lists the records of the chains that its step went through
(`Node.listings`). It mirrors its step if each of these lists follows a chain of the step, all but the
last of them to its end, and if in every list all records but the last are closed (`Node.Mirrors`): those
are through with all of their own chains (`Node.Closed`).

A record that is open is one whose last list may still grow (`Node.Opened`). It stays open when a closed
record is added (`Opened.pushChild`) or another iteration begins (`Opened.beginIteration`); it is closed
when its last list is at the end of its chain (`Opened.toClosed`).
-/

namespace Walkthrough.Result.Node

/-- The heading of a record. -/
def heading (n : Node) : Heading := ⟨n.facts.uuid, n.facts.tag, n.facts.name⟩

/-- A place where a chain begins, and the records of what was gone through of it. -/
abbrev Listing := Option Nat × List Node

/-- What a record of a step lists: the chain of a block, that of the branch that was taken, or that of
every iteration. -/
def listings (n : Node) (s : Step) : List Listing :=
  match s.action with
  | .block _ child => [(child, n.steps)]
  | .each _ _ _ child | .repeated _ child => n.iterations.map fun it => (child, it.2)
  | .choice _ holds otherwise =>
    match n.facts.branch with
    | some .holds => [(holds, n.thenSteps)]
    | some .otherwise => [(otherwise, n.elseSteps)]
    | none => []
  | _ => []

/-- A record is that of a step: its heading is the same, a branch was taken if there are any, and nothing
is kept but where the step nests it. -/
structure Records (n : Node) (s : Step) : Prop where
  heading : n.heading = s.heading
  branch : s.tag = .choice → n.facts.branch ≠ none
  steps : s.tag ≠ .block → n.steps = []
  thenSteps : (s.tag = .choice → n.facts.branch ≠ some .holds) → n.thenSteps = []
  elseSteps : (s.tag = .choice → n.facts.branch ≠ some .otherwise) → n.elseSteps = []
  iterations : s.tag ≠ .each → s.tag ≠ .repeated → n.iterations = []

/-- A record is through: every chain that it lists is complete, and its children are through as well. -/
inductive Closed (g : Graph) : Node → Prop
  | intro {n p s} : g.step? p = some s → n.Records s →
      (∀ l ∈ n.listings s, l.2.map heading = g.headings l.1) → (∀ c ∈ n.children, Closed g c) →
      Closed g n

/-- Records are those of a complete chain. -/
structure Whole (g : Graph) (head : Option Nat) (nodes : List Node) : Prop where
  headings : nodes.map heading = g.headings head
  closed : ∀ n ∈ nodes, Closed g n

/-- Records are those of the beginning of a chain. -/
structure Listed (g : Graph) (head : Option Nat) (nodes : List Node) : Prop where
  headings : nodes.map heading <+: g.headings head
  closed : ∀ n ∈ nodes.dropLast, Closed g n

/-- A record mirrors the chains of its step, of which only the last that it lists may be incomplete. -/
structure Mirrors (g : Graph) (s : Step) (n : Node) : Prop where
  records : n.Records s
  listed : ∀ l ∈ n.listings s, Listed g l.1 l.2
  whole : ∀ l ∈ (n.listings s).dropLast, Whole g l.1 l.2

/-- A record and all below it mirror their steps. -/
def Mirrored (g : Graph) (n : Node) : Prop :=
  ∀ m ∈ n.flatten, ∃ p s, g.step? p = some s ∧ Mirrors g s m

/-- A record of a step whose last list may grow: before it are complete chains, and in it closed
records. -/
structure Opened (g : Graph) (s : Step) (n : Node) (before : List Listing) (head : Option Nat)
    (nodes : List Node) : Prop where
  records : n.Records s
  listings : n.listings s = before ++ [(head, nodes)]
  whole : ∀ l ∈ before, Whole g l.1 l.2
  closed : ∀ m ∈ nodes, Closed g m

/-! ## Children -/

theorem Records.tag {n : Node} {s : Step} (h : n.Records s) : n.facts.tag = s.tag :=
  congrArg Heading.tag h.heading

/-- Every child is in one of the lists. -/
theorem Records.children_eq {n : Node} {s : Step} (h : n.Records s) :
    n.children = (n.listings s).flatMap Prod.snd := by
  obtain ⟨_, hbranch, hsteps, hthen, helse, hiterations⟩ := h
  cases haction : s.action with
  | block declarations child => simp_all [children, Node.listings, Step.tag, Action.tag]
  | each collection key value child | repeated condition child =>
      simp_all [children, Node.listings, Step.tag, Action.tag, List.flatMap_map]
  | choice condition holds otherwise =>
      cases hcase : n.facts.branch with
      | none => simp_all [Step.tag, Action.tag]
      | some b => cases b <;> simp_all [children, Node.listings, Step.tag, Action.tag]
  | visit | click | reload | follow | empty =>
      simp_all [children, Node.listings, Step.tag, Action.tag]

theorem Records.mem_children {n : Node} {s : Step} (h : n.Records s) {l : Listing}
    (hl : l ∈ n.listings s) {m : Node} (hm : m ∈ l.2) : m ∈ n.children := by
  rw [h.children_eq]
  exact List.mem_flatMap.2 ⟨l, hl, hm⟩

theorem eq_of_singleton_eq_append {α : Type} {a b : α} {before : List α} (h : [a] = before ++ [b]) :
    before = [] ∧ a = b := by
  have hsplit : [] ++ [a] = before ++ [b] := h
  obtain ⟨hbefore, hlast⟩ := List.append_inj' hsplit rfl
  exact ⟨hbefore.symm, List.singleton_inj.1 hlast⟩

/-- The last list of a record of iterations is that of its last iteration. -/
theorem iterations_of_listings {n : Node} {child head : Option Nat} {before : List Listing}
    {nodes : List Node} (h : n.iterations.map (fun it => (child, it.2)) = before ++ [(head, nodes)]) :
    ∃ iterations pass, n.iterations = iterations ++ [(pass, nodes)] ∧ head = child ∧
      before = iterations.map fun it => (child, it.2) := by
  obtain ⟨iterations, last, hiterations, hbefore, hlast⟩ := List.map_eq_append_iff.1 h
  obtain ⟨⟨pass, nodes'⟩, rfl, hlist⟩ := List.map_eq_singleton_iff.1 hlast
  obtain ⟨rfl, rfl⟩ := Prod.mk.inj hlist
  exact ⟨iterations, pass, hiterations, rfl, hbefore.symm⟩

theorem pushChild_rounds {n : Node} (htag : n.facts.tag = .each ∨ n.facts.tag = .repeated)
    {iterations : List (Pass × List Node)} {pass : Pass} {nodes : List Node}
    (h : n.iterations = iterations ++ [(pass, nodes)]) (m : Node) :
    n.pushChild m = { n with iterations := iterations ++ [(pass, nodes ++ [m])] } := by
  rcases htag with htag | htag <;> simp [Node.pushChild, htag, h, pushIteration_append]

/-- A child is added to the last list. -/
theorem Records.pushChild {n : Node} {s : Step} (h : n.Records s) {before : List Listing}
    {head : Option Nat} {nodes : List Node} (hlistings : n.listings s = before ++ [(head, nodes)])
    (m : Node) : (n.pushChild m).Records s ∧
      (n.pushChild m).listings s = before ++ [(head, nodes ++ [m])] := by
  have htag := h.tag
  -- loops and repeated chains nest alike: the last list is that of the last iteration
  have rounds : ∀ child, s.tag = .each ∨ s.tag = .repeated →
      (∀ n' : Node, n'.listings s = n'.iterations.map fun it => (child, it.2)) →
      (n.pushChild m).Records s ∧ (n.pushChild m).listings s = before ++ [(head, nodes ++ [m])] := by
    intro child hs hrounds
    rw [hrounds] at hlistings
    obtain ⟨iterations, pass, hiterations, rfl, rfl⟩ := iterations_of_listings hlistings
    rw [pushChild_rounds (by rw [htag]; exact hs) hiterations, hrounds]
    refine ⟨⟨h.heading, h.branch, h.steps, h.thenSteps, h.elseSteps, ?_⟩, by simp⟩
    intro heach hrepeated
    exact absurd hs (by simp [heach, hrepeated])
  cases haction : s.action with
  | block declarations child =>
      have hs : s.tag = .block := by rw [Step.tag, haction]; rfl
      simp only [Node.listings, haction] at hlistings ⊢
      obtain ⟨rfl, hlast⟩ := eq_of_singleton_eq_append hlistings
      obtain ⟨rfl, rfl⟩ := Prod.mk.inj hlast
      have hpush : n.pushChild m = { n with steps := n.steps ++ [m] } := by
        simp [Node.pushChild, htag, hs]
      rw [hpush]
      exact ⟨⟨h.heading, h.branch, fun hother => absurd hs hother, h.thenSteps, h.elseSteps,
        h.iterations⟩, rfl⟩
  | each collection key value child =>
      exact rounds child (.inl (by rw [Step.tag, haction]; rfl)) fun n' => by simp [Node.listings, haction]
  | repeated condition child =>
      exact rounds child (.inr (by rw [Step.tag, haction]; rfl)) fun n' => by simp [Node.listings, haction]
  | choice condition holds otherwise =>
      have hs : s.tag = .choice := by rw [Step.tag, haction]; rfl
      cases hcase : n.facts.branch with
      | none => exact absurd hcase (h.branch hs)
      | some b =>
          cases b with
          | holds =>
              have hpush : n.pushChild m = { n with thenSteps := n.thenSteps ++ [m] } := by
                simp [Node.pushChild, htag, hs, hcase]
              rw [hpush]
              simp only [Node.listings, haction, hcase] at hlistings ⊢
              obtain ⟨rfl, hlast⟩ := eq_of_singleton_eq_append hlistings
              obtain ⟨rfl, rfl⟩ := Prod.mk.inj hlast
              exact ⟨⟨h.heading, h.branch, h.steps, fun hother => absurd hcase (hother hs),
                h.elseSteps, h.iterations⟩, rfl⟩
          | otherwise =>
              have hpush : n.pushChild m = { n with elseSteps := n.elseSteps ++ [m] } := by
                simp [Node.pushChild, htag, hs, hcase]
              rw [hpush]
              simp only [Node.listings, haction, hcase] at hlistings ⊢
              obtain ⟨rfl, hlast⟩ := eq_of_singleton_eq_append hlistings
              obtain ⟨rfl, rfl⟩ := Prod.mk.inj hlast
              exact ⟨⟨h.heading, h.branch, h.steps, h.thenSteps,
                fun hother => absurd hcase (hother hs), h.iterations⟩, rfl⟩
  | visit | click | reload | follow | empty =>
      -- nothing is listed, so that there is no last list
      simp [Node.listings, haction] at hlistings

/-- An iteration is a list of its own. -/
theorem Records.beginIteration {n : Node} {s : Step} (h : n.Records s)
    (hs : s.tag = .each ∨ s.tag = .repeated) (key value : Option Json) :
    (n.beginIteration key value).Records s ∧
      (n.beginIteration key value).listings s = n.listings s ++ [(s.action.inner, [])] := by
  refine ⟨⟨h.heading, h.branch, h.steps, h.thenSteps, h.elseSteps, ?_⟩, ?_⟩
  · intro heach hrepeated
    exact absurd hs (by simp [heach, hrepeated])
  · cases haction : s.action <;>
      simp_all [Node.listings, Node.beginIteration, Action.inner, Step.tag, Action.tag]

/-! ## Closed records -/

theorem Whole.listed {g : Graph} {head : Option Nat} {nodes : List Node} (h : Whole g head nodes) :
    Listed g head nodes where
  headings := by rw [h.headings]
  closed n hn := h.closed n (List.dropLast_subset nodes hn)

/-- A record mirrors its step and so do all below it if its children do. -/
theorem mirrored_of_children {g : Graph} {n : Node} {p : Nat} {s : Step} (hs : g.step? p = some s)
    (h : Mirrors g s n) (hchildren : ∀ c ∈ n.children, Mirrored g c) : Mirrored g n := by
  intro m hm
  rw [flatten_eq] at hm
  rcases List.mem_cons.1 hm with rfl | hm
  · exact ⟨p, s, hs, h⟩
  · obtain ⟨c, hc, hm⟩ := mem_flattenAll.1 hm
    exact hchildren c hc m hm

/-- A record of complete chains is through. -/
theorem closed_of_whole {g : Graph} {n : Node} {p : Nat} {s : Step} (hs : g.step? p = some s)
    (h : n.Records s) (hwhole : ∀ l ∈ n.listings s, Whole g l.1 l.2) : Closed g n := by
  refine .intro hs h (fun l hl => (hwhole l hl).headings) ?_
  intro c hc
  rw [h.children_eq] at hc
  obtain ⟨l, hl, hc⟩ := List.mem_flatMap.1 hc
  exact (hwhole l hl).closed c hc

/-- A record that is through mirrors its step, and so do all below it. -/
theorem Closed.mirrored {g : Graph} {n : Node} (h : Closed g n) : Mirrored g n := by
  induction h with
  | @intro n p s hs hrecords hheadings hchildren ih =>
      have hwhole : ∀ l ∈ n.listings s, Whole g l.1 l.2 := fun l hl =>
        ⟨hheadings l hl, fun m hm => hchildren m (hrecords.mem_children hl hm)⟩
      refine mirrored_of_children hs ⟨hrecords, fun l hl => (hwhole l hl).listed, ?_⟩ ih
      exact fun l hl => hwhole l (List.dropLast_subset _ hl)

/-! ## Open records -/

section

variable {g : Graph} {s : Step} {n : Node} {before : List Listing} {head : Option Nat}
  {nodes : List Node}

theorem Opened.pushChild (h : Opened g s n before head nodes) {m : Node} (hm : Closed g m) :
    Opened g s (n.pushChild m) before head (nodes ++ [m]) := by
  obtain ⟨hrecords, hlistings⟩ := h.records.pushChild h.listings m
  refine ⟨hrecords, hlistings, h.whole, ?_⟩
  intro k hk
  rcases List.mem_append.1 hk with hk | hk
  · exact h.closed k hk
  · rw [List.mem_singleton.1 hk]
    exact hm

theorem Opened.last_whole (h : Opened g s n before head nodes)
    (hend : nodes.map heading = g.headings head) : ∀ l ∈ n.listings s, Whole g l.1 l.2 := by
  intro l hl
  rw [h.listings] at hl
  rcases List.mem_append.1 hl with hl | hl
  · exact h.whole l hl
  · rw [List.mem_singleton.1 hl]
    exact ⟨hend, h.closed⟩

/-- At the end of its last chain an open record is through. -/
theorem Opened.toClosed {p : Nat} (hs : g.step? p = some s) (h : Opened g s n before head nodes)
    (hend : nodes.map heading = g.headings head) : Closed g n :=
  closed_of_whole hs h.records (h.last_whole hend)

/-- At the end of its last chain another iteration begins. -/
theorem Opened.beginIteration (h : Opened g s n before head nodes)
    (hend : nodes.map heading = g.headings head) (htag : s.tag = .each ∨ s.tag = .repeated)
    (key value : Option Json) :
    Opened g s (n.beginIteration key value) (n.listings s) s.action.inner [] := by
  obtain ⟨hrecords, hlistings⟩ := h.records.beginIteration htag key value
  exact ⟨hrecords, hlistings, h.last_whole hend, by simp⟩

/-- A record mirrors its step if its last list is that of the beginning of a chain, and those before it
are complete. -/
theorem mirrored_of_listings {p : Nat} (hs : g.step? p = some s) (hrecords : n.Records s)
    (hlistings : n.listings s = before ++ [(head, nodes)]) (hwhole : ∀ l ∈ before, Whole g l.1 l.2)
    (hlisted : Listed g head nodes) (hmirrored : ∀ m ∈ nodes, Mirrored g m) : Mirrored g n := by
  refine mirrored_of_children hs ⟨hrecords, ?_, ?_⟩ ?_
  · intro l hl
    rw [hlistings] at hl
    rcases List.mem_append.1 hl with hl | hl
    · exact (hwhole l hl).listed
    · rw [List.mem_singleton.1 hl]
      exact hlisted
  · rw [hlistings, List.dropLast_concat]
    exact hwhole
  · intro c hc
    rw [hrecords.children_eq, hlistings, List.flatMap_append] at hc
    rcases List.mem_append.1 hc with hc | hc
    · obtain ⟨l, hl, hc⟩ := List.mem_flatMap.1 hc
      exact ((hwhole l hl).closed c hc).mirrored
    · exact hmirrored c (by simpa using hc)

/-- An open record mirrors its step if what it lists last is the beginning of a chain. -/
theorem Opened.mirrored {p : Nat} (hs : g.step? p = some s) (h : Opened g s n before head nodes)
    (hbegun : nodes.map heading <+: g.headings head) : Mirrored g n := by
  have hlisted : Listed g head nodes := ⟨hbegun, fun m hm => h.closed m (List.dropLast_subset _ hm)⟩
  exact mirrored_of_listings hs h.records h.listings h.whole hlisted fun m hm =>
    (h.closed m hm).mirrored

/-- So it does if a record is added that is not through but mirrors its step. -/
theorem Opened.mirrored_pushChild {p : Nat} (hs : g.step? p = some s)
    (h : Opened g s n before head nodes) {m : Node} (hm : Mirrored g m)
    (hbegun : (nodes ++ [m]).map heading <+: g.headings head) : Mirrored g (n.pushChild m) := by
  obtain ⟨hrecords, hlistings⟩ := h.records.pushChild h.listings m
  have hlisted : Listed g head (nodes ++ [m]) := by
    refine ⟨hbegun, ?_⟩
    rw [List.dropLast_concat]
    exact h.closed
  refine mirrored_of_listings hs hrecords hlistings h.whole hlisted ?_
  intro k hk
  rcases List.mem_append.1 hk with hk | hk
  · exact (h.closed k hk).mirrored
  · rw [List.mem_singleton.1 hk]
    exact hm

end

end Walkthrough.Result.Node
