import Walkthrough.Result

/-!
# Children of records

The list of all nodes of a tree, by the children of each (`flatten_eq`), and where a child that is pushed
goes in it. If nothing is kept behind the place where children go (`Node.Orderly`), a child comes after
all that were there before (`children_pushChild`), and what is known of all nodes is told in the order in
which they were pushed (`allFacts_pushChild`).
-/

namespace Walkthrough.Result.Node

/-! ## All nodes -/

theorem flattenAll_append (nodes more : List Node) :
    flattenAll (nodes ++ more) = flattenAll nodes ++ flattenAll more := by
  induction nodes with
  | nil => rfl
  | cons n nodes ih =>
      rw [List.cons_append, flattenAll, flattenAll, ih, List.append_assoc]

theorem flattenIterations_eq (iterations : List (Pass × List Node)) :
    flattenIterations iterations = flattenAll (iterations.flatMap Prod.snd) := by
  induction iterations with
  | nil => rfl
  | cons it iterations ih =>
      obtain ⟨pass, steps⟩ := it
      rw [flattenIterations, ih, List.flatMap_cons, flattenAll_append]

/-- A node comes first, then all that are below its children. -/
theorem flatten_eq (n : Node) : n.flatten = n :: flattenAll n.children := by
  obtain ⟨facts, steps, thenSteps, elseSteps, iterations⟩ := n
  rw [flatten, flattenIterations_eq, ← flattenAll_append, ← flattenAll_append, ← flattenAll_append]
  rfl

theorem mem_flattenAll {m : Node} {nodes : List Node} :
    m ∈ flattenAll nodes ↔ ∃ n ∈ nodes, m ∈ n.flatten := by
  induction nodes with
  | nil => simp [flattenAll]
  | cons n nodes ih => simp [flattenAll, ih]

/-- What is known of all nodes of a list and below. -/
def allFacts (nodes : List Node) : List Facts := (flattenAll nodes).map (·.facts)

@[simp] theorem allFacts_nil : allFacts [] = [] := rfl

theorem allFacts_append (nodes more : List Node) :
    allFacts (nodes ++ more) = allFacts nodes ++ allFacts more := by
  unfold allFacts
  rw [flattenAll_append, List.map_append]

theorem allFacts_singleton (n : Node) : allFacts [n] = n.facts :: allFacts n.children := by
  unfold allFacts
  rw [flattenAll, flattenAll, List.append_nil, flatten_eq, List.map_cons]

/-! ## Where children go -/

theorem pushIteration_append (child : Node) (iterations : List (Pass × List Node)) (pass : Pass)
    (steps : List Node) :
    pushIteration child (iterations ++ [(pass, steps)]) =
      some (iterations ++ [(pass, steps ++ [child])]) := by
  induction iterations with
  | nil => rfl
  | cons it iterations ih =>
      cases hrest : iterations ++ [(pass, steps)] with
      | nil => simp at hrest
      | cons it' rest =>
          rw [hrest] at ih
          simp [pushIteration, hrest, ih]

/-- A child that is added to the last iteration is the last of all. -/
theorem flatMap_of_pushIteration {child : Node} {iterations iterations' : List (Pass × List Node)}
    (h : pushIteration child iterations = some iterations') :
    iterations'.flatMap Prod.snd = iterations.flatMap Prod.snd ++ [child] := by
  rcases List.eq_nil_or_concat iterations with rfl | ⟨before, ⟨pass, steps⟩, rfl⟩
  · exact absurd h (by simp [pushIteration])
  · rw [List.concat_eq_append, pushIteration_append] at h
    obtain rfl := Option.some.inj h
    simp

/-- What pushing a child can do. -/
inductive Pushed (n child : Node) : Node → Prop
  | steps : n.facts.tag ≠ .choice →
      (n.facts.tag = .each ∨ n.facts.tag = .repeated → n.iterations = []) →
      Pushed n child { n with steps := n.steps ++ [child] }
  | holds : n.facts.tag = .choice → n.facts.branch ≠ some .otherwise →
      Pushed n child { n with thenSteps := n.thenSteps ++ [child] }
  | otherwise : n.facts.tag = .choice → n.facts.branch = some .otherwise →
      Pushed n child { n with elseSteps := n.elseSteps ++ [child] }
  | round {iterations} : n.facts.tag = .each ∨ n.facts.tag = .repeated →
      pushIteration child n.iterations = some iterations →
      Pushed n child { n with iterations }

theorem pushIteration_eq_none {child : Node} {iterations : List (Pass × List Node)}
    (h : pushIteration child iterations = none) : iterations = [] := by
  rcases List.eq_nil_or_concat iterations with rfl | ⟨before, ⟨pass, steps⟩, rfl⟩
  · rfl
  · rw [List.concat_eq_append, pushIteration_append] at h
    exact absurd h (by simp)

theorem pushed_pushChild (n child : Node) : Pushed n child (n.pushChild child) := by
  have rounds : n.facts.tag = .each ∨ n.facts.tag = .repeated →
      Pushed n child (n.pushChild child) := by
    intro htag
    cases hpush : pushIteration child n.iterations with
    | some iterations =>
        have heq : n.pushChild child = { n with iterations } := by
          rcases htag with htag | htag <;> simp [pushChild, htag, hpush]
        rw [heq]
        exact .round htag hpush
    | none =>
        have heq : n.pushChild child = { n with steps := n.steps ++ [child] } := by
          rcases htag with htag | htag <;> simp [pushChild, htag, hpush]
        rw [heq]
        refine .steps ?_ fun _ => pushIteration_eq_none hpush
        rcases htag with htag | htag <;> simp [htag]
  cases htag : n.facts.tag with
  | each => exact rounds (.inl htag)
  | repeated => exact rounds (.inr htag)
  | choice =>
      unfold pushChild
      rw [htag]
      simp only
      split
      · next hbranch => exact .otherwise htag hbranch
      · next hbranch => exact .holds htag hbranch
  | visit | click | reload | follow | empty | block =>
      unfold pushChild
      rw [htag]
      exact .steps (by simp [htag]) (by simp [htag])

@[simp] theorem facts_pushChild (n child : Node) : (n.pushChild child).facts = n.facts := by
  have hpushed := pushed_pushChild n child
  generalize n.pushChild child = n' at hpushed ⊢
  cases hpushed <;> rfl

@[simp] theorem facts_beginIteration (n : Node) (key value : Option Json) :
    (n.beginIteration key value).facts = n.facts := rfl

@[simp] theorem children_beginIteration (n : Node) (key value : Option Json) :
    (n.beginIteration key value).children = n.children := by
  simp [children, beginIteration]

/-! ## The order of children -/

/-- Nothing is kept behind the place where the next child goes. -/
structure Orderly (n : Node) : Prop where
  thenSteps : n.facts.tag ≠ .choice → n.thenSteps = []
  elseSteps : (n.facts.tag = .choice → n.facts.branch ≠ some .otherwise) → n.elseSteps = []
  iterations : n.facts.tag ≠ .each → n.facts.tag ≠ .repeated → n.iterations.flatMap Prod.snd = []

theorem Orderly.beginIteration {n : Node} (h : n.Orderly) (key value : Option Json) :
    (n.beginIteration key value).Orderly where
  thenSteps := h.thenSteps
  elseSteps := h.elseSteps
  iterations heach hrepeated := by
    simp [Node.beginIteration, h.iterations heach hrepeated]

theorem Orderly.pushChild {n : Node} (h : n.Orderly) (child : Node) : (n.pushChild child).Orderly := by
  have hpushed := pushed_pushChild n child
  generalize n.pushChild child = n' at hpushed ⊢
  cases hpushed with
  | steps => exact ⟨h.thenSteps, h.elseSteps, h.iterations⟩
  | holds htag => exact ⟨fun hother => absurd htag hother, h.elseSteps, h.iterations⟩
  | otherwise htag hbranch =>
      exact ⟨h.thenSteps, fun hother => absurd hbranch (hother htag), h.iterations⟩
  | round htag =>
      refine ⟨h.thenSteps, h.elseSteps, ?_⟩
      intro heach hrepeated
      exact absurd htag (by simp [heach, hrepeated])

/-- A child comes after all that were there before. -/
theorem Orderly.children_pushChild {n : Node} (h : n.Orderly) (child : Node) :
    (n.pushChild child).children = n.children ++ [child] := by
  have hpushed := pushed_pushChild n child
  generalize n.pushChild child = n' at hpushed ⊢
  cases hpushed with
  | steps htag hnone =>
      have hthen := h.thenSteps htag
      have helse := h.elseSteps fun hchoice => absurd hchoice htag
      have hiterations : n.iterations.flatMap Prod.snd = [] := by
        by_cases hrounds : n.facts.tag = .each ∨ n.facts.tag = .repeated
        · rw [hnone hrounds]
          rfl
        · rw [not_or] at hrounds
          exact h.iterations hrounds.1 hrounds.2
      simp [children, hthen, helse, hiterations]
  | holds htag hbranch =>
      have helse := h.elseSteps fun _ => hbranch
      have hiterations := h.iterations (by simp [htag]) (by simp [htag])
      simp [children, helse, hiterations]
  | otherwise htag _ =>
      have hiterations := h.iterations (by simp [htag]) (by simp [htag])
      simp [children, hiterations]
  | round _ hpush =>
      simp [children, flatMap_of_pushIteration hpush]

/-- What is known of a child is told after what is known of all nodes before. -/
theorem Orderly.allFacts_pushChild {n : Node} (h : n.Orderly) (child : Node) :
    allFacts [n.pushChild child] = allFacts [n] ++ allFacts [child] := by
  rw [allFacts_singleton, h.children_pushChild, allFacts_append, facts_pushChild,
    allFacts_singleton n, List.cons_append]

theorem allFacts_beginIteration (n : Node) (key value : Option Json) :
    allFacts [n.beginIteration key value] = allFacts [n] := by
  rw [allFacts_singleton, children_beginIteration, facts_beginIteration, ← allFacts_singleton]

end Walkthrough.Result.Node
