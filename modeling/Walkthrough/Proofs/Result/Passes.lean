import Walkthrough.Proofs.Result.Children

/-!
# The iterations of records

The keys and values of the iterations of a record, in order (`Node.passes`). A child that is pushed leaves
them, and beginning an iteration adds one at the end. So what is said of records by what is known of them
and their iterations alone stays true of a record and all below it whatever is pushed
(`Everywhere.pushChild`).
-/

namespace Walkthrough.Result.Node

/-- The keys and values of the iterations, in order. -/
def passes (n : Node) : List Pass := n.iterations.map Prod.fst

@[simp] theorem passes_beginIteration (n : Node) (key value : Option Json) :
    (n.beginIteration key value).passes = n.passes ++ [⟨key, value⟩] := by
  simp [passes, Node.beginIteration]

@[simp] theorem passes_pushChild (n child : Node) : (n.pushChild child).passes = n.passes := by
  have hpushed := pushed_pushChild n child
  generalize n.pushChild child = n' at hpushed ⊢
  cases hpushed with
  | steps | holds | otherwise => rfl
  | @round iterations _ hpush =>
    -- only the children of the last iteration are others
    rcases List.eq_nil_or_concat n.iterations with hnil | ⟨before, ⟨pass, steps⟩, hlast⟩
    · rw [hnil] at hpush
      exact absurd hpush (by simp [pushIteration])
    · rw [hlast, List.concat_eq_append, pushIteration_append] at hpush
      obtain rfl := Option.some.inj hpush
      simp [passes, hlast]

/-- A child that is pushed is a child, next to those before. -/
theorem mem_children_pushChild {n child m : Node} (h : m ∈ (n.pushChild child).children) :
    m ∈ n.children ∨ m = child := by
  have hpushed := pushed_pushChild n child
  generalize n.pushChild child = n' at hpushed h
  cases hpushed with
  | steps | holds | otherwise =>
    simp only [children, List.mem_append, List.mem_singleton] at h ⊢
    grind
  | round _ hpush =>
    simp only [children, flatMap_of_pushIteration hpush, List.mem_append, List.mem_singleton] at h ⊢
    grind

/-! ## What is said of records and all below -/

/-- Something is said of a record and of all below it, by what is known of each and by its iterations. -/
def Everywhere (P : Facts → List Pass → Prop) (n : Node) : Prop := ∀ m ∈ n.flatten, P m.facts m.passes

variable {P : Facts → List Pass → Prop} {n : Node}

theorem everywhere_iff : n.Everywhere P ↔ P n.facts n.passes ∧ ∀ m ∈ n.children, m.Everywhere P := by
  unfold Everywhere
  rw [flatten_eq, List.forall_mem_cons]
  refine and_congr_right fun _ => ⟨fun h m hm m' hm' => ?_, fun h m' hm' => ?_⟩
  · exact h m' (mem_flattenAll.2 ⟨m, hm, hm'⟩)
  · obtain ⟨m, hm, hbelow⟩ := mem_flattenAll.1 hm'
    exact h m hm m' hbelow

theorem everywhere_of_childless (hchildren : n.children = []) (h : P n.facts n.passes) :
    n.Everywhere P :=
  everywhere_iff.2 ⟨h, by simp [hchildren]⟩

theorem Everywhere.pushChild (h : n.Everywhere P) {child : Node} (hchild : child.Everywhere P) :
    (n.pushChild child).Everywhere P := by
  obtain ⟨hown, hbelow⟩ := everywhere_iff.1 h
  refine everywhere_iff.2 ⟨?_, fun m hm => ?_⟩
  · rw [facts_pushChild, passes_pushChild]
    exact hown
  · rcases mem_children_pushChild hm with hm | rfl
    · exact hbelow m hm
    · exact hchild

theorem Everywhere.beginIteration (h : n.Everywhere P) {key value : Option Json}
    (hown : P n.facts (n.passes ++ [⟨key, value⟩])) : (n.beginIteration key value).Everywhere P := by
  refine everywhere_iff.2 ⟨?_, ?_⟩
  · rw [facts_beginIteration, passes_beginIteration]
    exact hown
  · rw [children_beginIteration]
    exact (everywhere_iff.1 h).2

end Walkthrough.Result.Node
