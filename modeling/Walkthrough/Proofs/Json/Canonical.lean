import Mathlib.Data.List.Forall2
import Mathlib.Data.List.Induction
import Mathlib.Data.String.Basic
import Walkthrough.Json.Basic

/-!
# Canonical values

The members of a canonical object are sorted by name and no name occurs twice. Sorting leaves such members as
they are, so that it does not matter how often a value is written and read again (`sortMembers_sortMembers`).
What is kept of several members with one name is the last (`lookup_sortMembers`), and that tells what they are
sorted to (`Sorted.ext`). Members that are related one by one stay so when they are sorted
(`forall₂_sortMembers`).
-/

namespace Walkthrough.Json

variable {α β : Type}

/-- Sorted by name, and no name occurs twice. -/
def Sorted (members : List (String × α)) : Prop := members.Pairwise fun m m' => m.1 < m'.1

/-! ## Putting a member in -/

theorem insertSorted_ne_nil (name : String) (value : α) (members : List (String × α)) :
    insertSorted name value members ≠ [] := by
  cases members with
  | nil => simp [insertSorted]
  | cons m rest =>
    unfold insertSorted
    split
    · simp
    · split <;> simp

theorem lt_of_mem_insertSorted {bound name : String} {value : α} {members : List (String × α)}
    (hname : bound < name) (hmembers : ∀ m ∈ members, bound < m.1) {m : String × α}
    (h : m ∈ insertSorted name value members) : bound < m.1 := by
  induction members with
  | nil =>
    obtain rfl := List.mem_singleton.1 h
    exact hname
  | cons first rest ih =>
    obtain ⟨hfirst, hrest⟩ := List.forall_mem_cons.1 hmembers
    unfold insertSorted at h
    split at h
    · rcases List.mem_cons.1 h with rfl | h
      · exact hname
      · exact hmembers m h
    · split at h
      · rcases List.mem_cons.1 h with rfl | h
        · exact hname
        · exact hrest m h
      · rcases List.mem_cons.1 h with rfl | h
        · exact hfirst
        · exact ih hrest h

theorem Sorted.insertSorted {members : List (String × α)} (h : Sorted members) (name : String) (value : α) :
    Sorted (insertSorted name value members) := by
  induction members with
  | nil => exact List.pairwise_singleton _ _
  | cons first rest ih =>
    obtain ⟨hfirst, hrest⟩ := List.pairwise_cons.1 h
    unfold Json.insertSorted
    split
    · next hless =>
      refine List.pairwise_cons.2 ⟨List.forall_mem_cons.2 ⟨hless, fun m hm => ?_⟩, h⟩
      exact hless.trans (hfirst m hm)
    · split
      · next heq => exact List.pairwise_cons.2 ⟨fun m hm => heq ▸ hfirst m hm, hrest⟩
      · next hnotless hne =>
        -- the new member goes somewhere behind the first, which stays before all others
        have hless : first.1 < name := lt_of_le_of_ne (not_lt.1 hnotless) (Ne.symm hne)
        exact List.pairwise_cons.2 ⟨fun m hm => lt_of_mem_insertSorted hless hfirst hm, ih hrest⟩

theorem insertSorted_of_forall_lt {name : String} {members : List (String × α)} (value : α)
    (h : ∀ m ∈ members, m.1 < name) : insertSorted name value members = members ++ [(name, value)] := by
  induction members with
  | nil => rfl
  | cons first rest ih =>
    obtain ⟨hfirst, hrest⟩ := List.forall_mem_cons.1 h
    rw [insertSorted, if_neg hfirst.not_gt, if_neg hfirst.ne', ih hrest, List.cons_append]

theorem forall₂_insertSorted {R : α → β → Prop} (name : String) {a : α} {b : β} (hab : R a b)
    {members : List (String × α)} {others : List (String × β)}
    (h : List.Forall₂ (fun m m' => m.1 = m'.1 ∧ R m.2 m'.2) members others) :
    List.Forall₂ (fun m m' => m.1 = m'.1 ∧ R m.2 m'.2) (insertSorted name a members)
      (insertSorted name b others) := by
  induction h with
  | nil => exact .cons ⟨rfl, hab⟩ .nil
  | @cons m m' rest rest' hm hrest ih =>
    unfold insertSorted
    rw [← hm.1]
    split
    · exact .cons ⟨rfl, hab⟩ (.cons ⟨rfl, hm.2⟩ hrest)
    · split
      · exact .cons ⟨rfl, hab⟩ hrest
      · exact .cons ⟨rfl, hm.2⟩ ih

/-! ## Sorting members -/

theorem sortMembers_concat (members : List (String × α)) (m : String × α) :
    sortMembers (members ++ [m]) = insertSorted m.1 m.2 (sortMembers members) := by
  rw [sortMembers, List.foldl_append]
  rfl

theorem sortMembers_eq_nil_iff (members : List (String × α)) : sortMembers members = [] ↔ members = [] := by
  constructor
  · intro h
    -- the member that is put in last is there
    rcases List.eq_nil_or_concat members with rfl | ⟨before, m, rfl⟩
    · rfl
    · rw [List.concat_eq_append, sortMembers_concat] at h
      exact absurd h (insertSorted_ne_nil m.1 m.2 _)
  · rintro rfl
    rfl

theorem sorted_sortMembers (members : List (String × α)) : Sorted (sortMembers members) := by
  induction members using List.reverseRecOn with
  | nil => exact List.Pairwise.nil
  | append_singleton before m ih =>
    rw [sortMembers_concat]
    exact ih.insertSorted m.1 m.2

theorem sortMembers_of_sorted {members : List (String × α)} (h : Sorted members) :
    sortMembers members = members := by
  induction members using List.reverseRecOn with
  | nil => rfl
  | append_singleton before m ih =>
    obtain ⟨hbefore, -, hlast⟩ := List.pairwise_append.1 h
    rw [sortMembers_concat, ih hbefore, insertSorted_of_forall_lt m.2 fun m' hm' =>
      hlast m' hm' m (List.mem_singleton_self m)]

theorem sortMembers_sortMembers (members : List (String × α)) :
    sortMembers (sortMembers members) = sortMembers members :=
  sortMembers_of_sorted (sorted_sortMembers members)

theorem lookup_cons (m : String × α) (rest : List (String × α)) (name : String) :
    (m :: rest).lookup name = if name = m.1 then some m.2 else rest.lookup name := by
  rw [List.lookup_cons]
  by_cases hname : name = m.1
  · rw [if_pos hname, beq_iff_eq.2 hname]
  · rw [if_neg hname, beq_eq_false_iff_ne.2 hname]

theorem lookup_insertSorted (name : String) (value : α) (members : List (String × α)) (other : String) :
    (insertSorted name value members).lookup other =
      if other = name then some value else members.lookup other := by
  induction members with
  | nil => rw [insertSorted, lookup_cons]
  | cons first rest ih =>
    unfold insertSorted
    split
    · rw [lookup_cons]
    · split
      · next heq =>
        rw [lookup_cons, lookup_cons, ← heq]
        split <;> rfl
      · next hne =>
        rw [lookup_cons, lookup_cons, ih]
        by_cases hfirst : other = first.1
        · have hother : other ≠ name := fun hname => hne (hname.symm.trans hfirst)
          rw [if_pos hfirst, if_neg hother, if_pos hfirst]
        · rw [if_neg hfirst, if_neg hfirst]

/-- Of members with one name the last is kept. -/
theorem lookup_sortMembers (members : List (String × α)) (name : String) :
    (sortMembers members).lookup name = members.reverse.lookup name := by
  induction members using List.reverseRecOn with
  | nil => rfl
  | append_singleton before m ih =>
    rw [sortMembers_concat, lookup_insertSorted, ih, List.reverse_append, List.reverse_singleton,
      List.singleton_append, lookup_cons]

theorem lookup_of_forall_lt {name : String} {members : List (String × α)} (h : ∀ m ∈ members, name < m.1) :
    members.lookup name = none := by
  rw [List.lookup_eq_none_iff]
  intro m hm
  rw [bne_iff_ne]
  exact (h m hm).ne

/-- Sorted members are told by what their names have. -/
theorem Sorted.ext {members others : List (String × α)} (h : Sorted members) (h' : Sorted others)
    (hlookup : ∀ name, members.lookup name = others.lookup name) : members = others := by
  induction members generalizing others with
  | nil =>
    cases others with
    | nil => rfl
    | cons m' rest' => exact absurd (hlookup m'.1) (by simp [lookup_cons])
  | cons m rest ih =>
    cases others with
    | nil => exact absurd (hlookup m.1) (by simp [lookup_cons])
    | cons m' rest' =>
      obtain ⟨hfirst, hrest⟩ := List.pairwise_cons.1 h
      obtain ⟨hfirst', hrest'⟩ := List.pairwise_cons.1 h'
      have hname : m.1 = m'.1 := by
        -- a name before all names of a list has nothing there
        rcases lt_trichotomy m.1 m'.1 with hless | heq | hless
        · have hnone := lookup_of_forall_lt
            (List.forall_mem_cons.2 ⟨hless, fun n hn => hless.trans (hfirst' n hn)⟩)
          exact absurd ((hlookup m.1).trans hnone) (by simp [lookup_cons])
        · exact heq
        · have hnone := lookup_of_forall_lt
            (List.forall_mem_cons.2 ⟨hless, fun n hn => hless.trans (hfirst n hn)⟩)
          exact absurd ((hlookup m'.1).symm.trans hnone) (by simp [lookup_cons])
      have hvalue : m.2 = m'.2 := by simpa [lookup_cons, hname] using hlookup m.1
      have hothers : ∀ name, rest.lookup name = rest'.lookup name := by
        intro name
        by_cases heq : name = m.1
        · rw [heq, lookup_of_forall_lt hfirst, hname, lookup_of_forall_lt hfirst']
        · have hboth := hlookup name
          rwa [lookup_cons, lookup_cons, if_neg heq, if_neg fun heq' => heq (heq'.trans hname.symm)] at hboth
      rw [Prod.ext hname hvalue, ih hrest hrest' hothers]

theorem forall₂_sortMembers {R : α → β → Prop} {members : List (String × α)} {others : List (String × β)}
    (h : List.Forall₂ (fun m m' => m.1 = m'.1 ∧ R m.2 m'.2) members others) :
    List.Forall₂ (fun m m' => m.1 = m'.1 ∧ R m.2 m'.2) (sortMembers members) (sortMembers others) := by
  refine List.rel_foldl (fun sorted sorted' hsorted m m' hm => ?_) .nil h
  rw [← hm.1]
  exact forall₂_insertSorted m.1 hm.2 hsorted

end Walkthrough.Json
