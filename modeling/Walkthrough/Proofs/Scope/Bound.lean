import Mathlib.Data.Set.Insert
import Mathlib.Tactic.Tauto
import Walkthrough.Engine.Protocol

/-!
# Bound names

The names that base values and open frames bind (`Bound`). Looking up finds exactly these
(`lookup_isSome_iff`), so that an expression that is a bound name has a value (`names_value`). What opens
and fills frames adds names: a declaration or an extraction its own (`bound_insert`), an item those of its
loop (`bound_itemFrame`), and an exchange what is extracted from it (`bindAll_bound`).
-/

namespace Walkthrough

variable {α : Type}

/-- The names of entries. -/
def namesOf (entries : List (String × α)) : Set String := {n | n ∈ entries.map Prod.fst}

/-- The names that base values and open frames bind. One of them is that of the number of completed
requests. -/
def Bound (values : Bindings Json) (frames : List Frame) : Set String :=
  {n | n = indexName ∨ values.contains n = true ∨ ∃ f ∈ frames, f.contains n = true}

theorem lookupFrames_isSome_iff (n : String) (completed : Nat) (f : Frame) (frames : List Frame) :
    (lookupFrames n completed (f :: frames)).isSome = true ↔
      n = indexName ∨ ∃ g ∈ f :: frames, g.contains n = true := by
  induction frames generalizing f with
  | nil =>
      unfold lookupFrames
      cases hfind : f.find? n with
      | some v => simp [Bindings.contains, hfind]
      | none => by_cases hindex : n = indexName <;> simp [lookupFrames, Bindings.contains, hfind, hindex]
  | cons g frames ih =>
      unfold lookupFrames
      cases hfind : f.find? n with
      | some v => simp [Bindings.contains, hfind]
      | none =>
          by_cases hindex : n = indexName
          · simp [hindex]
          · simp only [if_neg hindex, ih g]
            simp [hindex, Bindings.contains, hfind]

/-- Looking up finds exactly the bound names, if a frame is open. -/
theorem lookup_isSome_iff {c : Context} (hframes : c.frames ≠ []) (overlay : Option Frame)
    (n : String) :
    ((⟨c, overlay⟩ : Scope).lookup n).isSome = true ↔
      n ∈ Bound c.values (overlay.toList ++ c.frames) := by
  obtain ⟨f, frames, hcons⟩ := List.exists_cons_of_ne_nil hframes
  have hinner := lookupFrames_isSome_iff n c.completed f frames
  unfold Scope.lookup Bound
  simp only [hcons, Set.mem_ofPred_eq]
  cases hoverlay : overlay.bind (·.find? n) with
  | some v =>
      cases overlay with
      | none => simp at hoverlay
      | some g =>
          have hfind : g.contains n = true := by
            simp only [Option.bind_some] at hoverlay
            simp [Bindings.contains, hoverlay]
          refine iff_of_true rfl (.inr (.inr ⟨g, by simp, hfind⟩))
  | none =>
      have hnone : ∀ g ∈ overlay.toList, ¬ g.contains n = true := by
        intro g hg
        obtain rfl : overlay = some g := by simpa using hg
        simp only [Option.bind_some] at hoverlay
        simp [Bindings.contains, hoverlay]
      simp only [Option.isSome_or, Bool.or_eq_true, hinner, List.mem_append]
      constructor
      · rintro ((hindex | ⟨g, hg, hn⟩) | hvalues)
        · exact .inl hindex
        · exact .inr (.inr ⟨g, .inr hg, hn⟩)
        · exact .inr (.inl hvalues)
      · rintro (hindex | hvalues | ⟨g, hg | hg, hn⟩)
        · exact .inl (.inl hindex)
        · exact .inr hvalues
        · exact absurd hn (hnone g hg)
        · exact .inl (.inr ⟨g, hg, hn⟩)

section

variable (values : Bindings Json) (frames : List Frame)

theorem bound_cons (f : Frame) :
    Bound values (f :: frames) = Bound values frames ∪ {n | f.contains n = true} := by
  ext n
  simp only [Bound, List.mem_cons, Set.mem_ofPred_eq, Set.mem_union, exists_eq_or_imp]
  constructor
  · rintro (hindex | hvalues | hf | hframes)
    · exact .inl (.inl hindex)
    · exact .inl (.inr (.inl hvalues))
    · exact .inr hf
    · exact .inl (.inr (.inr hframes))
  · rintro ((hindex | hvalues | hframes) | hf)
    · exact .inl hindex
    · exact .inr (.inl hvalues)
    · exact .inr (.inr (.inr hframes))
    · exact .inr (.inr (.inl hf))

theorem bound_subset_cons (f : Frame) : Bound values frames ⊆ Bound values (f :: frames) := by
  rw [bound_cons]
  exact Set.subset_union_left

@[simp] theorem bound_empty : Bound values (.empty :: frames) = Bound values frames := by
  rw [bound_cons]
  simp [Bindings.contains]

theorem bound_insert (f : Frame) (name : String) (v : Json) :
    Bound values (f.insert name v :: frames) = insert name (Bound values (f :: frames)) := by
  ext n
  simp only [bound_cons, Set.mem_union, Set.mem_insert_iff, Set.mem_ofPred_eq, Bindings.contains,
    Bindings.find?_insert]
  by_cases hname : name = n
  · simp [hname]
  · have hname' : ¬ n = name := fun h => hname h.symm
    simp [hname, hname']

theorem bound_itemFrame (key value : String) (item : Json × Json) :
    Bound values (Engine.itemFrame key value item :: frames) = Bound values frames ∪ {key, value} := by
  unfold Engine.itemFrame
  rw [bound_insert, bound_insert, bound_empty]
  ext n
  simp only [Set.mem_insert_iff, Set.mem_union, Set.mem_singleton_iff]
  tauto

theorem bound_exchangeFrame (exchange : Json × Json) :
    Bound values (Engine.exchangeFrame exchange :: frames) =
      Bound values frames ∪ {Engine.requestName, Engine.responseName} := by
  unfold Engine.exchangeFrame
  rw [bound_insert, bound_insert, bound_empty]
  ext n
  simp only [Set.mem_insert_iff, Set.mem_union, Set.mem_singleton_iff]
  tauto

end

theorem namesOf_nil : namesOf ([] : List (String × α)) = ∅ := by
  simp [namesOf]

theorem union_namesOf_cons (N : Set String) (name : String) (v : α) (entries : List (String × α)) :
    N ∪ namesOf ((name, v) :: entries) = insert name N ∪ namesOf entries := by
  ext n
  simp only [namesOf, List.map_cons, List.mem_cons, Set.mem_union, Set.mem_ofPred_eq,
    Set.mem_insert_iff]
  tauto

theorem bound_foldl_insert (values : Bindings Json) (f : Frame) (frames : List Frame)
    (entries : List (String × Json)) :
    Bound values (entries.foldl (fun f e => f.insert e.1 e.2) f :: frames) =
      Bound values (f :: frames) ∪ namesOf entries := by
  induction entries generalizing f with
  | nil => simp [namesOf_nil]
  | cons e entries ih => rw [List.foldl_cons, ih, bound_insert, union_namesOf_cons]

/-- Values are bound in the innermost frame, and nothing else changes. -/
theorem bindAll_cons {c : Context} {f : Frame} {frames : List Frame} (h : c.frames = f :: frames)
    (entries : List (String × Json)) :
    Engine.bindAll c entries =
      { c with frames := entries.foldl (fun f e => f.insert e.1 e.2) f :: frames } := by
  induction entries generalizing c f with
  | nil =>
      rw [List.foldl_nil, ← h]
      rfl
  | cons e entries ih =>
      have hlocal : c.setLocal e.1 e.2 = { c with frames := f.insert e.1 e.2 :: frames } := by
        unfold Context.setLocal
        rw [h]
      change Engine.bindAll (c.setLocal e.1 e.2) entries = _
      rw [hlocal, ih rfl, List.foldl_cons]

/-- Values that are bound in the innermost frame add their names to those that are bound; nothing else
changes. -/
theorem bindAll_bound {c : Context} {f : Frame} {frames : List Frame} (h : c.frames = f :: frames)
    (entries : List (String × Json)) :
    ∃ f', Engine.bindAll c entries = { c with frames := f' :: frames } ∧
      ∀ values, Bound values (f' :: frames) = Bound values (f :: frames) ∪ namesOf entries :=
  ⟨_, bindAll_cons h entries, fun values => bound_foldl_insert values f frames entries⟩

/-! ## Expressions that are names -/

section

variable {c : Context} {n : String}

theorem names_value (overlay : Option Frame) (hframes : c.frames ≠ [])
    (h : n ∈ Bound c.values (overlay.toList ++ c.frames)) :
    ∃ v, Evaluator.names.value n ⟨c, overlay⟩ = .ok v := by
  obtain ⟨v, hv⟩ := Option.isSome_iff_exists.1 ((lookup_isSome_iff hframes overlay n).2 h)
  refine ⟨v, ?_⟩
  simp [Evaluator.value, Evaluator.names, Evaluator.ofEvaluate, Scope.resolve, hv]

theorem names_holds (overlay : Option Frame) (hframes : c.frames ≠ [])
    (h : n ∈ Bound c.values (overlay.toList ++ c.frames)) :
    ∃ b, Evaluator.names.holds n ⟨c, overlay⟩ = .ok b := by
  obtain ⟨v, hv⟩ := names_value overlay hframes h
  have hresolve : ((⟨c, overlay⟩ : Scope).resolve n).result = .ok v := hv
  refine ⟨v.isTruthy, ?_⟩
  simp [Evaluator.holds, Evaluator.names, Evaluator.ofEvaluate, hresolve, Except.map]

end

end Walkthrough
