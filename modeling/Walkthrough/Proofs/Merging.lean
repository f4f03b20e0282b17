import Walkthrough.Bindings

/-!
# Merging bindings

What a map is that was bound entry by entry (`Bindings.Merges`): every name stands where it was first
bound and has the value that it was bound to last. Extending a map by another keeps this
(`Merges.extend`), and a look-up prefers the other (`find?_extend`). Applying a function to the values may
come before or after (`map_ofList`).
-/

namespace Walkthrough.Bindings

variable {α β : Type}

/-- A map is that of entries in order: its names are in the order in which they first occur, and each has
the value of its last entry. -/
structure Merges (b : Bindings α) (entries : List (String × α)) : Prop where
  keys : b.keys = (entries.map Prod.fst).eraseDups
  values : ∀ name, b.find? name = (entries.reverse.find? fun e => e.1 = name).map Prod.snd

theorem merges_empty : (empty : Bindings α).Merges [] := ⟨rfl, fun _ => rfl⟩

theorem Merges.insert {b : Bindings α} {entries : List (String × α)} (h : b.Merges entries)
    (name : String) (value : α) : (b.insert name value).Merges (entries ++ [(name, value)]) := by
  have hkeys : b.entries.map Prod.fst = (entries.map Prod.fst).eraseDups := h.keys
  constructor
  · show (insertEntry name value b.entries).map Prod.fst = _
    rw [map_fst_insertEntry, hkeys, List.map_append, List.eraseDups_append]
    by_cases hmem : name ∈ entries.map Prod.fst
    · rw [if_pos (List.mem_eraseDups.2 hmem)]
      simp [List.removeAll, hmem]
    · rw [if_neg fun hdup => hmem (List.mem_eraseDups.1 hdup)]
      simp [List.removeAll, hmem, List.eraseDups_cons]
  · intro other
    rw [find?_insert, List.reverse_append]
    by_cases hname : name = other
    · simp [hname]
    · simp [hname, h.values other]

/-- Binding entries in order merges them with those before. -/
theorem Merges.foldl_insert {b : Bindings α} {entries : List (String × α)} (h : b.Merges entries)
    (more : List (String × α)) :
    (more.foldl (fun b e => b.insert e.1 e.2) b).Merges (entries ++ more) := by
  -- on the entries to come; those before are already in the map
  induction more generalizing b entries with
  | nil =>
      rw [List.append_nil]
      exact h
  | cons e more ih =>
      have hrest := ih (h.insert e.1 e.2)
      rw [List.append_assoc] at hrest
      exact hrest

theorem Merges.extend {b : Bindings α} {entries : List (String × α)} (h : b.Merges entries)
    (other : Bindings α) : (b.extend other).Merges (entries ++ other.entries) :=
  h.foldl_insert other.entries

theorem merges_ofList (entries : List (String × α)) : (ofList entries).Merges entries :=
  merges_empty.foldl_insert entries

/-! ## Lists without repeated names -/

theorem findEntry_eq_none {name : String} {es : List (String × α)} (h : name ∉ es.map Prod.fst) :
    findEntry name es = none := by
  induction es with
  | nil => rfl
  | cons e rest ih =>
    obtain ⟨k, v⟩ := e
    rw [List.map_cons, List.mem_cons, not_or] at h
    rw [findEntry, if_neg fun heq => h.1 heq.symm, ih h.2]

/-- What is bound in the other map is found there, everything else where it was found before. -/
theorem find?_extend (b other : Bindings α) (name : String) :
    (b.extend other).find? name = (other.find? name).or (b.find? name) := by
  obtain ⟨es, hnodup⟩ := other
  show (es.foldl (fun b e => b.insert e.1 e.2) b).find? name = (findEntry name es).or (b.find? name)
  induction es generalizing b with
  | nil => rfl
  | cons e rest ih =>
    obtain ⟨k, v⟩ := e
    rw [List.map_cons, List.nodup_cons] at hnodup
    rw [List.foldl_cons, ih _ hnodup.2, find?_insert, findEntry]
    by_cases hk : k = name
    · subst hk
      rw [findEntry_eq_none hnodup.1, if_pos rfl, if_pos rfl]
      rfl
    · rw [if_neg hk, if_neg hk]

theorem insertEntry_of_notMem {name : String} {es : List (String × α)} (value : α)
    (h : name ∉ es.map Prod.fst) : insertEntry name value es = es ++ [(name, value)] := by
  induction es with
  | nil => rfl
  | cons e rest ih =>
    obtain ⟨k, v⟩ := e
    rw [List.map_cons, List.mem_cons, not_or] at h
    rw [insertEntry, if_neg fun heq => h.1 heq.symm, ih h.2, List.cons_append]

theorem entries_foldl_insert (b : Bindings α) (es : List (String × α))
    (h : ((b.entries ++ es).map Prod.fst).Nodup) :
    (es.foldl (fun b e => b.insert e.1 e.2) b).entries = b.entries ++ es := by
  induction es generalizing b with
  | nil => rw [List.foldl_nil, List.append_nil]
  | cons e rest ih =>
    have hnew : e.1 ∉ b.entries.map Prod.fst := by
      rw [List.map_append, List.map_cons] at h
      exact fun hmem => (List.nodup_append.1 h).2.2 _ hmem _ List.mem_cons_self rfl
    have hentries : (b.insert e.1 e.2).entries = b.entries ++ [e] := insertEntry_of_notMem e.2 hnew
    rw [List.foldl_cons, ih, hentries, List.append_assoc, List.singleton_append]
    rw [hentries, List.append_assoc, List.singleton_append]
    exact h

theorem entries_ofList {es : List (String × α)} (h : (es.map Prod.fst).Nodup) :
    (ofList es).entries = es := entries_foldl_insert empty es h

/-! ## Functions of values -/

theorem map_insertEntry (f : α → β) (name : String) (value : α) (es : List (String × α)) :
    (insertEntry name value es).map (fun e => (e.1, f e.2)) =
      insertEntry name (f value) (es.map fun e => (e.1, f e.2)) := by
  induction es with
  | nil => rfl
  | cons e rest ih =>
    obtain ⟨k, v⟩ := e
    by_cases hk : k = name
    · simp [insertEntry, hk]
    · simp [insertEntry, hk, ih]

theorem find?_map (f : α → β) (b : Bindings α) (name : String) : (b.map f).find? name = (b.find? name).map f := by
  show findEntry name (b.entries.map fun e => (e.1, f e.2)) = (findEntry name b.entries).map f
  induction b.entries with
  | nil => rfl
  | cons e rest ih =>
    rw [List.map_cons, findEntry, findEntry, ih]
    split <;> rfl

theorem map_insert (f : α → β) (b : Bindings α) (name : String) (value : α) :
    (b.insert name value).map f = (b.map f).insert name (f value) :=
  Bindings.ext (map_insertEntry f name value b.entries)

theorem map_ofList (f : α → β) (es : List (String × α)) :
    (ofList es).map f = ofList (es.map fun e => (e.1, f e.2)) := by
  have hfold : ∀ b : Bindings α, (es.foldl (fun b e => b.insert e.1 e.2) b).map f =
      (es.map fun e => (e.1, f e.2)).foldl (fun b e => b.insert e.1 e.2) (b.map f) := by
    induction es with
    | nil => exact fun _ => rfl
    | cons e rest ih =>
      intro b
      rw [List.foldl_cons, ih, map_insert, List.map_cons, List.foldl_cons]
  exact hfold empty

end Walkthrough.Bindings
