/-!
# Bindings

A finite map from names to values that remembers the order in which its names were first bound.
Binding a name again replaces its value and keeps its place. Headers, variables, extractions and
frames are all bindings.
-/

namespace Walkthrough

/-- An ordered map from names to values: no name occurs twice. -/
structure Bindings (α : Type) where
  entries : List (String × α)
  nodup : (entries.map Prod.fst).Nodup := by simp

namespace Bindings

variable {α β : Type}

instance : Inhabited (Bindings α) := ⟨⟨[], by simp⟩⟩

instance [DecidableEq α] : DecidableEq (Bindings α) := fun a b =>
  if h : a.entries = b.entries then
    isTrue (by cases a; cases b; simp_all)
  else isFalse fun e => h (e ▸ rfl)

/-- No name is bound. -/
def empty : Bindings α := ⟨[], by simp⟩

instance : EmptyCollection (Bindings α) := ⟨empty⟩

@[ext] theorem ext {a b : Bindings α} (h : a.entries = b.entries) : a = b := by
  cases a; cases b; simp_all

/-- The bound names, in order. -/
def keys (b : Bindings α) : List String := b.entries.map Prod.fst

/-- Nothing is bound. -/
def isEmpty (b : Bindings α) : Bool := b.entries.isEmpty

/-! ## Looking up -/

/-- The value of the first entry with the name. -/
def findEntry (name : String) : List (String × α) → Option α
  | [] => none
  | (k, v) :: rest => if k = name then some v else findEntry name rest

/-- The value bound to a name. -/
def find? (b : Bindings α) (name : String) : Option α := findEntry name b.entries

/-- The name is bound. -/
def contains (b : Bindings α) (name : String) : Bool := (b.find? name).isSome

/-! ## Binding -/

/-- Replace the value of the first entry with the name, or add an entry at the end. -/
def insertEntry (name : String) (value : α) : List (String × α) → List (String × α)
  | [] => [(name, value)]
  | (k, v) :: rest =>
    if k = name then (k, value) :: rest else (k, v) :: insertEntry name value rest

theorem map_fst_insertEntry (name : String) (value : α) (es : List (String × α)) :
    (insertEntry name value es).map Prod.fst =
      if name ∈ es.map Prod.fst then es.map Prod.fst else es.map Prod.fst ++ [name] := by
  induction es with
  | nil => simp [insertEntry]
  | cons e rest ih =>
    obtain ⟨k, v⟩ := e
    by_cases h : k = name
    · simp [insertEntry, h]
    · have h' : ¬ name = k := fun e => h e.symm
      by_cases hm : name ∈ rest.map Prod.fst <;> simp_all [insertEntry]

/-- Bind a name: a bound name keeps its place, a new one goes to the end. -/
def insert (b : Bindings α) (name : String) (value : α) : Bindings α where
  entries := insertEntry name value b.entries
  nodup := by
    rw [map_fst_insertEntry]
    split
    · exact b.nodup
    · rename_i h
      refine List.nodup_append.2 ⟨b.nodup, by simp, ?_⟩
      intro a ha c hc
      simp only [List.mem_singleton] at hc
      subst hc
      exact fun e => h (e ▸ ha)

/-- Bind a list of pairs in order; of two pairs with one name the later gives the value. -/
def ofList (es : List (String × α)) : Bindings α :=
  es.foldl (fun b e => b.insert e.1 e.2) empty

/-- Bind everything of the second map over the first. -/
def extend (b other : Bindings α) : Bindings α :=
  other.entries.foldl (fun b e => b.insert e.1 e.2) b

/-- Forget a name; the others keep their order. -/
def erase (b : Bindings α) (name : String) : Bindings α where
  entries := b.entries.filter fun e => e.1 != name
  nodup := by
    have h := b.nodup
    refine List.Nodup.sublist ?_ h
    exact List.Sublist.map _ List.filter_sublist

/-- Apply a function to every value. -/
def map (f : α → β) (b : Bindings α) : Bindings β where
  entries := b.entries.map fun e => (e.1, f e.2)
  nodup := by
    have h := b.nodup
    simpa [List.map_map, Function.comp_def] using h

/-! ## Laws of look-up -/

@[simp] theorem find?_empty (name : String) : (empty : Bindings α).find? name = none := rfl

theorem findEntry_insertEntry (name other : String) (value : α) (es : List (String × α)) :
    findEntry other (insertEntry name value es) =
      if name = other then some value else findEntry other es := by
  induction es with
  | nil => by_cases h : name = other <;> simp [insertEntry, findEntry, h]
  | cons e rest ih =>
    obtain ⟨k, v⟩ := e
    by_cases hk : k = name
    · subst hk
      by_cases h : k = other <;> simp [insertEntry, findEntry, h]
    · by_cases h : k = other
      · subst h
        have h' : ¬ name = k := fun e => hk e.symm
        simp [insertEntry, findEntry, hk, h']
      · simp [insertEntry, findEntry, hk, h, ih]

/-- The bound name answers the new value, every other name what it answered before. -/
@[simp] theorem find?_insert (b : Bindings α) (name other : String) (value : α) :
    (b.insert name value).find? other = if name = other then some value else b.find? other :=
  findEntry_insertEntry name other value b.entries

/-! ## Laws of names -/

@[simp] theorem keys_empty : (empty : Bindings α).keys = [] := rfl

theorem nodup_keys (b : Bindings α) : b.keys.Nodup := b.nodup

@[simp] theorem mem_keys_insert {b : Bindings α} {name other : String} {value : α} :
    other ∈ (b.insert name value).keys ↔ other ∈ b.keys ∨ other = name := by
  show other ∈ (insertEntry name value b.entries).map Prod.fst ↔ _
  rw [map_fst_insertEntry]
  split
  · rename_i hbound
    exact ⟨.inl, fun h => h.elim id fun e => e ▸ hbound⟩
  · simp [keys]

@[simp] theorem mem_keys_erase {b : Bindings α} {name other : String} :
    other ∈ (b.erase name).keys ↔ other ∈ b.keys ∧ other ≠ name := by
  simp [keys, erase]

end Bindings

end Walkthrough
