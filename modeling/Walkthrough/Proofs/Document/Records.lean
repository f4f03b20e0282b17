import Mathlib.Data.List.Forall2
import Walkthrough.Document.Shape
import Walkthrough.Proofs.Fallible
import Walkthrough.Proofs.Merging

/-!
# Reading records

What a record that was read says of the fields it was read from. A field that is written gives its part
of the record, and no other field touches that part; a field that is not written leaves the part as it
was at the start (`readRecord_field`). Every field that is written is known and occurs once (`Fields`).

Values are looked at without their tags: as text (`Value.text?`), as a list (`Value.items`), as a mapping
(`Value.members`) or by what a mapping has under a name (`Value.member?`). Nodes are looked at likewise.

* `valueRecord_member`, `valueRecord_fields` — records of values
* `bindingsOf_bindings`, `stringBindings_binds` — names with values
-/

namespace Walkthrough.Document

open Yaml (Node Value)

theorem forall₂_of_mapM {F α β : Type} {f : α → Except F β} {xs : List α} {ys : List β}
    (h : xs.mapM f = .ok ys) : List.Forall₂ (fun x y => f x = .ok y) xs ys := by
  induction xs generalizing ys with
  | nil =>
    obtain rfl : [] = ys := Except.ok.inj h
    exact .nil
  | cons x xs ih =>
    rw [List.mapM_cons] at h
    obtain ⟨y, hy, h⟩ := bind_eq_ok h
    obtain ⟨ys', hys, h⟩ := bind_eq_ok h
    obtain rfl := Except.ok.inj h
    exact .cons hy (ih hys)

/-! ## Records -/

section

variable {V F α β : Type} {raise : ShapeFault → F} {fields : List (Field V F α)}

/-- What is written under a name. -/
def under (name : String) (entries : List (Except F String × V)) : List V :=
  entries.filterMap fun e => match e.1 with
    | .ok key => if key = name then some e.2 else none
    | .error _ => none

theorem under_cons_self (name : String) (v : V) (entries : List (Except F String × V)) :
    under name ((.ok name, v) :: entries) = v :: under name entries := by
  simp [under]

theorem under_cons_of_ne {key name : String} (hne : key ≠ name) (v : V)
    (entries : List (Except F String × V)) :
    under name ((.ok key, v) :: entries) = under name entries := by
  simp [under, hne]

/-- A field that is read: it is known and new, and the others are read after it. -/
theorem readFields_cons {key : Except F String} {v : V} {entries : List (Except F String × V)}
    {seen seen' : List String} {a a' : α}
    (h : readFields raise fields ((key, v) :: entries) seen a = .ok (a', seen')) :
    ∃ f ∈ fields, key = .ok f.name ∧ f.name ∉ seen ∧
      ∃ a₁, f.read v a = .ok a₁ ∧ readFields raise fields entries (f.name :: seen) a₁ = .ok (a', seen') := by
  rw [readFields] at h
  obtain ⟨k, rfl, hknown⟩ := bind_eq_ok h
  split at hknown
  · exact absurd hknown (by simp)
  · next f hf =>
    have hname : f.name = k := by simpa using List.find?_some hf
    subst hname
    split at hknown
    · exact absurd hknown (by simp)
    · next hseen =>
      obtain ⟨a₁, hread, hrest⟩ := bind_eq_ok hknown
      exact ⟨f, List.mem_of_find?_eq_some hf, rfl, by simpa using hseen, a₁, hread, hrest⟩

theorem readFields_known {entries : List (Except F String × V)} {seen seen' : List String} {a a' : α}
    (h : readFields raise fields entries seen a = .ok (a', seen')) :
    ∀ e ∈ entries, ∃ f ∈ fields, e.1 = .ok f.name := by
  induction entries generalizing seen a with
  | nil => exact fun e he => absurd he (by simp)
  | cons entry entries ih =>
    obtain ⟨key, v⟩ := entry
    obtain ⟨f, hf, rfl, _, a₁, _, hrest⟩ := readFields_cons h
    intro e he
    rcases List.mem_cons.1 he with rfl | he
    · exact ⟨f, hf, rfl⟩
    · exact ih hrest e he

/-- What is seen in the end was seen before or is written. -/
theorem mem_seen_iff {entries : List (Except F String × V)} {seen seen' : List String} {a a' : α}
    (h : readFields raise fields entries seen a = .ok (a', seen')) (name : String) :
    name ∈ seen' ↔ name ∈ seen ∨ under name entries ≠ [] := by
  induction entries generalizing seen a with
  | nil =>
    obtain ⟨_, rfl⟩ := Prod.mk.inj (Except.ok.inj h)
    simp [under]
  | cons entry entries ih =>
    obtain ⟨key, v⟩ := entry
    obtain ⟨f, hf, rfl, _, a₁, _, hrest⟩ := readFields_cons h
    rw [ih hrest, List.mem_cons]
    by_cases hname : f.name = name
    · subst hname
      simp [under_cons_self]
    · rw [under_cons_of_ne hname]
      have hne : name ≠ f.name := fun heq => hname heq.symm
      simp [hne]

/-- A part of a record is that of its field, if the field is written; it is written once, and not if it was
seen before. -/
theorem readFields_field {entries : List (Except F String × V)} {seen seen' : List String} {a a' : α}
    (h : readFields raise fields entries seen a = .ok (a', seen')) (part : α → β) (name : String)
    (P : V → β → Prop)
    (hfields : ∀ f ∈ fields, ∀ v b b', f.read v b = .ok b' →
      if f.name = name then P v (part b') else part b' = part b) :
    (under name entries = [] ∧ part a' = part a) ∨
      ∃ v, under name entries = [v] ∧ P v (part a') ∧ name ∉ seen := by
  induction entries generalizing seen a with
  | nil =>
    obtain ⟨rfl, _⟩ := Prod.mk.inj (Except.ok.inj h)
    exact .inl ⟨rfl, rfl⟩
  | cons entry entries ih =>
    obtain ⟨key, v⟩ := entry
    obtain ⟨f, hf, rfl, hseen, a₁, hread, hrest⟩ := readFields_cons h
    have hfield := hfields f hf v a a₁ hread
    by_cases hname : f.name = name
    · subst hname
      rw [if_pos rfl] at hfield
      rw [under_cons_self]
      -- the field is seen by now, so that it is not written again
      rcases ih hrest with ⟨hnone, hpart⟩ | ⟨v', _, _, hnew⟩
      · exact .inr ⟨v, by rw [hnone], by rw [hpart]; exact hfield, hseen⟩
      · exact absurd List.mem_cons_self hnew
    · rw [if_neg hname] at hfield
      rw [under_cons_of_ne hname]
      rcases ih hrest with ⟨hnone, hpart⟩ | ⟨v', hone, hP, hnew⟩
      · exact .inl ⟨hnone, hpart.trans hfield⟩
      · exact .inr ⟨v', hone, hP, fun hmem => hnew (List.mem_cons_of_mem _ hmem)⟩

variable {start a : α} {entries : List (Except F String × V)}

theorem readFields_of_readRecord (h : readRecord raise fields start entries = .ok a) :
    ∃ seen, readFields raise fields entries [] start = .ok (a, seen) ∧
      ∀ f ∈ fields, f.optional = false → f.name ∈ seen := by
  unfold readRecord at h
  obtain ⟨⟨a', seen⟩, hfields, h⟩ := bind_eq_ok h
  simp only at h
  split at h
  · exact absurd h (by simp)
  · next hnone =>
    obtain rfl := Except.ok.inj h
    refine ⟨seen, hfields, fun f hf hrequired => ?_⟩
    have hseen := List.find?_eq_none.1 hnone f hf
    simpa [hrequired] using hseen

theorem readRecord_known (h : readRecord raise fields start entries = .ok a) :
    ∀ e ∈ entries, ∃ f ∈ fields, e.1 = .ok f.name := by
  obtain ⟨seen, hfields, _⟩ := readFields_of_readRecord h
  exact readFields_known hfields

/-- A part of a record is what its field says, of the value that is written or of none; a field that has to
be written is not asked about none. -/
theorem readRecord_field (h : readRecord raise fields start entries = .ok a) (part : α → β) (name : String)
    (P : Option V → β → Prop)
    (hfields : ∀ f ∈ fields, ∀ v b b', f.read v b = .ok b' →
      if f.name = name then P (some v) (part b') else part b' = part b)
    (hstart : (∃ f ∈ fields, f.name = name ∧ f.optional = false) ∨ P none (part start)) :
    P (under name entries).head? (part a) ∧ (under name entries).length ≤ 1 := by
  obtain ⟨seen, hread, hrequired⟩ := readFields_of_readRecord h
  rcases readFields_field hread part name (fun v => P (some v)) hfields with
    ⟨hnone, hpart⟩ | ⟨v, hone, hP, _⟩
  · rw [hnone, hpart]
    refine ⟨?_, Nat.zero_le 1⟩
    rcases hstart with ⟨f, hf, rfl, hoptional⟩ | hP
    · have hseen := (mem_seen_iff hread f.name).1 (hrequired f hf hoptional)
      simp [hnone] at hseen
    · exact hP
  · rw [hone]
    exact ⟨hP, Nat.le_refl 1⟩

theorem readRecord_once (h : readRecord raise fields start entries = .ok a) (name : String) :
    (under name entries).length ≤ 1 :=
  (readRecord_field h (fun _ => ()) name (fun _ _ => True) (by simp) (.inr trivial)).2

end

/-! ## Entries with names -/

section

variable {K V F α β : Type} {text? : K → Option String} {entries : List (K × V)}

/-- What entries have under a name, each time that it is written. -/
def named (text? : K → Option String) (name : String) (entries : List (K × V)) : List V :=
  entries.filterMap fun e => if text? e.1 = some name then some e.2 else none

/-- Entries have these names only, each at most once. -/
structure Fields (text? : K → Option String) (names : List String) (entries : List (K × V)) : Prop where
  known : ∀ e ∈ entries, ∃ name ∈ names, text? e.1 = some name
  once : ∀ name, (named text? name entries).length ≤ 1

theorem named_perm {entries' : List (K × V)} (h : entries.Perm entries') (name : String) :
    (named text? name entries).Perm (named text? name entries') := h.filterMap _

/-- In another order, the entries of a record have the same under each name. -/
theorem named_eq_of_perm {entries' : List (K × V)} (h : entries.Perm entries') {name : String}
    (honce : (named text? name entries').length ≤ 1) :
    named text? name entries = named text? name entries' := by
  have hperm := @named_perm _ _ text? _ _ h name
  match hlist : named text? name entries', honce with
  | [], _ => exact List.perm_nil.1 (hlist ▸ hperm)
  | [v], _ => exact List.perm_singleton.1 (hlist ▸ hperm)

/-- An entry with a new name is put in front of a record, and its entries are put in another order. -/
theorem Fields.cons_perm {names : List String} {rest : List (K × V)} (h : Fields text? names rest) {k : K}
    {name : String} (hname : text? k = some name) (hnew : name ∉ names) {v : V}
    (hperm : entries.Perm ((k, v) :: rest)) :
    Fields text? (name :: names) entries ∧ (named text? name entries).head? = some v ∧
      ∀ other ∈ names, named text? other entries = named text? other rest := by
  -- the new name is none of those in the rest
  have hnone : named text? name rest = [] := by
    refine List.filterMap_eq_nil_iff.2 fun e he => if_neg fun htext => ?_
    obtain ⟨known, hknown, hkey⟩ := h.known e he
    rw [htext, Option.some.injEq] at hkey
    exact hnew (hkey ▸ hknown)
  have hself : named text? name ((k, v) :: rest) = [v] := by
    rw [named, List.filterMap_cons, if_pos hname]
    exact congrArg (v :: ·) hnone
  have hothers : ∀ other, name ≠ other → named text? other ((k, v) :: rest) = named text? other rest := by
    intro other hne
    have htext : text? k ≠ some other := fun heq => hne (Option.some.inj (hname.symm.trans heq))
    rw [named, List.filterMap_cons, if_neg htext]
    rfl
  have honce : ∀ other, (named text? other ((k, v) :: rest)).length ≤ 1 := by
    intro other
    by_cases hother : name = other
    · rw [← hother, hself]
      exact Nat.le_refl 1
    · rw [hothers other hother]
      exact h.once other
  refine ⟨⟨fun e he => ?_, fun other => ?_⟩, ?_, fun other hother => ?_⟩
  · rcases List.mem_cons.1 (hperm.mem_iff.1 he) with rfl | he
    · exact ⟨name, List.mem_cons_self, hname⟩
    · obtain ⟨known, hknown, hkey⟩ := h.known e he
      exact ⟨known, List.mem_cons_of_mem _ hknown, hkey⟩
  · rw [named_eq_of_perm hperm (honce other)]
    exact honce other
  · rw [named_eq_of_perm hperm (honce name), hself]
    rfl
  · rw [named_eq_of_perm hperm (honce other), hothers other fun heq => hnew (heq ▸ hother)]

theorem under_eq_named {read : K → Except F String} (hread : ∀ k s, read k = .ok s ↔ text? k = some s)
    (name : String) (entries : List (K × V)) :
    under name (entries.map fun e => (read e.1, e.2)) = named text? name entries := by
  unfold under named
  rw [List.filterMap_map]
  refine List.filterMap_congr fun e _ => ?_
  simp only [Function.comp]
  cases hkey : read e.1 with
  | error fault =>
    have hnot : text? e.1 ≠ some name := fun htext => by
      rw [(hread e.1 name).2 htext] at hkey
      exact absurd hkey (by simp)
    exact (if_neg hnot).symm
  | ok key =>
    have htext := (hread e.1 key).1 hkey
    simp [htext]

theorem fields_of_readRecord {raise : ShapeFault → F} {fields : List (Field V F α)} {start a : α}
    {read : K → Except F String} (hread : ∀ k s, read k = .ok s ↔ text? k = some s)
    (h : readRecord raise fields start (entries.map fun e => (read e.1, e.2)) = .ok a) :
    Fields text? (fields.map (·.name)) entries where
  known e he := by
    obtain ⟨f, hf, hname⟩ := readRecord_known h _ (List.mem_map_of_mem he)
    exact ⟨f.name, List.mem_map_of_mem hf, (hread _ _).1 hname⟩
  once name := by
    rw [← under_eq_named hread]
    exact readRecord_once h name

end

end Walkthrough.Document

/-! ## Values -/

namespace Walkthrough.Yaml.Value

open Document (untag named)

/-- The text of a value. -/
def text? (v : Value) : Option String :=
  match untag v with
  | .string s => some s
  | _ => none

/-- The items of a list. -/
def items (v : Value) : List Value :=
  match untag v with
  | .list items => items
  | _ => []

/-- The entries of a mapping. -/
def members (v : Value) : List (Value × Value) :=
  match untag v with
  | .map entries => entries
  | _ => []

/-- What a mapping has under a name. -/
def member? (v : Value) (name : String) : Option Value := (named text? name v.members).head?

/-- What a mapping has under a name; null, if the name is not written. -/
def member (v : Value) (name : String) : Value := (v.member? name).getD .null

/-- The names of a mapping with what stands under them; what is written last counts. -/
def bindings (v : Value) : Bindings Value :=
  .ofList (v.members.filterMap fun e => e.1.text?.map fun name => (name, e.2))

/-- A mapping has names only, and binds them to these texts, however they are read. -/
structure Binds (read : Value → Option String) (v : Value) (b : Bindings String) : Prop where
  names : ∀ e ∈ v.members, e.1.text?.isSome
  texts : v.bindings.map read = b.map some

theorem binds_null {read : Value → Option String} : Binds read .null .empty :=
  ⟨fun _ he => absurd he List.not_mem_nil, rfl⟩

end Walkthrough.Yaml.Value

namespace Walkthrough.Document

open Yaml (Node Value)

section

variable {v : Value}

theorem stringOf_eq_ok (expected : String) (v : Value) (s : String) :
    stringOf expected v = .ok s ↔ v.text? = some s := by
  unfold stringOf Value.text?
  cases untag v <;> simp [misplaced]

theorem stringOrNull_text {s : Option String} (h : stringOrNull v = .ok s) : v.text? = s := by
  unfold stringOrNull at h
  split at h
  · exact Except.ok.inj h
  · obtain ⟨text, htext, rfl⟩ := map_eq_ok h
    exact (stringOf_eq_ok _ _ _).1 htext

theorem itemsOf_items {items : List Value} (h : itemsOf v = .ok items) : v.items = items := by
  unfold itemsOf at h
  unfold Value.items
  cases hv : untag v <;> simp_all [misplaced]

theorem membersOf_members {expected : String} {entries : List (Value × Value)}
    (h : membersOf expected v = .ok entries) : v.members = entries := by
  unfold membersOf at h
  unfold Value.members
  cases hv : untag v <;> simp_all [misplaced]

theorem stringsOf_texts {texts : List String} (h : stringsOf v = .ok texts) :
    v.items.map Value.text? = texts.map some := by
  unfold stringsOf at h
  obtain ⟨items, hitems, hread⟩ := bind_eq_ok h
  rw [itemsOf_items hitems]
  have hall := forall₂_of_mapM hread
  clear h hitems hread
  induction hall with
  | nil => rfl
  | cons hhead _ ih => rw [List.map_cons, List.map_cons, (stringOf_eq_ok _ _ _).1 hhead, ih]

section

variable {α β : Type} {f : Value → β} {g : α → β} {members : List (Value × Value)}
  {entries : List (String × α)}

theorem isSome_of_forall₂
    (h : List.Forall₂ (fun e entry => e.1.text? = some entry.1 ∧ f e.2 = g entry.2) members entries) :
    ∀ e ∈ members, e.1.text?.isSome := by
  induction h with
  | nil => simp
  | cons hhead _ ih => exact List.forall_mem_cons.2 ⟨Option.isSome_of_eq_some hhead.1, ih⟩

theorem filterMap_of_forall₂
    (h : List.Forall₂ (fun e entry => e.1.text? = some entry.1 ∧ f e.2 = g entry.2) members entries) :
    (members.filterMap fun e => e.1.text?.map fun name => (name, e.2)).map (fun e => (e.1, f e.2)) =
      entries.map fun e => (e.1, g e.2) := by
  induction h with
  | nil => rfl
  | cons hhead _ ih =>
    simp only [List.filterMap_cons, hhead.1, Option.map_some, List.map_cons, ih, hhead.2]

end

/-- Names with values that were read are those of the mapping. -/
theorem bindingsOf_bindings {α β : Type} {read : Value → Except ShapeFault α} {f : Value → β} {g : α → β}
    (hread : ∀ v a, read v = .ok a → f v = g a) {b : Bindings α} (h : bindingsOf read v = .ok b) :
    (∀ e ∈ v.members, e.1.text?.isSome) ∧ v.bindings.map f = b.map g := by
  unfold bindingsOf at h
  obtain ⟨members, hmembers, hrest⟩ := bind_eq_ok h
  obtain ⟨entries, hentries, hb⟩ := bind_eq_ok hrest
  obtain rfl := Except.ok.inj hb
  have hall : List.Forall₂ (fun e entry => e.1.text? = some entry.1 ∧ f e.2 = g entry.2) members entries :=
    (forall₂_of_mapM hentries).imp fun e entry hentry => by
      obtain ⟨name, hname, hvalue⟩ := bind_eq_ok hentry
      obtain ⟨a, ha, hpair⟩ := bind_eq_ok hvalue
      obtain rfl := Except.ok.inj hpair
      exact ⟨(stringOf_eq_ok _ _ _).1 hname, hread _ _ ha⟩
  rw [Value.bindings, membersOf_members hmembers, Bindings.map_ofList, Bindings.map_ofList]
  exact ⟨isSome_of_forall₂ hall, congrArg Bindings.ofList (filterMap_of_forall₂ hall)⟩

theorem stringBindings_binds {b : Bindings String} (h : stringBindings v = .ok b) :
    v.Binds Value.text? b := by
  obtain ⟨hnames, htexts⟩ := bindingsOf_bindings (f := Value.text?) (g := some)
    (fun v s => (stringOf_eq_ok _ v s).1) h
  exact ⟨hnames, htexts⟩

variable {α β : Type} {fields : List (Field Value ShapeFault α)} {start a : α} {name : String}

theorem readRecord_of_valueRecord (h : valueRecord name fields start v = .ok a) :
    readRecord id fields start (v.members.map fun e => (stringOf "field identifier" e.1, e.2)) = .ok a := by
  unfold valueRecord at h
  obtain ⟨entries, hentries, h⟩ := bind_eq_ok h
  rw [membersOf_members hentries]
  exact h

theorem valueRecord_fields (h : valueRecord name fields start v = .ok a) :
    Fields Value.text? (fields.map (·.name)) v.members :=
  fields_of_readRecord (stringOf_eq_ok _) (readRecord_of_valueRecord h)

/-- A part of a record is what its field says of the member of the mapping. -/
theorem valueRecord_member? (h : valueRecord name fields start v = .ok a) (part : α → β) (field : String)
    (P : Option Value → β → Prop)
    (hfields : ∀ f ∈ fields, ∀ v b b', f.read v b = .ok b' →
      if f.name = field then P (some v) (part b') else part b' = part b)
    (hstart : (∃ f ∈ fields, f.name = field ∧ f.optional = false) ∨ P none (part start)) :
    P (v.member? field) (part a) := by
  have hpart := (readRecord_field (readRecord_of_valueRecord h) part field P hfields hstart).1
  rw [under_eq_named (stringOf_eq_ok _)] at hpart
  exact hpart

/-- A field that is not written may be read as if it were null. -/
theorem valueRecord_member (h : valueRecord name fields start v = .ok a) (part : α → β) (field : String)
    (P : Value → β → Prop)
    (hfields : ∀ f ∈ fields, ∀ v b b', f.read v b = .ok b' →
      if f.name = field then P v (part b') else part b' = part b)
    (hstart : (∃ f ∈ fields, f.name = field ∧ f.optional = false) ∨ P .null (part start)) :
    P (v.member field) (part a) :=
  valueRecord_member? h part field (fun w => P (w.getD .null)) hfields hstart

end

end Walkthrough.Document
