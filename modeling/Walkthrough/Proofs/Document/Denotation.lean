import Mathlib.Data.List.Forall2
import Walkthrough.Document.Shape
import Walkthrough.Proofs.Fallible
import Walkthrough.Proofs.Json.Canonical
import Walkthrough.Proofs.Yaml.Meaning

/-!
# What nodes denote

A node denotes a JSON value (`Node.Denotes`) and means a value (`Node.Means`), both said by rules of their own: a
scalar is what it means; lists are arrays and lists, and mappings are objects, in which the last of several
members with one name counts, and mappings, in which no key occurs twice. A tag of the document's own stays with
a value, and nothing that has one denotes a JSON value.

* `jsonOf_iff` — a node is read as the JSON value that it denotes
* `value?_iff` — a node is read as the value that it means
* `Denotes.unique`, `Means.unique` — there are no others
-/

namespace Walkthrough.Yaml

/-! ## Rules -/

/-- What a scalar of a meaning is as a JSON value. A number that is not finite is null. -/
inductive Meaning.AsJson (s : String) : Meaning → Json → Prop
  | null : AsJson s .null .null
  | bool {b} : AsJson s (.bool b) (.bool b)
  | int {w} : AsJson s (.int w) (.number (.int w))
  | float {x : FiniteFloat} : AsJson s (.float x.val) (.number (.float x))
  | infinite {x} : x.isFinite = false → AsJson s (.float x) .null
  | string : AsJson s .string (.string s)

/-- What a scalar of a meaning is as a value. -/
inductive Meaning.AsValue (s : String) : Meaning → Value → Prop
  | null : AsValue s .null .null
  | bool {b} : AsValue s (.bool b) (.bool b)
  | int {w} : AsValue s (.int w) (.int w)
  | float {x} : AsValue s (.float x) (.float x)
  | string : AsValue s .string (.string s)

namespace Node

/-- The text of a scalar. -/
def text? : Node → Option String
  | .scalar _ _ text => some text
  | _ => none

/-- The tag of a node. -/
def tag? : Node → Option String
  | .scalar tag _ _ | .list tag _ | .map tag _ => tag

/-- A node without its tag. -/
def bare : Node → Node
  | .scalar _ plain text => .scalar none plain text
  | .list _ items => .list none items
  | .map _ entries => .map none entries

/-- The JSON value that a node denotes. The members of an object are in the order of their names. -/
inductive Denotes : Node → Json → Prop
  | scalar {tag plain s m j} : ScalarMeans tag plain s m → m.AsJson s j → Denotes (.scalar tag plain s) j
  | list {tag items values} : (∀ t, tag = some t → ¬ IsOwn t) → List.Forall₂ Denotes items values →
      Denotes (.list tag items) (.array values)
  | mapping {tag entries} {written members : List (String × Json)} : (∀ t, tag = some t → ¬ IsOwn t) →
      entries.map (fun e => e.1.text?) = written.map (fun m => some m.1) →
      List.Forall₂ Denotes (entries.map Prod.snd) (written.map Prod.snd) →
      members.Pairwise (fun m m' => m.1 < m'.1) →
      (∀ name : String, members.lookup name = written.reverse.lookup name) →
      Denotes (.map tag entries) (.object members)

/-- The value that a node means. -/
inductive Means : Node → Value → Prop
  | scalar {tag plain s m v} : ScalarMeans tag plain s m → m.AsValue s v → Means (.scalar tag plain s) v
  | list {tag items values} : (∀ t, tag = some t → ¬ IsOwn t) → List.Forall₂ Means items values →
      Means (.list tag items) (.list values)
  | mapping {tag entries} {values : List (Value × Value)} : (∀ t, tag = some t → ¬ IsOwn t) →
      List.Forall₂ Means (entries.map Prod.fst) (values.map Prod.fst) →
      List.Forall₂ Means (entries.map Prod.snd) (values.map Prod.snd) →
      values.Pairwise (fun e e' => Value.same e.1 e'.1 = false) → Means (.map tag entries) (.map values)
  | tagged {n : Node} {tag name v} : n.tag? = some tag → OwnName tag name → Means n.bare v →
      Means n (.tagged name v)

/-- The key of an entry is a name, and its node denotes a value. -/
def Binds (e : Node × Node) (m : String × Json) : Prop := e.1.text? = some m.1 ∧ e.2.Denotes m.2

/-- Lists of pairs are related part by part. -/
theorem forall₂_pairs_iff {α β γ δ : Type} {R : α → γ → Prop} {S : β → δ → Prop} {l : List (α × β)}
    {l' : List (γ × δ)} : List.Forall₂ (fun e e' => R e.1 e'.1 ∧ S e.2 e'.2) l l' ↔
      List.Forall₂ R (l.map Prod.fst) (l'.map Prod.fst) ∧ List.Forall₂ S (l.map Prod.snd) (l'.map Prod.snd) := by
  induction l generalizing l' with
  | nil => cases l' <;> simp
  | cons e l ih =>
    cases l' with
    | nil => simp
    | cons e' l' =>
      simp only [List.map_cons, List.forall₂_cons, ih]
      exact and_and_and_comm

/-- Entries bind members if they have their names, and their nodes denote the values of the members. -/
theorem binds_iff {entries : List (Node × Node)} {members : List (String × Json)} :
    List.Forall₂ Binds entries members ↔
      entries.map (fun e => e.1.text?) = members.map (fun m => some m.1) ∧
        List.Forall₂ Denotes (entries.map Prod.snd) (members.map Prod.snd) := by
  have hnames : List.Forall₂ (fun (k : Node) (name : String) => k.text? = some name) (entries.map Prod.fst)
      (members.map Prod.fst) ↔ entries.map (fun e => e.1.text?) = members.map (fun m => some m.1) := by
    rw [List.forall₂_map_left_iff, List.forall₂_map_right_iff, ← List.forall₂_eq_eq_eq,
      List.forall₂_map_left_iff, List.forall₂_map_right_iff]
  rw [← hnames]
  exact forall₂_pairs_iff (R := fun (k : Node) (name : String) => k.text? = some name) (S := Denotes)

end Node

/-! ## Values -/

theorem asValue_iff {s : String} {m : Meaning} {v : Value} : m.value? s = some v ↔ m.AsValue s v := by
  constructor
  · intro h
    cases m with
    | wide => exact absurd h (by simp [Meaning.value?])
    | null | bool | int | float | string =>
      obtain rfl := Option.some.inj h
      constructor
  · rintro ⟨⟩ <;> rfl

theorem distinctKeys_iff (entries : List (Value × Value)) : Value.distinctKeys entries = true ↔
    entries.Pairwise fun e e' => Value.same e.1 e'.1 = false := by
  induction entries with
  | nil => simp [Value.distinctKeys]
  | cons e entries ih => simp [Value.distinctKeys, ih]

namespace Node

theorem withTag_of_not_own {tag : Option String} (hown : ∀ t, tag = some t → ¬ IsOwn t) (v : Value) :
    withTag tag v = v := by
  rw [withTag, (keptTag?_eq_none_iff tag).2 hown]

/-- A tag of the document's own stays with the value that a node has without it. -/
theorem value?_of_own {n : Node} {tag name : String} (htag : n.tag? = some tag) (hname : OwnName tag name) :
    n.value? = n.bare.value?.map (.tagged name) := by
  have hkept := (keptTag?_iff tag name).2 hname
  have hnone : keptTag? none = none := rfl
  cases n with
  | scalar tag' plain s =>
    obtain rfl : tag' = some tag := htag
    simp only [bare, value?, withTag, hkept, hnone, Option.isSome_some, if_true, ite_self]
    cases meaning? none plain s with
    | none => rfl
    | some m => cases m <;> rfl
  | list tag' items =>
    obtain rfl : tag' = some tag := htag
    simp only [bare, value?, withTag, hkept, hnone]
    cases valuesOf? items <;> rfl
  | map tag' entries =>
    obtain rfl : tag' = some tag := htag
    simp only [bare, value?, withTag, hkept, hnone]
    cases entriesOf? entries with
    | none => rfl
    | some es => by_cases hdistinct : Value.distinctKeys es = true <;> simp [hdistinct]

/-- So it does with the value that the node means. -/
theorem Means.of_own {n : Node} {tag name : String} {v : Value} (h : n.Means v) (htag : n.tag? = some tag)
    (hname : OwnName tag name) : ∃ u, n.bare.Means u ∧ .tagged name u = v := by
  cases h with
  | scalar hmeans => exact absurd ⟨name, hname⟩ (hmeans.not_isOwn tag htag)
  | list hown => exact absurd ⟨name, hname⟩ (hown tag htag)
  | mapping hown => exact absurd ⟨name, hname⟩ (hown tag htag)
  | @tagged _ tag' name' u htag' hname' hbare =>
    obtain rfl : tag' = tag := Option.some.inj (htag'.symm.trans htag)
    have hkept := (keptTag?_iff tag' name').2 hname'
    obtain rfl : name' = name := Option.some.inj (hkept.symm.trans ((keptTag?_iff tag' name).2 hname))
    exact ⟨u, hbare, rfl⟩

/-- It is enough to read nodes without a tag of the document's own as what they mean. -/
theorem value?_iff_of_not_own (shape : Option String → Node) (htag : ∀ tag, (shape tag).tag? = tag)
    (hbare : ∀ tag, (shape tag).bare = shape none)
    (h : ∀ tag, (∀ t, tag = some t → ¬ IsOwn t) → ∀ v, (shape tag).value? = some v ↔ (shape tag).Means v)
    (tag : Option String) (v : Value) : (shape tag).value? = some v ↔ (shape tag).Means v := by
  by_cases hown : ∀ t, tag = some t → ¬ IsOwn t
  · exact h tag hown v
  push Not at hown
  obtain ⟨t, rfl, name, hname⟩ := hown
  have hplain := h none (by simp)
  rw [value?_of_own (htag _) hname, hbare, Option.map_eq_some_iff]
  constructor
  · rintro ⟨u, hu, rfl⟩
    refine .tagged (htag _) hname ?_
    rw [hbare]
    exact (hplain u).1 hu
  · intro hmeans
    obtain ⟨u, hu, rfl⟩ := hmeans.of_own (htag _) hname
    rw [hbare] at hu
    exact ⟨u, (hplain u).2 hu, rfl⟩

mutual

/-- A node is read as the value that it means. -/
theorem value?_iff : (n : Node) → ∀ {v : Value}, n.value? = some v ↔ n.Means v
  | .scalar tag plain s => by
    refine value?_iff_of_not_own (.scalar · plain s) (fun _ => rfl) (fun _ => rfl) (fun tag hown v => ?_) tag _
    have hkept := (keptTag?_eq_none_iff tag).2 hown
    simp only [value?, hkept, withTag, Option.isSome_none, Bool.false_eq_true, if_false]
    constructor
    · intro h
      obtain ⟨m, hm, h⟩ := Option.bind_eq_some_iff.1 h
      obtain ⟨u, hu, huv⟩ := Option.bind_eq_some_iff.1 h
      obtain rfl := Option.some.inj huv
      exact .scalar ((meaning?_iff hown plain s m).1 hm) (asValue_iff.1 hu)
    · intro h
      cases h with
      | @scalar _ _ _ m _ hmeans hvalue =>
        rw [(meaning?_iff hown plain s m).2 hmeans]
        show (m.value? s >>= _) = _
        rw [asValue_iff.2 hvalue]
        rfl
      | @tagged _ t name _ htag hname => exact absurd ⟨name, hname⟩ (hown t htag)
  | .list tag items => by
    refine value?_iff_of_not_own (.list · items) (fun _ => rfl) (fun _ => rfl) (fun tag hown v => ?_) tag _
    simp only [value?, withTag_of_not_own hown]
    constructor
    · intro h
      obtain ⟨vs, hvs, hv⟩ := Option.bind_eq_some_iff.1 h
      obtain rfl := Option.some.inj hv
      exact .list hown ((valuesOf?_iff items).1 hvs)
    · intro h
      cases h with
      | list _ hvs =>
        rw [(valuesOf?_iff items).2 hvs]
        rfl
      | @tagged _ t name _ htag hname => exact absurd ⟨name, hname⟩ (hown t htag)
  | .map tag entries => by
    refine value?_iff_of_not_own (.map · entries) (fun _ => rfl) (fun _ => rfl) (fun tag hown v => ?_) tag _
    simp only [value?, withTag_of_not_own hown]
    constructor
    · intro h
      obtain ⟨es, hes, h⟩ := Option.bind_eq_some_iff.1 h
      split at h
      · next hdistinct =>
        obtain rfl := Option.some.inj h
        obtain ⟨hkeys, hvalues⟩ := forall₂_pairs_iff.1 ((entriesOf?_iff entries).1 hes)
        exact .mapping hown hkeys hvalues ((distinctKeys_iff es).1 hdistinct)
      · exact absurd h (by simp)
    · intro h
      cases h with
      | @mapping _ _ es _ hkeys hvalues hdistinct =>
        rw [(entriesOf?_iff entries).2 (forall₂_pairs_iff.2 ⟨hkeys, hvalues⟩)]
        exact if_pos ((distinctKeys_iff es).2 hdistinct)
      | @tagged _ t name _ htag hname => exact absurd ⟨name, hname⟩ (hown t htag)

/-- Nodes are read as the values that they mean. -/
theorem valuesOf?_iff : (nodes : List Node) → ∀ {vs : List Value},
    valuesOf? nodes = some vs ↔ List.Forall₂ Means nodes vs
  | [] => by
    rw [valuesOf?, Option.some.injEq, List.forall₂_nil_left_iff]
    exact eq_comm
  | n :: rest => by
    rw [valuesOf?]
    constructor
    · intro h
      obtain ⟨v, hv, h⟩ := Option.bind_eq_some_iff.1 h
      obtain ⟨more, hmore, hvs⟩ := Option.bind_eq_some_iff.1 h
      obtain rfl := Option.some.inj hvs
      exact .cons ((value?_iff n).1 hv) ((valuesOf?_iff rest).1 hmore)
    · rintro (_ | ⟨hv, hvs⟩)
      rw [(value?_iff n).2 hv, (valuesOf?_iff rest).2 hvs]
      rfl

/-- Entries are read as the keys and values that they mean. -/
theorem entriesOf?_iff : (entries : List (Node × Node)) → ∀ {es : List (Value × Value)},
    entriesOf? entries = some es ↔
      List.Forall₂ (fun e e' => e.1.Means e'.1 ∧ e.2.Means e'.2) entries es
  | [] => by
    rw [entriesOf?, Option.some.injEq, List.forall₂_nil_left_iff]
    exact eq_comm
  | (k, n) :: rest => by
    rw [entriesOf?]
    constructor
    · intro h
      obtain ⟨key, hkey, h⟩ := Option.bind_eq_some_iff.1 h
      obtain ⟨v, hv, h⟩ := Option.bind_eq_some_iff.1 h
      obtain ⟨more, hmore, hes⟩ := Option.bind_eq_some_iff.1 h
      obtain rfl := Option.some.inj hes
      exact .cons ⟨(value?_iff k).1 hkey, (value?_iff n).1 hv⟩ ((entriesOf?_iff rest).1 hmore)
    · rintro (_ | ⟨⟨hkey, hv⟩, hes⟩)
      rw [(value?_iff k).2 hkey, (value?_iff n).2 hv, (entriesOf?_iff rest).2 hes]
      rfl

end

/-- A node means one value at most. -/
theorem Means.unique {n : Node} {v v' : Value} (h : n.Means v) (h' : n.Means v') : v = v' :=
  Option.some.inj (((value?_iff n).2 h).symm.trans ((value?_iff n).2 h'))

end Node

end Walkthrough.Yaml

namespace Walkthrough.Document

open Yaml (Node)

/-! ## JSON values -/

theorem textOf_eq_ok (path : Option String) (expected : String) (n : Node) (s : String) :
    textOf path expected n = .ok s ↔ n.text? = some s := by
  cases n <;> simp [textOf, Node.text?, unexpected]

/-- Nothing that has a tag of the document's own is read as a JSON value. -/
theorem unless_tagged_iff {path tag : Option String} {x : Except Fault Json} {j : Json} :
    (if (Yaml.keptTag? tag).isSome then taggedJson path else x) = .ok j ↔
      (∀ t, tag = some t → ¬ Yaml.IsOwn t) ∧ x = .ok j := by
  rw [← Yaml.keptTag?_eq_none_iff]
  cases Yaml.keptTag? tag <;> simp [taggedJson]

theorem asJson_float_iff (s : String) (x : Float) (j : Json) :
    (Yaml.Meaning.float x).AsJson s j ↔ Json.ofFloat x = j := by
  constructor
  · intro h
    cases h with
    | float => rw [Json.ofFloat, FiniteFloat.ofFloat?_val]
    | infinite hinfinite => rw [Json.ofFloat, FiniteFloat.ofFloat?, dif_neg (by simp [hinfinite])]
  · rintro rfl
    unfold Json.ofFloat FiniteFloat.ofFloat?
    by_cases hfinite : x.isFinite = true
    · rw [dif_pos hfinite]
      exact .float (x := ⟨x, hfinite⟩)
    · rw [dif_neg hfinite]
      exact .infinite (by simpa using hfinite)

theorem jsonOf_scalar_iff {path tag : Option String} {plain : Bool} {s : String} {j : Json} :
    jsonOf path (.scalar tag plain s) = .ok j ↔ Node.Denotes (.scalar tag plain s) j := by
  rw [jsonOf, unless_tagged_iff]
  constructor
  · rintro ⟨hown, h⟩
    cases hmeaning : Yaml.meaning? tag plain s with
    | none => exact absurd h (by simp [hmeaning])
    | some m =>
      refine .scalar ((Yaml.meaning?_iff hown plain s m).1 hmeaning) ?_
      rw [hmeaning] at h
      cases m with
      | wide => exact absurd h (by simp)
      | null | bool | int | string =>
        obtain rfl := Except.ok.inj h
        constructor
      | float x => exact (asJson_float_iff s x j).2 (Except.ok.inj h)
  · intro h
    cases h with
    | @scalar _ _ _ m _ hmeans hjson =>
      refine ⟨hmeans.not_isOwn, ?_⟩
      rw [(Yaml.meaning?_iff hmeans.not_isOwn plain s m).2 hmeans]
      cases m with
      | wide => exact absurd hjson (by rintro ⟨⟩)
      | null | bool | int | string =>
        cases hjson
        rfl
      | float x => exact congrArg Except.ok ((asJson_float_iff s x j).1 hjson)

mutual

/-- A node is read as the JSON value that it denotes. -/
theorem jsonOf_iff : (n : Node) → ∀ {path : Option String} {j : Json}, jsonOf path n = .ok j ↔ n.Denotes j
  | .scalar tag plain s => jsonOf_scalar_iff
  | .list tag items => by
    rw [jsonOf, unless_tagged_iff]
    constructor
    · rintro ⟨hown, h⟩
      obtain ⟨values, hvalues, rfl⟩ := map_eq_ok h
      exact .list hown ((jsonItems_iff items).1 hvalues)
    · intro h
      cases h with
      | list hown hvalues => exact ⟨hown, by rw [(jsonItems_iff items).2 hvalues, Except.map]⟩
  | .map tag entries => by
    rw [jsonOf, unless_tagged_iff]
    constructor
    · rintro ⟨hown, h⟩
      obtain ⟨written, hwritten, rfl⟩ := map_eq_ok h
      obtain ⟨hnames, hvalues⟩ := Node.binds_iff.1 ((jsonMembers_iff entries).1 hwritten)
      exact .mapping hown hnames hvalues (Json.sorted_sortMembers written) (Json.lookup_sortMembers written)
    · intro h
      cases h with
      | @mapping _ _ written members hown hnames hvalues hsorted hlookup =>
        have hmembers : Json.sortMembers written = members := by
          refine (Json.sorted_sortMembers written).ext hsorted fun name => ?_
          rw [Json.lookup_sortMembers, hlookup]
        rw [(jsonMembers_iff entries).2 (Node.binds_iff.2 ⟨hnames, hvalues⟩), Except.map, hmembers]
        exact ⟨hown, rfl⟩

/-- Items are read as what they denote. -/
theorem jsonItems_iff : (items : List Node) → ∀ {path : Option String} {index : Nat} {values : List Json},
    jsonItems path index items = .ok values ↔ List.Forall₂ Node.Denotes items values
  | [] => by
    rw [jsonItems, Except.ok.injEq, List.forall₂_nil_left_iff]
    exact eq_comm
  | n :: rest => by
    rw [jsonItems]
    constructor
    · intro h
      obtain ⟨v, hv, hmore⟩ := bind_eq_ok h
      obtain ⟨vs, hvs, hvalues⟩ := bind_eq_ok hmore
      obtain rfl := Except.ok.inj hvalues
      exact .cons ((jsonOf_iff n).1 hv) ((jsonItems_iff rest).1 hvs)
    · rintro (_ | ⟨hv, hvs⟩)
      rw [(jsonOf_iff n).2 hv, (jsonItems_iff rest).2 hvs]
      rfl

/-- Entries are read as the members that they bind. -/
theorem jsonMembers_iff : (entries : List (Node × Node)) → ∀ {path : Option String} {expected : String}
    {members : List (String × Json)}, jsonMembers path expected entries = .ok members ↔
      List.Forall₂ Node.Binds entries members
  | [] => by
    rw [jsonMembers, Except.ok.injEq, List.forall₂_nil_left_iff]
    exact eq_comm
  | (k, n) :: rest => by
    rw [jsonMembers]
    constructor
    · intro h
      obtain ⟨name, hname, hmore⟩ := bind_eq_ok h
      obtain ⟨v, hv, hmore⟩ := bind_eq_ok hmore
      obtain ⟨more, hrest, hmembers⟩ := bind_eq_ok hmore
      obtain rfl := Except.ok.inj hmembers
      exact .cons ⟨(textOf_eq_ok _ _ k name).1 hname, (jsonOf_iff n).1 hv⟩ ((jsonMembers_iff rest).1 hrest)
    · rintro (_ | ⟨⟨hname, hv⟩, hrest⟩)
      rw [(textOf_eq_ok _ _ k _).2 hname]
      show (jsonOf _ n >>= _) = _
      rw [(jsonOf_iff n).2 hv]
      show (jsonMembers _ _ rest >>= _) = _
      rw [(jsonMembers_iff rest).2 hrest]
      rfl

end

end Walkthrough.Document

namespace Walkthrough.Yaml.Node

/-- A node denotes one JSON value at most. -/
theorem Denotes.unique {n : Node} {j j' : Json} (h : n.Denotes j) (h' : n.Denotes j') : j = j' := by
  have hread : Document.jsonOf none n = .ok j := (Document.jsonOf_iff n).2 h
  exact Except.ok.inj (hread.symm.trans ((Document.jsonOf_iff n).2 h'))

end Walkthrough.Yaml.Node
