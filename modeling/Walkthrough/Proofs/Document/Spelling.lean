import Walkthrough.Proofs.Document.Layout
import Walkthrough.Proofs.Document.Records

/-!
# Steps as they are written

What a mapping of a document says of a step (`Tells`): it has one field that names the kind of the step,
under which there is what the step does (`Says`), and fields that every step may have. A script spells out
a list of mappings if each of its steps is told by the mapping in its place, and so is what it contains
(`Spells`).

* `header_tells` — the fields of a step
* `read_tells` — a step that is read
* `spells_of_lays` — outlines that are read from mappings are laid out as these spell out
-/

namespace Walkthrough

open Yaml (Value)
open Document

/-! ## What mappings say -/

/-- The field that names a kind of steps. -/
def Tag.keyword : Tag → String
  | .choice => "if"
  | tag => tag.name

/-- The fields that every step may have. -/
def commonNames : List String := ["uuid", "name", "headers", "set", "expect"]

/-- The aspects of a visit, in order. -/
def visitNames : List String := ["url", "method", "body"]

/-- An aspect of a visit is named or numbered. -/
def visitKey : Value → Option String
  | .int n => if 0 ≤ n.val then visitNames[n.val.toNat]? else none
  | k => k.text?

/-- What is written of an aspect of a visit: in a mapping, in a list in order, or the address on its own. -/
def visited (body : Value) (name : String) : Option Value :=
  match body with
  | .map entries => (named visitKey name entries).head?
  | .list items => items[visitNames.idxOf name]?
  | v => if name = "url" then some v else none

/-- The text of a member that stands for something if it is not written. -/
def textOr (assumed : String) : Option Value → Option String
  | none => some assumed
  | some v => v.text?

/-- What is written under the kind of a step says what the step does. -/
def Says (body : Value) : Action → Prop
  | .visit url method content _ =>
    (visited body "url").bind Value.text? = some url ∧ (visited body "method").bind Value.text? = method ∧
      (visited body "body").bind Value.text? = content
  | .click link _ => body.text? = some link
  | .reload _ | .follow _ | .empty => body = .null ∨ body = .map []
  | .block declarations _ => (body.member "variables").Binds Outline.declaration? declarations
  | .each collection key value _ =>
    (body.member "over").text? = some collection ∧ textOr "key" (body.member? "key") = some key ∧
      textOr "value" (body.member? "value") = some value
  | .repeated condition _ | .choice condition _ _ => (body.member "condition").text? = some condition

/-- What the fields that every step may have say: its identifier and its name, headers, extractions and
assertions. -/
structure TellsCommon (v : Value) (label : Label) (leaf : Leaf) : Prop where
  uuid : (v.member "uuid").text? = label.uuid
  name : (v.member "name").text? = label.name
  headers : (v.member "headers").Binds Value.text? leaf.headers
  extractions : (v.member "set").Binds Value.text? leaf.extractions
  assertions : (v.member "expect").items.map Value.text? = leaf.assertions.map some

theorem TellsCommon.congr {v w : Value} {label : Label} {leaf : Leaf} (h : TellsCommon v label leaf)
    (hsame : ∀ name ∈ commonNames, w.member name = v.member name) : TellsCommon w label leaf where
  uuid := by rw [hsame "uuid" (by decide), h.uuid]
  name := by rw [hsame "name" (by decide), h.name]
  headers := hsame "headers" (by decide) ▸ h.headers
  extractions := hsame "set" (by decide) ▸ h.extractions
  assertions := by rw [hsame "expect" (by decide), h.assertions]

/-- A mapping tells of a step: of its kind and what it does, of its identifier and its name, and, if it makes
a request, of headers, extractions and assertions. Nothing else is written. -/
structure Tells (v : Value) (label : Label) (action : Action) : Prop where
  kind : (v.member? action.tag.keyword).isSome
  fields : Fields Value.text? (action.tag.keyword :: commonNames) v.members
  content : Says (v.member action.tag.keyword) action
  common : TellsCommon v label (action.leaf?.getD ⟨.empty, .empty, []⟩)

/-- The mappings of the steps that a step contains; of a choice, those for a condition that holds. -/
def inside (v : Value) : Tag → List Value
  | .block => ((v.member "block").member "steps").items
  | .each => ((v.member "loop").member "steps").items
  | .repeated => ((v.member "while").member "steps").items
  | .choice => ((v.member "if").member "then").items
  | _ => []

/-- The mappings of the steps of the other branch of a choice. -/
def beside (v : Value) : Tag → List Value
  | .choice => ((v.member "if").member "else").items
  | _ => []

/-- Mappings spell out a script: each tells of the step in its place, which gets a fresh identifier if none is
written, and what is written inside of it spells out what the step contains. -/
inductive Spells (fresh : Nat → String) : List Value → Script → Prop
  | stop : Spells fresh [] .stop
  | step {v vs uuid? p s inner other rest} :
      Tells v ⟨uuid?, s.name⟩ s.action → s.uuid = uuid?.getD (fresh p) →
      Spells fresh (inside v s.tag) inner → Spells fresh (beside v s.tag) other →
      Spells fresh vs rest → Spells fresh (v :: vs) (.step p s inner other rest)

namespace Outline

/-! ## Headers of steps -/

theorem eq_of_same_string {v : Value} {s : String} (h : v.same (.string s)) : v = .string s := by
  cases v <;> simp_all [Value.same]

open scoped List in
/-- An item is put in front, and the last one moves to its place. -/
theorem perm_cons_dropLast_set {α : Type} {items : List α} {i : Nat} (hi : i + 1 < items.length)
    {last : α} (hlast : items.getLast? = some last) :
    items.Perm (items[i] :: (items.set i last).dropLast) := by
  obtain ⟨init, rfl⟩ := List.getLast?_eq_some_iff.1 hlast
  have hi' : i < init.length := by simpa using hi
  have hleft : (init ++ [last])[i] = init[i] := List.getElem_append_left hi'
  have hset : ((init ++ [last]).set i last).dropLast = init.set i last := by
    rw [List.set_append_left _ _ hi', List.dropLast_concat]
  rw [hleft, hset]
  calc init ++ [last]
    _ ~ last :: init := List.perm_append_singleton last init
    _ ~ last :: init[i] :: init.eraseIdx i := (List.getElem_cons_eraseIdx_perm hi').symm.cons last
    _ ~ init[i] :: last :: init.eraseIdx i := .swap _ _ _
    _ ~ init[i] :: init.set i last := (List.set_perm_cons_eraseIdx hi' last).symm.cons _

/-- The entry is taken out, and the others are left in some order. -/
theorem takeOut_perm {name : String} {entries rest : List (Value × Value)} {body : Value}
    (h : takeOut name entries = (body, rest)) (hmem : entries.any fun e => e.1.same (.string name)) :
    entries.Perm ((.string name, body) :: rest) := by
  unfold takeOut at h
  split at h
  · next hnone =>
    obtain ⟨e, he, hsame⟩ := List.any_eq_true.1 hmem
    exact absurd hsame (by simpa using List.findIdx?_eq_none_iff.1 hnone e he)
  · next i hfound =>
    obtain ⟨hi, hsame, -⟩ := List.findIdx?_eq_some_iff_getElem.1 hfound
    have hentry : (.string name, entries[i].2) = entries[i] := by
      rw [← eq_of_same_string hsame]
    rw [List.getElem?_eq_getElem hi, Option.map_some, Option.getD_some] at h
    split at h
    · next last hlast =>
      split at h
      · next hend =>
        -- the entry is itself the last
        obtain ⟨rfl, rfl⟩ := Prod.mk.inj h
        obtain ⟨init, rfl⟩ := List.getLast?_eq_some_iff.1 hlast
        have hi : i = init.length := by simpa using hend
        subst hi
        rw [hentry, List.getElem_concat_length rfl, List.dropLast_concat]
        exact List.perm_append_singleton last init
      · next hmore =>
        obtain ⟨rfl, rfl⟩ := Prod.mk.inj h
        rw [hentry]
        exact perm_cons_dropLast_set (by omega) hlast
    · next hnone =>
      rw [List.getLast?_eq_none_iff.1 hnone] at hi
      exact absurd hi (Nat.not_lt_zero i)

theorem commonRecord_tells {name : String} {v : Value} {common : Common}
    (h : valueRecord name Common.fields Common.none v = .ok common) :
    TellsCommon v common.label common.leaf where
  uuid := by
    refine valueRecord_member h (·.label.uuid) "uuid" (fun w s => w.text? = s) ?_ (.inr rfl)
    simp +contextual [Common.fields, forall_map_eq_ok, stringOrNull_text]
  name := by
    refine valueRecord_member h (·.label.name) "name" (fun w s => w.text? = s) ?_ (.inr rfl)
    simp +contextual [Common.fields, forall_map_eq_ok, stringOrNull_text]
  headers := by
    refine valueRecord_member h (·.leaf.headers) "headers"
      (fun w b => w.Binds Value.text? b) ?_ (.inr Value.binds_null)
    simp +contextual [Common.fields, forall_map_eq_ok, stringBindings_binds]
  extractions := by
    refine valueRecord_member h (·.leaf.extractions) "set"
      (fun w b => w.Binds Value.text? b) ?_ (.inr Value.binds_null)
    simp +contextual [Common.fields, forall_map_eq_ok, stringBindings_binds]
  assertions := by
    refine valueRecord_member h (·.leaf.assertions) "expect"
      (fun w texts => w.items.map Value.text? = texts.map some) ?_ (.inr rfl)
    simp +contextual [Common.fields, forall_map_eq_ok, stringsOf_texts]

theorem notMem_commonNames {kind : String} (h : kind ∈ kinds) : kind ∉ commonNames := by
  revert kind
  decide

theorem inStep_eq_ok {α : Type} {path : String} {x : Except ShapeFault α} {a : α}
    (h : inStep path x = .ok a) : x = .ok a := by
  cases x with
  | error fault => exact absurd h (by simp [inStep])
  | ok b => rw [Except.ok.inj h]

/-- A step is a mapping with one kind, and otherwise the fields that every step may have. -/
theorem header_tells {path kind : String} {v body : Value} {common : Common}
    (h : header path v = .ok (kind, body, common)) :
    kind ∈ kinds ∧ v.member? kind = some body ∧ Fields Value.text? (kind :: commonNames) v.members ∧
      TellsCommon v common.label common.leaf := by
  unfold header at h
  split at h
  · next entries hentries =>
    have hmembers : v.members = entries := by rw [Value.members, hentries]
    split at h
    · exact absurd h (by simp)
    · next kind' hkinds =>
      have hkind : kind' ∈ kinds ∧ (entries.any fun e => e.1.same (.string kind')) = true :=
        List.mem_filter.1 (hkinds ▸ List.mem_singleton_self kind')
      rcases htake : takeOut kind' entries with ⟨body', rest⟩
      rw [htake] at h
      obtain ⟨common', hcommon, hpair⟩ := bind_eq_ok h
      obtain ⟨rfl, rfl, rfl⟩ : kind' = kind ∧ body' = body ∧ common' = common := by
        simpa [pure, Except.pure] using hpair
      have hrecord := inStep_eq_ok hcommon
      obtain ⟨hfields, hbody, hsame⟩ := (valueRecord_fields hrecord).cons_perm
        (k := Value.string kind') rfl (notMem_commonNames hkind.1) (takeOut_perm htake hkind.2)
      refine ⟨hkind.1, ?_, ?_, (commonRecord_tells hrecord).congr fun name hname => ?_⟩
      · rw [Value.member?, hmembers, hbody]
      · rw [hmembers]
        exact hfields
      · rw [Value.member, Value.member, Value.member?, Value.member?, hmembers, hsame name hname]
    · exact absurd h (by simp)
  · exact absurd h (by simp)

/-! ## Visits -/

theorem fieldName_eq_ok (k : Value) (name : String) :
    Visit.fieldName k = .ok name ↔ visitKey k = some name := by
  cases k with
  | int n =>
    have hnames : visitNames = Visit.fields.map (·.name) := rfl
    unfold Visit.fieldName visitKey
    simp only [hnames, List.getElem?_map]
    cases hf : Visit.fields[n.val.toNat]? with
    | none => simp [misplaced]
    | some f =>
      by_cases hn : 0 ≤ n.val
      · simp [hn]
      · simp [hn, misplaced]
  | null | bool | float | string | list | map | tagged =>
    simp only [Visit.fieldName, visitKey, stringOf_eq_ok]

/-- What is written of the aspects of a visit. -/
theorem visit_parts {entries : List (Except ShapeFault String × Value)} {d : Visit}
    (h : readRecord id Visit.fields ⟨"", none, none⟩ entries = .ok d) :
    (under "url" entries).head?.bind Value.text? = some d.url ∧
      (under "method" entries).head?.bind Value.text? = d.method ∧
      (under "body" entries).head?.bind Value.text? = d.body := by
  refine ⟨?_, ?_, ?_⟩
  · refine (readRecord_field h (·.url) "url" (fun w s => w.bind Value.text? = some s) ?_ (.inl ?_)).1
    · simp [Visit.fields, forall_map_eq_ok, stringOf_eq_ok]
    · simp [Visit.fields]
  · refine (readRecord_field h (·.method) "method" (fun w s => w.bind Value.text? = s) ?_ (.inr rfl)).1
    simp +contextual [Visit.fields, forall_map_eq_ok, stringOrNull_text]
  · refine (readRecord_field h (·.body) "body" (fun w s => w.bind Value.text? = s) ?_ (.inr rfl)).1
    simp +contextual [Visit.fields, forall_map_eq_ok, stringOrNull_text]

/-- The aspects of a visit in a list are written in order. -/
theorem head?_under_zip {items : List Value} (hlen : items.length ≤ Visit.fields.length) {name : String}
    (hname : name ∈ visitNames) :
    (under name ((Visit.fields.zip items).map fun (f, item) =>
      ((.ok f.name : Except ShapeFault String), item))).head? = items[visitNames.idxOf name]? := by
  -- there are no more items than aspects, so that four lengths are left
  revert name
  match items, hlen with
  | [], _ => simp [under]
  | [a], _ => simp [visitNames, Visit.fields, under, List.idxOf_cons]
  | [a, b], _ => simp [visitNames, Visit.fields, under, List.idxOf_cons]
  | [a, b, c], _ => simp [visitNames, Visit.fields, under, List.idxOf_cons]

theorem ofFields_content {body : Value} {d : Visit} (h : Visit.ofFields body = .ok d) (leaf : Leaf) :
    Says body (.visit d.url d.method d.body leaf) := by
  unfold Visit.ofFields at h
  split at h
  · next entries =>
    obtain ⟨hurl, hmethod, hbody⟩ := visit_parts h
    rw [under_eq_named fieldName_eq_ok] at hurl hmethod hbody
    exact ⟨hurl, hmethod, hbody⟩
  · next items =>
    split at h
    · exact absurd h (by simp [misplaced])
    · next hlen =>
      obtain ⟨hurl, hmethod, hbody⟩ := visit_parts h
      rw [head?_under_zip (Nat.le_of_not_lt hlen) (by decide)] at hurl hmethod hbody
      exact ⟨hurl, hmethod, hbody⟩
  · exact absurd h (by simp [misplaced])

/-- What to visit is an address on its own, or has aspects. -/
theorem visit_content {body : Value} {d : Visit} (h : Visit.read body = .ok d) (leaf : Leaf) :
    Says body (.visit d.url d.method d.body leaf) := by
  unfold Visit.read at h
  split at h
  · exact absurd h (by simp)
  split at h
  · obtain rfl := Except.ok.inj h
    exact ⟨rfl, rfl, rfl⟩
  · split at h
    · next hfields =>
      obtain rfl := Except.ok.inj h
      exact ofFields_content hfields leaf
    · exact absurd h (by simp)

/-! ## Containers -/

/-- The texts of declarations that were read are those of the values. -/
theorem declarations_texts {path : String} {entries : List (String × Value)} {texts : List (String × String)}
    (h : declarations path entries = .ok texts) :
    entries.map (fun e => (e.1, declaration? e.2)) = texts.map fun e => (e.1, some e.2) := by
  induction entries generalizing texts with
  | nil =>
    obtain rfl := Except.ok.inj h
    rfl
  | cons entry entries ih =>
    obtain ⟨name, v⟩ := entry
    unfold declarations at h
    split at h
    · next text htext =>
      obtain ⟨rest, hrest, rfl⟩ := map_eq_ok h
      rw [List.map_cons, List.map_cons, ih hrest, htext]
    · exact absurd h (by simp)

theorem declarations_binds {path name : String} {body : Value} {p : Parts}
    {texts : List (String × String)} (h : valueRecord name blockFields .none body = .ok p)
    (htexts : declarations path p.declared.entries = .ok texts) :
    (body.member "variables").Binds declaration? (.ofList texts) := by
  have hdeclared : (∀ e ∈ (body.member "variables").members, e.1.text?.isSome) ∧
      (body.member "variables").bindings.map declaration? = p.declared.map declaration? := by
    refine valueRecord_member h (·.declared) "variables" (fun w b =>
      (∀ e ∈ w.members, e.1.text?.isSome) ∧
        w.bindings.map declaration? = b.map declaration?) ?_
      (.inr ⟨fun _ he => absurd he List.not_mem_nil, rfl⟩)
    have hread : ∀ v a : Value, (.ok v : Except ShapeFault Value) = .ok a → declaration? v = declaration? a :=
      fun v a heq => congrArg declaration? (Except.ok.inj heq)
    simp only [blockFields, stepsField, List.forall_mem_cons, forall_map_eq_ok]
    exact ⟨fun v b declared hv => bindingsOf_bindings hread hv, by simp, by simp⟩
  have hentries := declarations_texts htexts
  refine ⟨hdeclared.1, hdeclared.2.trans (Bindings.ext ?_)⟩
  -- the names of the declarations are told apart already
  have hnames : texts.map Prod.fst = p.declared.entries.map Prod.fst := by
    have hfst := congrArg (List.map Prod.fst) hentries
    simpa [List.map_map, Function.comp_def] using hfst.symm
  show p.declared.entries.map _ = (Bindings.ofList texts).entries.map _
  rw [Bindings.entries_ofList (hnames ▸ p.declared.nodup), hentries]

theorem blockSteps_items {name : String} {body : Value} {p : Parts}
    (h : valueRecord name blockFields .none body = .ok p) : (body.member "steps").items = p.steps := by
  refine valueRecord_member h (·.steps) "steps" (fun w vs => w.items = vs) ?_ (.inr rfl)
  simp +contextual [blockFields, stepsField, forall_map_eq_ok, itemsOf_items]

theorem loopRecord_tells {name : String} {body : Value} {p : Parts}
    (h : valueRecord name loopFields .none body = .ok p) :
    ((body.member "over").text? = some p.expression ∧ textOr "key" (body.member? "key") = some p.key ∧
      textOr "value" (body.member? "value") = some p.value) ∧ (body.member "steps").items = p.steps := by
  refine ⟨⟨?_, ?_, ?_⟩, ?_⟩
  · refine valueRecord_member h (·.expression) "over" (fun w s => w.text? = some s) ?_ (.inl ?_)
    · simp [loopFields, expressionField, stepsField, forall_map_eq_ok, stringOf_eq_ok]
    · simp [loopFields, expressionField]
  · refine valueRecord_member? h (·.key) "key" (fun w s => textOr "key" w = some s) ?_ (.inr rfl)
    simp [loopFields, expressionField, stepsField, forall_map_eq_ok, stringOf_eq_ok, textOr]
  · refine valueRecord_member? h (·.value) "value" (fun w s => textOr "value" w = some s) ?_ (.inr rfl)
    simp [loopFields, expressionField, stepsField, forall_map_eq_ok, stringOf_eq_ok, textOr]
  · refine valueRecord_member h (·.steps) "steps" (fun w vs => w.items = vs) ?_ (.inr rfl)
    simp +contextual [loopFields, expressionField, stepsField, forall_map_eq_ok, itemsOf_items]

theorem whileRecord_tells {name : String} {body : Value} {p : Parts}
    (h : valueRecord name whileFields .none body = .ok p) :
    (body.member "condition").text? = some p.expression ∧ (body.member "steps").items = p.steps := by
  constructor
  · refine valueRecord_member h (·.expression) "condition" (fun w s => w.text? = some s) ?_
      (.inl ?_)
    · simp [whileFields, expressionField, stepsField, forall_map_eq_ok, stringOf_eq_ok]
    · simp [whileFields, expressionField]
  · refine valueRecord_member h (·.steps) "steps" (fun w vs => w.items = vs) ?_ (.inr rfl)
    simp +contextual [whileFields, expressionField, stepsField, forall_map_eq_ok, itemsOf_items]

theorem choiceRecord_tells {name : String} {body : Value} {p : Parts}
    (h : valueRecord name choiceFields .none body = .ok p) :
    (body.member "condition").text? = some p.expression ∧ (body.member "then").items = p.steps ∧
      (body.member "else").items = p.otherwise := by
  refine ⟨?_, ?_, ?_⟩
  · refine valueRecord_member h (·.expression) "condition" (fun w s => w.text? = some s) ?_
      (.inl ?_)
    · simp [choiceFields, expressionField, stepsField, forall_map_eq_ok, stringOf_eq_ok]
    · simp [choiceFields, expressionField]
  · refine valueRecord_member h (·.steps) "then" (fun w vs => w.items = vs) ?_ (.inr rfl)
    simp +contextual [choiceFields, expressionField, stepsField, forall_map_eq_ok, itemsOf_items]
  · refine valueRecord_member h (·.otherwise) "else" (fun w vs => w.items = vs) ?_ (.inr rfl)
    simp +contextual [choiceFields, expressionField, stepsField, forall_map_eq_ok, itemsOf_items]

/-! ## Reading steps -/

/-- The kind of an outlined step. -/
def tag (o : Outline) : Tag := (o.action none none).tag

theorem tag_action (o : Outline) (a b : Option Nat) : (o.action a b).tag = o.tag := by
  cases o <;> rfl

/-- A step was read from a mapping: the mapping tells of it, and what is written inside was read as what the
step contains. -/
structure ReadFrom (depth : Nat) (v : Value) (o : Outline) : Prop where
  tells : ∀ a b, Tells v o.label (o.action a b)
  inside : ∃ path, readChain (read depth) path 0 (inside v o.tag) = .ok o.inner
  beside : ∃ path, readChain (read depth) path 0 (beside v o.tag) = .ok o.other

theorem takesNothing_eq_ok {path kind : String} {v : Value} {u : Unit}
    (h : takesNothing path kind v = .ok u) : v = .null ∨ v = .map [] := by
  unfold takesNothing at h
  split at h
  · exact .inl rfl
  · exact .inr rfl
  · exact absurd h (by simp)

theorem leaf_of_settings {kind : String} {leaf : Leaf}
    (h : ¬(!requestKinds.contains kind && hasSettings leaf) = true)
    (hkind : requestKinds.contains kind = false) : leaf = ⟨.empty, .empty, []⟩ := by
  obtain ⟨headers, extractions, assertions⟩ := leaf
  simp only [hkind, hasSettings, Bindings.isEmpty, Bool.not_false, Bool.true_and, Bool.not_eq_true,
    Bool.or_eq_false_iff, Bool.not_eq_false', List.isEmpty_iff] at h
  obtain ⟨⟨hheaders, hextractions⟩, rfl⟩ := h
  rw [show headers = .empty from Bindings.ext hheaders,
    show extractions = .empty from Bindings.ext hextractions]

/-- A mapping tells of the action of which its body speaks. -/
theorem tells_of_header {path : String} {v body : Value} {common : Common} {action : Action}
    (h : header path v = .ok (action.tag.keyword, body, common)) (hbody : Says body action)
    (hleaf : common.leaf = action.leaf?.getD ⟨.empty, .empty, []⟩) : Tells v common.label action := by
  obtain ⟨-, hmember, hfields, hcommon⟩ := header_tells h
  refine ⟨Option.isSome_of_eq_some hmember, hfields, ?_, hleaf ▸ hcommon⟩
  rw [Value.member, hmember]
  exact hbody

theorem member_of_header {path kind : String} {v body : Value} {common : Common}
    (h : header path v = .ok (kind, body, common)) : v.member kind = body := by
  rw [Value.member, (header_tells h).2.1]
  rfl

section

variable {depth : Nat} {path innerPath kind : String} {v body : Value} {common : Common} {p : Parts}
  {steps : List Outline}

theorem readFrom_block {texts : List (String × String)} (hheader : header path v = .ok ("block", body, common))
    (hleaf : common.leaf = ⟨.empty, .empty, []⟩) (hp : valueRecord kind blockFields .none body = .ok p)
    (htexts : declarations path p.declared.entries = .ok texts)
    (hsteps : readChain (read depth) innerPath 0 p.steps = .ok steps) :
    ReadFrom depth v (.block common.label (.ofList texts) steps) where
  tells _ _ := tells_of_header hheader (declarations_binds hp htexts) hleaf
  inside := ⟨innerPath, by
    rw [← blockSteps_items hp, ← member_of_header hheader] at hsteps
    exact hsteps⟩
  beside := ⟨path, rfl⟩

theorem readFrom_loop (hheader : header path v = .ok ("loop", body, common))
    (hleaf : common.leaf = ⟨.empty, .empty, []⟩) (hp : valueRecord kind loopFields .none body = .ok p)
    (hsteps : readChain (read depth) innerPath 0 p.steps = .ok steps) :
    ReadFrom depth v (.each common.label p.expression p.key p.value steps) where
  tells _ _ := tells_of_header hheader (loopRecord_tells hp).1 hleaf
  inside := ⟨innerPath, by
    rw [← (loopRecord_tells hp).2, ← member_of_header hheader] at hsteps
    exact hsteps⟩
  beside := ⟨path, rfl⟩

theorem readFrom_while (hheader : header path v = .ok ("while", body, common))
    (hleaf : common.leaf = ⟨.empty, .empty, []⟩) (hp : valueRecord kind whileFields .none body = .ok p)
    (hsteps : readChain (read depth) innerPath 0 p.steps = .ok steps) :
    ReadFrom depth v (.repeated common.label p.expression steps) where
  tells _ _ := tells_of_header hheader (whileRecord_tells hp).1 hleaf
  inside := ⟨innerPath, by
    rw [← (whileRecord_tells hp).2, ← member_of_header hheader] at hsteps
    exact hsteps⟩
  beside := ⟨path, rfl⟩

theorem readFrom_choice {otherPath : String} {otherwise : List Outline}
    (hheader : header path v = .ok ("if", body, common)) (hleaf : common.leaf = ⟨.empty, .empty, []⟩)
    (hp : valueRecord kind choiceFields .none body = .ok p)
    (hsteps : readChain (read depth) innerPath 0 p.steps = .ok steps)
    (hotherwise : readChain (read depth) otherPath 0 p.otherwise = .ok otherwise) :
    ReadFrom depth v (.choice common.label p.expression steps otherwise) where
  tells _ _ := tells_of_header hheader (choiceRecord_tells hp).1 hleaf
  inside := ⟨innerPath, by
    rw [← (choiceRecord_tells hp).2.1, ← member_of_header hheader] at hsteps
    exact hsteps⟩
  beside := ⟨otherPath, by
    rw [← (choiceRecord_tells hp).2.2, ← member_of_header hheader] at hotherwise
    exact hotherwise⟩

end

/-- A step that is read is told by its mapping, and so is what it contains. -/
theorem read_tells {depth : Nat} {path : String} {v : Value} {o : Outline}
    (h : read (depth + 1) path v = .ok o) : ReadFrom depth v o := by
  unfold read at h
  obtain ⟨⟨kind, body, common⟩, hheader, hread⟩ := bind_eq_ok h
  clear h
  simp only at hread
  split at hread
  · exact absurd hread (by simp [throw, throwThe, MonadExceptOf.throw, bind, Except.bind])
  next hset =>
  split at hread
  · -- visit
    obtain ⟨d, hd, ho⟩ := bind_eq_ok hread
    obtain rfl := Except.ok.inj ho
    have hcontent := visit_content (inStep_eq_ok hd) common.leaf
    exact ⟨fun _ _ => tells_of_header hheader hcontent rfl, ⟨path, rfl⟩, ⟨path, rfl⟩⟩
  · -- click
    obtain ⟨link, hlink, ho⟩ := bind_eq_ok hread
    obtain rfl := Except.ok.inj ho
    have hcontent := (stringOf_eq_ok _ _ _).1 (inStep_eq_ok hlink)
    exact ⟨fun _ _ => tells_of_header hheader hcontent rfl, ⟨path, rfl⟩, ⟨path, rfl⟩⟩
  · -- reload
    obtain ⟨_, hnothing, ho⟩ := bind_eq_ok hread
    obtain rfl := Except.ok.inj ho
    exact ⟨fun _ _ => tells_of_header hheader (takesNothing_eq_ok hnothing) rfl, ⟨path, rfl⟩, ⟨path, rfl⟩⟩
  · -- follow
    obtain ⟨_, hnothing, ho⟩ := bind_eq_ok hread
    obtain rfl := Except.ok.inj ho
    exact ⟨fun _ _ => tells_of_header hheader (takesNothing_eq_ok hnothing) rfl, ⟨path, rfl⟩, ⟨path, rfl⟩⟩
  · -- block
    obtain ⟨p, hp, hrest⟩ := bind_eq_ok hread
    obtain ⟨texts, htexts, hrest⟩ := bind_eq_ok hrest
    obtain ⟨steps, hsteps, ho⟩ := bind_eq_ok hrest
    obtain rfl := Except.ok.inj ho
    exact readFrom_block hheader (leaf_of_settings hset (by decide)) (inStep_eq_ok hp) htexts hsteps
  · -- loop
    obtain ⟨p, hp, hrest⟩ := bind_eq_ok hread
    obtain ⟨steps, hsteps, ho⟩ := bind_eq_ok hrest
    obtain rfl := Except.ok.inj ho
    exact readFrom_loop hheader (leaf_of_settings hset (by decide)) (inStep_eq_ok hp) hsteps
  · -- while
    obtain ⟨p, hp, hrest⟩ := bind_eq_ok hread
    obtain ⟨steps, hsteps, ho⟩ := bind_eq_ok hrest
    obtain rfl := Except.ok.inj ho
    exact readFrom_while hheader (leaf_of_settings hset (by decide)) (inStep_eq_ok hp) hsteps
  · -- if
    obtain ⟨p, hp, hrest⟩ := bind_eq_ok hread
    obtain ⟨holds, hholds, hrest⟩ := bind_eq_ok hrest
    obtain ⟨otherwise, hotherwise, ho⟩ := bind_eq_ok hrest
    obtain rfl := Except.ok.inj ho
    exact readFrom_choice hheader (leaf_of_settings hset (by decide)) (inStep_eq_ok hp) hholds hotherwise
  · -- a step that does nothing is the only kind that is left
    obtain ⟨_, hnothing, ho⟩ := bind_eq_ok hread
    obtain rfl := Except.ok.inj ho
    obtain rfl : kind = "empty" := by
      have hkind := (header_tells hheader).1
      simp only [kinds, List.mem_cons, List.not_mem_nil, or_false] at hkind
      tauto
    exact ⟨fun _ _ => tells_of_header hheader (takesNothing_eq_ok hnothing)
      (leaf_of_settings hset (by decide)), ⟨path, rfl⟩, ⟨path, rfl⟩⟩

/-! ## Chains -/

theorem readChain_cons {readStep : String → Value → Except Fault Outline} {path : String} {index : Nat}
    {v : Value} {vs : List Value} {os : List Outline}
    (h : readChain readStep path index (v :: vs) = .ok os) :
    ∃ o rest stepPath, os = o :: rest ∧ readStep stepPath v = .ok o ∧
      readChain readStep path (index + 1) vs = .ok rest := by
  rw [readChain] at h
  obtain ⟨o, ho, hmore⟩ := bind_eq_ok h
  obtain ⟨rest, hrest, hos⟩ := bind_eq_ok hmore
  exact ⟨o, rest, _, (Except.ok.inj hos).symm, ho, hrest⟩

/-- Mappings that were read spell out what their outlines are laid out as. -/
theorem spells_of_lays {fresh : Nat → String} {depth : Nat} {path : String} {index : Nat} {vs : List Value}
    {os : List Outline} {script : Script} (h : readChain (read depth) path index vs = .ok os)
    (hlays : Lays fresh os script) : Spells fresh vs script := by
  -- on the depth; at each depth along the chain
  induction depth generalizing path index vs os script with
  | zero =>
    cases vs with
    | nil =>
      obtain rfl := Except.ok.inj h
      cases hlays with
      | stop => exact .stop
    | cons v vs =>
      obtain ⟨o, rest, stepPath, -, ho, -⟩ := readChain_cons h
      exact absurd ho (by simp [read])
  | succ depth ih =>
    induction vs generalizing index os script with
    | nil =>
      obtain rfl := Except.ok.inj h
      cases hlays with
      | stop => exact .stop
    | cons v vs ihChain =>
      obtain ⟨o, rest, stepPath, rfl, ho, hrest⟩ := readChain_cons h
      obtain ⟨htells, ⟨_, hinside⟩, ⟨_, hbeside⟩⟩ := read_tells ho
      cases hlays with
      | @step _ _ p s _ _ _ huuid hname haction hinner hother hafter =>
        have htag : s.tag = o.tag := by rw [Step.tag, haction, tag_action]
        have hstep : Tells v ⟨o.label.uuid, s.name⟩ s.action := by
          rw [haction, hname]
          exact htells _ _
        refine .step hstep huuid ?_ ?_ (ihChain hrest hafter)
        · rw [htag]
          exact ih hinside hinner
        · rw [htag]
          exact ih hbeside hother

end Outline

end Walkthrough
