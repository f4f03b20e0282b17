import Walkthrough.Proofs.Document.Denotation
import Walkthrough.Proofs.Document.Spelling
import Walkthrough.Scenario

/-!
# Loading

What the scenarios of a document are. The document lists them, or has the steps of a single one
(`Contains`); each scenario renders what the document has of it (`Renders`): its values are those of the
file under its own, each the JSON value that its node denotes, and its graph unfolds to the steps as they are
written, each the value that its node means.

* `file_contains` — what a file is read from
* `ofEntry_renders` — one scenario
* `loaded_as_written` — the scenarios of a text
-/

namespace Walkthrough.Yaml.Node

open Document (named isAbsent)

/-! ## Nodes -/

/-- The items of a list. -/
def items : Node → List Node
  | .list _ items => items
  | _ => []

/-- The entries of a mapping. -/
def entries : Node → List (Node × Node)
  | .map _ entries => entries
  | _ => []

/-- What a mapping has under a name. -/
def member? (n : Node) (name : String) : Option Node := (named text? name n.entries).head?

/-- What a mapping has under a name; a blank scalar, if the name is not written. -/
def member (n : Node) (name : String) : Node := (n.member? name).getD (.scalar none true "")

/-- The text of a scalar that does not stand for a missing value. -/
def given? (n : Node) : Option String :=
  match isAbsent n with
  | .ok true => none
  | _ => n.text?

/-- A mapping binds its names to what its nodes denote. -/
def Declares (n : Node) (values : Bindings Json) : Prop :=
  ∃ members : List (String × Json), values.Merges members ∧ List.Forall₂ Binds n.entries members

end Walkthrough.Yaml.Node

namespace Walkthrough.Document

open Yaml (Node Value)

section

variable {n : Node} {path : Option String}

theorem textOrAbsent_given {s : Option String} (h : textOrAbsent path n = .ok s) : n.given? = s := by
  unfold textOrAbsent at h
  obtain ⟨absent, habsent, htext⟩ := bind_eq_ok h
  rw [Node.given?, habsent]
  cases absent with
  | true => exact Except.ok.inj htext
  | false =>
    obtain ⟨text, htext, hs⟩ := bind_eq_ok htext
    exact ((textOf_eq_ok _ _ _ _).1 htext).trans (Except.ok.inj hs)

theorem nodesOf_items {nodes : List Node} (h : nodesOf path n = .ok nodes) : n.items = nodes := by
  cases n with
  | list => exact Except.ok.inj h
  | scalar tag plain text =>
    simp only [nodesOf] at h
    split at h
    · exact Except.ok.inj h
    · exact absurd h (by simp [unexpected])
  | map => exact absurd h (by simp [nodesOf, isBlankNode, unexpected])

theorem entriesOf_entries {expected : String} {entries : List (Node × Node)}
    (h : entriesOf path expected n = .ok entries) : n.entries = entries := by
  cases n with
  | map => exact Except.ok.inj h
  | scalar tag plain text =>
    simp only [entriesOf] at h
    split at h
    · exact Except.ok.inj h
    · exact absurd h (by simp [unexpected])
  | list => exact absurd h (by simp [entriesOf, isBlankNode, unexpected])

theorem stepsOf_means {steps : List Value} (h : stepsOf path n = .ok steps) :
    List.Forall₂ Node.Means n.items steps := by
  unfold stepsOf at h
  obtain ⟨nodes, hnodes, hsteps⟩ := bind_eq_ok h
  rw [nodesOf_items hnodes]
  refine (forall₂_of_mapM hsteps).imp fun node v hread => ?_
  unfold valueOf at hread
  split at hread
  · next u hu =>
    obtain rfl := Except.ok.inj hread
    exact (Node.value?_iff node).1 hu
  · exact absurd hread (by simp)

theorem jsonBindings_declares {b : Bindings Json} (h : jsonBindings path n = .ok b) : n.Declares b := by
  unfold jsonBindings at h
  obtain ⟨entries, hentries, hmore⟩ := bind_eq_ok h
  obtain ⟨members, hmembers, hb⟩ := bind_eq_ok hmore
  obtain rfl := Except.ok.inj hb
  rw [Node.Declares, entriesOf_entries hentries]
  exact ⟨members, Bindings.merges_ofList members, (jsonMembers_iff entries).1 hmembers⟩

theorem blank_declares : Node.Declares (.scalar none true "") .empty := ⟨[], Bindings.merges_empty, .nil⟩

/-- A part of a record is what its field says of the member of the node. -/
theorem nodeRecord_member? {α β : Type} {fields : List (Field Node Fault α)} {start a : α} {name : String}
    (h : nodeRecord name path fields start n = .ok a) (part : α → β) (field : String)
    (P : Option Node → β → Prop)
    (hfields : ∀ f ∈ fields, ∀ m b b', f.read m b = .ok b' →
      if f.name = field then P (some m) (part b') else part b' = part b)
    (hstart : (∃ f ∈ fields, f.name = field ∧ f.optional = false) ∨ P none (part start)) :
    P (n.member? field) (part a) := by
  unfold nodeRecord at h
  obtain ⟨entries, hentries, hrecord⟩ := bind_eq_ok h
  have hpart := (readRecord_field hrecord part field P hfields hstart).1
  rw [under_eq_named (textOf_eq_ok path _), ← entriesOf_entries hentries] at hpart
  exact hpart

/-- A field that is not written may be read as if it were blank. -/
theorem nodeRecord_member {α β : Type} {fields : List (Field Node Fault α)} {start a : α} {name : String}
    (h : nodeRecord name path fields start n = .ok a) (part : α → β) (field : String)
    (P : Node → β → Prop)
    (hfields : ∀ f ∈ fields, ∀ m b b', f.read m b = .ok b' →
      if f.name = field then P m (part b') else part b' = part b)
    (hstart : P (.scalar none true "") (part start)) : P (n.member field) (part a) :=
  nodeRecord_member? h part field (fun m => P (m.getD (.scalar none true ""))) hfields (.inr hstart)

end

/-! ## Files -/

/-- A node of a list has a scenario. -/
structure Lists (n : Node) (e : Entry) : Prop where
  name : (n.member? "name").bind Node.text? = some e.name
  endpoint : (n.member "endpoint").given? = e.endpoint
  values : (n.member "variables").Declares e.values
  steps : List.Forall₂ Node.Means (n.member "steps").items e.steps

/-- A document has the steps of a single scenario, which declares nothing of its own. -/
structure HasSteps (n : Node) (e : Entry) : Prop where
  present : isAbsent (n.member "steps") = .ok false
  name : e.name = (n.member "name").given?.getD defaultName
  endpoint : e.endpoint = none
  values : e.values = .empty
  steps : List.Forall₂ Node.Means (n.member "steps").items e.steps

/-- A document has scenarios, in this order, and what they share. -/
structure Contains (n : Node) (endpoint : Option String) (shared : Bindings Json) (entries : List Entry) :
    Prop where
  endpoint : (n.member "endpoint").given? = endpoint
  shared : (n.member "variables").Declares shared
  entries : (isAbsent (n.member "steps") = .ok true ∧ entries ≠ [] ∧
      List.Forall₂ Lists (n.member "scenarios").items entries) ∨
    ((n.member "scenarios").items = [] ∧ ∃ e, entries = [e] ∧ HasSteps n e)

theorem entry_lists {path : Option String} {n : Node} {e : Entry} (h : Entry.ofNode path n = .ok e) :
    Lists n e where
  name := by
    refine nodeRecord_member? h (·.name) "name" (fun m s => m.bind Node.text? = some s) ?_ (.inl ?_)
    · simp [Entry.fields, forall_map_eq_ok, textOf_eq_ok]
    · simp [Entry.fields]
  endpoint := by
    refine nodeRecord_member h (·.endpoint) "endpoint" (fun m s => m.given? = s) ?_ rfl
    simpa [Entry.fields, forall_map_eq_ok] using fun _ _ _ => textOrAbsent_given
  values := by
    refine nodeRecord_member h (·.values) "variables" Node.Declares ?_ blank_declares
    simpa [Entry.fields, forall_map_eq_ok] using fun _ _ _ => jsonBindings_declares
  steps := by
    refine nodeRecord_member h (·.steps) "steps" (fun m => List.Forall₂ Node.Means m.items) ?_ .nil
    simpa [Entry.fields, forall_map_eq_ok] using fun _ _ _ => stepsOf_means

theorem allOfNodes_lists {path : Option String} {index : Nat} {nodes : List Node} {es : List Entry}
    (h : Entry.allOfNodes path index nodes = .ok es) : List.Forall₂ Lists nodes es := by
  induction nodes generalizing index es with
  | nil =>
    obtain rfl := Except.ok.inj h
    exact .nil
  | cons node nodes ih =>
    rw [Entry.allOfNodes] at h
    obtain ⟨e, he, hmore⟩ := bind_eq_ok h
    obtain ⟨rest, hrest, hes⟩ := bind_eq_ok hmore
    obtain rfl := Except.ok.inj hes
    exact .cons (entry_lists he) (ih hrest)

/-- The steps that a document has at its top, if it has any. -/
def TopSteps (n : Node) : Option (List Value) → Prop
  | none => isAbsent n = .ok true
  | some steps => isAbsent n = .ok false ∧ List.Forall₂ Node.Means n.items steps

/-- A field of a file says one part of it. -/
theorem file_field {field : Field Node Fault File} (hfield : field ∈ File.fields) {n : Node} {f f' : File}
    (h : field.read n f = .ok f') :
    (field.name = "name" ∧ f' = { f with name := n.given? }) ∨
      (field.name = "endpoint" ∧ f' = { f with endpoint := n.given? }) ∨
      (field.name = "variables" ∧ ∃ b, n.Declares b ∧ f' = { f with values := b }) ∨
      (field.name = "scenarios" ∧ ∃ es, List.Forall₂ Lists n.items es ∧ f' = { f with scenarios := es }) ∨
      (field.name = "steps" ∧ ∃ steps, TopSteps n steps ∧ f' = { f with steps }) := by
  simp only [File.fields, List.mem_cons, List.not_mem_nil, or_false] at hfield
  rcases hfield with rfl | rfl | rfl | rfl | rfl
  · obtain ⟨s, hs, rfl⟩ := map_eq_ok h
    exact .inl ⟨rfl, by rw [textOrAbsent_given hs]⟩
  · obtain ⟨s, hs, rfl⟩ := map_eq_ok h
    exact .inr (.inl ⟨rfl, by rw [textOrAbsent_given hs]⟩)
  · obtain ⟨b, hb, rfl⟩ := map_eq_ok h
    exact .inr (.inr (.inl ⟨rfl, b, jsonBindings_declares hb, rfl⟩))
  · obtain ⟨nodes, hnodes, hmore⟩ := bind_eq_ok h
    obtain ⟨es, hes, hf⟩ := bind_eq_ok hmore
    refine .inr (.inr (.inr (.inl ⟨rfl, es, ?_, (Except.ok.inj hf).symm⟩)))
    rw [nodesOf_items hnodes]
    exact allOfNodes_lists hes
  · refine .inr (.inr (.inr (.inr ⟨rfl, ?_⟩)))
    obtain ⟨absent, habsent, hmore⟩ := bind_eq_ok h
    cases absent with
    | true => exact ⟨none, habsent, (Except.ok.inj hmore).symm⟩
    | false =>
      obtain ⟨steps, hsteps, hf⟩ := bind_eq_ok hmore
      exact ⟨some steps, ⟨habsent, stepsOf_means hsteps⟩, (Except.ok.inj hf).symm⟩

theorem file_parts {n : Node} {f : File} (h : File.ofNode n = .ok f) :
    (n.member "name").given? = f.name ∧ (n.member "endpoint").given? = f.endpoint ∧
      (n.member "variables").Declares f.values ∧
      List.Forall₂ Lists (n.member "scenarios").items f.scenarios ∧ TopSteps (n.member "steps") f.steps := by
  refine ⟨nodeRecord_member h (·.name) "name" (fun m s => m.given? = s) ?_ rfl,
    nodeRecord_member h (·.endpoint) "endpoint" (fun m s => m.given? = s) ?_ rfl,
    nodeRecord_member h (·.values) "variables" Node.Declares ?_ blank_declares,
    nodeRecord_member h (·.scenarios) "scenarios" (fun m => List.Forall₂ Lists m.items) ?_ .nil,
    nodeRecord_member h (·.steps) "steps" TopSteps ?_ rfl⟩
  -- of each field only its own part is asked
  all_goals
    intro field hfield m f f' hread
    rcases file_field hfield hread with ⟨hname, rfl⟩ | ⟨hname, rfl⟩ | ⟨hname, b, hb, rfl⟩ |
      ⟨hname, es, hes, rfl⟩ | ⟨hname, steps, hsteps, rfl⟩ <;> simp [*]

/-- What a file has was read from its document. -/
theorem file_contains {n : Node} {f : File} {es : List Entry} (h : File.ofNode n = .ok f)
    (hentries : f.entries = .ok es) : Contains n f.endpoint f.values es := by
  obtain ⟨hname, hendpoint, hshared, hscenarios, hsteps⟩ := file_parts h
  refine ⟨hendpoint, hshared, ?_⟩
  unfold File.entries at hentries
  split at hentries
  · exact absurd hentries (by simp)
  · -- a single scenario with the steps at the top
    next steps hsome hnone =>
    obtain rfl := Except.ok.inj hentries
    rw [hsome] at hsteps
    rw [hnone] at hscenarios
    refine .inr ⟨List.forall₂_nil_right_iff.1 hscenarios, _, rfl, ?_⟩
    exact ⟨hsteps.1, by rw [hname], rfl, rfl, hsteps.2⟩
  · exact absurd hentries (by simp)
  · -- a list of scenarios
    next hnone hne =>
    obtain rfl := Except.ok.inj hentries
    rw [hnone] at hsteps
    exact .inl ⟨hsteps, hne, hscenarios⟩

end Walkthrough.Document

namespace Walkthrough.Scenario

open Document

/-! ## Scenarios -/

/-- A scenario renders what a document has of it. It has the values of the file under its own, its graph
unfolds to the steps as they are written, each step occurs once in that, and every link leads back into what
a step contains, or on to the next step of its chain. -/
structure Renders (fresh : Nat → String) (endpoint : Option String) (shared : Bindings Json) (e : Entry)
    (s : Scenario) : Prop where
  name : s.name = e.name
  endpoint : s.endpoint = e.endpoint.or endpoint
  values : ∀ name, s.values.find? name = (e.values.find? name).or (shared.find? name)
  unfolds : ∃ script, s.graph.script? = some script ∧ Spells fresh e.steps script ∧
    script.places.Perm (List.range s.graph.size)
  ordered : ∀ p step, s.graph.step? p = some step →
    (∀ child ∈ step.action.children, child < p) ∧ ∀ next, step.next = some next → p < next
  acyclic : s.graph.Acyclic

theorem ofEntry_eq_ok {fresh : Nat → Nat → String} {file : File} {index : Nat} {e : Entry} {s : Scenario}
    (h : ofEntry fresh file index e = .ok s) :
    ∃ path outlines graph,
      Outline.readChain (Outline.read Yaml.Written.depthLimit) path 0 e.steps = .ok outlines ∧
      Graph.ofOutlines (fresh index) outlines = .ok graph ∧
      s = ⟨e.name, e.endpoint.or file.endpoint, graph, file.values.extend e.values⟩ := by
  unfold ofEntry at h
  simp only at h
  split at h
  · next outlines houtlines =>
    obtain ⟨_, hsame, hmore⟩ := bind_eq_ok h
    obtain rfl := Except.ok.inj hsame
    obtain ⟨graph, hgraph, hs⟩ := bind_eq_ok hmore
    exact ⟨_, outlines, graph, houtlines, hgraph, (Except.ok.inj hs).symm⟩
  · exact absurd h (by simp [bind, Except.bind])

/-- A scenario renders the entry that it is made of. -/
theorem ofEntry_renders {fresh : Nat → Nat → String} {file : File} {index : Nat} {e : Entry} {s : Scenario}
    (h : ofEntry fresh file index e = .ok s) : Renders (fresh index) file.endpoint file.values e s := by
  obtain ⟨path, outlines, graph, hread, hgraph, rfl⟩ := ofEntry_eq_ok h
  obtain ⟨hsound, script, hreads, hlays, hordered, hplaces⟩ := ofOutlines_lays hgraph
  -- every step is in the script, and links lead from it into scripts that are part of it
  have hall : ∀ p < graph.size, p ∈ script.places := fun p hp =>
    hplaces.mem_iff.2 (List.mem_range.2 hp)
  have hacyclic := Graph.acyclic_of_reads hreads hall
  refine ⟨rfl, rfl, Bindings.find?_extend file.values e.values,
    ⟨script, Graph.script?_eq_some hsound hacyclic hreads, Outline.spells_of_lays hread hlays, hplaces⟩,
    fun p step hstep => ?_, hacyclic⟩
  exact links_ordered hreads hordered (hall p (Graph.lt_size_of_step hstep)) hstep

/-- The scenarios of entries are theirs, in order. -/
theorem ofEntries_all {fresh : Nat → Nat → String} {file : File} {seen : List String} {index : Nat}
    {es : List Entry} {scenarios : List Scenario}
    (h : ofEntries fresh file seen index es = .ok scenarios) :
    scenarios.length = es.length ∧ ∀ i e s, es[i]? = some e → scenarios[i]? = some s →
      ofEntry fresh file (index + i) e = .ok s := by
  induction es generalizing seen index scenarios with
  | nil =>
    obtain rfl := Except.ok.inj h
    exact ⟨rfl, fun i e s he => absurd he (by simp)⟩
  | cons entry es ih =>
    rw [ofEntries] at h
    split at h
    · exact absurd h (by simp)
    · obtain ⟨first, hfirst, hmore⟩ := bind_eq_ok h
      obtain ⟨rest, hrest, hscenarios⟩ := bind_eq_ok hmore
      obtain rfl := Except.ok.inj hscenarios
      obtain ⟨hlength, hall⟩ := ih hrest
      refine ⟨congrArg (· + 1) hlength, fun i e s he hs => ?_⟩
      cases i with
      | zero =>
        obtain rfl := Option.some.inj he
        obtain rfl := Option.some.inj hs
        exact hfirst
      | succ i =>
        rw [show index + (i + 1) = index + 1 + i by omega]
        exact hall i e s he hs

/-- **Loading.** The scenarios that a text is loaded as are those that its document contains, in order; each
renders what the document has of it: variables with the values that their nodes denote, and steps as they are
written. -/
theorem loaded_as_written {fresh : Nat → Nat → String} {text : String} {scenarios : List Scenario}
    (h : load fresh text = .ok scenarios) :
    ∃ n endpoint shared entries, Yaml.Node.ofString? text = some n ∧ Contains n endpoint shared entries ∧
      scenarios.length = entries.length ∧ ∀ i e s, entries[i]? = some e → scenarios[i]? = some s →
        Renders (fresh i) endpoint shared e s := by
  unfold load at h
  split at h
  · exact absurd h (by simp)
  · next n hn =>
    split at h
    · next loaded hloaded =>
      obtain rfl := Except.ok.inj h
      unfold ofNode at hloaded
      split at hloaded
      · exact absurd hloaded (by simp)
      · next file hfile =>
        split at hloaded
        · exact absurd hloaded (by simp)
        · next entries hentries =>
          obtain ⟨hlength, hall⟩ := ofEntries_all hloaded
          refine ⟨n, file.endpoint, file.values, entries, hn, file_contains hfile hentries, hlength, ?_⟩
          intro i e s he hs
          have hentry := hall i e s he hs
          rw [Nat.zero_add] at hentry
          exact ofEntry_renders hentry
    · split at h <;> exact absurd h (by simp)

/-- Two scenarios that share variables: one with a variable of its own and a step inside of another, which
declares two more, and one without any of this. -/
def tour : String := "\n".intercalate [
  "variables:",
  "  page: 1",
  "  user: alice",
  "  limits:",
  "    sizes: [0x10, '16', ~]",
  "    quick: true",
  "scenarios:",
  "- name: browse",
  "  variables:",
  "    page: 2",
  "  steps:",
  "  - visit: page",
  "    uuid: list",
  "  - block:",
  "      variables: \x7bdepth: 0x10, name: user\x7d",
  "      steps:",
  "      - reload:",
  "- name: second"]

/-- Of each step the identifier, the children and the next step. -/
def links (s : Scenario) : List (String × List Nat × Option Nat) :=
  s.graph.steps.toList.map fun step => (step.uuid, step.action.children, step.next)

/-- The expressions of each step. -/
def expressions (s : Scenario) : List (List String) :=
  s.graph.steps.toList.map fun step => step.action.expressions

/-- The variables, with the JSON text of their values. -/
def texts (s : Scenario) : List (String × String) := s.values.entries.map fun e => (e.1, e.2.compact)

/-- Identifiers that are the places of the steps. -/
def placed (_ place : Nat) : String := toString place

/-- What the scenarios share, as JSON text. -/
def limitsText : String := "\x7b\"quick\":true,\"sizes\":[16,\"16\",null]\x7d"

/-- The first scenario has its own page, and both have what they share: a number that is spelled with a mark,
the same digits in quotes, null and a truth value among it. -/
theorem tour_as_written :
    ∃ scenarios, load placed tour = .ok scenarios ∧
      (scenarios.flatMap links = [("list", [], some 2), ("1", [], none), ("2", [1], none)] ∧
        scenarios.flatMap expressions = [["page"], [], ["16", "user"]] ∧
        scenarios.map texts =
          [[("page", "2"), ("user", "\"alice\""), ("limits", limitsText)],
            [("page", "1"), ("user", "\"alice\""), ("limits", limitsText)]]) ∧
      ∃ n endpoint shared entries, Yaml.Node.ofString? tour = some n ∧ Contains n endpoint shared entries ∧
        scenarios.length = entries.length ∧ ∀ i e s, entries[i]? = some e → scenarios[i]? = some s →
          Renders (placed i) endpoint shared e s := by
  have hparts : (load placed tour).toOption.any (fun scenarios =>
      scenarios.flatMap links = [("list", [], some 2), ("1", [], none), ("2", [1], none)] ∧
        scenarios.flatMap expressions = [["page"], [], ["16", "user"]] ∧
        scenarios.map texts =
          [[("page", "2"), ("user", "\"alice\""), ("limits", limitsText)],
            [("page", "1"), ("user", "\"alice\""), ("limits", limitsText)]]) = true := by
    decide +kernel
  cases h : load placed tour with
  | error e =>
    rw [h] at hparts
    exact absurd hparts (by simp [Except.toOption])
  | ok scenarios =>
    rw [h] at hparts
    exact ⟨scenarios, rfl, of_decide_eq_true hparts, loaded_as_written h⟩

end Walkthrough.Scenario
