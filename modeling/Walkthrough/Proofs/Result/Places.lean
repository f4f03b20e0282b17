import Mathlib.Data.List.Lex
import Mathlib.Data.Set.Card
import Walkthrough.Proofs.Result.Children

/-!
# The places of records in a tree

A record is built from its step: what is known of it is filled in, iterations are begun and children are
pushed. If its kind stays and its branch is fixed before its first child (`Node.Built`), its children are
those that were pushed, in that order, in whichever of its lists they are kept (`Node.Built.orderly`).

How a tree is built says where its records are (`Build`): the place of a record is its index among those of
the top, then that among what was pushed to each record on the way down. A place comes before those below it,
and with all that is below it before those behind it in the same list; this is the order of lists of numbers.
The list of all records goes through all places in that order, through each of them once (`flatten_tree`),
and so searching for a record and counting requests are told by places (`records_placed`).
-/

namespace Walkthrough.Result

/-! ## Children are what was pushed -/

namespace Node

/-- A record that was built from a step, and the children that were pushed to it, in order. Its kind stays,
and its branch is fixed before the first child. -/
inductive Built : Node → List Node → Prop
  | new (s : Step) : Built (.ofStep s) []
  | fill {n pushed} (facts : Facts) : Built n pushed → facts.tag = n.facts.tag →
      (pushed ≠ [] → facts.branch = n.facts.branch) → Built { n with facts } pushed
  | begin {n pushed} (key value : Option Json) : Built n pushed → Built (n.beginIteration key value) pushed
  | push {n pushed} (child : Node) : Built n pushed → Built (n.pushChild child) (pushed ++ [child])

theorem orderly_of_childless {n : Node} (h : n.children = []) : n.Orderly := by
  simp only [children, List.append_eq_nil_iff] at h
  obtain ⟨⟨⟨-, hthen⟩, helse⟩, hiterations⟩ := h
  exact ⟨fun _ => hthen, fun _ => helse, fun _ _ => hiterations⟩

theorem Orderly.fill {n : Node} (h : n.Orderly) {facts : Facts} (htag : facts.tag = n.facts.tag)
    (hbranch : facts.branch = n.facts.branch) : Orderly { n with facts } := by
  refine ⟨fun hother => h.thenSteps ?_, fun hother => h.elseSteps ?_, fun heach hrepeated => h.iterations ?_ ?_⟩
  · exact htag ▸ hother
  · intro hchoice
    exact hbranch ▸ hother (htag.trans hchoice)
  · exact htag ▸ heach
  · exact htag ▸ hrepeated

/-- Nothing is kept behind the place where the next child goes, and the children are what was pushed. -/
theorem Built.orderly {n : Node} {pushed : List Node} (h : n.Built pushed) :
    n.Orderly ∧ n.children = pushed := by
  induction h with
  | new s => exact ⟨orderly_of_childless rfl, rfl⟩
  | @fill n pushed facts _ htag hbranch ih =>
      obtain ⟨horderly, hchildren⟩ := ih
      refine ⟨?_, hchildren⟩
      -- the branch may be another as long as there are no children that it would leave behind
      by_cases hnone : pushed = []
      · exact orderly_of_childless (hchildren.trans hnone)
      · exact horderly.fill htag (hbranch hnone)
  | begin key value _ ih =>
      obtain ⟨horderly, hchildren⟩ := ih
      exact ⟨horderly.beginIteration key value, (children_beginIteration _ key value).trans hchildren⟩
  | push child _ ih =>
      obtain ⟨horderly, hchildren⟩ := ih
      exact ⟨horderly.pushChild child, by rw [horderly.children_pushChild, hchildren]⟩

end Node

/-! ## How trees are built -/

/-- How a record is built, and all that is pushed to it. -/
inductive Build where
  /-- The record of a step that is about to be executed. -/
  | new (s : Step)
  /-- What is known of the step is filled in. -/
  | fill (b : Build) (facts : Facts)
  /-- An iteration begins. -/
  | begin (b : Build) (key value : Option Json)
  /-- A record that is built in the same way is pushed as a child. -/
  | push (b child : Build)

namespace Build

/-- The record that is built. -/
def node : Build → Node
  | .new s => .ofStep s
  | .fill b facts => { b.node with facts }
  | .begin b key value => b.node.beginIteration key value
  | .push b child => b.node.pushChild child.node

/-- What is pushed, in order. -/
def pushed : Build → List Build
  | .new _ => []
  | .fill b _ | .begin b _ _ => b.pushed
  | .push b child => b.pushed ++ [child]

/-- The kind of a record stays, its branch is fixed before its first child, and so for all that is pushed. -/
def Proper : Build → Prop
  | .new _ => True
  | .fill b facts => b.Proper ∧ facts.tag = b.node.facts.tag ∧
      (b.pushed ≠ [] → facts.branch = b.node.facts.branch)
  | .begin b _ _ => b.Proper
  | .push b child => b.Proper ∧ child.Proper

theorem Proper.built {b : Build} (h : b.Proper) : b.node.Built (b.pushed.map node) := by
  induction b with
  | new s => exact .new s
  | fill b facts ih =>
      obtain ⟨hb, htag, hbranch⟩ := h
      refine .fill facts (ih hb) htag fun hpushed => hbranch ?_
      exact fun hnone => hpushed (congrArg (List.map node) hnone)
  | begin b key value ih => exact .begin key value (ih h)
  | push b child ih _ =>
      show (b.node.pushChild child.node).Built ((b.pushed ++ [child]).map node)
      rw [List.map_append, List.map_singleton]
      exact .push child.node (ih h.1)

theorem Proper.of_mem_pushed {b c : Build} (h : b.Proper) (hc : c ∈ b.pushed) : c.Proper := by
  induction b with
  | new s => exact absurd hc List.not_mem_nil
  | fill b facts ih => exact ih h.1 hc
  | begin b key value ih => exact ih h hc
  | push b child ih _ =>
      rcases List.mem_append.1 hc with hc | hc
      · exact ih h.1 hc
      · rw [List.mem_singleton.1 hc]
        exact h.2

/-- What holds of a record if it holds of all that is pushed to it, holds of every record. -/
theorem induct {P : Build → Prop} (h : ∀ b, (∀ c ∈ b.pushed, P c) → P b) (b : Build) : P b := by
  have hpushed : ∀ c ∈ b.pushed, P c := by
    induction b with
    | new s => exact List.forall_mem_nil _
    | fill b facts ih => exact ih
    | begin b key value ih => exact ih
    | push b child ih ihchild =>
        exact List.forall_mem_append.2 ⟨ih, List.forall_mem_singleton.2 (h child ihchild)⟩
  exact h b hpushed

end Build

/-! ## Places -/

/-- The indices on the way down to a record. -/
abbrev Place := List Nat

namespace Build

/-- What was built for a place below a record; the empty place is that of the record itself. -/
def at? : Build → Place → Option Build
  | b, [] => some b
  | b, i :: p => b.pushed[i]?.bind fun c => c.at? p

/-- The places of a record and all below it, in order. -/
def places : Build → List Place
  | .new _ => [[]]
  | .fill b _ | .begin b _ _ => b.places
  | .push b child => b.places ++ child.places.map (b.pushed.length :: ·)

end Build

/-- What was built for a place in a tree. -/
def buildAt? (bs : List Build) : Place → Option Build
  | [] => none
  | i :: p => bs[i]?.bind fun b => b.at? p

/-- The record at a place in a tree. -/
def recordAt? (bs : List Build) (p : Place) : Option Node := (buildAt? bs p).map Build.node

/-- The places of a tree, in order. -/
def placesOf (bs : List Build) : List Place := bs.zipIdx.flatMap fun b => b.1.places.map (b.2 :: ·)

/-- The tree of the records that are built. -/
def treeOf (bs : List Build) : Tree := ⟨bs.map Build.node⟩

theorem placesOf_concat (bs : List Build) (b : Build) :
    placesOf (bs ++ [b]) = placesOf bs ++ b.places.map (bs.length :: ·) := by
  simp [placesOf, List.zipIdx_append]

/-- The place of a record comes first, then those below it. -/
theorem places_eq (b : Build) : b.places = [] :: placesOf b.pushed := by
  induction b with
  | new s => rfl
  | fill b facts ih => exact ih
  | begin b key value ih => exact ih
  | push b child ih _ =>
      show b.places ++ child.places.map (b.pushed.length :: ·) = [] :: placesOf (b.pushed ++ [child])
      rw [ih, placesOf_concat, List.cons_append]

theorem mem_placesOf {bs : List Build} {p : Place} :
    p ∈ placesOf bs ↔ ∃ i b q, bs[i]? = some b ∧ q ∈ b.places ∧ p = i :: q := by
  simp only [placesOf, List.mem_flatMap, List.mem_map, Prod.exists, List.mem_zipIdx_iff_getElem?]
  constructor
  · rintro ⟨b, i, hb, q, hq, rfl⟩
    exact ⟨i, b, q, hb, hq, rfl⟩
  · rintro ⟨i, b, q, hb, hq, rfl⟩
    exact ⟨b, i, hb, q, hq, rfl⟩

/-! ### Every place is listed -/

theorem mem_placesOf_iff {bs : List Build} (h : ∀ b ∈ bs, ∀ q, q ∈ b.places ↔ (b.at? q).isSome)
    (p : Place) : p ∈ placesOf bs ↔ (buildAt? bs p).isSome := by
  rw [mem_placesOf]
  constructor
  · rintro ⟨i, b, q, hb, hq, rfl⟩
    rw [buildAt?, hb, Option.bind_some]
    exact (h b (List.mem_of_getElem? hb) q).1 hq
  · intro hsome
    cases p with
    | nil => exact absurd hsome (by simp [buildAt?])
    | cons i q =>
        rw [buildAt?] at hsome
        cases hb : bs[i]? with
        | none => exact absurd hsome (by simp [hb])
        | some b =>
            rw [hb, Option.bind_some] at hsome
            exact ⟨i, b, q, hb, (h b (List.mem_of_getElem? hb) q).2 hsome, rfl⟩

theorem mem_places_iff (b : Build) : ∀ p, p ∈ b.places ↔ (b.at? p).isSome := by
  induction b using Build.induct with
  | h b ih =>
      intro p
      rw [places_eq, List.mem_cons, mem_placesOf_iff ih]
      cases p with
      | nil => simp [Build.at?]
      | cons i q => simp [Build.at?, buildAt?]

/-! ### Places are in order -/

theorem pairwise_placesOf {bs : List Build} (h : ∀ b ∈ bs, b.places.Pairwise (· < ·)) :
    (placesOf bs).Pairwise (· < ·) := by
  refine List.pairwise_flatMap.2 ⟨?_, ?_⟩
  · -- below one record
    rintro ⟨b, i⟩ hb
    have hmem : b ∈ bs := List.mem_of_getElem? (List.mem_zipIdx_iff_getElem?.1 hb)
    refine List.pairwise_map.2 ((h b hmem).imp fun hless => ?_)
    exact List.cons_lt_cons_iff.2 (.inr ⟨rfl, hless⟩)
  · -- below two of them, the first of which has the smaller index
    have hindices : bs.zipIdx.Pairwise fun b c => b.2 < c.2 := by
      rw [← List.pairwise_map, List.zipIdx_map_snd]
      exact List.pairwise_lt_range' 1
    refine hindices.imp fun hless => ?_
    intro p hp q hq
    obtain ⟨_, -, rfl⟩ := List.mem_map.1 hp
    obtain ⟨_, -, rfl⟩ := List.mem_map.1 hq
    exact List.cons_lt_cons_iff.2 (.inl hless)

theorem pairwise_places (b : Build) : b.places.Pairwise (· < ·) := by
  induction b using Build.induct with
  | h b ih =>
      rw [places_eq, List.pairwise_cons]
      refine ⟨fun p hp => ?_, pairwise_placesOf ih⟩
      obtain ⟨i, _, q, -, -, rfl⟩ := mem_placesOf.1 hp
      exact List.nil_lt_cons i q

/-! ### All records are listed by their places -/

theorem flattenAll_eq_flatMap (nodes : List Node) : Node.flattenAll nodes = nodes.flatMap Node.flatten := by
  induction nodes with
  | nil => rfl
  | cons n nodes ih => rw [Node.flattenAll, ih, List.flatMap_cons]

theorem flattenAll_placesOf {bs : List Build}
    (h : ∀ b ∈ bs, b.node.flatten.map some = b.places.map fun p => (b.at? p).map Build.node) :
    (Node.flattenAll (bs.map Build.node)).map some = (placesOf bs).map (recordAt? bs) := by
  have hindexed : bs = bs.zipIdx.map Prod.fst := (List.zipIdx_map_fst 0 bs).symm
  calc (Node.flattenAll (bs.map Build.node)).map some
      = bs.flatMap fun b => b.node.flatten.map some := by
        rw [flattenAll_eq_flatMap, List.flatMap_map, List.map_flatMap]
    _ = bs.zipIdx.flatMap fun b => b.1.node.flatten.map some := by
        conv_lhs => rw [hindexed]
        rw [List.flatMap_map]
    _ = bs.zipIdx.flatMap fun b => (b.1.places.map (b.2 :: ·)).map (recordAt? bs) := by
        refine List.flatMap_congr fun b hb => ?_
        have hget : bs[b.2]? = some b.1 := List.mem_zipIdx_iff_getElem?.1 hb
        rw [h b.1 (List.mem_of_getElem? hget), List.map_map]
        refine List.map_congr_left fun p _ => ?_
        show _ = (buildAt? bs (b.2 :: p)).map Build.node
        rw [buildAt?, hget, Option.bind_some]
    _ = (placesOf bs).map (recordAt? bs) := by rw [placesOf, List.map_flatMap]

theorem flatten_places {b : Build} (h : b.Proper) :
    b.node.flatten.map some = b.places.map fun p => (b.at? p).map Build.node := by
  induction b using Build.induct with
  | h b ih =>
      have hbelow := flattenAll_placesOf fun c hc => ih c hc (h.of_mem_pushed hc)
      rw [Node.flatten_eq, h.built.orderly.2, List.map_cons, hbelow, places_eq, List.map_cons]
      refine congrArg (some b.node :: ·) (List.map_congr_left fun p hp => ?_)
      obtain ⟨i, _, q, -, -, rfl⟩ := mem_placesOf.1 hp
      rfl

theorem flatten_tree {bs : List Build} (h : ∀ b ∈ bs, b.Proper) :
    (treeOf bs).flatten.map some = (placesOf bs).map (recordAt? bs) :=
  flattenAll_placesOf fun b hb => flatten_places (h b hb)

/-! ## Searching and counting -/

/-- In a list that is sorted, the first that passes a test is the least of those that do. -/
theorem find?_eq_some_iff_least {ps : List Place} (hsorted : ps.Pairwise (· < ·)) {test : Place → Bool}
    {p : Place} :
    ps.find? test = some p ↔ p ∈ ps ∧ test p = true ∧ ∀ q ∈ ps, q < p → test q = false := by
  induction ps with
  | nil => simp
  | cons first ps ih =>
      obtain ⟨hfirst, hrest⟩ := List.pairwise_cons.1 hsorted
      by_cases htest : test first = true
      · rw [List.find?_cons_of_pos htest, Option.some.injEq]
        constructor
        · rintro rfl
          refine ⟨List.mem_cons_self, htest, fun q hq hless => ?_⟩
          rcases List.mem_cons.1 hq with rfl | hq
          · exact absurd hless (lt_irrefl q)
          · exact absurd hless (lt_asymm (hfirst q hq))
        · rintro ⟨hp, -, hleast⟩
          rcases List.mem_cons.1 hp with rfl | hp
          · rfl
          · exact absurd htest (by simp [hleast first List.mem_cons_self (hfirst p hp)])
      · rw [List.find?_cons_of_neg htest, ih hrest]
        constructor
        · rintro ⟨hp, hpasses, hleast⟩
          refine ⟨List.mem_cons_of_mem first hp, hpasses, List.forall_mem_cons.2 ⟨fun _ => ?_, hleast⟩⟩
          exact Bool.eq_false_iff.2 htest
        · rintro ⟨hp, hpasses, hleast⟩
          rcases List.mem_cons.1 hp with rfl | hp
          · exact absurd hpasses htest
          · exact ⟨hp, hpasses, (List.forall_mem_cons.1 hleast).2⟩

section

variable {bs : List Build}

theorem mem_placesOf_of_record {p : Place} {n : Node} (h : recordAt? bs p = some n) : p ∈ placesOf bs := by
  obtain ⟨b, hb, -⟩ := Option.map_eq_some_iff.1 h
  rw [mem_placesOf_iff fun b _ => mem_places_iff b, hb]
  rfl

variable (h : ∀ b ∈ bs, b.Proper)

include h

theorem mem_flatten_tree {n : Node} : n ∈ (treeOf bs).flatten ↔ ∃ p, recordAt? bs p = some n := by
  have hlisted : n ∈ (treeOf bs).flatten ↔ some n ∈ (treeOf bs).flatten.map some := by simp
  rw [hlisted, flatten_tree h, List.mem_map]
  exact ⟨fun ⟨p, _, hp⟩ => ⟨p, hp⟩, fun ⟨p, hp⟩ => ⟨p, mem_placesOf_of_record hp, hp⟩⟩

/-- What is found is the record of the identifier whose place is the first. -/
theorem find?_tree {uuid : String} {n : Node} :
    (treeOf bs).find? uuid = some n ↔ ∃ p, recordAt? bs p = some n ∧ n.facts.uuid = uuid ∧
      ∀ q < p, ∀ m, recordAt? bs q = some m → m.facts.uuid ≠ uuid := by
  let test : Option Node → Bool := fun found => found.any fun n => n.facts.uuid == uuid
  have hfound : ((treeOf bs).find? uuid).map some =
      ((placesOf bs).find? fun p => test (recordAt? bs p)).map (recordAt? bs) := by
    have hfind := congrArg (List.find? test) (flatten_tree h)
    rw [List.find?_map, List.find?_map] at hfind
    exact hfind
  have hfirst : (treeOf bs).find? uuid = some n ↔
      ∃ p, (placesOf bs).find? (fun p => test (recordAt? bs p)) = some p ∧ recordAt? bs p = some n := by
    rw [← Option.map_eq_some_iff, ← hfound]
    simp
  rw [hfirst]
  refine exists_congr fun p => ?_
  rw [find?_eq_some_iff_least (pairwise_placesOf fun b _ => pairwise_places b)]
  constructor
  · rintro ⟨⟨-, hpasses, hleast⟩, hn⟩
    rw [hn] at hpasses
    refine ⟨hn, by simpa [test] using hpasses, fun q hq m hm hsame => ?_⟩
    have hfails := hleast q (mem_placesOf_of_record hm) hq
    rw [hm] at hfails
    exact absurd hsame (by simpa [test] using hfails)
  · rintro ⟨hn, huuid, hleast⟩
    refine ⟨⟨mem_placesOf_of_record hn, by simp [test, hn, huuid], fun q _ hq => ?_⟩, hn⟩
    cases hm : recordAt? bs q with
    | none => rfl
    | some m => simpa [test] using hleast q hq m hm

/-- Requests are counted by their places. -/
theorem requestCount_tree : (treeOf bs).requestCount =
    {p | ∃ n, recordAt? bs p = some n ∧ n.facts.request.isSome}.ncard := by
  let carries : Option Node → Bool := fun found => found.any fun n => n.facts.request.isSome
  have hcount : (treeOf bs).requestCount = ((placesOf bs).filter fun p => carries (recordAt? bs p)).length := by
    have hcounted := congrArg (List.countP carries) (flatten_tree h)
    rw [List.countP_map, List.countP_map] at hcounted
    rw [Tree.requestCount, ← List.countP_eq_length_filter, ← List.countP_eq_length_filter]
    exact hcounted
  have hnodup : ((placesOf bs).filter fun p => carries (recordAt? bs p)).Nodup :=
    ((pairwise_placesOf fun b _ => pairwise_places b).imp ne_of_lt).filter _
  have hset : {p | ∃ n, recordAt? bs p = some n ∧ n.facts.request.isSome} =
      (((placesOf bs).filter fun p => carries (recordAt? bs p)).toFinset : Set Place) := by
    ext p
    simp only [Set.mem_ofPred_eq, List.coe_toFinset, List.mem_filter]
    constructor
    · rintro ⟨n, hn, hrequest⟩
      exact ⟨mem_placesOf_of_record hn, by rw [hn]; exact hrequest⟩
    · rintro ⟨-, hcarries⟩
      cases hn : recordAt? bs p with
      | none => exact absurd hcarries (by simp [carries, hn])
      | some n =>
          rw [hn] at hcarries
          exact ⟨n, rfl, hcarries⟩
  rw [hcount, hset, Set.ncard_coe_finset, List.toFinset_card_of_nodup hnodup]

end

/-- Nothing is lost and nothing changes its place. The children of a record are those that were pushed, in
that order, and the list of all records of a tree goes through all places in their order, through each of
them once. The record that is found by an identifier is the one at the first place that has it, and a
request is counted for every place whose record carries one. -/
theorem records_placed :
    (∀ n pushed, Node.Built n pushed → n.children = pushed) ∧
      ∀ bs : List Build, (∀ b ∈ bs, b.Proper) →
        (∃ places : List Place, places.Pairwise (· < ·) ∧ (∀ p, p ∈ places ↔ (buildAt? bs p).isSome) ∧
          (treeOf bs).flatten.map some = places.map (recordAt? bs)) ∧
        (∀ uuid n, (treeOf bs).find? uuid = some n ↔ ∃ p, recordAt? bs p = some n ∧ n.facts.uuid = uuid ∧
          ∀ q < p, ∀ m, recordAt? bs q = some m → m.facts.uuid ≠ uuid) ∧
        (∀ uuid, (treeOf bs).find? uuid = none ↔ ∀ p n, recordAt? bs p = some n → n.facts.uuid ≠ uuid) ∧
        (treeOf bs).requestCount = {p | ∃ n, recordAt? bs p = some n ∧ n.facts.request.isSome}.ncard := by
  refine ⟨fun n pushed h => h.orderly.2, fun bs h => ⟨⟨placesOf bs, ?_, ?_, flatten_tree h⟩,
    fun uuid n => find?_tree h, fun uuid => ?_, requestCount_tree h⟩⟩
  · exact pairwise_placesOf fun b _ => pairwise_places b
  · exact mem_placesOf_iff fun b _ => mem_places_iff b
  · rw [Tree.find?, List.find?_eq_none]
    constructor
    · intro hnone p n hn
      simpa using hnone n ((mem_flatten_tree h).2 ⟨p, hn⟩)
    · intro hnone n hn
      obtain ⟨p, hp⟩ := (mem_flatten_tree h).1 hn
      simpa using hnone p n hp

/-- A page that is requested. -/
def tourPage (uuid : String) : Build :=
  let s : Step := ⟨uuid, none, .reload ⟨.empty, .empty, []⟩, none⟩
  .fill (.new s) { (Node.ofStep s).facts with request := some (.string "GET") }

/-- Two rounds through a page. -/
def tourRounds : Build :=
  .push (.begin (.push (.begin (.new ⟨"pages", none, .each "pages" "key" "value" none, none⟩)
    (some (.string "a")) none) (tourPage "page")) (some (.string "b")) none) (tourPage "page")

/-- A choice that took its other branch. -/
def tourChoice : Build :=
  let s : Step := ⟨"choice", none, .choice "ready" none none, none⟩
  .push (.fill (.new s) { (Node.ofStep s).facts with branch := some .otherwise })
    (.new ⟨"nothing", none, .empty, none⟩)

/-- A block with a page and two rounds through another, and a choice. -/
def tour : List Build :=
  [.push (.push (.new ⟨"walk", none, .block .empty none, none⟩) (tourPage "home")) tourRounds, tourChoice]

theorem proper_tourPage (uuid : String) : (tourPage uuid).Proper := ⟨trivial, rfl, fun h => absurd rfl h⟩

theorem proper_tourRounds : tourRounds.Proper := ⟨⟨trivial, proper_tourPage "page"⟩, proper_tourPage "page"⟩

/-- Both rounds of the loop are children of its record, the requests of the tour are at three places, and
the page of the loop that is found is the one of the first round. -/
theorem tour_placed :
    tourRounds.node.Built [(tourPage "page").node, (tourPage "page").node] ∧
      tourRounds.node.children = [(tourPage "page").node, (tourPage "page").node] ∧
      (∀ b ∈ tour, b.Proper) ∧
      (∃ places : List Place, places.Pairwise (· < ·) ∧ (∀ p, p ∈ places ↔ (buildAt? tour p).isSome) ∧
        (treeOf tour).flatten.map some = places.map (recordAt? tour)) ∧
      (treeOf tour).flatten.map (·.facts.uuid) =
        ["walk", "home", "pages", "page", "page", "choice", "nothing"] ∧
      (∃ p, recordAt? tour p = some (tourPage "page").node ∧
        ∀ q < p, ∀ m, recordAt? tour q = some m → m.facts.uuid ≠ "page") ∧
      {p | ∃ n, recordAt? tour p = some n ∧ n.facts.request.isSome}.ncard = 3 := by
  have hproper : ∀ b ∈ tour, b.Proper := by
    refine List.forall_mem_cons.2 ⟨⟨⟨trivial, proper_tourPage "home"⟩, proper_tourRounds⟩, ?_⟩
    exact List.forall_mem_singleton.2 ⟨⟨trivial, rfl, fun h => absurd rfl h⟩, trivial⟩
  have hbuilt : tourRounds.node.Built [(tourPage "page").node, (tourPage "page").node] := proper_tourRounds.built
  obtain ⟨hchildren, hplaced⟩ := records_placed
  obtain ⟨hlisted, hfind, -, hcount⟩ := hplaced tour hproper
  have hfound : (treeOf tour).find? "page" = some (tourPage "page").node := rfl
  obtain ⟨p, hp, -, hfirst⟩ := (hfind "page" (tourPage "page").node).1 hfound
  exact ⟨hbuilt, hchildren _ _ hbuilt, hproper, hlisted, rfl, ⟨p, hp, hfirst⟩, hcount.symm⟩

end Walkthrough.Result
