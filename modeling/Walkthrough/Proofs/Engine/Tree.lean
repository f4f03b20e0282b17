import Walkthrough.Proofs.Engine.Balance
import Walkthrough.Proofs.Result.Children

/-!
# The tree of a run

What is known of all nodes of the tree of a run, in order (`Run.facts`): of those that are closed, then
of those of the open containers from the outermost (`Run.Orderly.facts_eq`). The tree only grows, and
only at its end: what a turn adds comes after all that was there, and records no exchange
(`Run.Orderly.turned`), and so it is with all that happens but an exchange (`Run.Silent`).
-/

namespace Walkthrough.Engine

open Result.Node (allFacts allFacts_append allFacts_nil)

/-- No exchange is recorded: there is no request, and no assertion was judged. -/
structure Bare (f : Result.Facts) : Prop where
  request : f.request = none
  assertions : f.assertions = []

variable {Req Res : Type}

/-- What is known of all nodes of the tree of a run. -/
def Run.facts (r : Run Req Res) : List Result.Facts := r.tree.flatten.map (·.facts)

/-- What is known of the nodes of open containers and below, from the outermost container. -/
def openFacts : List Cursor → List Result.Facts
  | [] => []
  | ⟨_, none⟩ :: rest => openFacts rest
  | ⟨_, some c⟩ :: rest => openFacts rest ++ allFacts [c.node]

/-- Only the bottom cursor is without a container, and in no open record anything is kept behind the
place where children go. -/
structure Run.Orderly (r : Run Req Res) : Prop where
  grounded : Grounded r.cursors
  nodes : ∀ cursor ∈ r.cursors, ∀ c, cursor.container = some c → c.node.Orderly

/-- A run has come from another, and its tree has more nodes, at the end. -/
structure Run.Grows (r r' : Run Req Res) (added : List Result.Facts) : Prop where
  orderly : r'.Orderly
  facts : r'.facts = r.facts ++ added

/-- A run has come from another without any exchange: none is recorded in the nodes that come to its tree,
and nothing is extracted. -/
structure Run.Silent (r r' : Run Req Res) : Prop where
  grows : ∃ added, r.Grows r' added ∧ ∀ f ∈ added, Bare f
  extractions : r'.extractions = r.extractions

namespace Run

theorem facts_nestOpen {cursors : List Cursor}
    (h : ∀ cursor ∈ cursors, ∀ c, cursor.container = some c → c.node.Orderly)
    (inner : Option Result.Node) :
    allFacts (nestOpen inner cursors).toList = openFacts cursors ++ allFacts inner.toList := by
  -- from the innermost container: each nests what is further in
  induction cursors generalizing inner with
  | nil => rfl
  | cons cursor rest ih =>
      have hrest := ih fun cursor' hmem => h cursor' (List.mem_cons_of_mem _ hmem)
      obtain ⟨position, container⟩ := cursor
      cases container with
      | none => exact hrest inner
      | some c =>
          have horderly := h _ List.mem_cons_self c rfl
          cases inner with
          | none =>
              have hnested := hrest (some c.node)
              simp only [Option.toList_some] at hnested
              simp [nestOpen, hnested, openFacts]
          | some n =>
              have hnested := hrest (some (c.node.pushChild n))
              simp only [Option.toList_some, horderly.allFacts_pushChild] at hnested
              simp only [nestOpen, hnested, openFacts, Option.toList_some, List.append_assoc]

theorem Orderly.facts_eq {r : Run Req Res} (h : r.Orderly) :
    r.facts = allFacts r.results ++ openFacts r.cursors := by
  have hopen := facts_nestOpen h.nodes none
  rw [Option.toList_none, allFacts_nil, List.append_nil] at hopen
  show allFacts (r.results ++ (nestOpen none r.cursors).toList) = _
  rw [allFacts_append, hopen]

/-! ## Operations -/

theorem facts_congr {r r' : Run Req Res} (hcursors : r'.cursors = r.cursors)
    (hresults : r'.results = r.results) : r'.facts = r.facts := by
  unfold facts tree
  rw [hcursors, hresults]

theorem Orderly.congr {r r' : Run Req Res} (h : r.Orderly) (hcursors : r'.cursors = r.cursors) :
    r'.Orderly := by
  constructor
  · rw [hcursors]
    exact h.grounded
  · rw [hcursors]
    exact h.nodes

/-- Another run whose cursors are the same apart from the innermost, which has an orderly record or
none. -/
theorem Orderly.replace {r r' : Run Req Res} {c c' : Cursor} {rest : List Cursor} (h : r.Orderly)
    (hcursors : r.cursors = c :: rest) (hcursors' : r'.cursors = c' :: rest)
    (hcontainer : c'.container = none ↔ c.container = none)
    (hnode : ∀ k, c'.container = some k → k.node.Orderly) : r'.Orderly := by
  constructor
  · have hgrounded := h.grounded
    rw [hcursors] at hgrounded
    rw [hcursors']
    exact ⟨hcontainer.trans hgrounded.1, hgrounded.2⟩
  · intro cursor hmem
    rw [hcursors'] at hmem
    rcases List.mem_cons.1 hmem with rfl | hmem
    · exact hnode
    · exact h.nodes cursor (by rw [hcursors]; exact List.mem_cons_of_mem _ hmem)

theorem Grows.trans {r r₁ r₂ : Run Req Res} {added more : List Result.Facts}
    (h : r.Grows r₁ added) (h' : r₁.Grows r₂ more) : r.Grows r₂ (added ++ more) where
  orderly := h'.orderly
  facts := by rw [h'.facts, h.facts, List.append_assoc]

theorem Orderly.moveTo {r : Run Req Res} (h : r.Orderly) (next : Option Nat) :
    r.Grows (r.moveTo next) [] := by
  cases hcursors : r.cursors with
  | nil =>
      rw [moveTo_nil hcursors]
      exact ⟨h, (List.append_nil _).symm⟩
  | cons c rest =>
      -- the record of the container stays the same
      have hmoved : (r.moveTo next).cursors = ⟨next, c.container⟩ :: rest := by rw [moveTo_eq hcursors]
      have horderly : (r.moveTo next).Orderly :=
        h.replace hcursors hmoved Iff.rfl (h.nodes c (by rw [hcursors]; exact List.mem_cons_self))
      refine ⟨horderly, ?_⟩
      rw [List.append_nil, horderly.facts_eq, h.facts_eq, hmoved, moveTo_eq hcursors, hcursors]
      obtain ⟨position, container⟩ := c
      cases container <;> rfl

theorem Orderly.record {r : Run Req Res} (h : r.Orderly) (n : Result.Node) :
    r.Grows (r.record n) (allFacts [n]) := by
  have horderly : (r.record n).Orderly := by
    unfold Run.record
    split
    · next position c rest hcursors =>
      have hnode := h.nodes _ (by rw [hcursors]; exact List.mem_cons_self) c rfl
      refine h.replace hcursors rfl (by simp) ?_
      rintro k ⟨⟩
      exact hnode.pushChild n
    · exact h.congr rfl
  refine ⟨horderly, ?_⟩
  rw [horderly.facts_eq, h.facts_eq]
  unfold Run.record
  split
  · next position c rest hcursors =>
    have hnode := h.nodes _ (by rw [hcursors]; exact List.mem_cons_self) c rfl
    rw [hcursors]
    simp only [openFacts, hnode.allFacts_pushChild, List.append_assoc]
  · next hnone =>
    -- without a container on top there is none at all
    have hopen : openFacts r.cursors = [] := by
      have hgrounded := h.grounded
      cases hcursors : r.cursors with
      | nil => rfl
      | cons cursor rest =>
          obtain ⟨position, container⟩ := cursor
          cases container with
          | some c => exact absurd hcursors (hnone position c rest)
          | none =>
              rw [hcursors] at hgrounded
              obtain rfl := hgrounded.1.1 rfl
              rfl
    simp only [hopen, List.append_nil, allFacts_append]

theorem Orderly.openContainer {r : Run Req Res} (h : r.Orderly) (hcursors : r.cursors ≠ [])
    (head : Option Nat) {c : Container} (hnode : c.node.Orderly) (f : Frame) :
    r.Grows (r.openContainer head c f) (allFacts [c.node]) := by
  have horderly : (r.openContainer head c f).Orderly := by
    constructor
    · exact ⟨by simp [hcursors], h.grounded⟩
    · intro cursor hmem
      rcases List.mem_cons.1 hmem with rfl | hmem
      · rintro k ⟨⟩
        exact hnode
      · exact h.nodes cursor hmem
  refine ⟨horderly, ?_⟩
  rw [horderly.facts_eq, h.facts_eq, List.append_assoc]
  rfl

theorem Orderly.close {r : Run Req Res} (h : r.Orderly) : r.Grows r.close [] := by
  unfold Run.close
  split
  · exact ⟨h, (List.append_nil _).symm⟩
  · next position container rest hcursors =>
    have hgrounded := h.grounded
    rw [hcursors] at hgrounded
    have hrest : ({ r with context := r.context.pop, cursors := rest } : Run Req Res).Orderly :=
      ⟨hgrounded.2, fun cursor hmem =>
        h.nodes cursor (by rw [hcursors]; exact List.mem_cons_of_mem _ hmem)⟩
    have hfacts := h.facts_eq
    rw [hcursors] at hfacts
    cases container with
    | none =>
        refine ⟨hrest, ?_⟩
        rw [hrest.facts_eq, hfacts, List.append_nil]
        rfl
    | some c =>
        -- the record of the container is told once more at the same place
        have hrecord := hrest.record c.node
        refine ⟨hrecord.orderly, ?_⟩
        rw [hrecord.facts, hrest.facts_eq, hfacts, List.append_nil, List.append_assoc]
        rfl

theorem Orderly.beginIteration {S : Setup Req Res} {r : Run Req Res} (h : r.Orderly) {c : Container}
    {s : Step} {rest : List Cursor} (hend : r.EndOf S c s rest) (context : Context)
    (control : Control) (head : Option Nat) (key value : Option Json) :
    r.Grows (Engine.beginIteration { r with context } rest c control head key value) [] := by
  have hnode := h.nodes _ (by rw [hend.1]; exact List.mem_cons_self) c rfl
  have horderly :
      (Engine.beginIteration { r with context } rest c control head key value).Orderly := by
    refine h.replace hend.1 rfl (by simp) ?_
    rintro k ⟨⟩
    exact hnode.beginIteration key value
  refine ⟨horderly, ?_⟩
  rw [horderly.facts_eq, h.facts_eq, hend.1, List.append_nil]
  simp only [Engine.beginIteration, openFacts, Result.Node.allFacts_beginIteration]

end Run

/-! ## Turns -/

/-- What a turn adds to the tree of a run: at most one node, which records no exchange, and only if it
enters a step and the run goes on. -/
structure Turn.Adds (S : Setup Req Res) (r : Run Req Res) (t : Turn Req Res)
    (added : List Result.Facts) : Prop where
  grows : r.Grows t.run added
  silent : ∀ f ∈ added, Bare f
  single : added.length ≤ 1
  entering : added ≠ [] → (∃ r', t = .on r') ∧ ∃ p s, r.At S p s

/-- A turn that leaves the tree as it is. -/
theorem Turn.adds_nil {S : Setup Req Res} {r : Run Req Res} {t : Turn Req Res}
    (h : r.Grows t.run []) : t.Adds S r [] :=
  ⟨h, by simp, by simp, fun hne => absurd rfl hne⟩

/-- A turn that adds the record of a step. -/
theorem Turn.adds_singleton {S : Setup Req Res} {r r' : Run Req Res} {f : Result.Facts}
    (h : r.Grows r' [f]) (hbare : Bare f) {p : Nat} {s : Step} (hat : r.At S p s) :
    (Turn.on r').Adds S r [f] := by
  refine ⟨h, ?_, by simp, fun _ => ⟨⟨r', rfl⟩, p, s, hat⟩⟩
  intro f' hf'
  rw [List.mem_singleton.1 hf']
  exact hbare

/-- A turn adds to the end of the tree, and nothing that records an exchange. -/
theorem Run.Orderly.turned {S : Setup Req Res} {r : Run Req Res} (h : r.Orderly)
    {t : Turn Req Res} (hturn : Turned S r t) : ∃ added, t.Adds S r added := by
  have passed : ∀ {p s}, r.At S p s →
      ∃ added, (Turn.on ((r.moveTo s.next).record (.ofStep s))).Adds S r added := by
    intro p s hat
    have hrecord := (h.moveTo s.next).trans ((h.moveTo s.next).orderly.record (.ofStep s))
    exact ⟨_, Turn.adds_singleton hrecord ⟨rfl, rfl⟩ hat⟩
  have opened : ∀ {p s}, r.At S p s → ∀ (head : Option Nat) (control : Control) (n : Result.Node)
      (f : Frame), n.Orderly → n.children = [] → Bare n.facts →
      ∃ added, (Turn.on ((r.moveTo s.next).openContainer head ⟨p, control, n⟩ f)).Adds S r added := by
    intro p s hat head control n f hnode hchildren hbare
    have hopened := (h.moveTo s.next).orderly.openContainer (At.cursors_ne_nil hat _) head
      (c := ⟨p, control, n⟩) hnode f
    have hfacts : allFacts [n] = [n.facts] := by
      rw [Result.Node.allFacts_singleton, hchildren, allFacts_nil]
    rw [hfacts] at hopened
    exact ⟨_, Turn.adds_singleton ((h.moveTo s.next).trans hopened) hbare hat⟩
  have unchanged : r.Grows r [] := ⟨h, (List.append_nil _).symm⟩
  -- a turn moves on, records a step that is through, opens a container, or goes on with one or closes it
  cases hturn with
  | finish => exact ⟨[], Turn.adds_nil unchanged⟩
  | want => exact ⟨[], Turn.adds_nil (h.moveTo _)⟩
  | skip hat => exact passed hat
  | enterBlock hat =>
      exact opened hat _ _ _ _ ⟨fun _ => rfl, fun _ => rfl, fun _ _ => rfl⟩ rfl ⟨rfl, rfl⟩
  | failBlock => exact ⟨[], Turn.adds_nil (h.moveTo _)⟩
  | passEach hat => exact passed hat
  | enterEach hat =>
      exact opened hat _ _ _ _ ⟨fun _ => rfl, fun _ => rfl, fun _ _ => rfl⟩ rfl ⟨rfl, rfl⟩
  | failEach => exact ⟨[], Turn.adds_nil (h.moveTo _)⟩
  | passRepeated hat => exact passed hat
  | enterRepeated hat =>
      exact opened hat _ _ _ _ ⟨fun _ => rfl, fun _ => rfl, fun _ _ => rfl⟩ rfl ⟨rfl, rfl⟩
  | failRepeated => exact ⟨[], Turn.adds_nil (h.moveTo _)⟩
  | enterChoice hat =>
      exact opened hat _ _ _ _ ⟨fun _ => rfl, fun _ => rfl, fun _ _ => rfl⟩ rfl ⟨rfl, rfl⟩
  | failChoice => exact ⟨[], Turn.adds_nil (h.moveTo _)⟩
  | closeTop => exact ⟨[], Turn.adds_nil h.close⟩
  | closeContainer => exact ⟨[], Turn.adds_nil h.close⟩
  | nextItem hend => exact ⟨[], Turn.adds_nil (h.beginIteration hend _ _ _ _ _)⟩
  | nextRound hend => exact ⟨[], Turn.adds_nil (h.beginIteration hend r.context _ _ _ _)⟩
  | failRound => exact ⟨[], Turn.adds_nil unchanged⟩
  | exceed => exact ⟨[], Turn.adds_nil unchanged⟩

/-! ## Runs without an exchange -/

section

variable {S : Setup Req Res} {r r' r₁ : Run Req Res}

theorem Run.Orderly.silent (h : r.Orderly) : r.Silent r :=
  ⟨⟨[], ⟨h, (List.append_nil _).symm⟩, by simp⟩, rfl⟩

/-- A run is the same for its tree and its extractions if its cursors, records and extractions are. -/
theorem Run.Silent.congr (h : r.Silent r₁) (hcursors : r'.cursors = r₁.cursors)
    (hresults : r'.results = r₁.results) (hextractions : r'.extractions = r₁.extractions) :
    r.Silent r' := by
  obtain ⟨⟨added, hgrows, hnone⟩, hkept⟩ := h
  refine ⟨⟨added, ⟨hgrows.orderly.congr hcursors, ?_⟩, hnone⟩, hextractions.trans hkept⟩
  rw [Run.facts_congr hcursors hresults, hgrows.facts]

theorem Run.Silent.trans (h : r.Silent r₁) (hnext : r₁.Orderly → r₁.Silent r') : r.Silent r' := by
  obtain ⟨⟨added, hgrows, hnone⟩, hkept⟩ := h
  obtain ⟨⟨more, hgrows', hnone'⟩, hkept'⟩ := hnext hgrows.orderly
  refine ⟨⟨added ++ more, hgrows.trans hgrows', ?_⟩, hkept'.trans hkept⟩
  intro f hf
  rcases List.mem_append.1 hf with hf | hf
  · exact hnone f hf
  · exact hnone' f hf

/-- Beginning adds nothing to the tree if no chain is open before. -/
theorem Run.Orderly.silent_begin (h : r.Orderly) (hfresh : r.cursors = []) :
    r.Silent (begin S r) := by
  have hcursors : (begin S r).cursors = [⟨S.graph.root, none⟩] := by
    rw [begin, hfresh]
  have horderly : (begin S r).Orderly := by
    constructor
    · rw [hcursors]
      exact ⟨by simp, trivial⟩
    · rw [hcursors]
      rintro cursor hmem c hc
      obtain rfl := List.mem_singleton.1 hmem
      exact absurd hc (by simp)
  refine ⟨⟨[], ⟨horderly, ?_⟩, by simp⟩, rfl⟩
  rw [horderly.facts_eq, h.facts_eq, hcursors, hfresh, List.append_nil]
  rfl

theorem Run.Orderly.silent_turn (h : r.Orderly) {t : Turn Req Res} (hturn : turn S r = .ok t) :
    r.Silent t.run := by
  obtain ⟨added, hadds⟩ := h.turned (turned_of_turn hturn)
  exact ⟨⟨added, hadds.grows, hadds.silent⟩, congrArg Standing.extractions (turn_standing hturn)⟩

theorem Run.Orderly.silent_turns (h : r.Orderly) (hturns : Turns S r r') : r.Silent r' :=
  hturns.keep (P := fun r' => r.Silent r')
    (fun _ _ hsilent hturn => hsilent.trans fun h₁ => h₁.silent_turn hturn) h.silent

theorem Run.Orderly.silent_ends {answer : Except Error Unit} (h : r.Orderly)
    (hends : Ends S r answer r') : r.Silent r' := by
  cases hends with
  | wanted hturn => exact (h.silent_turn hturn).congr rfl rfl rfl
  | finished hturn => exact (h.silent_turn hturn).congr rfl rfl rfl
  | failed hturn => exact (h.silent_turn hturn).congr rfl rfl rfl

theorem Run.Orderly.silent_handed {answer : Except Error (Next Req)} (h : r.Orderly)
    (hhanded : Handed S r answer r') : r.Silent r' := by
  cases hhanded with
  | nothing => exact h.silent
  | again => exact h.silent
  | made => exact h.silent.congr rfl rfl rfl
  | unmade => exact h.silent.congr rfl rfl rfl

end

end Walkthrough.Engine
