import Walkthrough.Proofs.Engine.Turn
import Walkthrough.Proofs.Result.Passes

/-!
# What is said of all records of a run

Something may be said of every record of a run by what is known of it and by its iterations, and more of
the record of an open container, by what is left to do in it (`Throughout`). All that a run does with
records keeps this if it holds of a container that is opened and of one that begins an iteration, and it
holds of all nodes in the tree (`Throughout.tree`).
-/

namespace Walkthrough.Engine

open Result (Facts Pass Node)

variable {Req Res : Type} {S : Setup Req Res} {r r' : Run Req Res}

/-- `P` is said of all records of a run and below, and `Q` of those of open containers, with what is left to
do in them. -/
structure Throughout (P : Facts → List Pass → Prop) (Q : Control → Facts → List Pass → Prop)
    (r : Run Req Res) : Prop where
  results : ∀ n ∈ r.results, n.Everywhere P
  opened : ∀ cursor ∈ r.cursors, ∀ c, cursor.container = some c →
    c.node.Everywhere P ∧ Q c.control c.node.facts c.node.passes

namespace Throughout

variable {P : Facts → List Pass → Prop} {Q : Control → Facts → List Pass → Prop}

theorem congr (h : Throughout P Q r) (hcursors : r'.cursors = r.cursors)
    (hresults : r'.results = r.results) : Throughout P Q r' := by
  constructor
  · rw [hresults]
    exact h.results
  · rw [hcursors]
    exact h.opened

/-- Another run with the same records whose cursors are the same apart from the innermost. -/
theorem replace {c c' : Cursor} {rest : List Cursor} (h : Throughout P Q r)
    (hcursors : r.cursors = c :: rest) (hcursors' : r'.cursors = c' :: rest)
    (hresults : r'.results = r.results)
    (hinnermost : ∀ k, c'.container = some k →
      k.node.Everywhere P ∧ Q k.control k.node.facts k.node.passes) : Throughout P Q r' := by
  constructor
  · rw [hresults]
    exact h.results
  · intro cursor hmem
    rw [hcursors'] at hmem
    rcases List.mem_cons.1 hmem with rfl | hmem
    · exact hinnermost
    · exact h.opened cursor (by rw [hcursors]; exact List.mem_cons_of_mem _ hmem)

theorem moveTo (h : Throughout P Q r) (next : Option Nat) : Throughout P Q (r.moveTo next) := by
  cases hcursors : r.cursors with
  | nil =>
    rw [moveTo_nil hcursors]
    exact h
  | cons c rest =>
    have hmoved : (r.moveTo next).cursors = ⟨next, c.container⟩ :: rest := by rw [moveTo_eq hcursors]
    have hresults : (r.moveTo next).results = r.results := by rw [moveTo_eq hcursors]
    exact h.replace hcursors hmoved hresults (h.opened c (by rw [hcursors]; exact List.mem_cons_self))

theorem record (h : Throughout P Q r) {n : Node} (hn : n.Everywhere P) : Throughout P Q (r.record n) := by
  unfold Run.record
  split
  · next position c rest hcursors =>
    obtain ⟨hnode, hleft⟩ := h.opened _ (by rw [hcursors]; exact List.mem_cons_self) c rfl
    refine h.replace hcursors rfl rfl ?_
    rintro k ⟨⟩
    refine ⟨hnode.pushChild hn, ?_⟩
    rw [Node.facts_pushChild, Node.passes_pushChild]
    exact hleft
  · refine ⟨fun m hm => ?_, h.opened⟩
    rcases List.mem_append.1 hm with hm | hm
    · exact h.results m hm
    · rw [List.mem_singleton.1 hm]
      exact hn

theorem openContainer (h : Throughout P Q r) {c : Container} (hnode : c.node.Everywhere P)
    (hleft : Q c.control c.node.facts c.node.passes) (head : Option Nat) (f : Frame) :
    Throughout P Q (r.openContainer head c f) := by
  refine ⟨h.results, fun cursor hmem => ?_⟩
  rcases List.mem_cons.1 hmem with rfl | hmem
  · rintro k ⟨⟩
    exact ⟨hnode, hleft⟩
  · exact h.opened cursor hmem

theorem close (h : Throughout P Q r) : Throughout P Q r.close := by
  unfold Run.close
  split
  · exact h
  · next position container rest hcursors =>
    have hrest : Throughout P Q { r with context := r.context.pop, cursors := rest } :=
      ⟨h.results, fun cursor hmem => h.opened cursor (by rw [hcursors]; exact List.mem_cons_of_mem _ hmem)⟩
    cases container with
    | none => exact hrest
    | some c => exact hrest.record (h.opened _ (by rw [hcursors]; exact List.mem_cons_self) c rfl).1

/-- What is said of the innermost container, and of its record and all below. -/
theorem innermost (h : Throughout P Q r) {c : Container} {s : Step} {rest : List Cursor}
    (hend : r.EndOf S c s rest) : c.node.Everywhere P ∧ Q c.control c.node.facts c.node.passes :=
  h.opened _ (by rw [hend.1]; exact List.mem_cons_self) c rfl

theorem beginIteration (h : Throughout P Q r) {c : Container} {s : Step} {rest : List Cursor}
    (hend : r.EndOf S c s rest) {control : Control} {key value : Option Json}
    (hown : P c.node.facts (c.node.passes ++ [⟨key, value⟩]))
    (hleft : Q control c.node.facts (c.node.passes ++ [⟨key, value⟩])) (context : Context)
    (head : Option Nat) :
    Throughout P Q (Engine.beginIteration { r with context } rest c control head key value) := by
  refine h.replace hend.1 rfl rfl ?_
  rintro k ⟨⟩
  refine ⟨(h.innermost hend).1.beginIteration hown, ?_⟩
  rw [Node.facts_beginIteration, Node.passes_beginIteration]
  exact hleft

/-- It is said of all nodes in the tree of the run. -/
theorem tree (h : Throughout P Q r) : ∀ n ∈ r.tree.flatten, P n.facts n.passes := by
  -- from the innermost container: each nests what is further in
  have nested : ∀ (cursors : List Cursor) (inner : Option Node), (∀ m, inner = some m → m.Everywhere P) →
      (∀ cursor ∈ cursors, ∀ c, cursor.container = some c → c.node.Everywhere P) →
      ∀ n, Run.nestOpen inner cursors = some n → n.Everywhere P := by
    intro cursors
    induction cursors with
    | nil => exact fun inner hinner _ n hn => hinner n hn
    | cons cursor rest ih =>
      intro inner hinner hopened n hn
      have hrest := fun cursor' hmem => hopened cursor' (List.mem_cons_of_mem _ hmem)
      obtain ⟨position, container⟩ := cursor
      cases container with
      | none => exact ih inner hinner hrest n hn
      | some c =>
        have hnode := hopened _ List.mem_cons_self c rfl
        refine ih _ ?_ hrest n hn
        cases inner with
        | none =>
          rintro m ⟨⟩
          exact hnode
        | some m =>
          rintro m' ⟨⟩
          exact hnode.pushChild (hinner m rfl)
  intro n hn
  obtain ⟨m, hm, hbelow⟩ := Node.mem_flattenAll.1 hn
  rcases List.mem_append.1 hm with hm | hm
  · exact h.results m hm n hbelow
  · have hopen := nested r.cursors none (by simp) (fun cursor hmem c hc => (h.opened cursor hmem c hc).1)
    exact hopen m (Option.mem_toList.1 hm) n hbelow

end Throughout

end Walkthrough.Engine
