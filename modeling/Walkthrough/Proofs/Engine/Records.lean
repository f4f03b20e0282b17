import Walkthrough.Proofs.Engine.Meaning
import Walkthrough.Proofs.Result.Children

/-!
# Runs inside their containers

A run after something that its innermost chain did (`Run.settle`), and a run in a container that is
open (`Run.inside`). What is recorded inside is a child of the record of the container, before the
container is closed (`inside_treeWith`) and after (`inside_close`).
-/

namespace Walkthrough.Engine

variable {Req Res : Type}

/-! ## Records and places -/

/-- Add finished children, in order, where the step nests them. -/
def pushAll (n : Result.Node) (children : List Result.Node) : Result.Node :=
  children.foldl Result.Node.pushChild n

namespace Run

/-- What a run carries along. -/
def memory (r : Run Req Res) (asked : List (Nat × Req)) : Memory Req Res :=
  ⟨r.context, r.previous, r.extractions, asked⟩

/-- The run that carries something else along. -/
def carrying (r : Run Req Res) (m : Memory Req Res) : Run Req Res :=
  { r with context := m.context, previous := m.previous, extractions := m.extractions }

/-- Add records, in order, to the innermost open container, or to the top chain. -/
def recordAll (r : Run Req Res) (nodes : List Result.Node) : Run Req Res := nodes.foldl record r

/-- The run after something that its innermost chain did; the chain goes on at `next`. -/
def settle (r : Run Req Res) (next : Option Nat) (m : Memory Req Res) (nodes : List Result.Node) :
    Run Req Res :=
  ((r.moveTo next).recordAll nodes).carrying m

/-- The run inside a container; the chain around it goes on at `next`. -/
def inside (r : Run Req Res) (next position : Option Nat) (c : Container) (m : Memory Req Res) :
    Run Req Res :=
  ({ r with cursors := ⟨position, some c⟩ :: (r.moveTo next).cursors } : Run Req Res).carrying m

/-- The tree of a run with further records. -/
def treeWith (r : Run Req Res) (nodes : List Result.Node) : Result.Tree := (r.recordAll nodes).tree

end Run

/-- The innermost chain of a run is at a place, and nothing waits. Only the outermost chain is that of no
container. -/
structure Ready (r : Run Req Res) (position : Option Nat) : Prop where
  cursors : ∃ k rest, r.cursors = ⟨position, k⟩ :: rest ∧ (k = none → rest = [])
  pending : r.pending = none

theorem recordAll_some {r : Run Req Res} {position : Option Nat} {c : Container}
    {rest : List Cursor} (h : r.cursors = ⟨position, some c⟩ :: rest) (nodes : List Result.Node) :
    r.recordAll nodes =
      { r with cursors := ⟨position, some { c with node := pushAll c.node nodes }⟩ :: rest } := by
  induction nodes generalizing r c with
  | nil =>
      obtain ⟨context, cursors, phase, pending, previous, extractions, results⟩ := r
      obtain rfl : cursors = _ := h
      rfl
  | cons n nodes ih =>
      have hrecord : r.record n =
          { r with cursors := ⟨position, some { c with node := c.node.pushChild n }⟩ :: rest } := by
        unfold Run.record
        rw [h]
      change (r.record n).recordAll nodes = _
      rw [hrecord, ih rfl]
      rfl

theorem recordAll_none {r : Run Req Res} {position : Option Nat} {rest : List Cursor}
    (h : r.cursors = ⟨position, none⟩ :: rest) (nodes : List Result.Node) :
    r.recordAll nodes = { r with results := r.results ++ nodes } := by
  induction nodes generalizing r with
  | nil =>
      rw [List.append_nil]
      rfl
  | cons n nodes ih =>
      have hrecord : r.record n = { r with results := r.results ++ [n] } := by
        unfold Run.record
        rw [h]
      change (r.record n).recordAll nodes = _
      rw [hrecord, ih (r := { r with results := r.results ++ [n] }) h]
      simp

theorem settle_some {r : Run Req Res} {position : Option Nat} {c : Container} {rest : List Cursor}
    (h : r.cursors = ⟨position, some c⟩ :: rest) (next : Option Nat) (m : Memory Req Res)
    (nodes : List Result.Node) :
    r.settle next m nodes = ({ r with cursors :=
      ⟨next, some { c with node := pushAll c.node nodes }⟩ :: rest } : Run Req Res).carrying m := by
  unfold Run.settle
  rw [moveTo_eq h, recordAll_some (show _ = (⟨next, some c⟩ : Cursor) :: rest from rfl)]

theorem settle_none {r : Run Req Res} {position : Option Nat} {rest : List Cursor}
    (h : r.cursors = ⟨position, none⟩ :: rest) (next : Option Nat) (m : Memory Req Res)
    (nodes : List Result.Node) :
    r.settle next m nodes = ({ r with
      cursors := ⟨next, none⟩ :: rest
      results := r.results ++ nodes } : Run Req Res).carrying m := by
  unfold Run.settle
  rw [moveTo_eq h, recordAll_none (show _ = (⟨next, none⟩ : Cursor) :: rest from rfl)]

theorem treeWith_some {r : Run Req Res} {position : Option Nat} {c : Container} {rest : List Cursor}
    (h : r.cursors = ⟨position, some c⟩ :: rest) (nodes : List Result.Node) :
    r.treeWith nodes = ⟨r.results ++ (Run.nestOpen (some (pushAll c.node nodes)) rest).toList⟩ := by
  unfold Run.treeWith
  rw [recordAll_some h]
  rfl

theorem treeWith_none {r : Run Req Res} {position : Option Nat}
    (h : r.cursors = [⟨position, none⟩]) (nodes : List Result.Node) :
    r.treeWith nodes = ⟨r.results ++ nodes⟩ := by
  unfold Run.treeWith
  rw [recordAll_none h]
  simp [Run.tree, h, Run.nestOpen]

section

variable {r : Run Req Res} {position : Option Nat}

theorem Ready.settle (h : Ready r position) (next : Option Nat) (m : Memory Req Res)
    (nodes : List Result.Node) : Ready (r.settle next m nodes) next := by
  obtain ⟨⟨k, rest, hcursors, hroot⟩, hpending⟩ := h
  cases k with
  | none =>
      rw [settle_none hcursors]
      exact ⟨⟨none, rest, rfl, hroot⟩, hpending⟩
  | some c =>
      rw [settle_some hcursors]
      exact ⟨⟨_, rest, rfl, by simp⟩, hpending⟩

theorem Ready.inside (h : Ready r position) (next head : Option Nat) (c : Container)
    (m : Memory Req Res) : Ready (r.inside next head c m) head :=
  ⟨⟨some c, (r.moveTo next).cursors, rfl, by simp⟩, h.pending⟩

theorem settle_self (h : Ready r position) (asked : List (Nat × Req)) :
    r.settle position (r.memory asked) [] = r := by
  obtain ⟨⟨k, rest, hcursors, _⟩, _⟩ := h
  unfold Run.settle
  rw [moveTo_eq hcursors]
  obtain ⟨context, cursors, phase, pending, previous, extractions, results⟩ := r
  obtain rfl : cursors = _ := hcursors
  rfl

theorem settle_settle (h : Ready r position) (next next' : Option Nat) (m m' : Memory Req Res)
    (nodes nodes' : List Result.Node) :
    (r.settle next m nodes).settle next' m' nodes' = r.settle next' m' (nodes ++ nodes') := by
  obtain ⟨⟨k, rest, hcursors, _⟩, _⟩ := h
  cases k with
  | none =>
      rw [settle_none hcursors, settle_none hcursors,
        settle_none (show _ = (⟨next, none⟩ : Cursor) :: rest from rfl)]
      simp [Run.carrying]
  | some c =>
      rw [settle_some hcursors, settle_some hcursors,
        settle_some (show _ = (⟨next, some _⟩ : Cursor) :: rest from rfl)]
      simp [Run.carrying, pushAll]

theorem settle_treeWith (h : Ready r position) (next : Option Nat) (m : Memory Req Res)
    (nodes nodes' : List Result.Node) :
    (r.settle next m nodes).treeWith nodes' = r.treeWith (nodes ++ nodes') := by
  obtain ⟨⟨k, rest, hcursors, hroot⟩, _⟩ := h
  cases k with
  | none =>
      obtain rfl := hroot rfl
      rw [settle_none hcursors, treeWith_none hcursors,
        treeWith_none (show _ = [(⟨next, none⟩ : Cursor)] from rfl)]
      simp [Run.carrying]
  | some c =>
      rw [settle_some hcursors, treeWith_some hcursors,
        treeWith_some (show _ = (⟨next, some _⟩ : Cursor) :: rest from rfl)]
      simp [Run.carrying, pushAll]

/-- Records inside a container are children of the record of the container. -/
theorem inside_treeWith (h : Ready r position) (next head : Option Nat) (c : Container)
    (m : Memory Req Res) (nodes : List Result.Node) :
    (r.inside next head c m).treeWith nodes = r.treeWith [pushAll c.node nodes] := by
  obtain ⟨⟨k, rest, hcursors, hroot⟩, _⟩ := h
  -- open records are nested as records are added: each is a child of the one around it
  rw [treeWith_some (show _ = (⟨head, some c⟩ : Cursor) :: (r.moveTo next).cursors from rfl),
    moveTo_eq hcursors]
  cases k with
  | none =>
      obtain rfl := hroot rfl
      rw [treeWith_none hcursors]
      rfl
  | some c' =>
      rw [treeWith_some hcursors]
      rfl

/-- The chain in a container is through. -/
theorem inside_settle (next head : Option Nat) (c : Container) (m m' : Memory Req Res)
    (nodes : List Result.Node) :
    (r.inside next head c m).settle none m' nodes =
      r.inside next none { c with node := pushAll c.node nodes } m' := by
  rw [settle_some (show _ = (⟨head, some c⟩ : Cursor) :: (r.moveTo next).cursors from rfl)]
  rfl

/-- A container that is closed is recorded around it. -/
theorem inside_close (h : Ready r position) (next head : Option Nat) (c : Container)
    (m : Memory Req Res) :
    (r.inside next head c m).close =
      r.settle next m.leave [c.node] := by
  obtain ⟨⟨k, rest, hcursors, _⟩, _⟩ := h
  unfold Run.inside
  rw [moveTo_eq hcursors]
  cases k with
  | none =>
      rw [settle_none hcursors]
      rfl
  | some c' =>
      rw [settle_some hcursors]
      rfl

/-- Opening a container in a run whose chain goes on. -/
theorem openContainer_moveTo (next head : Option Nat) (c : Container) (f : Frame)
    (asked : List (Nat × Req)) :
    (r.moveTo next).openContainer head c f =
      r.inside next head c ((r.memory asked).enter f) := by
  unfold Run.moveTo Run.inside Run.carrying Run.openContainer Run.memory Run.moveTo
  cases r.cursors <;> rfl

end

/-! ## Records of containers -/

theorem pushAll_blockNode {s : Step} (h : s.tag = .block) (f : Frame)
    (nodes more : List Result.Node) :
    pushAll (blockNode s f nodes) more = blockNode s f (nodes ++ more) := by
  induction more generalizing nodes with
  | nil => rw [List.append_nil]; rfl
  | cons n more ih =>
      have hpush : (blockNode s f nodes).pushChild n = blockNode s f (nodes ++ [n]) := by
        simp [Result.Node.pushChild, blockNode, declaringNode, Result.Node.ofStep, h]
      change pushAll ((blockNode s f nodes).pushChild n) more = _
      rw [hpush, ih, List.append_assoc]
      rfl

theorem pushAll_choiceNode {s : Step} (h : s.tag = .choice) (holds : Bool)
    (nodes more : List Result.Node) :
    pushAll (choiceNode s holds nodes) more = choiceNode s holds (nodes ++ more) := by
  induction more generalizing nodes with
  | nil => rw [List.append_nil]; rfl
  | cons n more ih =>
      have hpush : (choiceNode s holds nodes).pushChild n = choiceNode s holds (nodes ++ [n]) := by
        cases holds <;>
          simp [Result.Node.pushChild, choiceNode, branchNode, Result.Node.ofStep, h]
      change pushAll ((choiceNode s holds nodes).pushChild n) more = _
      rw [hpush, ih, List.append_assoc]
      rfl

theorem pushAll_roundsNode {s : Step} (h : s.tag = .each ∨ s.tag = .repeated) (rounds : List Round)
    (pass : Result.Pass) (nodes more : List Result.Node) :
    pushAll (roundsNode s (rounds ++ [(pass, nodes)])) more =
      roundsNode s (rounds ++ [(pass, nodes ++ more)]) := by
  induction more generalizing nodes with
  | nil => rw [List.append_nil]; rfl
  | cons n more ih =>
      have hpush : (roundsNode s (rounds ++ [(pass, nodes)])).pushChild n =
          roundsNode s (rounds ++ [(pass, nodes ++ [n])]) := by
        rcases h with h | h <;>
          simp [Result.Node.pushChild, roundsNode, Result.Node.ofStep, h,
            Result.Node.pushIteration_append]
      change pushAll ((roundsNode s (rounds ++ [(pass, nodes)])).pushChild n) more = _
      rw [hpush, ih, List.append_assoc]
      rfl

end Walkthrough.Engine
