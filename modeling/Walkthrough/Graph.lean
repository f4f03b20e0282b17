import Walkthrough.Step
import Walkthrough.Error

/-!
# Graphs of steps

A graph holds the steps of a scenario and the place of the first one. Graphs are drafted step by step
and then built; building refuses places outside the graph, identifiers that occur twice, and loops
that do not name their key and value apart.
-/

namespace Walkthrough

/-- The steps of a scenario and the place of the first step of the top chain. -/
structure Graph where
  steps : Array Step
  root : Option Nat

namespace Graph

/-- The step at a place. -/
def step? (g : Graph) (place : Nat) : Option Step := g.steps[place]?

/-- How many steps a graph has. -/
def size (g : Graph) : Nat := g.steps.size

/-- The place of the step with an identifier. -/
def find? (g : Graph) (uuid : String) : Option Nat := g.steps.findIdx? fun s => s.uuid == uuid

/-- The places of a chain from one on, at most `limit` of them. -/
def chain (g : Graph) : (limit : Nat) → Option Nat → List Nat
  | 0, _ | _, none => []
  | limit + 1, some place =>
    match g.step? place with
    | some s => place :: g.chain limit s.next
    | none => []

/-! ## Building -/

/-- A place, if any, lies among the first `size`. -/
def within (size : Nat) (place : Option Nat) : Bool := place.all fun p => p < size

/-- The places that a step refers to lie among the first `size`. -/
def linksWithin (size : Nat) (s : Step) : Bool :=
  within size s.next && s.action.children.all fun p => p < size

/-- What is wrong with the names of a loop. -/
def loopFault? (s : Step) : Option ConfigurationFault :=
  match s.action with
  | .each _ key value _ =>
    if key.isEmpty || value.isEmpty then some (.loopUnnamed s.uuid)
    else if key = value then some (.loopSameName s.uuid key)
    else none
  | _ => none

/-- What is wrong with steps, given the identifiers of those before: the first fault. -/
def stepsFault? (size : Nat) : List String → List Step → Option ConfigurationFault
  | _, [] => none
  | seen, s :: rest =>
    if seen.contains s.uuid then some (.duplicateStep s.uuid)
    else if !linksWithin size s then some (.linkOutside s.uuid)
    else match loopFault? s with
      | some fault => some fault
      | none => stepsFault? size (s.uuid :: seen) rest

/-- What is wrong with a graph. -/
def fault? (g : Graph) : Option ConfigurationFault :=
  if !within g.size g.root then some .rootOutside
  else stepsFault? g.size [] g.steps.toList

/-- A graph of steps, if nothing is wrong with it. -/
def build (steps : Array Step) (root : Option Nat) : Except Error Graph :=
  let g : Graph := ⟨steps, root⟩
  match g.fault? with
  | some fault => .error (.configuration fault)
  | none => .ok g

end Graph

/-- Steps that are put together to a graph. -/
structure Draft where
  steps : Array Step

namespace Draft

/-- No step yet. -/
def empty : Draft := ⟨#[]⟩

/-- Add a step; its place is the number of steps before. -/
def add (d : Draft) (s : Step) : Draft × Nat := (⟨d.steps.push s⟩, d.steps.size)

/-- Make one step the next of another. -/
def link (d : Draft) (place next : Nat) : Draft :=
  ⟨d.steps.modify place fun s => { s with next := some next }⟩

/-- Link steps to a chain in the given order. -/
def chain (d : Draft) : List Nat → Draft
  | a :: b :: rest => chain (d.link a b) (b :: rest)
  | _ => d

/-- The graph of the steps. -/
def build (d : Draft) (root : Option Nat) : Except Error Graph := Graph.build d.steps root

end Draft

end Walkthrough
