import Walkthrough.Document.Shape

/-!
# Scenario files

What a document says of its scenarios (`File.ofNode`): a file either lists scenarios, which share its
variables and its endpoint, or has the steps of a single one. The steps themselves are not looked into
here.
-/

namespace Walkthrough.Document

open Yaml (Node Value)

/-- A scenario as a file lists it. -/
structure Entry where
  name : String
  endpoint : Option String
  values : Bindings Json
  steps : List Value

/-- A scenario file. -/
structure File where
  name : Option String
  endpoint : Option String
  values : Bindings Json
  scenarios : List Entry
  steps : Option (List Value)

/-- The steps of a chain. -/
def stepsOf (path : Option String) (n : Node) : Except Fault (List Value) := do
  (← nodesOf path n).mapM valueOf

/-- The fields of a scenario. -/
def Entry.fields (path : Option String) : List (Field Node Fault Entry) := [
  ⟨"name", false, fun n e => (textOf (child path "name") "a string" n).map fun s => { e with name := s }⟩,
  ⟨"endpoint", true, fun n e =>
    (textOrAbsent (child path "endpoint") n).map fun s => { e with endpoint := s }⟩,
  ⟨"variables", true, fun n e =>
    (jsonBindings (child path "variables") n).map fun b => { e with values := b }⟩,
  ⟨"steps", true, fun n e => (stepsOf (child path "steps") n).map fun vs => { e with steps := vs }⟩]

/-- A scenario of a list. -/
def Entry.ofNode (path : Option String) (n : Node) : Except Fault Entry :=
  nodeRecord "ScenarioDoc" path (Entry.fields path) ⟨"", none, .empty, []⟩ n

/-- The scenarios of a list; `index` counts those before. -/
def Entry.allOfNodes (path : Option String) : Nat → List Node → Except Fault (List Entry)
  | _, [] => .ok []
  | index, n :: rest => do
    let e ← Entry.ofNode (itemOf path index) n
    return e :: (← Entry.allOfNodes path (index + 1) rest)

/-- The fields of a file. -/
def File.fields : List (Field Node Fault File) :=
  let path (name : String) : Option String := child none name
  [⟨"name", true, fun n f => (textOrAbsent (path "name") n).map fun s => { f with name := s }⟩,
  ⟨"endpoint", true, fun n f => (textOrAbsent (path "endpoint") n).map fun s => { f with endpoint := s }⟩,
  ⟨"variables", true, fun n f =>
    (jsonBindings (path "variables") n).map fun b => { f with values := b }⟩,
  ⟨"scenarios", true, fun n f => do
    let nodes ← nodesOf (path "scenarios") n
    return { f with scenarios := ← Entry.allOfNodes (path "scenarios") 0 nodes }⟩,
  ⟨"steps", true, fun n f => do
    if ← isAbsent n then return { f with steps := none }
    else return { f with steps := some (← stepsOf (path "steps") n) }⟩]

/-- The file that a document describes. -/
def File.ofNode (n : Node) : Except Fault File :=
  nodeRecord "ScenarioFile" none File.fields ⟨none, none, .empty, [], none⟩ n

/-- The name of the scenario of a file that names neither itself nor its scenarios. -/
def defaultName : String := "scenario"

/-- The scenarios of a file: those that it lists, or the one whose steps it has. -/
def File.entries (f : File) : Except Fault (List Entry) :=
  match f.steps, f.scenarios with
  | some _, _ :: _ => .error .stepsAndScenarios
  | some steps, [] => .ok [⟨f.name.getD defaultName, none, .empty, steps⟩]
  | none, [] => .error .noScenarios
  | none, es => .ok es

end Walkthrough.Document
