import Walkthrough.Document.File
import Walkthrough.Document.Outline
import Walkthrough.Host

/-!
# Scenarios

A scenario is a graph of steps with the values that its expressions start from. Scenarios are loaded
from the text of a document (`Scenario.load`) or from a file (`Scenario.loadFile`). A step without an
identifier gets one from `fresh`, by the place of its scenario in the file and its own in the graph.
-/

namespace Walkthrough

/-- A scenario that is ready to run. -/
structure Scenario where
  name : String
  endpoint : Option String
  graph : Graph
  values : Bindings Json

namespace Scenario

open Document

/-- The scenario of an entry of a file. -/
def ofEntry (fresh : Nat → Nat → String) (file : File) (index : Nat) (e : Entry) :
    Except Error Scenario := do
  let outlines ← match Outline.readChain (Outline.read Yaml.Written.depthLimit)
      s!"scenarios[{index}]" 0 e.steps with
    | .ok outlines => Except.ok outlines
    | .error fault => .error (.parse fault)
  let graph ← Graph.ofOutlines (fresh index) outlines
  return ⟨e.name, e.endpoint.or file.endpoint, graph, file.values.extend e.values⟩

/-- The scenarios of entries; no name occurs twice. `seen` are the names before. -/
def ofEntries (fresh : Nat → Nat → String) (file : File) : List String → Nat → List Entry →
    Except Error (List Scenario)
  | _, _, [] => .ok []
  | seen, index, e :: rest =>
    if seen.contains e.name then .error (.parse (.duplicateName e.name))
    else do
      let s ← ofEntry fresh file index e
      return s :: (← ofEntries fresh file (e.name :: seen) (index + 1) rest)

/-- The scenarios of a document. -/
def ofNode (fresh : Nat → Nat → String) (n : Yaml.Node) : Except Error (List Scenario) :=
  match File.ofNode n with
  | .error fault => .error (.parse fault)
  | .ok file => match file.entries with
    | .error fault => .error (.parse fault)
    | .ok entries => ofEntries fresh file [] 0 entries

/-- The scenarios of a text. Whatever else is wrong with it, a text without a plain value is
malformed. -/
def load (fresh : Nat → Nat → String) (text : String) : Except Error (List Scenario) :=
  match Yaml.Node.ofString? text with
  | none => .error (.parse .malformed)
  | some n => match ofNode fresh n with
    | .ok scenarios => .ok scenarios
    | .error e => if n.value?.isSome then .error e else .error (.parse .malformed)

/-- What is said of an error inside of a file: the kind is left out if it follows from that. -/
def innerMessage : Error → String
  | .parse fault => fault.message
  | e => e.message

/-- The scenarios of a file. An error names the file, unless there is no document to speak of. -/
def loadFile (fresh : Nat → Nat → String) (host : Host) (path : String) :
    Except Error (List Scenario) :=
  match host.readText path with
  | .error fault => .error (.parse (.unreadable path fault.message))
  | .ok text => match load fresh text with
    | .ok scenarios => .ok scenarios
    | .error (.parse .malformed) => .error (.parse .malformed)
    | .error e => .error (.parse (.inFile path (innerMessage e)))

end Scenario

end Walkthrough
