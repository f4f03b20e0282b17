import Walkthrough.Shape

/-!
# Why a document is no scenario file
-/

namespace Walkthrough.Document

/-- Why a document is no scenario file. -/
inductive Fault where
  /-- The text is no document at all. -/
  | malformed
  /-- A value has the wrong shape; the path, if any, leads to it. -/
  | shape (path : Option String) (fault : ShapeFault)
  | stepsAndScenarios
  | noScenarios
  | duplicateName (name : String)
  | stepKind (path : String)
  | noKind (path : String) (kinds : List String)
  | severalKinds (path : String) (kinds : List String)
  | leafSettings (path kind : String)
  | takesNoValue (path kind : String)
  | declaration (path name : String)
  /-- A step of the document has the wrong shape. -/
  | step (path : String) (fault : ShapeFault)
  /-- The file cannot be read. -/
  | unreadable (file reason : String)
  /-- A file holds a faulty document. -/
  | inFile (file message : String)
  deriving DecidableEq

/-- A message after the path of the value that it is about. -/
def located (path : Option String) (message : String) : String :=
  match path with
  | some p => s!"{p}: {message}"
  | none => message

/-- What is said of a fault. -/
def Fault.message : Fault → String
  | .malformed => "<malformed yaml>"
  | .shape path fault => located path fault.message
  | .stepsAndScenarios => "A file declares either top-level 'steps' or 'scenarios', not both"
  | .noScenarios => "File declares no scenarios"
  | .duplicateName name => s!"Duplicate scenario name: {name}"
  | .stepKind path => s!"{path}: a step must be a mapping"
  | .noKind path kinds => s!"{path}: a step needs one of: " ++ ", ".intercalate kinds
  | .severalKinds path kinds => s!"{path}: a step has more than one kind: " ++ ", ".intercalate kinds
  | .leafSettings path kind => s!"{path}: '{kind}' steps cannot carry headers, set or expect"
  | .takesNoValue path kind => s!"{path}: '{kind}' takes no value"
  | .declaration path name => s!"{path}: declaration '{name}' must be an expression string"
  | .step path fault => s!"{path}: {fault.message}"
  | .unreadable file reason => s!"Cannot read {file}: {reason}"
  | .inFile file message => s!"{file}: {message}"

end Walkthrough.Document
