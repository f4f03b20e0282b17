import Walkthrough.Json.Shape
import Walkthrough.RequestMaker
import Walkthrough.Text.Number

/-!
# Settings of a runner

What a runner is set up with, from the environment (`Settings.ofEnvironment`) or from a JSON value
(`Settings.ofJson`). A setting that is not made has its default, and names that are no setting are
passed over.
-/

namespace Walkthrough

/-- The settings of a runner. -/
structure Settings where
  /-- Replaces the endpoints of scenarios. -/
  endpoint : Option String
  /-- How many scenarios run at once. -/
  concurrency : Nat
  /-- How long to wait for a response. -/
  timeoutSeconds : Nat
  /-- Expressions see neither files nor environment variables. -/
  restricted : Bool
  /-- The headers that do not follow a redirect. -/
  stripped : List String

namespace Settings

/-- The settings unless others are made. -/
def default : Settings := ⟨none, 4, 30, false, RequestMaker.defaultStripped⟩

/-- The bound of words of 64 bits. -/
def wordBound : Nat := 18446744073709551616

/-! ## Settings in JSON -/

/-- The fields of settings. -/
def fields : List (Json.Field Settings) := [
  ⟨"endpoint", true, fun v s => v.asStringOrNull.map fun e => { s with endpoint := e }⟩,
  ⟨"concurrency", true, fun v s =>
    (v.asNatBelow wordBound "usize").map fun n => { s with concurrency := n }⟩,
  ⟨"timeout_seconds", true, fun v s =>
    (v.asNatBelow wordBound "u64").map fun n => { s with timeoutSeconds := n }⟩,
  ⟨"restricted", true, fun v s => v.asBool.map fun b => { s with restricted := b }⟩,
  ⟨"strip_headers", true, fun v s => v.asStrings.map fun hs => { s with stripped := hs }⟩]

/-- The settings that a JSON value makes. A sequence has no more items than there are settings. -/
def ofJson (v : Json) : Except ShapeFault Settings :=
  match Json.readRecord "RunnerConfig" fields default v, v with
  | .ok (_, true), .array items => .error (.length items.length "fewer elements in array")
  | .ok (s, _), _ => .ok s
  | .error fault, _ => .error fault

/-! ## Settings in the environment -/

/-- What is wrong with the text of a setting. -/
inductive TextFault where
  | number (fault : Text.NumberFault)
  | notBool
  deriving DecidableEq

/-- What is said of the text of a setting. -/
def TextFault.message : TextFault → String
  | .number fault => fault.message
  | .notBool => "provided string was not `true` or `false`"

/-- Why variables make no settings. -/
inductive VariableFault where
  | text (name value : String) (fault : TextFault)
  /-- Two variables make one setting; their names differ in case. -/
  | twice (setting : String)
  deriving DecidableEq

/-- What is said of a fault. -/
def VariableFault.message : VariableFault → String
  | .text name value fault => s!"{fault.message} while parsing value '{value}' provided by {name}"
  | .twice setting => (ShapeFault.duplicateField setting).message

/-- A truth value. -/
def boolOfText (s : String) : Except TextFault Bool :=
  if s = "true" then .ok true else if s = "false" then .ok false else .error .notBool

/-- A number of 64 bits. -/
def natOfText (s : String) : Except TextFault Nat :=
  match Text.natBelow wordBound s with
  | .ok n => .ok n
  | .error fault => .error (.number fault)

/-- A list of texts with commas between them. -/
def listOfText (s : String) : List String := if s.isEmpty then [] else s.splitOn ","

/-- Make the setting of a name from a text; none if the name is no setting. -/
def set? (setting value : String) (s : Settings) : Option (Except TextFault Settings) :=
  match setting with
  | "endpoint" => some (.ok { s with endpoint := some value })
  | "concurrency" => some ((natOfText value).map fun n => { s with concurrency := n })
  | "timeout_seconds" => some ((natOfText value).map fun n => { s with timeoutSeconds := n })
  | "restricted" => some ((boolOfText value).map fun b => { s with restricted := b })
  | "strip_headers" => some (.ok { s with stripped := listOfText value })
  | _ => none

/-- What the names of variables begin with that make settings. -/
def marker : String := "SCENARIO_"

/-- The characters after every repetition of a marker that is not empty. -/
def dropMarkers (marker : List Char) : Nat → List Char → List Char
  | 0, cs => cs
  | fuel + 1, cs =>
    if marker.isPrefixOf cs then dropMarkers marker fuel (cs.drop marker.length) else cs

/-- The name of a variable after its marker, if it has one. -/
def unmarked? (name : String) : Option String :=
  let cs := name.toList
  if marker.toList.isPrefixOf cs then some (String.ofList (dropMarkers marker.toList cs.length cs))
  else none

/-- Make settings from variables in their order; `seen` are the settings made before. -/
def ofVariables : List (String × String) → List String → Settings → Except VariableFault Settings
  | [], _, s => .ok s
  | (name, value) :: rest, seen, s =>
    match unmarked? name with
    | none => ofVariables rest seen s
    | some name =>
      let setting := Text.lowercase name
      match s.set? setting value with
      | none => ofVariables rest seen s
      | some made =>
        if seen.contains setting then .error (.twice setting)
        else match made with
          | .ok s => ofVariables rest (setting :: seen) s
          | .error fault => .error (.text name value fault)

/-- The settings that environment variables make. -/
def ofEnvironment (environment : List (String × String)) : Except VariableFault Settings :=
  ofVariables environment [] default

end Settings

end Walkthrough
