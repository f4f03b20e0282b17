import Walkthrough.Bindings
import Walkthrough.Document.Fault
import Walkthrough.Template.Value
import Walkthrough.Yaml.Value

/-!
# Documents of an expected shape

Reading the nodes and the values of a document into strings, lists, mappings and records. Nodes are
read by their text, whatever a plain scalar means, and faults name the path to the node. Values are
read by what they are, and null counts as an empty list or mapping.
-/

namespace Walkthrough.Document

open Yaml (Node Value)

/-! ## Records -/

/-- A field of a record: its name, whether it may be missing, and how its value is read into the
record. -/
structure Field (V F α : Type) where
  name : String
  optional : Bool
  read : V → α → Except F α

/-- Read the fields of a record in the order in which they are written: each is known and occurs
once. -/
def readFields {V F α : Type} (raise : ShapeFault → F) (fields : List (Field V F α)) :
    List (Except F String × V) → List String → α → Except F (α × List String)
  | [], seen, a => .ok (a, seen)
  | (key, v) :: rest, seen, a => do
    let k ← key
    match fields.find? fun f => f.name == k with
    | none => .error (raise (.unknownField k (fields.map (·.name))))
    | some f =>
      if seen.contains k then .error (raise (.duplicateField k))
      else readFields raise fields rest (k :: seen) (← f.read v a)

/-- Read a record; `start` holds what missing fields stand for. -/
def readRecord {V F α : Type} (raise : ShapeFault → F) (fields : List (Field V F α)) (start : α)
    (entries : List (Except F String × V)) : Except F α := do
  let (a, seen) ← readFields raise fields entries [] start
  match fields.find? fun f => !f.optional && !seen.contains f.name with
  | some f => .error (raise (.missingField f.name))
  | none => .ok a

/-! ## Descriptions -/

/-- What a list is called in messages. -/
def listWord : String := "sequence"

/-- What a mapping is called in messages. -/
def mapWord : String := "map"

/-- What a string is called in messages. -/
def stringWord (s : String) : String := "string " ++ String.ofList (Template.Value.quoted s)

/-- What a number with a point or exponent is called in messages. -/
def floatWord (x : Float) : String := s!"floating point `{Binary64.plainText.write x}`"

/-- What a value is, in words. -/
def describe : Value → String
  | .null => "unit value"
  | .bool b => if b then "boolean `true`" else "boolean `false`"
  | .int n => s!"integer `{n.val}`"
  | .float x => floatWord x
  | .string s => stringWord s
  | .list _ => listWord
  | .map _ => mapWord
  | .tagged _ _ => "enum"

/-- What a node is, in words. Only a node with a plain value has a description. -/
def describeNode : Node → String
  | .scalar tag plain text =>
    (((Yaml.meaning? tag plain text).bind (·.value? text)).map describe).getD ""
  | .list _ _ => listWord
  | .map _ _ => mapWord

/-! ## Nodes -/

/-- The path to a member of a mapping. -/
def child (path : Option String) (name : String) : Option String :=
  match path with
  | none => some name
  | some p => some (p ++ "." ++ name)

/-- The path to an item of a list. -/
def itemOf (path : Option String) (index : Nat) : Option String :=
  some (path.getD "." ++ s!"[{index}]")

/-- A node stands where something else is expected. -/
def unexpected {α : Type} (path : Option String) (n : Node) (expected : String) : Except Fault α :=
  .error (.shape path (.kind (describeNode n) expected))

/-- Nothing is written. -/
def isBlankNode : Node → Bool
  | .scalar _ plain text => plain && text.isEmpty
  | _ => false

/-- A node stands for a missing value. -/
def isAbsent : Node → Except Fault Bool
  | .scalar tag plain text =>
    if !plain then .ok false
    else match tag with
      | none => .ok (text.isEmpty || Yaml.isNull text)
      | some t =>
        if t ≠ Yaml.kindTag "null" then .ok false
        else if Yaml.isNull text then .ok true
        else .error .malformed
  | _ => .ok false

/-- The text of a scalar. -/
def textOf (path : Option String) (expected : String) : Node → Except Fault String
  | .scalar _ _ text => .ok text
  | n => unexpected path n expected

/-- The text of a scalar, unless it stands for a missing value. -/
def textOrAbsent (path : Option String) (n : Node) : Except Fault (Option String) := do
  if ← isAbsent n then return none
  else return some (← textOf path "a string" n)

/-- The items of a list. -/
def nodesOf (path : Option String) (n : Node) : Except Fault (List Node) :=
  match n with
  | .list _ items => .ok items
  | _ => if isBlankNode n then .ok [] else unexpected path n "a sequence"

/-- The entries of a mapping. -/
def entriesOf (path : Option String) (expected : String) (n : Node) : Except Fault (List (Node × Node)) :=
  match n with
  | .map _ entries => .ok entries
  | _ => if isBlankNode n then .ok [] else unexpected path n expected

/-- Read a record of a node; `name` names it in messages. -/
def nodeRecord {α : Type} (name : String) (path : Option String) (fields : List (Field Node Fault α))
    (start : α) (n : Node) : Except Fault α := do
  let entries ← entriesOf path s!"struct {name}" n
  readRecord (.shape path) fields start
    (entries.map fun e => (textOf path "field identifier" e.1, e.2))

/-- The plain value of a node. -/
def valueOf (n : Node) : Except Fault Value :=
  match n.value? with
  | some v => .ok v
  | none => .error .malformed

/-- A node with a tag of its own is no JSON value. -/
def taggedJson {α : Type} (path : Option String) : Except Fault α :=
  .error (.shape path (.kind "enum" "any valid JSON value"))

mutual

/-- A node as a JSON value. -/
def jsonOf (path : Option String) : Node → Except Fault Json
  | .scalar tag plain text =>
    if (Yaml.keptTag? tag).isSome then taggedJson path
    else match Yaml.meaning? tag plain text with
      | none | some .wide => .error .malformed
      | some .null => .ok .null
      | some (.bool b) => .ok (.bool b)
      | some (.int n) => .ok (.number (.int n))
      | some (.float x) => .ok (Json.ofFloat x)
      | some .string => .ok (.string text)
  | .list tag items =>
    if (Yaml.keptTag? tag).isSome then taggedJson path
    else (jsonItems path 0 items).map .array
  | .map tag entries =>
    if (Yaml.keptTag? tag).isSome then taggedJson path
    else (jsonMembers path "a string key" entries).map fun ms => .object (Json.sortMembers ms)

/-- Items as JSON values; `index` counts those before. -/
def jsonItems (path : Option String) : Nat → List Node → Except Fault (List Json)
  | _, [] => .ok []
  | index, n :: rest => do
    let v ← jsonOf (itemOf path index) n
    return v :: (← jsonItems path (index + 1) rest)

/-- Entries as members of a JSON object; `expected` says what their keys have to be. -/
def jsonMembers (path : Option String) (expected : String) :
    List (Node × Node) → Except Fault (List (String × Json))
  | [] => .ok []
  | (k, n) :: rest => do
    let name ← textOf path expected k
    let v ← jsonOf (child path name) n
    return (name, v) :: (← jsonMembers path expected rest)

end

/-- Names with JSON values. -/
def jsonBindings (path : Option String) (n : Node) : Except Fault (Bindings Json) := do
  let entries ← entriesOf path "a map" n
  return Bindings.ofList (← jsonMembers path "a string" entries)

/-! ## Values -/

/-- A value without its tags. -/
def untag : Value → Value
  | .tagged _ v => untag v
  | v => v

/-- A value stands where something else is expected. -/
def misplaced {α : Type} (v : Value) (expected : String) : Except ShapeFault α :=
  .error (.kind (describe (untag v)) expected)

/-- A string. -/
def stringOf (expected : String) (v : Value) : Except ShapeFault String :=
  match untag v with
  | .string s => .ok s
  | _ => misplaced v expected

/-- A string, or null. -/
def stringOrNull : Value → Except ShapeFault (Option String)
  | .null => .ok none
  | v => (stringOf "a string" v).map some

/-- The items of a list. -/
def itemsOf (v : Value) : Except ShapeFault (List Value) :=
  match untag v with
  | .list items => .ok items
  | .null => .ok []
  | _ => misplaced v "a sequence"

/-- The entries of a mapping. -/
def membersOf (expected : String) (v : Value) : Except ShapeFault (List (Value × Value)) :=
  match untag v with
  | .map entries => .ok entries
  | .null => .ok []
  | _ => misplaced v expected

/-- A list of strings. -/
def stringsOf (v : Value) : Except ShapeFault (List String) := do
  (← itemsOf v).mapM (stringOf "a string")

/-- Names with values. -/
def bindingsOf {α : Type} (read : Value → Except ShapeFault α) (v : Value) :
    Except ShapeFault (Bindings α) := do
  let entries ← (← membersOf "a map" v).mapM fun e => do
    return (← stringOf "a string" e.1, ← read e.2)
  return Bindings.ofList entries

/-- Names with strings. -/
def stringBindings (v : Value) : Except ShapeFault (Bindings String) :=
  bindingsOf (stringOf "a string") v

/-- Read a record of a value; `name` names it in messages. -/
def valueRecord {α : Type} (name : String) (fields : List (Field Value ShapeFault α)) (start : α)
    (v : Value) : Except ShapeFault α := do
  let entries ← membersOf s!"struct {name}" v
  readRecord id fields start (entries.map fun e => (stringOf "field identifier" e.1, e.2))

end Walkthrough.Document
