import Walkthrough.Bindings
import Walkthrough.Shape
import Walkthrough.Json.Reader
import Walkthrough.Template.Value

/-!
# JSON values of an expected shape

Reading a JSON value into strings, numbers, mappings and records, with the fault that says what stands
where something else is expected. A record may also be written as the sequence of its fields.
-/

namespace Walkthrough.Json

/-- What a value is, in words. -/
def description : Json → String
  | .null => "null"
  | .bool b => if b then "boolean `true`" else "boolean `false`"
  | .number (.int n) => s!"integer `{n.val}`"
  | .number (.float x) => s!"floating point `{Binary64.jsonText.write x.val}`"
  | .string s => "string " ++ String.ofList (Template.Value.quoted s)
  | .array _ => "sequence"
  | .object _ => "map"

/-- A string. -/
def asString : Json → Except ShapeFault String
  | .string s => .ok s
  | v => .error (.kind v.description "a string")

/-- A truth value. -/
def asBool : Json → Except ShapeFault Bool
  | .bool b => .ok b
  | v => .error (.kind v.description "a boolean")

/-- An integer below a bound; `target` names the type with the bound. -/
def asNatBelow (bound : Nat) (target : String) : Json → Except ShapeFault Nat
  | .number (.int n) =>
    if 0 ≤ n.val ∧ n.val < bound then .ok n.val.toNat
    else .error (.value (description (.number (.int n))) target)
  | v => .error (.kind v.description target)

/-- A string or null. -/
def asStringOrNull : Json → Except ShapeFault (Option String)
  | .null => .ok none
  | v => (asString v).map some

/-- A sequence of strings. -/
def asStrings : Json → Except ShapeFault (List String)
  | .array items => items.mapM asString
  | v => .error (.kind v.description "a sequence")

/-- A mapping of strings. -/
def asStringMap : Json → Except ShapeFault (Bindings String)
  | .object members => (members.mapM fun m => (asString m.2).map fun s => (m.1, s)).map Bindings.ofList
  | v => .error (.kind v.description "a map")

/-! ## Records -/

/-- A field of a record: its name, how its value is read into the record, and whether it may be
missing. -/
structure Field (α : Type) where
  name : String
  optional : Bool
  read : Json → α → Except ShapeFault α

/-- Read members in their order: a field may occur once, other members are passed over. -/
def recordMembers {α : Type} (fields : List (Field α)) :
    List (String × Json) → List String → α → Except ShapeFault (α × List String)
  | [], seen, a => .ok (a, seen)
  | (k, v) :: rest, seen, a =>
    match fields.find? fun f => f.name == k with
    | none => recordMembers fields rest seen a
    | some f =>
      if seen.contains k then .error (.duplicateField k)
      else match f.read v a with
        | .ok a => recordMembers fields rest (k :: seen) a
        | .error e => .error e

/-- Read the items of a sequence into the fields in their order; `index` counts the fields before.
Answers the items that are left. -/
def recordItems {α : Type} (whole : String) :
    List (Field α) → List Json → Nat → α → Except ShapeFault (α × List Json)
  | [], items, _, a => .ok (a, items)
  | f :: fields, [], index, a =>
    if f.optional then recordItems whole fields [] (index + 1) a else .error (.length index whole)
  | f :: fields, v :: rest, index, a =>
    match f.read v a with
    | .ok a => recordItems whole fields rest (index + 1) a
    | .error e => .error e

/-- Read a record. `start` holds the values of missing fields; the Boolean tells that a sequence had
more items than the record has fields. -/
def readRecord {α : Type} (name : String) (fields : List (Field α)) (start : α) :
    Json → Except ShapeFault (α × Bool)
  | .object members => do
    let (a, seen) ← recordMembers fields members [] start
    match fields.find? fun f => !f.optional && !seen.contains f.name with
    | some f => .error (.missingField f.name)
    | none => .ok (a, false)
  | .array items => do
    let whole := s!"struct {name} with {fields.length} elements"
    let (a, left) ← recordItems whole fields items 0 start
    .ok (a, !left.isEmpty)
  | v => .error (.kind v.description s!"struct {name}")

/-- Why a text is no record. -/
inductive RecordFault where
  | json (fault : ReadError)
  | shape (fault : ShapeFault)
  | trailing

/-- What is said of a fault, without positions. -/
def RecordFault.message : RecordFault → String
  | .json e => e.fault.message
  | .shape f => f.message
  | .trailing => "trailing characters"

/-- Read a record from a text. -/
def readRecordText {α : Type} (name : String) (fields : List (Field α)) (start : α) (text : String) :
    Except RecordFault α :=
  match Json.read text with
  | .error e => .error (.json e)
  | .ok v => match readRecord name fields start v with
    | .error f => .error (.shape f)
    | .ok (_, true) => .error .trailing
    | .ok (a, false) => .ok a

end Walkthrough.Json
