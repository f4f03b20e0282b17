import Walkthrough.Document.Shape
import Walkthrough.Graph

/-!
# Outlines of steps

The steps of a document, nested as they are written. An outline is read from a value
(`Outline.read`) and laid out as a graph (`Draft.addAll`): the steps of a container come before the
container, and every chain is linked in order.
-/

namespace Walkthrough

/-- What a step is known by: both may be missing. -/
structure Label where
  uuid : Option String
  name : Option String

/-- A step with the steps that it contains. -/
inductive Outline where
  | visit (label : Label) (url : String) (method body : Option String) (leaf : Leaf)
  | click (label : Label) (link : String) (leaf : Leaf)
  | reload (label : Label) (leaf : Leaf)
  | follow (label : Label) (leaf : Leaf)
  | empty (label : Label)
  | block (label : Label) (declarations : Bindings String) (steps : List Outline)
  | each (label : Label) (collection key value : String) (steps : List Outline)
  | repeated (label : Label) (condition : String) (steps : List Outline)
  | choice (label : Label) (condition : String) (holds otherwise : List Outline)

/-! ## Layout as a graph -/

namespace Draft

/-- Add a step; without an identifier of its own it gets a fresh one, by its place. -/
def addLabelled (fresh : Nat → String) (d : Draft) (label : Label) (action : Action) : Draft × Nat :=
  d.add ⟨label.uuid.getD (fresh d.steps.size), label.name, action, none⟩

/-- Link steps to a chain and answer its first. -/
def chained (d : Draft) (places : List Nat) : Draft × Option Nat := (d.chain places, places.head?)

mutual

/-- Add a step after all that it contains. -/
def addOutline (fresh : Nat → String) (d : Draft) : Outline → Draft × Nat
  | .visit label url method body leaf => d.addLabelled fresh label (.visit url method body leaf)
  | .click label link leaf => d.addLabelled fresh label (.click link leaf)
  | .reload label leaf => d.addLabelled fresh label (.reload leaf)
  | .follow label leaf => d.addLabelled fresh label (.follow leaf)
  | .empty label => d.addLabelled fresh label .empty
  | .block label declarations steps =>
    let (d, child) := addChain fresh d steps
    d.addLabelled fresh label (.block declarations child)
  | .each label collection key value steps =>
    let (d, child) := addChain fresh d steps
    d.addLabelled fresh label (.each collection key value child)
  | .repeated label condition steps =>
    let (d, child) := addChain fresh d steps
    d.addLabelled fresh label (.repeated condition child)
  | .choice label condition holds otherwise =>
    let (d, first) := addChain fresh d holds
    let (d, second) := addChain fresh d otherwise
    d.addLabelled fresh label (.choice condition first second)

/-- Add steps; their places are answered in order. -/
def addAll (fresh : Nat → String) (d : Draft) : List Outline → Draft × List Nat
  | [] => (d, [])
  | o :: rest =>
    let (d, place) := addOutline fresh d o
    let (d, places) := addAll fresh d rest
    (d, place :: places)

/-- Add steps and link them; the place of the first is answered. -/
def addChain (fresh : Nat → String) (d : Draft) : List Outline → Draft × Option Nat
  | [] => d.chained []
  | o :: rest =>
    let (d, place) := addOutline fresh d o
    let (d, places) := addAll fresh d rest
    d.chained (place :: places)

end

end Draft

/-- The graph of steps, if nothing is wrong with it. -/
def Graph.ofOutlines (fresh : Nat → String) (steps : List Outline) : Except Error Graph :=
  let (d, root) := Draft.empty.addChain fresh steps
  d.build root

/-! ## Reading -/

namespace Outline

open Yaml (Value)
open Document

/-- The fields that name the kinds of steps. -/
def kinds : List String :=
  ["visit", "click", "reload", "follow", "empty", "block", "loop", "while", "if"]

/-- What every step may have. -/
structure Common where
  label : Label
  leaf : Leaf

/-- Nothing of what every step may have. -/
def Common.none : Common := ⟨⟨.none, .none⟩, ⟨.empty, .empty, []⟩⟩

/-- The fields that every step may have. -/
def Common.fields : List (Field Value ShapeFault Common) := [
  ⟨"uuid", true, fun v c => (stringOrNull v).map fun s => { c with label := { c.label with uuid := s } }⟩,
  ⟨"name", true, fun v c => (stringOrNull v).map fun s => { c with label := { c.label with name := s } }⟩,
  ⟨"headers", true, fun v c =>
    (stringBindings v).map fun b => { c with leaf := { c.leaf with headers := b } }⟩,
  ⟨"set", true, fun v c =>
    (stringBindings v).map fun b => { c with leaf := { c.leaf with extractions := b } }⟩,
  ⟨"expect", true, fun v c =>
    (stringsOf v).map fun es => { c with leaf := { c.leaf with assertions := es } }⟩]

/-- A leaf has headers, extractions or assertions. -/
def hasSettings (l : Leaf) : Bool :=
  !l.headers.isEmpty || !l.extractions.isEmpty || !l.assertions.isEmpty

/-! ### Visits -/

/-- What to visit. -/
structure Visit where
  url : String
  method : Option String
  body : Option String

mutual

/-- A value with a tag is part of the value. -/
def hasTag : Value → Bool
  | .tagged _ _ => true
  | .list items => anyTag items
  | .map entries => anyTagIn entries
  | _ => false

/-- A value with a tag is part of an item. -/
def anyTag : List Value → Bool
  | [] => false
  | v :: rest => hasTag v || anyTag rest

/-- A value with a tag is part of an entry. -/
def anyTagIn : List (Value × Value) → Bool
  | [] => false
  | (k, v) :: rest => hasTag k || hasTag v || anyTagIn rest

end

/-- The fields of a visit. -/
def Visit.fields : List (Field Value ShapeFault Visit) := [
  ⟨"url", false, fun v d => (stringOf "a string" v).map fun s => { d with url := s }⟩,
  ⟨"method", true, fun v d => (stringOrNull v).map fun s => { d with method := s }⟩,
  ⟨"body", true, fun v d => (stringOrNull v).map fun s => { d with body := s }⟩]

/-- The name of a field, which may also be given by its number. -/
def Visit.fieldName (key : Value) : Except ShapeFault String :=
  match key with
  | .int n => match Visit.fields[n.val.toNat]? with
    | some f => if 0 ≤ n.val then .ok f.name else misplaced key "field identifier"
    | none => misplaced key "field identifier"
  | _ => stringOf "field identifier" key

/-- Read what to visit from its fields: named, or in order. -/
def Visit.ofFields (v : Value) : Except ShapeFault Visit :=
  let start : Visit := ⟨"", none, none⟩
  match v with
  | .map entries => readRecord id Visit.fields start (entries.map fun e => (Visit.fieldName e.1, e.2))
  | .list items =>
    if Visit.fields.length < items.length then misplaced v "fewer elements"
    else readRecord id Visit.fields start
      ((Visit.fields.zip items).map fun (f, item) => (.ok f.name, item))
  | _ => misplaced v "a map"

/-- Read what to visit: an address on its own, or with a method and a body. -/
def Visit.read (v : Value) : Except ShapeFault Visit :=
  if hasTag v then .error .taggedForm
  else match v with
    | .string url => .ok ⟨url, none, none⟩
    | _ => match Visit.ofFields v with
      | .ok d => .ok d
      | .error _ => .error (.noForm "VisitDoc")

/-! ### Containers -/

/-- What a container consists of: expressions and names, declarations, and steps that are still to be
read. -/
structure Parts where
  expression : String
  key : String
  value : String
  declared : Bindings Value
  steps : List Value
  otherwise : List Value

/-- What is not written. -/
def Parts.none : Parts := ⟨"", "key", "value", .empty, [], []⟩

/-- The field of an expression. -/
def expressionField (name : String) : Field Value ShapeFault Parts :=
  ⟨name, false, fun v p => (stringOf "a string" v).map fun s => { p with expression := s }⟩

/-- The field of steps. -/
def stepsField (name : String) : Field Value ShapeFault Parts :=
  ⟨name, true, fun v p => (itemsOf v).map fun steps => { p with steps := steps }⟩

/-- The fields of a block. -/
def blockFields : List (Field Value ShapeFault Parts) := [
  ⟨"variables", true, fun v p => (bindingsOf .ok v).map fun b => { p with declared := b }⟩,
  stepsField "steps"]

/-- The fields of a loop. -/
def loopFields : List (Field Value ShapeFault Parts) := [
  expressionField "over",
  ⟨"key", true, fun v p => (stringOf "a string" v).map fun s => { p with key := s }⟩,
  ⟨"value", true, fun v p => (stringOf "a string" v).map fun s => { p with value := s }⟩,
  stepsField "steps"]

/-- The fields of a step that repeats while a condition holds. -/
def whileFields : List (Field Value ShapeFault Parts) := [
  expressionField "condition", stepsField "steps"]

/-- The fields of a choice. -/
def choiceFields : List (Field Value ShapeFault Parts) := [
  expressionField "condition", stepsField "then",
  ⟨"else", true, fun v p => (itemsOf v).map fun steps => { p with otherwise := steps }⟩]

/-- The text of a declared expression, which may be written as a plain value. -/
def declaration? : Value → Option String
  | .string s => some s
  | .int n => some (String.ofList (Json.intText n.val))
  | .float x => some (floatText x)
  | .bool b => some (if b then "true" else "false")
  | .null => some "none"
  | _ => none
where
  floatText (x : Float) : String :=
    if x.isNaN then ".nan"
    else if x.isInf then (if x < 0 then "-.inf" else ".inf")
    else Binary64.declaredText.write x

/-- Read declarations. -/
def declarations (path : String) : List (String × Value) → Except Document.Fault (List (String × String))
  | [] => .ok []
  | (name, v) :: rest =>
    match declaration? v with
    | some e => (declarations path rest).map ((name, e) :: ·)
    | none => .error (.declaration path name)

/-! ### Steps -/

/-- Take an entry out of a mapping; the last entry moves to its place. -/
def takeOut (name : String) (entries : List (Value × Value)) : Value × List (Value × Value) :=
  match entries.findIdx? fun e => e.1.same (.string name) with
  | none => (.null, entries)
  | some i =>
    let v := (entries[i]?.map Prod.snd).getD .null
    match entries.getLast? with
    | some last =>
      if i + 1 = entries.length then (v, entries.dropLast)
      else (v, (entries.set i last).dropLast)
    | none => (v, entries)

/-- Some kinds of steps take no value: null, or a mapping without entries. -/
def takesNothing (path kind : String) : Value → Except Document.Fault Unit
  | .null | .map [] => .ok ()
  | _ => .error (.takesNoValue path kind)

/-- A fault of shape is one in the step at a path. -/
def inStep {α : Type} (path : String) : Except ShapeFault α → Except Document.Fault α
  | .ok a => .ok a
  | .error fault => .error (.step path fault)

/-- A step is a mapping with one field that names its kind, and fields that every step may have. -/
def header (path : String) (v : Value) : Except Document.Fault (String × Value × Common) :=
  match untag v with
  | .map entries =>
    match kinds.filter fun k => entries.any fun e => e.1.same (.string k) with
    | [] => .error (.noKind path kinds)
    | [kind] => do
      let (body, rest) := takeOut kind entries
      let common ← inStep path (valueRecord "CommonDoc" Common.fields Common.none (.map rest))
      return (kind, body, common)
    | several => .error (.severalKinds path several)
  | _ => .error (.stepKind path)

/-- The kinds of steps that produce a request. -/
def requestKinds : List String := ["visit", "click", "reload", "follow"]

/-- Read the steps of a chain, each under its path; `index` counts those before. -/
def readChain (readStep : String → Value → Except Document.Fault Outline) (path : String) :
    Nat → List Value → Except Document.Fault (List Outline)
  | _, [] => .ok []
  | index, v :: rest => do
    let o ← readStep s!"{path}.steps[{index}]" v
    return o :: (← readChain readStep path (index + 1) rest)

/-- Read a step that nests at most `depth` deep. -/
def read : (depth : Nat) → (path : String) → Value → Except Document.Fault Outline
  | 0, path, _ => .error (.stepKind path)
  | depth + 1, path, v => do
    let inner (name : String) (steps : List Value) : Except Document.Fault (List Outline) :=
      readChain (read depth) s!"{path}.{name}" 0 steps
    let (kind, body, common) ← header path v
    let label := common.label
    let leaf := common.leaf
    if !requestKinds.contains kind && hasSettings leaf then throw (.leafSettings path kind)
    match kind with
    | "visit" => do
      let d ← inStep path (Visit.read body)
      return .visit label d.url d.method d.body leaf
    | "click" => return .click label (← inStep path (stringOf "a string" body)) leaf
    | "reload" => do
      takesNothing path kind body
      return .reload label leaf
    | "follow" => do
      takesNothing path kind body
      return .follow label leaf
    | "block" => do
      let p ← inStep path (valueRecord "BlockDoc" blockFields .none body)
      let declared ← declarations path p.declared.entries
      return .block label (Bindings.ofList declared) (← inner "block" p.steps)
    | "loop" => do
      let p ← inStep path (valueRecord "LoopDoc" loopFields .none body)
      return .each label p.expression p.key p.value (← inner "loop" p.steps)
    | "while" => do
      let p ← inStep path (valueRecord "WhileDoc" whileFields .none body)
      return .repeated label p.expression (← inner "while" p.steps)
    | "if" => do
      let p ← inStep path (valueRecord "IfDoc" choiceFields .none body)
      let holds ← inner "then" p.steps
      return .choice label p.expression holds (← inner "else" p.otherwise)
    | _ => do
      takesNothing path kind body
      return .empty label

end Outline

end Walkthrough
