import Walkthrough.Binary64.Text
import Walkthrough.Json.Basic
import Walkthrough.Yaml.Node

/-!
# Plain values

What a node means without regard to what is expected of it (`Node.value?`). A plain scalar may be null,
a truth value, an integer, a number with a point or exponent, or a string. A tag that names one of
these kinds decides; one that begins with an exclamation mark stays with the value. No value has the
same key twice.
-/

namespace Walkthrough.Yaml

/-- A value. -/
inductive Value where
  | null
  | bool (b : Bool)
  | int (n : Word)
  | float (x : Float)
  | string (s : String)
  | list (items : List Value)
  | map (entries : List (Value × Value))
  | tagged (tag : String) (v : Value)

/-! ## Scalars -/

/-- What a scalar means. -/
inductive Meaning where
  | null
  | bool (b : Bool)
  | int (n : Word)
  /-- An integer of at most 128 bits that fits no word. -/
  | wide
  | float (x : Float)
  | string

/-- The text of a truth value. -/
def bool? (s : String) : Option Bool :=
  if ["true", "True", "TRUE"].contains s then some true
  else if ["false", "False", "FALSE"].contains s then some false
  else none

/-- The text of null. -/
def isNull (s : String) : Bool := ["null", "Null", "NULL", "~"].contains s

/-- Digits that begin with a zero are no number. -/
def isPadded (cs : List Char) : Bool :=
  match cs with
  | '-' :: rest | '+' :: rest => padded rest
  | _ => padded cs
where
  padded : List Char → Bool
    | '0' :: d :: rest => (d :: rest).all Char.isDigit
    | _ => false

/-- A number in digits of a base. -/
def natOf? (base : Nat) (cs : List Char) : Option Nat :=
  if cs.isEmpty then none
  else cs.foldlM (fun n c => do
    let d ← Text.hexValue? c
    if d < base then some (n * base + d) else none) 0

/-- A number without a sign: in base ten, or after a mark in another base. -/
def magnitude? (cs : List Char) : Option Nat :=
  match cs with
  | '0' :: 'x' :: rest => natOf? 16 rest
  | '0' :: 'o' :: rest => natOf? 8 rest
  | '0' :: 'b' :: rest => natOf? 2 rest
  | _ => natOf? 10 cs

/-- The integer that a text stands for. -/
def int? (cs : List Char) : Option Int :=
  if isPadded cs then none
  else match cs with
    | '-' :: rest => (magnitude? rest).map fun n => -(n : Int)
    | '+' :: rest => (magnitude? rest).map Int.ofNat
    | _ => (magnitude? cs).map Int.ofNat

/-- The number with a point or exponent that a text stands for; it is finite unless it is spelled
out. -/
def float? (s : String) : Option Float :=
  if [".inf", ".Inf", ".INF", "+.inf", "+.Inf", "+.INF"].contains s then some (Binary64.infinity false)
  else if ["-.inf", "-.Inf", "-.INF"].contains s then some (Binary64.infinity true)
  else if [".nan", ".NaN", ".NAN"].contains s then some (0.0 / 0.0)
  else
    let x? := match s.toList with
      | '+' :: '+' :: _ | '+' :: '-' :: _ => none
      | cs => Binary64.readFloat? cs
    x?.filter (·.isFinite)

/-- The integer of a text as a meaning, if it is not too large for one. -/
def intMeaning? (s : String) : Option Meaning := do
  let n ← int? s.toList
  match Word.ofInt? n with
  | some w => some (.int w)
  | none => if -170141183460469231731687303715884105728 ≤ n ∧ n < 340282366920938463463374607431768211456 then some .wide else none

/-- What a plain scalar without a tag means. -/
def plainMeaning (s : String) : Meaning :=
  if s.isEmpty || isNull s then .null
  else match bool? s with
    | some b => .bool b
    | none => match intMeaning? s with
      | some m => m
      | none =>
        if isPadded s.toList then .string
        else match float? s with
          | some x => .float x
          | none => .string

/-- A tag of a kind that every reader knows. -/
def kindTag (kind : String) : String := "tag:yaml.org,2002:" ++ kind

/-- What a scalar means; nothing if its tag does not fit its text. -/
def meaning? (tag : Option String) (plain : Bool) (s : String) : Option Meaning :=
  match tag with
  | none => some (if plain then plainMeaning s else .string)
  | some t =>
    if t = kindTag "bool" then (bool? s).map .bool
    else if t = kindTag "int" then intMeaning? s
    else if t = kindTag "float" then (float? s).map .float
    else if t = kindTag "null" then (if isNull s then some .null else none)
    else if t.startsWith "!" && plain then some (plainMeaning s)
    else some .string

/-- The name of a tag that stays with its value. -/
def keptTag? (tag : Option String) : Option String :=
  match tag.map String.toList with
  | some ['!'] => some "!"
  | some ('!' :: name) => some (String.ofList name)
  | _ => none

namespace Value

/-! ## Equality -/

/-- Two numbers are the same key. -/
def sameFloat (x y : Float) : Bool := x == y || (x.isNaN && y.isNaN)

mutual

/-- Two values are the same key; the order of entries does not matter. -/
def same : Value → Value → Bool
  | .null, .null => true
  | .bool a, .bool b => a == b
  | .int a, .int b => a == b
  | .float a, .float b => sameFloat a b
  | .string a, .string b => a == b
  | .list as, .list bs => sameItems as bs
  | .map as, .map bs => as.length == bs.length && sameEntries as bs
  | .tagged s a, .tagged t b => s == t && same a b
  | _, _ => false

/-- Two lists have the same items. -/
def sameItems : List Value → List Value → Bool
  | [], [] => true
  | a :: as, b :: bs => same a b && sameItems as bs
  | _, _ => false

/-- Every entry is among the entries of another mapping. -/
def sameEntries : List (Value × Value) → List (Value × Value) → Bool
  | [], _ => true
  | (k, v) :: rest, bs => bs.any (fun b => same k b.1 && same v b.2) && sameEntries rest bs

end

/-- No key stands before another that is the same. -/
def distinctKeys : List (Value × Value) → Bool
  | [] => true
  | (k, _) :: rest => !(rest.any fun e => same k e.1) && distinctKeys rest

end Value

/-- The value of a meaning. -/
def Meaning.value? (text : String) : Meaning → Option Value
  | .null => some .null
  | .bool b => some (.bool b)
  | .int n => some (.int n)
  | .wide => none
  | .float x => some (.float x)
  | .string => some (.string text)

/-- A value with its tag, if that stays with it. -/
def withTag (tag : Option String) (v : Value) : Value :=
  match keptTag? tag with
  | some t => .tagged t v
  | none => v

namespace Node

mutual

/-- The value of a node. -/
def value? : Node → Option Value
  | .scalar tag plain text => do
    let kept := if (keptTag? tag).isSome then none else tag
    return withTag tag (← (← meaning? kept plain text).value? text)
  | .list tag items => do return withTag tag (.list (← valuesOf? items))
  | .map tag entries => do
    let es ← entriesOf? entries
    if Value.distinctKeys es then return withTag tag (.map es) else none

/-- The values of nodes. -/
def valuesOf? : List Node → Option (List Value)
  | [] => some []
  | n :: rest => do return (← value? n) :: (← valuesOf? rest)

/-- The keys and values of entries. -/
def entriesOf? : List (Node × Node) → Option (List (Value × Value))
  | [] => some []
  | (k, v) :: rest => do return (← value? k, ← value? v) :: (← entriesOf? rest)

end

end Node

end Walkthrough.Yaml
