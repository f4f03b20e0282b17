import Walkthrough.Json.Basic
import Walkthrough.Text.Hidden

/-!
# Values of expressions

An expression computes on values that are richer than JSON: an undefined value apart from null,
integers beyond a word, floats that are not finite, mappings with keys of any kind, streams that come
out of operations on sequences, and the built-in functions. A sequence or mapping knows which part of
which variable it is. The entries of a mapping are kept sorted
by key; equality, order, truth and text of values are defined here once for all operators and
filters.
-/

namespace Walkthrough.Template

/-- The functions that every expression can call. -/
inductive Builtin where
  | range
  | dict
  | debug
  | record
  | environment
  | fileText
  deriving DecidableEq

/-- The name under which a function is called. It also stands for the function where a function is shown as text,
in either mode: how a function is shown is not part of the language. -/
def Builtin.name : Builtin → String
  | .range => "range"
  | .dict => "dict"
  | .debug => "debug"
  | .record => "namespace"
  | .environment => "env"
  | .fileText => "file"

/-- Every built-in function. -/
def Builtin.all : List Builtin := [.range, .dict, .debug, .record, .environment, .fileText]

/-- The function of a name. -/
def Builtin.ofName? (name : String) : Option Builtin := all.find? fun f => f.name == name

namespace Value

/-- The kinds of values, in the order in which kinds are sorted. -/
inductive Kind where
  | undefined | none | bool | number | string | sequence | map | iterator | plain | invalid
  deriving DecidableEq

/-- The name of a kind in a message. -/
def Kind.name : Kind → String
  | .undefined => "undefined"
  | .none => "none"
  | .bool => "bool"
  | .number => "number"
  | .string => "string"
  | .sequence => "sequence"
  | .map => "map"
  | .iterator => "iterator"
  | .plain => "plain object"
  | .invalid => "invalid value"

/-- The place of a kind in the order. -/
def Kind.rank : Kind → Nat
  | .undefined => 0
  | .none => 1
  | .bool => 2
  | .number => 3
  | .string => 4
  | .sequence => 5
  | .map => 6
  | .iterator => 7
  | .plain => 8
  | .invalid => 9

/-- Where a sequence or mapping comes from. Two of them are the same object only if both are one part
of one variable. -/
inductive Origin where
  /-- An operation or a literal made it. -/
  | made
  /-- It is the pair of a key and the group that has it. -/
  | group
  /-- It holds the named arguments of a call. -/
  | arguments
  /-- It is a part of a variable; the positions lead to it from the inside out. -/
  | bound (name : String) (path : List Nat)
  deriving DecidableEq

/-- Two objects are one: only a part of a variable meets itself again. -/
def Origin.isOneWith : Origin → Origin → Bool
  | .bound name path, .bound name' path' => name == name' && path == path'
  | _, _ => false

/-- The origin of the item at a position. -/
def Origin.item (position : Nat) : Origin → Origin
  | .bound name path => .bound name (position :: path)
  | _ => .made

end Value

/-- A value of an expression. -/
inductive Value where
  | undefined
  | none
  | bool (b : Bool)
  | int (n : Int)
  /-- An integer that was written with more than 64 bits. -/
  | wide (n : Nat)
  | float (x : Float)
  /-- A string; a safe one is not escaped again. -/
  | string (s : String) (safe : Bool)
  | sequence (items : List Value) (origin : Value.Origin)
  /-- What an operation on a sequence yields, perhaps without its length being known. -/
  | stream (items : List Value) (sized : Bool)
  /-- A mapping sorted by key. -/
  | mapping (entries : List (Value × Value)) (origin : Value.Origin)
  | function (f : Builtin)
  /-- What stands for the items of a value of a kind that has none. -/
  | invalid (source : Value.Kind)

namespace Value

instance : Inhabited Value := ⟨.undefined⟩

/-- A plain string. -/
def text (s : String) : Value := .string s false

/-- A plain string from its characters. -/
def ofChars (cs : List Char) : Value := text (String.ofList cs)

/-- A plain sequence. -/
def list (items : List Value) : Value := .sequence items .made

/-- The integer that a literal writes. -/
def ofLiteral (n : Nat) : Value :=
  if n < 18446744073709551616 then .int n else .wide n

/-- A string that is not escaped again. -/
def isSafe : Value → Bool
  | .string _ safe => safe
  | _ => false

/-- A string from its characters, as safe as the value that they come from. -/
def ofCharsOf (source : Value) (cs : List Char) : Value :=
  .string (String.ofList cs) source.isSafe

/-- The kind of a value. -/
def kind : Value → Kind
  | .undefined => .undefined
  | .none => .none
  | .bool _ => .bool
  | .int _ | .wide _ | .float _ => .number
  | .string _ _ => .string
  | .sequence _ _ => .sequence
  | .stream _ _ => .iterator
  | .mapping _ _ => .map
  | .function _ => .plain
  | .invalid _ => .invalid

/-- Whether a value counts as true. A stream without a known length does. -/
def isTrue : Value → Bool
  | .undefined | .none | .invalid _ => false
  | .bool b => b
  | .int n => n != 0
  | .wide n => n != 0
  | .float x => x != 0.0
  | .string s _ => !s.isEmpty
  | .sequence items _ => !items.isEmpty
  | .stream items sized => !sized || !items.isEmpty
  | .mapping entries _ => !entries.isEmpty
  | .function _ => true

/-- The items of a sequence or stream. -/
def items? : Value → Option (List Value)
  | .sequence items _ | .stream items _ => some items
  | _ => Option.none

/-- The value is neither undefined nor null. -/
def isPresent : Value → Bool
  | .undefined | .none => false
  | _ => true

/-! ## Numbers -/

/-- Greatest signed integer of 128 bits. -/
def maxInt : Int := 170141183460469231731687303715884105728 - 1

/-- Least signed integer of 128 bits. -/
def minInt : Int := -170141183460469231731687303715884105728

/-- An integer as a float, if the float is that integer. An integer at the upper end of its word
counts as the float just beyond. -/
def exactFloat? (n : Int) : Option Float :=
  let x := Binary64.ofInt n
  match Binary64.truncate? x with
  | some back =>
    let back := if 0 ≤ n ∧ n < 18446744073709551616 then min back (18446744073709551616 - 1) else back
    if back = n then some x else Option.none
  | Option.none => Option.none

/-- A number or truth value as a float; unless `lossy`, only if nothing is lost. -/
def float? (lossy : Bool) : Value → Option Float
  | .bool b => some (if b then 1.0 else 0.0)
  | .int n => if lossy then some (Binary64.ofInt n) else exactFloat? n
  | .wide n => if lossy then some (Binary64.ofInt n) else exactFloat? n
  | .float x => some x
  | _ => Option.none

/-- A value as an integer: a truth value, an integer of 128 bits or a float that is a word. -/
def integer? : Value → Option Int
  | .bool b => some (if b then 1 else 0)
  | .int n => some n
  | .wide n => if n ≤ maxInt then some n else Option.none
  | .float x => Binary64.exactWord? x
  | _ => Option.none

/-- A value as a signed integer of 64 bits. -/
def word? : Value → Option Int
  | .bool b => some (if b then 1 else 0)
  | .int n => if Binary64.minWord ≤ n ∧ n ≤ Binary64.maxWord then some n else Option.none
  | .float x => Binary64.exactWord? x
  | _ => Option.none

/-- Two numbers brought to one kind: floats if either is one, else integers. -/
inductive Pair where
  | ints (a b : Int)
  | floats (a b : Float)

/-- An integer of 128 bits without a sign, read as one with a sign. -/
def wrapped (n : Nat) : Int :=
  if n ≤ maxInt then n else n - 340282366920938463463374607431768211456

/-- Bring two numbers to one kind. Two wide integers wrap into the range of integers; a single one
must be in it. -/
def pair? (lossy : Bool) (a b : Value) : Option Pair :=
  match a, b with
  | .float x, _ => (float? lossy b).map fun y => .floats x y
  | _, .float y => (float? lossy a).map fun x => .floats x y
  | .wide m, .wide n => some (.ints (wrapped m) (wrapped n))
  | _, _ => match integer? a, integer? b with
    | some m, some n => some (.ints m n)
    | _, _ => Option.none

/-! ## Order -/

/-- A truth value or integer as an integer, whatever its size. -/
def whole? : Value → Option Int
  | .bool b => some (if b then 1 else 0)
  | .int n => some n
  | .wide n => some n
  | _ => Option.none

/-- The order of two floats: both zeros are equal and NaN lies beyond infinity. -/
def compareFloats (x y : Float) : Ordering :=
  if x == y then .eq else compare (Binary64.totalKey x) (Binary64.totalKey y)

/-- The order of an integer and a float, exactly: by the integer part of the float first, then by
what is left of it. -/
def compareMixed (n : Int) (x : Float) : Ordering :=
  match Binary64.truncate? x with
  | some m => (compare n m).then (compareFloats (Binary64.trunc x) x)
  | Option.none => compareFloats 0.0 x

/-- The order of two scalars of one kind; numbers are compared by their exact size. -/
def compareScalars (a b : Value) : Ordering :=
  match a, b with
  | .string s _, .string t _ => compare s t
  | .function f, .function g => compare f.name g.name
  | .float x, .float y => compareFloats x y
  | _, _ => match whole? a, whole? b, a, b with
    | some m, some n, _, _ => compare m n
    | some m, Option.none, _, .float y => compareMixed m y
    | Option.none, some n, .float x, _ => (compareMixed n x).swap
    | _, _, _, _ => .eq

mutual

/-- The order of values: kinds first, then numbers by size, strings by code point, sequences item by
item and mappings entry by entry. -/
def order (a b : Value) : Ordering :=
  if a.kind.rank ≠ b.kind.rank then compare a.kind.rank b.kind.rank
  else match a, b with
    | .sequence as _, .sequence bs _ => orderItems as bs
    | .stream as _, .stream bs _ => orderItems as bs
    | .mapping as _, .mapping bs _ => orderEntries as bs
    | a, b => compareScalars a b

/-- The order of lists by their first difference. -/
def orderItems : List Value → List Value → Ordering
  | [], [] => .eq
  | [], _ :: _ => .lt
  | _ :: _, [] => .gt
  | a :: as, b :: bs => (order a b).then (orderItems as bs)

/-- The order of entries by their first difference, keys before values. -/
def orderEntries : List (Value × Value) → List (Value × Value) → Ordering
  | [], [] => .eq
  | [], _ :: _ => .lt
  | _ :: _, [] => .gt
  | (k, v) :: as, (k', v') :: bs =>
    ((order k k').then (order v v')).then (orderEntries as bs)

end

/-- The value of a key. -/
def findEntry (key : Value) : List (Value × Value) → Option Value
  | [] => Option.none
  | (k, v) :: rest => if order k key == .eq then some v else findEntry key rest

/-- Put an entry into sorted entries; a key that is there keeps its spelling and takes the value. -/
def insertEntry (key value : Value) : List (Value × Value) → List (Value × Value)
  | [] => [(key, value)]
  | (k, v) :: rest =>
    match order key k with
    | .lt => (key, value) :: (k, v) :: rest
    | .eq => (k, value) :: rest
    | .gt => (k, v) :: insertEntry key value rest

/-- Sorted entries; of two with one key the later gives the value. -/
def sortEntries (entries : List (Value × Value)) : List (Value × Value) :=
  entries.foldl (fun sorted e => insertEntry e.1 e.2 sorted) []

/-- A mapping of the given entries. -/
def dictionary (entries : List (Value × Value)) : Value := .mapping (sortEntries entries) .made

/-! ## Equality -/

/-- Two scalars are equal: numbers and truth values by size, other kinds only to their own. -/
def sameScalars (a b : Value) : Bool :=
  match a, b with
  | .undefined, .undefined | .none, .none => true
  | .string s _, .string t _ => s == t
  | .function f, .function g => f == g
  | _, _ => match pair? false a b with
    | some (.ints m n) => m == n
    | some (.floats x y) => x == y
    | Option.none => false

mutual

/-- Two values are equal; a stream equals a sequence of the same items. -/
def same (a b : Value) : Bool :=
  match a with
  | .sequence as _ => match b.items? with
    | some bs => sameItems as bs
    | Option.none => false
  | .stream as _ => match b.items? with
    | some bs => sameItems as bs
    | Option.none => false
  | .mapping as _ => match b with
    | .mapping bs _ => as.length == bs.length && sameEntries as bs
    | _ => false
  | a => sameScalars a b

/-- Two lists are equal item by item. -/
def sameItems : List Value → List Value → Bool
  | [], [] => true
  | a :: as, b :: bs => same a b && sameItems as bs
  | _, _ => false

/-- Every entry has its like among the others. -/
def sameEntries : List (Value × Value) → List (Value × Value) → Bool
  | [], _ => true
  | (k, v) :: rest, bs =>
    (match findEntry k bs with
      | some w => same v w
      | Option.none => false) && sameEntries rest bs

end

/-! ## Text -/

/-- The hexadecimal digits of a number. -/
def hexText (n : Nat) : List Char := Nat.toDigits 16 n

/-- A character of a quoted string: what shows nothing of its own is written as its code point. -/
def quotedChar (c : Char) : List Char :=
  if c = '"' then ['\\', '"']
  else if c = '\\' then ['\\', '\\']
  else if c = '\n' then ['\\', 'n']
  else if c = '\r' then ['\\', 'r']
  else if c = '\t' then ['\\', 't']
  else if c.toNat = 0 then ['\\', '0']
  else if Text.isHidden c then '\\' :: 'u' :: '\x7b' :: (hexText c.toNat ++ ['\x7d'])
  else [c]

/-- A string in quotes, as it stands inside a list. -/
def quoted (s : String) : List Char := '"' :: (s.toList.flatMap quotedChar ++ ['"'])

/-- Characters put between the texts of a list. -/
def separated (sep : List Char) : List (List Char) → List Char
  | [] => []
  | [x] => x
  | x :: rest => x ++ sep ++ separated sep rest

/-- The text of a scalar inside a list. -/
def scalarText : Value → List Char
  | .undefined => "undefined".toList
  | .none => "None".toList
  | .bool b => (if b then "True" else "False").toList
  | .int n => Json.intText n
  | .wide n => Json.intText n
  | .float x => (Binary64.nestedText.write x).toList
  | .string s _ => quoted s
  | .function f => f.name.toList
  | .invalid source => s!"<invalid value: invalid operation: {source.name} is not iterable>".toList
  | _ => []

mutual

/-- The text of a value inside a list or mapping. -/
def nested : Value → List Char
  | .sequence items _ => '[' :: (separated [',', ' '] (nestedItems items) ++ [']'])
  | .stream items _ => '[' :: (separated [',', ' '] (nestedItems items) ++ [']'])
  | .mapping entries _ =>
    '\x7b' :: (separated [',', ' '] (nestedEntries entries) ++ ['\x7d'])
  | v => scalarText v

/-- The texts of items. -/
def nestedItems : List Value → List (List Char)
  | [] => []
  | v :: rest => nested v :: nestedItems rest

/-- The texts of entries. -/
def nestedEntries : List (Value × Value) → List (List Char)
  | [] => []
  | (k, v) :: rest => (nested k ++ [':', ' '] ++ nested v) :: nestedEntries rest

end

/-- A new line and four blanks a level. -/
def newLine (level : Nat) : List Char := '\n' :: List.replicate (4 * level) ' '

mutual

/-- The text of a value with one item or entry a line, each followed by a comma. -/
def indented (level : Nat) : Value → List Char
  | .sequence [] _ => ['[', ']']
  | .sequence items _ => '[' :: (indentedItems (level + 1) items ++ newLine level ++ [']'])
  | .stream [] _ => ['[', ']']
  | .stream items _ => '[' :: (indentedItems (level + 1) items ++ newLine level ++ [']'])
  | .mapping [] _ => ['\x7b', '\x7d']
  | .mapping entries _ =>
    '\x7b' :: (indentedEntries (level + 1) entries ++ newLine level ++ ['\x7d'])
  | v => scalarText v

/-- Items, each on a line of its own. -/
def indentedItems (level : Nat) : List Value → List Char
  | [] => []
  | v :: rest => newLine level ++ indented level v ++ [','] ++ indentedItems level rest

/-- Entries, each on a line of its own. -/
def indentedEntries (level : Nat) : List (Value × Value) → List Char
  | [] => []
  | (k, v) :: rest =>
    newLine level ++ indented level k ++ [':', ' '] ++ indented level v ++ [',']
      ++ indentedEntries level rest

end

/-- The text of a value on its own: a string without quotes, an undefined value as nothing. -/
def display : Value → String
  | .undefined => ""
  | .string s _ => s
  | .float x => Binary64.plainText.write x
  | v => String.ofList (nested v)

/-! ## JSON -/

mutual

/-- The value of a JSON value that comes from a place. -/
def ofJsonAt (origin : Origin) : Json → Value
  | .null => .none
  | .bool b => .bool b
  | .number (.int n) => .int n.val
  | .number (.float x) => .float x.val
  | .string s => text s
  | .array items => .sequence (ofJsonItems origin 0 items) origin
  | .object members => .mapping (sortEntries (ofJsonMembers origin 0 members)) origin

/-- The values of items from a position on. -/
def ofJsonItems (origin : Origin) (position : Nat) : List Json → List Value
  | [] => []
  | v :: rest => ofJsonAt (origin.item position) v :: ofJsonItems origin (position + 1) rest

/-- The entries of members from a position on. -/
def ofJsonMembers (origin : Origin) (position : Nat) :
    List (String × Json) → List (Value × Value)
  | [] => []
  | (k, v) :: rest =>
    (text k, ofJsonAt (origin.item position) v) :: ofJsonMembers origin (position + 1) rest

end

/-- The value of a JSON value. -/
def ofJson (j : Json) : Value := ofJsonAt .made j

/-- Why a value is no JSON value. -/
inductive JsonFault where
  /-- An integer does not fit a word. -/
  | integerRange
  /-- A key is neither a string nor a number nor a truth value. -/
  | keyKind
  /-- A key is an infinite float or NaN. -/
  | keyInfinite
  /-- A value refuses to be written, for a reason of its own. -/
  | refused (reason : String)
  deriving DecidableEq

/-- What is said of a fault. -/
def JsonFault.message : JsonFault → String
  | .integerRange => "number out of range"
  | .keyKind => "key must be a string"
  | .keyInfinite => "float key must be finite (got NaN or +/-inf)"
  | .refused reason => reason

/-- The name that a key gives to a member. -/
def memberName : Value → Except JsonFault String
  | .string s _ => .ok s
  | .bool b => .ok (if b then "true" else "false")
  | .int n => .ok (String.ofList (Json.intText n))
  | .wide n => .ok (String.ofList (Json.intText n))
  | .float x => if x.isFinite then .ok (Binary64.jsonText.write x) else .error .keyInfinite
  | .function f => .ok f.name
  | _ => .error .keyKind

mutual

/-- A value as JSON: undefined and what is not finite become null, the members of objects are sorted
by name. -/
def toJson : Value → Except JsonFault Json
  | .undefined => .ok .null
  | .none => .ok .null
  | .bool b => .ok (.bool b)
  | .int n => match Word.ofInt? n with
    | some w => .ok (.number (.int w))
    | Option.none => .error .integerRange
  | .wide _ => .error .integerRange
  | .float x => .ok (Json.ofFloat x)
  | .string s _ => .ok (.string s)
  | .sequence items _ => (itemsToJson items).map .array
  | .stream items _ => (itemsToJson items).map .array
  | .mapping entries _ => (entriesToJson entries).map fun ms => .object (Json.sortMembers ms)
  | .function f => .ok (.string f.name)
  | .invalid _ => .ok .null

/-- Items as JSON. -/
def itemsToJson : List Value → Except JsonFault (List Json)
  | [] => .ok []
  | v :: rest => do
    let j ← toJson v
    let js ← itemsToJson rest
    .ok (j :: js)

/-- Entries as members, in their order. -/
def entriesToJson : List (Value × Value) → Except JsonFault (List (String × Json))
  | [] => .ok []
  | (k, v) :: rest => do
    let name ← memberName k
    let j ← toJson v
    let js ← entriesToJson rest
    .ok ((name, j) :: js)

end

mutual

/-- The JSON text of a value: wide integers are written in full and entries stay in their order. -/
def jsonText : Value → Except JsonFault (List Char)
  | .int n => .ok (Json.intText n)
  | .wide n => .ok (Json.intText n)
  | .undefined => .ok "null".toList
  | .invalid _ => .ok "null".toList
  | .none => .ok "null".toList
  | .bool b => .ok (if b then "true".toList else "false".toList)
  | .float x => .ok (Json.text (Json.ofFloat x))
  | .string s _ => .ok (Json.quote s)
  | .sequence items _ => do
    let ts ← jsonItemTexts items
    .ok ('[' :: (separated [','] ts ++ [']']))
  | .stream items _ => do
    let ts ← jsonItemTexts items
    .ok ('[' :: (separated [','] ts ++ [']']))
  | .mapping entries _ => do
    let ts ← jsonEntryTexts entries
    .ok ('\x7b' :: (separated [','] ts ++ ['\x7d']))
  | .function f => .ok (Json.quote f.name)

/-- The texts of items. -/
def jsonItemTexts : List Value → Except JsonFault (List (List Char))
  | [] => .ok []
  | v :: rest => do
    let t ← jsonText v
    let ts ← jsonItemTexts rest
    .ok (t :: ts)

/-- The texts of members. -/
def jsonEntryTexts : List (Value × Value) → Except JsonFault (List (List Char))
  | [] => .ok []
  | (k, v) :: rest => do
    let name ← memberName k
    let t ← jsonText v
    let ts ← jsonEntryTexts rest
    .ok ((Json.quote name ++ ':' :: t) :: ts)

end

end Value

end Walkthrough.Template
