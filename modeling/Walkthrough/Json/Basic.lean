import Walkthrough.Binary64.Text

/-!
# JSON values

Variables, extracted values, requests and results are JSON values. A number is an integer that fits a
64-bit word, signed or unsigned, or a finite binary64 number. The members of an object are kept in the
order in which they are written; a value that has been through a variable is *canonical*: the members
of its objects are sorted by name and no name occurs twice.
-/

namespace Walkthrough

/-- An integer from `-2^63` to `2^64 - 1`. -/
structure Word where
  val : Int
  lower : -9223372036854775808 ≤ val
  upper : val < 18446744073709551616
  deriving DecidableEq

namespace Word

/-- An integer as a word, if it fits. -/
def ofInt? (n : Int) : Option Word :=
  if h : -9223372036854775808 ≤ n ∧ n < 18446744073709551616 then some ⟨n, h.1, h.2⟩ else none

theorem ofInt?_val (w : Word) : ofInt? w.val = some w := dif_pos ⟨w.lower, w.upper⟩

theorem ofInt?_eq_some_iff {n : Int} {w : Word} : ofInt? n = some w ↔ w.val = n := by
  constructor
  · intro h
    unfold ofInt? at h
    split at h
    · obtain rfl := Option.some.inj h
      rfl
    · exact absurd h (by simp)
  · rintro rfl
    exact ofInt?_val w

/-- A small natural number as a word. -/
def ofNat (n : Nat) (h : n < 18446744073709551616 := by decide) : Word :=
  ⟨n, by omega, by omega⟩

instance : Inhabited Word := ⟨ofNat 0⟩

end Word

/-- A binary64 number that is neither infinite nor NaN. -/
structure FiniteFloat where
  val : Float
  finite : val.isFinite = true
  deriving DecidableEq

/-- A number as a finite one. -/
def FiniteFloat.ofFloat? (x : Float) : Option FiniteFloat :=
  if h : x.isFinite = true then some ⟨x, h⟩ else none

theorem FiniteFloat.ofFloat?_val (x : FiniteFloat) : ofFloat? x.val = some x :=
  dif_pos x.finite

/-- A number of a JSON value. -/
inductive Json.Number where
  | int (n : Word)
  | float (x : FiniteFloat)
  deriving DecidableEq

/-- A JSON value. -/
inductive Json where
  | null
  | bool (b : Bool)
  | number (n : Json.Number)
  | string (s : String)
  | array (items : List Json)
  | object (members : List (String × Json))

namespace Json

instance : Inhabited Json := ⟨.null⟩

/-- A natural number; one that does not fit a word becomes the nearest binary64 number. -/
def ofNat (n : Nat) : Json :=
  match Word.ofInt? n with
  | some w => .number (.int w)
  | none => match FiniteFloat.ofFloat? (Binary64.ofInt n) with
    | some x => .number (.float x)
    | none => .null

/-- A binary64 number; what is not finite becomes null. -/
def ofFloat (x : Float) : Json :=
  match FiniteFloat.ofFloat? x with
  | some x => .number (.float x)
  | none => .null

/-- A string, or null. -/
def ofString? (s : Option String) : Json := s.elim .null .string

/-- A list of strings. -/
def ofStrings (xs : List String) : Json := .array (xs.map .string)

/-- The value of the first member with a name. -/
def member? (name : String) : Json → Option Json
  | .object members => (members.find? fun m => m.1 == name).map Prod.snd
  | _ => none

/-! ## Canonical order -/

/-- Put a member into a list sorted by name; a member of the same name is replaced. -/
def insertSorted {α : Type} (name : String) (value : α) : List (String × α) → List (String × α)
  | [] => [(name, value)]
  | (k, v) :: rest =>
    if name < k then (name, value) :: (k, v) :: rest
    else if name = k then (name, value) :: rest
    else (k, v) :: insertSorted name value rest

/-- Members sorted by name; of two with one name the later stays. -/
def sortMembers {α : Type} (members : List (String × α)) : List (String × α) :=
  members.foldl (fun sorted m => insertSorted m.1 m.2 sorted) []

mutual

/-- Sort the members of every object. -/
def canonical : Json → Json
  | .array items => .array (canonicalItems items)
  | .object members => .object (sortMembers (canonicalMembers members))
  | v => v

/-- Every item canonical. -/
def canonicalItems : List Json → List Json
  | [] => []
  | v :: rest => canonical v :: canonicalItems rest

/-- Every member's value canonical, in the given order. -/
def canonicalMembers : List (String × Json) → List (String × Json)
  | [] => []
  | (k, v) :: rest => (k, canonical v) :: canonicalMembers rest

end

/-! ## Text -/

/-- The digit of a number below sixteen. -/
def hexDigit (n : Nat) : Char :=
  if n < 10 then Char.ofNat ('0'.toNat + n) else Char.ofNat ('a'.toNat + (n - 10))

/-- A character inside a quoted string: quotes, backslashes and control characters are escaped. -/
def escapeChar (c : Char) : List Char :=
  if c = '"' then ['\\', '"']
  else if c = '\\' then ['\\', '\\']
  else if c = '\n' then ['\\', 'n']
  else if c = '\r' then ['\\', 'r']
  else if c = '\t' then ['\\', 't']
  else if c = '\x08' then ['\\', 'b']
  else if c = '\x0c' then ['\\', 'f']
  else if c.toNat < 32 then
    ['\\', 'u', '0', '0', hexDigit (c.toNat / 16), hexDigit (c.toNat % 16)]
  else [c]

/-- A string in quotes. -/
def quote (s : String) : List Char := '"' :: (s.toList.flatMap escapeChar ++ ['"'])

/-- The digits of an integer. -/
def intText (n : Int) : List Char :=
  if n < 0 then '-' :: Nat.toDigits 10 n.natAbs else Nat.toDigits 10 n.natAbs

/-- The text of a number. -/
def Number.text : Number → List Char
  | .int n => intText n.val
  | .float x => (Binary64.jsonText.write x.val).toList

mutual

/-- The text of a value without blanks. -/
def text : Json → List Char
  | .null => ['n', 'u', 'l', 'l']
  | .bool b => if b then ['t', 'r', 'u', 'e'] else ['f', 'a', 'l', 's', 'e']
  | .number n => n.text
  | .string s => quote s
  | .array [] => ['[', ']']
  | .array (v :: rest) => '[' :: (text v ++ (itemsText rest ++ [']']))
  | .object [] => ['\x7b', '\x7d']
  | .object ((k, v) :: rest) =>
    '\x7b' :: (quote k ++ (':' :: (text v ++ (membersText rest ++ ['\x7d']))))

/-- Further items, each after a comma. -/
def itemsText : List Json → List Char
  | [] => []
  | v :: rest => ',' :: (text v ++ itemsText rest)

/-- Further members, each after a comma. -/
def membersText : List (String × Json) → List Char
  | [] => []
  | (k, v) :: rest => ',' :: (quote k ++ (':' :: (text v ++ membersText rest)))

end

/-- The compact text of a value. -/
def compact (v : Json) : String := String.ofList (text v)

/-- A new line and the blanks of a nesting level. -/
def newLine (level : Nat) : List Char := '\n' :: List.replicate (2 * level) ' '

mutual

/-- The text of a value with one item or member a line, two blanks a level. -/
def prettyText (level : Nat) : Json → List Char
  | .array (v :: rest) =>
    '[' :: (newLine (level + 1) ++ prettyText (level + 1) v
      ++ prettyItems (level + 1) rest ++ newLine level ++ [']'])
  | .object ((k, v) :: rest) =>
    '\x7b' :: (newLine (level + 1) ++ quote k ++ [':', ' '] ++ prettyText (level + 1) v
      ++ prettyMembers (level + 1) rest ++ newLine level ++ ['\x7d'])
  | v => text v

/-- Further items, each on a line of its own. -/
def prettyItems (level : Nat) : List Json → List Char
  | [] => []
  | v :: rest => ',' :: (newLine level ++ prettyText level v ++ prettyItems level rest)

/-- Further members, each on a line of its own. -/
def prettyMembers (level : Nat) : List (String × Json) → List Char
  | [] => []
  | (k, v) :: rest =>
    ',' :: (newLine level ++ quote k ++ [':', ' '] ++ prettyText level v ++ prettyMembers level rest)

end

/-- The indented text of a value. -/
def pretty (v : Json) : String := String.ofList (prettyText 0 v)

/-! ## Truth and display -/

/-- Whether a value counts as true: null, false, zero and what is empty do not. -/
def isTruthy : Json → Bool
  | .null => false
  | .bool b => b
  | .number (.int n) => n.val != 0
  | .number (.float x) => x.val != 0.0
  | .string s => !s.isEmpty
  | .array items => !items.isEmpty
  | .object members => !members.isEmpty

/-- A value inside an address or a header: a string as it is, null as nothing, else its text. -/
def display : Json → String
  | .string s => s
  | .null => ""
  | v => compact v

end Json

end Walkthrough
