import Walkthrough.Json.Basic
import Walkthrough.Text.Hexadecimal

/-!
# Reading JSON text

`Json.read` reads a whole text as one value, members in the order of the text. What it refuses it
answers with the reason and the line and column up to which it has read; columns count UTF-8 bytes.
A decimal that is no word becomes a binary64 number by scaling its first digits with one power of
ten, so its last bit may differ from the nearest number.
-/

namespace Walkthrough.Json

/-- Why a text is not JSON. -/
inductive Fault where
  | endInList
  | endInObject
  | endInString
  | endInValue
  | expectedColon
  | expectedListEnd
  | expectedObjectEnd
  | expectedIdent
  | expectedValue
  | invalidEscape
  | invalidNumber
  | numberOutOfRange
  | controlCharacter
  | keyNotString
  | loneSurrogate
  | trailingComma
  | trailingCharacters
  | endOfHexEscape
  | tooDeep
  deriving DecidableEq, Repr

/-- The wording of a fault. -/
def Fault.message : Fault → String
  | .endInList => "EOF while parsing a list"
  | .endInObject => "EOF while parsing an object"
  | .endInString => "EOF while parsing a string"
  | .endInValue => "EOF while parsing a value"
  | .expectedColon => "expected `:`"
  | .expectedListEnd => "expected `,` or `]`"
  | .expectedObjectEnd => "expected `,` or `\x7d`"
  | .expectedIdent => "expected ident"
  | .expectedValue => "expected value"
  | .invalidEscape => "invalid escape"
  | .invalidNumber => "invalid number"
  | .numberOutOfRange => "number out of range"
  | .controlCharacter =>
    "control character (\\u0000-\\u001F) found while parsing a string"
  | .keyNotString => "key must be a string"
  | .loneSurrogate => "lone leading surrogate in hex escape"
  | .trailingComma => "trailing comma"
  | .trailingCharacters => "trailing characters"
  | .endOfHexEscape => "unexpected end of hex escape"
  | .tooDeep => "recursion limit exceeded"

/-- A fault with the text that was left and the bytes of it that count as read. -/
structure Stop where
  fault : Fault
  rest : List Char
  read : Nat

/-- Stop before the given text. -/
def stopAt {α : Type} (fault : Fault) (rest : List Char) : Except Stop α :=
  .error ⟨fault, rest, 0⟩

/-- Stop at the next byte of the given text. -/
def stopOn {α : Type} (fault : Fault) (rest : List Char) : Except Stop α :=
  .error ⟨fault, rest, 1⟩

/-- Blanks between tokens. -/
def isBlank (c : Char) : Bool := c = ' ' || c = '\n' || c = '\t' || c = '\r'

/-- Drop blanks. -/
def skipBlanks : List Char → List Char
  | [] => []
  | c :: rest => if isBlank c then skipBlanks rest else c :: rest

/-! ## Strings -/

/-- How many bytes a text has. -/
def byteCount (cs : List Char) : Nat := cs.foldl (fun n c => n + c.utf8Size) 0

/-- Four hexadecimal digits. Four bytes of any kind are read before they are refused. -/
def readHex (cs : List Char) : Except Stop (Nat × List Char) :=
  match cs.take 4 |>.mapM Text.hexValue? with
  | some [a, b, c, d] => .ok (((a * 16 + b) * 16 + c) * 16 + d, cs.drop 4)
  | _ => if byteCount (cs.take 4) < 4 then stopAt .endInString [] else .error ⟨.invalidEscape, cs, 4⟩

/-- The second half of a surrogate pair, after the first. -/
def readLowSurrogate (high : Nat) : List Char → Except Stop (Char × List Char)
  | [] => stopAt .endInString []
  | '\\' :: [] => stopAt .endInString []
  | '\\' :: 'u' :: rest => do
    let (low, rest) ← readHex rest
    if 0xDC00 ≤ low ∧ low ≤ 0xDFFF then
      .ok (Char.ofNat (0x10000 + (high - 0xD800) * 0x400 + (low - 0xDC00)), rest)
    else stopAt .loneSurrogate rest
  | '\\' :: c :: rest => stopOn .endOfHexEscape (c :: rest)
  | c :: rest => stopOn .endOfHexEscape (c :: rest)

/-- The character of an escape, after its `\u`. -/
def readUnicode (cs : List Char) : Except Stop (Char × List Char) := do
  let (n, rest) ← readHex cs
  if 0xDC00 ≤ n ∧ n ≤ 0xDFFF then stopAt .loneSurrogate rest
  else if 0xD800 ≤ n ∧ n ≤ 0xDBFF then readLowSurrogate n rest
  else .ok (Char.ofNat n, rest)

/-- The character of an escape, after its backslash. -/
def readEscape : List Char → Except Stop (Char × List Char)
  | [] => stopAt .endInString []
  | '"' :: rest => .ok ('"', rest)
  | '\\' :: rest => .ok ('\\', rest)
  | '/' :: rest => .ok ('/', rest)
  | 'b' :: rest => .ok ('\x08', rest)
  | 'f' :: rest => .ok ('\x0c', rest)
  | 'n' :: rest => .ok ('\n', rest)
  | 'r' :: rest => .ok ('\r', rest)
  | 't' :: rest => .ok ('\t', rest)
  | 'u' :: rest => readUnicode rest
  | c :: rest => stopOn .invalidEscape (c :: rest)

/-- The characters of a string up to its closing quote, after those already read. -/
def readString : Nat → List Char → List Char → Except Stop (String × List Char)
  | 0, _, cs => stopAt .endInString cs
  | _ + 1, _, [] => stopAt .endInString []
  | fuel + 1, acc, c :: rest =>
    if c = '"' then .ok (String.ofList acc.reverse, rest)
    else if c = '\\' then do
      let (d, rest) ← readEscape rest
      readString fuel (d :: acc) rest
    else if c.toNat < 32 then stopOn .controlCharacter (c :: rest)
    else readString fuel (c :: acc) rest

/-! ## Numbers -/

/-- Scale a whole number by a power of ten: one product or quotient in binary64, with further
quotients for exponents below `-308`. -/
def scaleTen (value : Float) (exponent : Int) : Nat → Option Float
  | 0 => some value
  | fuel + 1 =>
    if exponent.natAbs ≤ 308 then
      let power := Binary64.ofDecimal false 1 exponent.natAbs
      if 0 ≤ exponent then
        let scaled := value * power
        if scaled.isFinite then some scaled else none
      else some (value / power)
    else if value == 0.0 then some value
    else if 0 ≤ exponent then none
    else scaleTen (value / Binary64.ofDecimal false 1 308) (exponent + 308) fuel

/-- The number `± digits · 10^exponent`, before the given text. -/
def scaled (negative : Bool) (digits : Nat) (exponent : Int) (rest : List Char) : Except Stop (Number × List Char) :=
  let steps := exponent.natAbs / 308 + 2
  match scaleTen (Binary64.ofRatio false digits 1) exponent (min steps 8) with
  | some x =>
    match FiniteFloat.ofFloat? (if negative then -x else x) with
    | some x => .ok (.float x, rest)
    | none => stopAt .numberOutOfRange rest
  | none => stopAt .numberOutOfRange rest

/-- What is left of digits when the number that they write passes `2^31 - 1`. -/
def restBeyond (n : Nat) : List Char → List Char
  | [] => []
  | c :: rest =>
    let m := n * 10 + (c.toNat - '0'.toNat)
    if m < 2147483648 then restBeyond m rest else rest

/-- An exponent, after its letter. -/
def readExponent (negative : Bool) (digits : Nat) (start : Int) (cs : List Char) : Except Stop (Number × List Char) :=
  let (down, ds) := match cs with
    | '+' :: ds => (false, ds)
    | '-' :: ds => (true, ds)
    | ds => (false, ds)
  match ds with
  | [] => stopAt .endInValue []
  | d :: _ =>
    if d.isDigit then
      let run := ds.takeWhile Char.isDigit
      let rest := ds.dropWhile Char.isDigit
      let e := Binary64.digitsValue run
      if e < 2147483648 then scaled negative digits (if down then start - e else start + e) rest
      else if digits ≠ 0 ∧ !down then
        stopAt .numberOutOfRange (restBeyond 0 ds)
      else scaled negative 0 0 rest
    else stopOn .invalidNumber ds

/-- Add digits to a number while it stays below `2^64`: the number, how many were taken and the
rest. -/
def takeDigits (n taken : Nat) : List Char → Nat × Nat × List Char
  | [] => (n, taken, [])
  | c :: rest =>
    if c.isDigit then
      let m := n * 10 + (c.toNat - '0'.toNat)
      if m < 18446744073709551616 then takeDigits m (taken + 1) rest else (n, taken, c :: rest)
    else (n, taken, c :: rest)

/-- What may follow the digits behind the point. -/
def readAfterFraction (negative : Bool) (digits : Nat) (exponent : Int) (cs : List Char) :
    Except Stop (Number × List Char) :=
  match cs with
  | c :: rest =>
    if c = 'e' ∨ c = 'E' then readExponent negative digits exponent rest
    else scaled negative digits exponent cs
  | [] => scaled negative digits exponent []

/-- The digits behind a point; `before` counts the digits before it that were left out. -/
def readFraction (negative : Bool) (digits before : Nat) (cs : List Char) : Except Stop (Number × List Char) :=
  let (n, taken, rest) := takeDigits digits 0 cs
  match taken, rest with
  | 0, [] => stopAt .endInValue []
  | 0, c :: rest =>
    if c.isDigit then
      readAfterFraction negative n before ((c :: rest).dropWhile Char.isDigit)
    else stopOn .invalidNumber (c :: rest)
  | taken, rest =>
    readAfterFraction negative n ((before : Int) - taken) (rest.dropWhile Char.isDigit)

/-- What may follow the digits of a whole number. -/
def readAfterInteger (negative : Bool) (digits : Nat) (cs : List Char) : Except Stop (Number × List Char) :=
  match cs with
  | '.' :: rest => readFraction negative digits 0 rest
  | c :: rest =>
    if c = 'e' ∨ c = 'E' then readExponent negative digits 0 rest else whole cs
  | [] => whole []
where
  /-- A whole number: minus zero and what is below every word are binary64 numbers. -/
  whole (rest : List Char) : Except Stop (Number × List Char) :=
    let n : Int := if negative then -digits else digits
    match if negative ∧ digits = 0 then none else Word.ofInt? n with
    | some w => .ok (.int w, rest)
    | none => scaled negative digits 0 rest

/-- A number, after its sign. -/
def readNumber (negative : Bool) (cs : List Char) : Except Stop (Number × List Char) :=
  match cs with
  | [] => stopAt .endInValue []
  | '0' :: rest =>
    match rest with
    | c :: _ => if c.isDigit then stopOn .invalidNumber rest else readAfterInteger negative 0 rest
    | [] => readAfterInteger negative 0 []
  | c :: rest =>
    if c.isDigit then
      let (n, _, rest') := takeDigits 0 0 (c :: rest)
      match rest' with
      | d :: _ =>
        if d.isDigit then
          let skipped := (rest'.takeWhile Char.isDigit).length
          match rest'.dropWhile Char.isDigit with
          | '.' :: more => readFraction negative n skipped more
          | e :: more =>
            if e = 'e' ∨ e = 'E' then readExponent negative n skipped more
            else scaled negative n skipped (e :: more)
          | [] => scaled negative n skipped []
        else readAfterInteger negative n rest'
      | [] => readAfterInteger negative n []
    else stopOn .invalidNumber (c :: rest)

/-! ## Values -/

/-- The letters of a word that must come next. -/
def readLetters : List Char → List Char → Except Stop (List Char)
  | [], cs => .ok cs
  | _ :: _, [] => stopAt .endInValue []
  | w :: word, c :: rest => if c = w then readLetters word rest else stopOn .expectedIdent (c :: rest)

mutual

/-- A value of at most `depth` nested lists and objects. -/
def readValue : Nat → Nat → List Char → Except Stop (Json × List Char)
  | 0, _, cs => stopAt .tooDeep cs
  | fuel + 1, depth, cs =>
    match skipBlanks cs with
    | [] => stopOn .endInValue []
    | 'n' :: rest => do return (.null, ← readLetters ['u', 'l', 'l'] rest)
    | 't' :: rest => do return (.bool true, ← readLetters ['r', 'u', 'e'] rest)
    | 'f' :: rest => do return (.bool false, ← readLetters ['a', 'l', 's', 'e'] rest)
    | '"' :: rest => do
      let (s, rest) ← readString (rest.length + 1) [] rest
      return (.string s, rest)
    | '[' :: rest =>
      if depth ≤ 1 then stopOn .tooDeep ('[' :: rest)
      else do
        let (items, rest) ← readItems fuel (depth - 1) true rest
        return (.array items, rest)
    | '\x7b' :: rest =>
      if depth ≤ 1 then stopOn .tooDeep ('\x7b' :: rest)
      else do
        let (members, rest) ← readMembers fuel (depth - 1) true rest
        return (.object members, rest)
    | '-' :: rest => do
      let (n, rest) ← readNumber true rest
      return (.number n, rest)
    | c :: rest =>
      if c.isDigit then do
        let (n, rest) ← readNumber false (c :: rest)
        return (.number n, rest)
      else stopOn .expectedValue (c :: rest)

/-- The items of a list up to its closing bracket. -/
def readItems : Nat → Nat → Bool → List Char → Except Stop (List Json × List Char)
  | 0, _, _, cs => stopAt .tooDeep cs
  | fuel + 1, depth, first, cs =>
    match skipBlanks cs with
    | [] => stopOn .endInList []
    | c :: rest =>
      if c = ']' then .ok ([], rest)
      else if first then itemsFrom fuel depth (c :: rest)
      else if c = ',' then
        match skipBlanks rest with
        | [] => stopOn .endInValue []
        | ']' :: more => stopOn .trailingComma (']' :: more)
        | rest => itemsFrom fuel depth rest
      else stopOn .expectedListEnd (c :: rest)

/-- One item and those after it. -/
def itemsFrom : Nat → Nat → List Char → Except Stop (List Json × List Char)
  | 0, _, cs => stopAt .tooDeep cs
  | fuel + 1, depth, cs => do
    let (v, rest) ← readValue fuel depth cs
    let (vs, rest) ← readItems fuel depth false rest
    return (v :: vs, rest)

/-- The members of an object up to its closing brace. -/
def readMembers : Nat → Nat → Bool → List Char → Except Stop ((List (String × Json)) × List Char)
  | 0, _, _, cs => stopAt .tooDeep cs
  | fuel + 1, depth, first, cs =>
    match skipBlanks cs with
    | [] => stopOn .endInObject []
    | c :: rest =>
      if c = '\x7d' then .ok ([], rest)
      else if first then
        if c = '"' then membersFrom fuel depth rest else stopOn .keyNotString (c :: rest)
      else if c = ',' then
        match skipBlanks rest with
        | [] => stopOn .endInValue []
        | '"' :: more => membersFrom fuel depth more
        | '\x7d' :: more => stopOn .trailingComma ('\x7d' :: more)
        | rest => stopOn .keyNotString rest
      else stopOn .expectedObjectEnd (c :: rest)

/-- One member, after the opening quote of its name, and those after it. -/
def membersFrom : Nat → Nat → List Char → Except Stop ((List (String × Json)) × List Char)
  | 0, _, cs => stopAt .tooDeep cs
  | fuel + 1, depth, cs => do
    let (k, rest) ← readString (cs.length + 1) [] cs
    match skipBlanks rest with
    | [] => stopOn .endInObject []
    | c :: rest =>
      if c = ':' then do
        let (v, rest) ← readValue fuel depth rest
        let (ms, rest) ← readMembers fuel depth false rest
        return ((k, v) :: ms, rest)
      else stopOn .expectedColon (c :: rest)

end

/-- One value and nothing but blanks behind it. -/
def readWhole (cs : List Char) : Except Stop Json := do
  let (v, rest) ← readValue (3 * cs.length + 3) 128 cs
  match skipBlanks rest with
  | [] => .ok v
  | rest => stopOn .trailingCharacters rest

/-! ## Positions -/

/-- Why a text was refused, and where. -/
structure ReadError where
  fault : Fault
  line : Nat
  column : Nat
  deriving DecidableEq, Repr

/-- Line and column after the given number of bytes. -/
def position (line column : Nat) : Nat → List Char → Nat × Nat
  | 0, _ | _, [] => (line, column)
  | n + 1, c :: rest =>
    if c = '\n' then position (line + 1) 0 n rest
    else if n + 1 ≤ c.utf8Size then (line, column + (n + 1))
    else position line (column + c.utf8Size) (n + 1 - c.utf8Size) rest

/-- The position of a stop in the whole text. -/
def Stop.locate (stop : Stop) (whole : List Char) : ReadError :=
  let total := byteCount whole
  let (line, column) := position 1 0 (min total (total - byteCount stop.rest + stop.read)) whole
  ⟨stop.fault, line, column⟩

/-- The wording of an error, with its position. -/
def ReadError.message (e : ReadError) : String :=
  e.fault.message ++ " at line " ++ toString e.line ++ " column " ++ toString e.column

/-- Read a text as one value, members as they are written. -/
def read (text : String) : Except ReadError Json :=
  match readWhole text.toList with
  | .ok v => .ok v
  | .error stop => .error (stop.locate text.toList)

end Walkthrough.Json
