import Walkthrough.Template.Fault
import Walkthrough.Text.Pieces

/-!
# Tokens of an expression

An expression is split into names, strings, numbers and marks; blanks between them are skipped.
`Tokens.ofChars` yields the tokens with the lines on which they start, up to the end of the text or to
the first place where no token can be read.
-/

namespace Walkthrough.Template

/-- The marks: operators and brackets. -/
inductive Mark where
  | plus | minus | times | divide | wholeDivide | remainder | power | concat
  | equal | unequal | less | lessEqual | greater | greaterEqual | assign
  | dot | comma | colon | pipe
  | parenOpen | parenClose | bracketOpen | bracketClose | braceOpen | braceClose
  deriving DecidableEq

/-- How a mark is written. -/
def Mark.text : Mark → String
  | .plus => "+"
  | .minus => "-"
  | .times => "*"
  | .divide => "/"
  | .wholeDivide => "//"
  | .remainder => "%"
  | .power => "**"
  | .concat => "~"
  | .equal => "=="
  | .unequal => "!="
  | .less => "<"
  | .lessEqual => "<="
  | .greater => ">"
  | .greaterEqual => ">="
  | .assign => "="
  | .dot => "."
  | .comma => ","
  | .colon => ":"
  | .pipe => "|"
  | .parenOpen => "("
  | .parenClose => ")"
  | .bracketOpen => "["
  | .bracketClose => "]"
  | .braceOpen => "\x7b"
  | .braceClose => "\x7d"

/-- Marks of two characters. -/
def Mark.ofPair? : Char → Char → Option Mark
  | '/', '/' => some .wholeDivide
  | '*', '*' => some .power
  | '=', '=' => some .equal
  | '!', '=' => some .unequal
  | '<', '=' => some .lessEqual
  | '>', '=' => some .greaterEqual
  | _, _ => none

/-- Marks of one character. -/
def Mark.ofChar? : Char → Option Mark
  | '+' => some .plus
  | '-' => some .minus
  | '*' => some .times
  | '/' => some .divide
  | '%' => some .remainder
  | '~' => some .concat
  | '<' => some .less
  | '>' => some .greater
  | '=' => some .assign
  | '.' => some .dot
  | ',' => some .comma
  | ':' => some .colon
  | '|' => some .pipe
  | '(' => some .parenOpen
  | ')' => some .parenClose
  | '[' => some .bracketOpen
  | ']' => some .bracketClose
  | '\x7b' => some .braceOpen
  | '\x7d' => some .braceClose
  | _ => none

/-- How a mark changes the number of brackets that are open. -/
def Mark.nesting : Mark → Int
  | .parenOpen | .bracketOpen | .braceOpen => 1
  | .parenClose | .bracketClose | .braceClose => -1
  | _ => 0

/-- A token of an expression. Outside every bracket, two closing braces end the block that an
expression stands in. -/
inductive Token where
  | ident (name : String)
  | string (s : String)
  | integer (n : Nat)
  | float (x : Float)
  | mark (m : Mark)
  | blockEnd
  deriving DecidableEq

/-- How a token changes the number of brackets that are open. -/
def Token.nesting : Token → Int
  | .mark m => m.nesting
  | _ => 0

/-- A mark as it is named in messages. -/
def Mark.quoted (m : Mark) : String := "`" ++ m.text ++ "`"

/-- A token as it is named in messages. -/
def Token.description : Token → String
  | .ident _ => "identifier"
  | .string _ => "string"
  | .integer _ => "integer"
  | .float _ => "float"
  | .mark m => m.quoted
  | .blockEnd => "end of variable block"

/-! ## Characters -/

/-- Blanks that separate tokens. -/
def isBlank (c : Char) : Bool :=
  c == ' ' || c == '\t' || c == '\n' || c == '\x0c' || c == '\r'

/-- A name starts with a letter or an underscore. -/
def startsName (c : Char) : Bool := c.isAlpha || c == '_'

/-- A name goes on with letters, digits and underscores. -/
def continuesName (c : Char) : Bool := c.isAlphanum || c == '_'

/-- How many lines end in a text. -/
def lineEnds (cs : List Char) : Nat := cs.count '\n'

/-- The value of a digit in any base up to sixteen. -/
def digitValue? (c : Char) : Option Nat :=
  if c.isDigit then some (c.toNat - '0'.toNat)
  else if 'a' ≤ c ∧ c ≤ 'f' then some (c.toNat - 'a'.toNat + 10)
  else if 'A' ≤ c ∧ c ≤ 'F' then some (c.toNat - 'A'.toNat + 10)
  else none

/-- The number that digits write in a base; none if there are none or one is too large. -/
def numberOfDigits? (base : Nat) : List Char → Option Nat
  | [] => none
  | cs => cs.foldlM (fun n c =>
      (digitValue? c).bind fun d => if d < base then some (n * base + d) else none) 0

/-! ## Strings -/

/-- Split a text before the first closing quote that no backslash precedes. -/
def splitQuoted (quote : Char) : List Char → Option (List Char × List Char)
  | [] => none
  | '\\' :: c :: rest => (splitQuoted quote rest).map fun (s, r) => ('\\' :: c :: s, r)
  | c :: rest =>
    if c = quote then some ([], rest)
    else if c = '\\' then none
    else (splitQuoted quote rest).map fun (s, r) => (c :: s, r)

/-- A number of exactly `n` hexadecimal digits, of which the first may be a plus sign. -/
def escapedNumber? (n : Nat) (cs : List Char) : Option Nat :=
  let ds := cs.take n
  if ds.length < n then none
  else match ds with
    | '+' :: ds => numberOfDigits? 16 ds
    | ds => numberOfDigits? 16 ds

/-- The character of the low half of a pair of UTF-16 units. -/
def joinSurrogates? (high low : Nat) : Option Char :=
  if 0xD800 ≤ high ∧ high < 0xDC00 ∧ 0xDC00 ≤ low ∧ low < 0xE000 then
    some (Char.ofNat (0x10000 + (high - 0xD800) * 0x400 + (low - 0xDC00)))
  else none

/-- An octal digit. -/
def isOctal (c : Char) : Bool := '0' ≤ c && c ≤ '7'

/-- The characters that stand for themselves or for a control character after a backslash. -/
def simpleEscape? : Char → Option Char
  | '"' => some '"'
  | '\\' => some '\\'
  | '/' => some '/'
  | '\'' => some '\''
  | 'b' => some '\x08'
  | 'f' => some '\x0c'
  | 'n' => some '\n'
  | 'r' => some '\r'
  | 't' => some '\t'
  | _ => none

/-- Resolve the escapes of a string; a backslash before any other character stays. `pending` is the
first half of a surrogate pair that waits for its second; anything else in its place is refused.
`fuel` bounds the number of characters. -/
def unescapeFrom : Nat → Option Nat → List Char → Option (List Char)
  | 0, _, _ => none
  | _ + 1, pending, [] => if pending.isSome then none else some []
  | fuel + 1, pending, '\\' :: 'u' :: rest =>
    (escapedNumber? 4 rest).bind fun n =>
      let surrogate := decide (0xD800 ≤ n ∧ n ≤ 0xDFFF)
      match pending, surrogate with
      | none, false => (unescapeFrom fuel none (rest.drop 4)).map (Char.ofNat n :: ·)
      | none, true => unescapeFrom fuel (some n) (rest.drop 4)
      | some _, false => none
      | some high, true => (joinSurrogates? high n).bind fun c =>
        (unescapeFrom fuel none (rest.drop 4)).map (c :: ·)
  | fuel + 1, none, '\\' :: 'x' :: rest =>
    (escapedNumber? 2 rest).bind fun n =>
      (unescapeFrom fuel none (rest.drop 2)).map (Char.ofNat n :: ·)
  | fuel + 1, none, '\\' :: c :: rest =>
    if isOctal c then
      let more := (rest.take 2).takeWhile isOctal
      (numberOfDigits? 8 (c :: more)).bind fun n =>
        if n < 256 then (unescapeFrom fuel none (rest.drop more.length)).map (Char.ofNat n :: ·)
        else none
    else
      let kept := match simpleEscape? c with
        | some d => [d]
        | none => ['\\', c]
      (unescapeFrom fuel none rest).map (kept ++ ·)
  | fuel + 1, none, c :: rest =>
    if c = '\\' then none else (unescapeFrom fuel none rest).map (c :: ·)
  | _ + 1, some _, _ => none

/-- Resolve the escapes of a string. -/
def unescape (cs : List Char) : Option (List Char) :=
  if cs.contains '\\' then unescapeFrom (cs.length + 1) none cs else some cs

/-! ## Numbers -/

/-- Where in a number the reader is. -/
inductive NumberPart where
  | whole | fraction | exponentMark | exponent
  deriving DecidableEq

/-- A name starts after a point, so that the point is no part of a number. An exponent may start
there as well. -/
def nameFollows (rest : List Char) : Bool :=
  match rest with
  | c :: _ => startsName c && c != 'e' && c != 'E'
  | [] => false

/-- The part that a further character belongs to, if it belongs to the number at all; `rest` is what
comes after the character. -/
def NumberPart.next? (base : Nat) (part : NumberPart) (c : Char) (rest : List Char) :
    Option NumberPart :=
  if c = '.' ∧ part = .whole ∧ base = 10 ∧ !nameFollows rest then some .fraction
  else if (c = 'e' ∨ c = 'E') ∧ (part = .whole ∨ part = .fraction) ∧ base = 10 then
    some .exponentMark
  else if (c = '+' ∨ c = '-') ∧ part = .exponentMark then some .exponent
  else if c.isDigit then some (if part = .exponentMark then .exponent else part)
  else if part = .whole ∧ base = 16 ∧ (digitValue? c).isSome then some part
  else if c = '_' then some part
  else none

/-- The characters that belong to a number, the part that it ends in, and the rest. -/
def splitNumber (base : Nat) (part : NumberPart) :
    List Char → List Char × NumberPart × List Char
  | [] => ([], part, [])
  | c :: rest =>
    match part.next? base c rest with
    | some part' =>
      let (ds, last, r) := splitNumber base part' rest
      (c :: ds, last, r)
    | none => ([], part, c :: rest)

/-- The base that a number's first two characters announce, and what they leave. -/
def baseOf : List Char → Nat × List Char
  | '0' :: c :: rest =>
    if c = 'b' ∨ c = 'B' then (2, rest)
    else if c = 'o' ∨ c = 'O' then (8, rest)
    else if c = 'x' ∨ c = 'X' then (16, rest)
    else (10, '0' :: c :: rest)
  | cs => (10, cs)

/-- The greatest integer that can be written. -/
def greatestInteger : Nat := 340282366920938463463374607431768211456 - 1

/-- Read a number: an integer, or a float if it has a point or an exponent. Underscores may stand
between its digits. -/
def readNumber (cs : List Char) : Except Cause (Token × List Char) :=
  let (base, body) := baseOf cs
  let (raw, part, rest) := splitNumber base .whole body
  let digits := raw.filter (· ≠ '_')
  if raw.getLast? = some '_' then .error .trailingUnderscore
  else if part = .whole then
    match numberOfDigits? base digits with
    | some n => if n ≤ greatestInteger then .ok (.integer n, rest) else .error .wideInteger
    | none => .error .wideInteger
  else match Binary64.readFloat? digits with
    | some x => .ok (.float x, rest)
    | none => .error .badFloat

/-! ## The tokens of a text -/

/-- Read the token at the start of a text that does not start with a blank. The Boolean of a fault
tells whether it belongs to this line rather than to the token before. -/
def readToken : List Char → Except (Cause × Bool) (Token × List Char)
  | [] => .error (.unexpectedCharacter, true)
  | c :: rest =>
    match rest.head?.bind (Mark.ofPair? c) with
    | some m => .ok (.mark m, rest.tail)
    | none =>
      match Mark.ofChar? c with
      | some m => .ok (.mark m, rest)
      | none =>
        if c = '"' ∨ c = '\'' then
          match splitQuoted c rest with
          | none => .error (.unclosedString, true)
          | some (raw, r) => match unescape raw with
            | some s => .ok (.string (String.ofList s), r)
            | none => .error (.badEscape, false)
        else if c.isDigit then
          match readNumber (c :: rest) with
          | .ok t => .ok t
          | .error cause => .error (cause, true)
        else if startsName c then
          .ok (.ident (String.ofList ((c :: rest).takeWhile continuesName)),
            (c :: rest).dropWhile continuesName)
        else .error (.unexpectedCharacter, true)

/-- The tokens of a text, each with its line, and why the text after them is no token. A fault
without a line belongs to the line of the token before. -/
structure Tokens where
  tokens : List (Token × Nat)
  fault : Option (Cause × Option Nat)

/-- Whether a text starts with the end of a block: two closing braces, or a sign and two closing
braces. -/
def startsBlockEnd : List Char → Bool
  | '\x7d' :: '\x7d' :: _ => true
  | c :: '\x7d' :: '\x7d' :: _ => c == '-' || c == '+'
  | _ => false

/-- The tokens of a text of at most `fuel` characters that starts on the given line, with the given
number of brackets open. Nothing is read after the end of the block. -/
def Tokens.ofCharsFrom : Nat → Nat → Int → List Char → Tokens
  | 0, _, _, _ => ⟨[], none⟩
  | fuel + 1, line, nesting, cs =>
    let line := line + lineEnds (cs.takeWhile isBlank)
    match cs.dropWhile isBlank with
    | [] => ⟨[], none⟩
    | c :: rest =>
      if nesting = 0 ∧ startsBlockEnd (c :: rest) then ⟨[(.blockEnd, line)], none⟩
      else
        match readToken (c :: rest) with
        | .error (.unclosedString, _) => ⟨[], some (.unclosedString, some (line + lineEnds rest))⟩
        | .error (cause, here) => ⟨[], some (cause, if here then some line else none)⟩
        | .ok (t, r) =>
          let next :=
            ofCharsFrom fuel (line + lineEnds (c :: rest) - lineEnds r) (nesting + t.nesting) r
          ⟨(t, line) :: next.tokens, next.fault⟩

/-- The tokens of a text. A line end at its end does not count. -/
def Tokens.ofChars (cs : List Char) : Tokens :=
  ofCharsFrom (cs.length + 1) 1 0 (Text.dropLineEnd cs)

end Walkthrough.Template
