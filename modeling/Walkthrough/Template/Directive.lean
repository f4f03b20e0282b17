import Walkthrough.Template.Fault

/-!
# Formatting directives

A text with directives, such as `%-6s` or `%(name)05.1f`, is filled in with values. A directive names
its value or takes the next one; flags, a width and a precision lay it out, and a letter at its end
says how the value is written. `fillIn` writes a whole text. Decimal fractions are rounded exactly, a
half going to the even digit.
-/

namespace Walkthrough.Template

/-! ## Digits -/

namespace Directive

/-- At least a number of characters, zeros being put in front. -/
def leadingZeros (width : Nat) (cs : List Char) : List Char :=
  List.replicate (width - cs.length) '0' ++ cs

/-- A magnitude `num / den` with a number of decimal places; without places the point stands only if
it is asked for. -/
def fixed (places : Nat) (point : Bool) (num den : Nat) : List Char :=
  let n := Binary64.roundHalfEven (num * Nat.pow 10 places) den
  let digits := leadingZeros (places + 1) (Nat.toDigits 10 n)
  let whole := digits.length - places
  digits.take whole ++ (if places = 0 ∧ !point then [] else '.' :: digits.drop whole)

/-- The first `count` digits of a magnitude and its decimal exponent. -/
def leadingDigits (count num den : Nat) : Nat × Int :=
  if num = 0 then (0, 0)
  else
    let e := Binary64.floorLog10 num den
    let shift := (count : Int) - 1 - e
    let n :=
      if 0 ≤ shift then Binary64.roundHalfEven (num * Nat.pow 10 shift.toNat) den
      else Binary64.roundHalfEven num (den * Nat.pow 10 (-shift).toNat)
    if n = Nat.pow 10 count then (n / 10, e + 1) else (n, e)

/-- A decimal exponent of at least two digits, with its sign. -/
def exponent (e : Int) : List Char :=
  'e' :: (if e < 0 then '-' else '+') :: leadingZeros 2 (Nat.toDigits 10 e.natAbs)

/-- The digits of a number with a point after the first. -/
def pointed (point : Bool) (digits : List Char) : List Char :=
  digits.take 1 ++ (if digits.length ≤ 1 ∧ !point then [] else '.' :: digits.drop 1)

/-- A magnitude with an exponent and a number of places. -/
def scientific (places : Nat) (point : Bool) (num den : Nat) : List Char :=
  let (n, e) := leadingDigits (places + 1) num den
  pointed point (leadingZeros (places + 1) (Nat.toDigits 10 n)) ++ exponent e

/-- A fraction without the zeros at its end, nor the point if nothing is left after it. -/
def withoutZeros (cs : List Char) : List Char :=
  if cs.contains '.' then
    let kept := (cs.reverse.dropWhile (· == '0'))
    (match kept with
      | '.' :: rest => rest
      | rest => rest).reverse
  else cs

/-- A magnitude with a number of significant digits: with an exponent if it is below `1e-4` or has
more digits than that before the point. Zeros at the end are kept only on request. -/
def general (digits : Nat) (keep : Bool) (num den : Nat) : List Char :=
  let count := max digits 1
  let (n, e) := leadingDigits count num den
  if e < -4 ∨ (count : Int) ≤ e then
    let body := pointed keep (leadingZeros count (Nat.toDigits 10 n))
    (if keep then body else withoutZeros body) ++ exponent e
  else
    let body := fixed ((count : Int) - 1 - e).toNat keep num den
    if keep then body else withoutZeros body

end Directive

/-! ## Directives -/

/-- The ways to write a value. -/
inductive Conversion where
  | text | character | decimal | octal | hexadecimal | scientific | fixed | general
  deriving DecidableEq

/-- The conversion of a letter, and whether its letters are capitals. -/
def Conversion.ofChar? : Char → Option (Conversion × Bool)
  | 's' => some (.text, false)
  | 'c' => some (.character, false)
  | 'd' | 'i' | 'u' => some (.decimal, false)
  | 'o' => some (.octal, false)
  | 'x' => some (.hexadecimal, false)
  | 'X' => some (.hexadecimal, true)
  | 'e' => some (.scientific, false)
  | 'E' => some (.scientific, true)
  | 'f' => some (.fixed, false)
  | 'F' => some (.fixed, true)
  | 'g' => some (.general, false)
  | 'G' => some (.general, true)
  | _ => none

/-- The name of a conversion in a message. -/
def Conversion.name : Conversion → String
  | .text => "string"
  | .character => "character"
  | .decimal => "decimal"
  | .octal => "octal"
  | .hexadecimal => "hexadecimal"
  | .scientific => "scientific"
  | .fixed => "fixed-point"
  | .general => "general"

/-- The flags of a directive. -/
structure Directive.Flags where
  left : Bool
  plus : Bool
  blank : Bool
  zero : Bool
  alternate : Bool

/-- A directive: its letter stands at the offset, in bytes. -/
structure Directive where
  key : Option String
  flags : Directive.Flags
  width : Nat
  precision : Option Nat
  conversion : Conversion
  capital : Bool
  letter : Char
  offset : Nat

namespace Directive

/-- No flags. -/
def Flags.none : Flags := ⟨false, false, false, false, false⟩

/-- A flag is set by its character. -/
def Flags.with? (f : Flags) : Char → Option Flags
  | '-' => some { f with left := true }
  | '+' => some { f with plus := true }
  | ' ' => some { f with blank := true }
  | '0' => some { f with zero := true }
  | '#' => some { f with alternate := true }
  | _ => Option.none

/-- Read flags. -/
def readFlags (f : Flags) : List Char → Flags × List Char
  | [] => (f, [])
  | c :: rest => match f.with? c with
    | some f => readFlags f rest
    | Option.none => (f, c :: rest)

/-- Read digits. -/
def readNumber (cs : List Char) : Nat × List Char :=
  (Binary64.digitsValue (cs.takeWhile Char.isDigit), cs.dropWhile Char.isDigit)

/-- Read a key in parentheses, if there is one, at an offset. -/
def readKey (offset : Nat) : List Char → Except Cause (Option String × List Char)
  | '(' :: rest =>
    let key := rest.takeWhile (· ≠ ')')
    match rest.dropWhile (· ≠ ')') with
    | _ :: rest => .ok (some (String.ofList key), rest)
    | [] => .error (.directiveKey (offset + 1))
  | cs => .ok (Option.none, cs)

/-- How many bytes characters take. -/
def bytes (cs : List Char) : Nat := (String.ofList cs).utf8ByteSize

/-- Read a directive after its percent sign; `total` is the size of the whole text. -/
def read (total : Nat) (cs : List Char) : Except Cause (Directive × List Char) := do
  let (key, rest) ← readKey (total - bytes cs) cs
  let (flags, rest) := readFlags Flags.none rest
  let (width, rest) := readNumber rest
  let (precision, rest) := match rest with
    | '.' :: rest =>
      let (n, rest) := readNumber rest
      (some n, rest)
    | rest => (Option.none, rest)
  let offset := total - bytes rest
  match rest with
  | [] => .error (.directiveEnd offset)
  | c :: rest => match Conversion.ofChar? c with
    | some (conversion, capital) =>
      .ok (⟨key, flags, width, precision, conversion, capital, c, offset⟩, rest)
    | Option.none => .error (.directiveLetter c offset)

/-! ## Layout -/

/-- What is put before the digits of a number. -/
def sign (f : Flags) (negative : Bool) : List Char :=
  if negative then ['-'] else if f.plus then ['+'] else if f.blank then [' '] else []

/-- Fill a text up to the width, which counts bytes. -/
def pad (d : Directive) (cs : List Char) : List Char :=
  let blanks := List.replicate (d.width - bytes cs) ' '
  if d.flags.left then cs ++ blanks else blanks ++ cs

/-- Fill a number up to the width: with zeros after its sign and mark if those are asked for. -/
def padNumber (d : Directive) (front digits : List Char) : List Char :=
  if d.flags.zero ∧ !d.flags.left then front ++ leadingZeros (d.width - front.length) digits
  else d.pad (front ++ digits)

/-- Letters as capitals, if the directive has them. -/
def cased (d : Directive) (cs : List Char) : List Char :=
  if d.capital then cs.map Char.toUpper else cs

/-- An integer in a base, with a mark before its digits. -/
def writeInteger (d : Directive) (base : Nat) (mark : List Char) (n : Int) : List Char :=
  let digits := leadingZeros (d.precision.getD 0) (Nat.toDigits base n.natAbs)
  let front := sign d.flags (n < 0) ++ (if d.flags.alternate then mark else [])
  d.padNumber (d.cased front) (d.cased digits)

/-- A float, its magnitude being written by a function of the precision. -/
def writeFloat (d : Directive) (x : Float) : List Char :=
  match Binary64.ofFloat x with
  | .nan => d.pad (d.cased (sign d.flags false ++ "nan".toList))
  | .infinite s => d.pad (d.cased (sign d.flags s ++ "inf".toList))
  | .finite s m e =>
    let (num, den) := Binary64.magnitude m e
    let places := d.precision.getD 6
    let body := match d.conversion with
      | .scientific => scientific places d.flags.alternate num den
      | .general => general places d.flags.alternate num den
      | _ => fixed places d.flags.alternate num den
    d.padNumber (sign d.flags s) (d.cased body)

/-- The name of the kind of a value, floats and integers apart. -/
def kindName : Value → String
  | .float _ => "float"
  | .int _ | .wide _ => "integer"
  | v => v.kind.name

/-- The directive does not apply to a value. -/
def refuse (d : Directive) (v : Value) : Except Cause (List Char) :=
  .error (.directiveKind d.offset (kindName v) d.conversion.name d.letter)

/-- Write a value as a directive says. -/
def write (d : Directive) (v : Value) : Except Cause (List Char) :=
  match d.conversion with
  | .text =>
    let cs := v.display.toList
    .ok (d.pad (match d.precision with
      | some n => cs.take n
      | Option.none => cs))
  | .character => match v.whole?, v with
    | some n, _ =>
      if 0 ≤ n ∧ n.toNat.isValidChar then .ok (d.pad [Char.ofNat n.toNat]) else d.refuse v
    | Option.none, .string s _ => match s.toList with
      | [c] => .ok (d.pad [c])
      | _ => d.refuse v
    | _, _ => d.refuse v
  | .decimal => match v.whole? with
    | some n => .ok (d.writeInteger 10 [] n)
    | Option.none => d.refuse v
  | .octal => match v.whole? with
    | some n => .ok (d.writeInteger 8 ['0', 'o'] n)
    | Option.none => d.refuse v
  | .hexadecimal => match v.whole? with
    | some n => .ok (d.writeInteger 16 ['0', 'x'] n)
    | Option.none => d.refuse v
  | .scientific | .fixed | .general => match v.float? true with
    | some x => .ok (d.writeFloat x)
    | Option.none => d.refuse v

/-! ## Whole texts -/

/-- The value of a key, in the mapping that is the only argument or comes last. -/
def keyed (offset : Nat) (key : String) (args : List Value) : Except Cause Value :=
  let named := match args.getLast?, args.head? with
    | some (.mapping entries .arguments), _ => some entries
    | _, some (.mapping entries _) => some entries
    | _, _ => Option.none
  match named with
  | Option.none => .error .directiveMapping
  | some entries => match Value.findEntry (.text key) entries with
    | some v => .ok v
    | Option.none => .error (.directiveArgument offset)

/-- Fill in a text of at most `fuel` characters; `left` are the values not yet taken of `args`. -/
def fillFrom (total : Nat) (args : List Value) :
    Nat → List Value → List Char → Except Cause (List Char)
  | 0, _, _ | _, _, [] => .ok []
  | fuel + 1, left, '%' :: '%' :: rest => do
    let more ← fillFrom total args fuel left rest
    .ok ('%' :: more)
  | fuel + 1, left, '%' :: rest => do
    let (d, rest) ← read total rest
    match d.key, left with
    | some key, _ =>
      let v ← keyed d.offset key args
      let cs ← d.write v
      let more ← fillFrom total args fuel left rest
      .ok (cs ++ more)
    | Option.none, v :: left =>
      let cs ← d.write v
      let more ← fillFrom total args fuel left rest
      .ok (cs ++ more)
    | Option.none, [] => .error (.directiveArgument d.offset)
  | fuel + 1, left, c :: rest => do
    let more ← fillFrom total args fuel left rest
    .ok (c :: more)

/-- Fill in a text with values. Values that no directive takes are passed over. -/
def fillIn (text : String) (args : List Value) : Except Cause String :=
  (fillFrom text.utf8ByteSize args (text.length + 1) args text.toList).map String.ofList

end Directive

end Walkthrough.Template
