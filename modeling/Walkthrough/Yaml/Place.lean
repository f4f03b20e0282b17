/-!
# Places in a text

A place is what is left of a text, with the line and column where it starts. Line ends are a line feed
or one of the two separators of paragraphs and lines; other ways to end a line are written as a line
feed before a text is read.
-/

namespace Walkthrough.Yaml

/-- The character ends a line. -/
def isBreak (c : Char) : Bool := c == '\n' || c.toNat == 0x2028 || c.toNat == 0x2029

/-- The character is a space or a tab. -/
def isSpace (c : Char) : Bool := c == ' ' || c == '\t'

/-- The character separates what stands on either side. -/
def isGap (c : Char) : Bool := isSpace c || isBreak c

/-- What comes next, if anything, is a gap. -/
def startsGap : List Char → Bool
  | [] => true
  | c :: _ => isGap c

/-- Nothing or a line end comes next. -/
def startsBreak : List Char → Bool
  | [] => true
  | c :: _ => isBreak c

/-- The character may stand in a name. -/
def isWord (c : Char) : Bool := c.isAlphanum || c == '_' || c == '-'

/-- The character may stand in a text at all. -/
def isAllowed (c : Char) : Bool :=
  let n := c.toNat
  n == 0x9 || n == 0xA || n == 0xD || (0x20 ≤ n && n ≤ 0x7E) || n == 0x85
    || (0xA0 ≤ n && n ≤ 0xFFFD) || 0x10000 ≤ n

/-- Write every line end that is not a separator as a line feed. -/
def unifyBreaks : List Char → List Char
  | [] => []
  | '\r' :: '\n' :: rest => '\n' :: unifyBreaks rest
  | c :: rest => (if c = '\r' ∨ c.toNat = 0x85 then '\n' else c) :: unifyBreaks rest

/-- What is left of a text, and where it starts. -/
structure Place where
  rest : List Char
  line : Nat
  column : Nat
  index : Nat

namespace Place

/-- The start of a text. -/
def start (text : List Char) : Place := ⟨text, 0, 0, 0⟩

/-- The place after the next character. -/
def next (p : Place) : Place :=
  match p.rest with
  | [] => p
  | c :: rest =>
    if isBreak c then ⟨rest, p.line + 1, 0, p.index + 1⟩
    else ⟨rest, p.line, p.column + 1, p.index + 1⟩

/-- The place after some characters of the same line. -/
def skip (p : Place) (n : Nat) : Place := ⟨p.rest.drop n, p.line, p.column + n, p.index + n⟩

/-- The place where `rest` is left, on the same line. -/
def upTo (p : Place) (rest : List Char) : Place := p.skip (p.rest.length - rest.length)

/-- The place after all characters of a class that holds no line end. -/
def skipWhile (p : Place) (inClass : Char → Bool) : Place :=
  p.skip (p.rest.takeWhile inClass).length

/-- The next character. -/
def head? (p : Place) : Option Char := p.rest.head?

/-- Three hyphens or three points stand alone at the start of a line. -/
def atMarker (p : Place) : Bool :=
  p.column == 0 && match p.rest with
    | '-' :: '-' :: '-' :: rest | '.' :: '.' :: '.' :: rest => startsGap rest
    | _ => false

end Place

end Walkthrough.Yaml
