import Walkthrough.Text.CaseTable

/-!
# Upper and lower case

The case of a text: every character is replaced by its upper or lower case, which may be several
characters. A capital sigma at the end of a word becomes a final one.
-/

namespace Walkthrough.Text

/-- The upper case of a character. -/
def upperChar (c : Char) : List Char :=
  if c.toNat < 0x80 then [c.toUpper]
  else match longUpper.lookup c.toNat with
    | some ns => ns.map Char.ofNat
    | none => [Char.ofNat (shiftBy upperRuns c.toNat)]

/-- The lower case of a character, a capital sigma becoming one inside a word. -/
def lowerChar (c : Char) : List Char :=
  if c.toNat < 0x80 then [c.toLower]
  else if c.toNat = 0x130 then ['i', Char.ofNat 0x307]
  else [Char.ofNat (shiftBy lowerRuns c.toNat)]

/-- The character is a lower case letter. -/
def isLowercase (c : Char) : Bool :=
  if c.toNat < 0x80 then c.isLower else inRuns lowercaseRuns c.toNat

/-- The character is an upper case letter. -/
def isUppercase (c : Char) : Bool :=
  if c.toNat < 0x80 then c.isUpper else inRuns uppercaseRuns c.toNat

/-- The character has a case. -/
def isCased (c : Char) : Bool := isLowercase c || isUppercase c || inRuns titlecaseRuns c.toNat

/-- The character does not end a word. -/
def isCaseIgnorable (c : Char) : Bool :=
  if c.toNat < 0x80 then ['\'', '.', ':', '^', '\x60'].contains c
  else inRuns caseIgnorableRuns c.toNat

/-- After ignorable characters comes one with a case. -/
def reachesCased (cs : List Char) : Bool :=
  match cs.dropWhile isCaseIgnorable with
  | c :: _ => isCased c
  | [] => false

/-- The lower case of a text whose characters before it are, in reverse, `before`. -/
def lowercaseAfter : List Char → List Char → List Char
  | _, [] => []
  | before, c :: rest =>
    let low :=
      if c.toNat = 0x3A3 then
        [Char.ofNat (if reachesCased before && !reachesCased rest then 0x3C2 else 0x3C3)]
      else lowerChar c
    low ++ lowercaseAfter (c :: before) rest

/-- The lower case of a text. -/
def lowercase (s : String) : String := String.ofList (lowercaseAfter [] s.toList)

/-- The upper case of a text. -/
def uppercase (s : String) : String := String.ofList (s.toList.flatMap upperChar)

/-- Letters compared without regard to ASCII case. -/
def asciiLowercase (s : String) : String := String.ofList (s.toList.map Char.toLower)

/-- Capital ASCII letters. -/
def asciiUppercase (s : String) : String := String.ofList (s.toList.map Char.toUpper)

/-! ## Blanks -/

/-- The character is white space. -/
def isBlank (c : Char) : Bool :=
  let n := c.toNat
  (0x09 ≤ n && n ≤ 0x0D) || n == 0x20 || n == 0x85 || n == 0xA0 || n == 0x1680
    || (0x2000 ≤ n && n ≤ 0x200A) || n == 0x2028 || n == 0x2029 || n == 0x202F || n == 0x205F
    || n == 0x3000

/-- Without the white space at either end. -/
def trimChars (drop : Char → Bool) (cs : List Char) : List Char :=
  ((cs.dropWhile drop).reverse.dropWhile drop).reverse

/-- Without the white space at either end. -/
def trim (s : String) : String := String.ofList (trimChars isBlank s.toList)

end Walkthrough.Text
