import Walkthrough.Text.CompositionTable

/-!
# Composition

A character with marks can be written in several ways: as one character or as several, and with its
marks in several orders. `composed` is the one form that a text has with as few characters as
possible. It takes all characters apart, puts marks into the order of their classes, and puts
together what can be.
-/

namespace Walkthrough.Text

/-- The class of a mark; zero if the character is none that moves. -/
def markClass (c : Char) : Nat :=
  let n := c.toNat
  if n < 0x300 then 0
  else match markClasses.find? fun
      | [first, last, _] => first ≤ n && n ≤ last
      | _ => false with
    | some [_, _, k] => k
    | _ => 0

/-! ## Syllables of Hangul -/

/-- The first of the syllables, which are counted by their leading, middle and trailing parts. -/
def firstSyllable : Nat := 0xAC00

/-- How many syllables there are. -/
def syllableCount : Nat := 11172

/-- The parts of a syllable. -/
def syllableParts (n : Nat) : List Nat :=
  let i := n - firstSyllable
  let trailing := i % 28
  [0x1100 + i / 588, 0x1161 + i % 588 / 28] ++ if trailing = 0 then [] else [0x11A7 + trailing]

/-- The syllable of a leading and a middle part, or of a syllable without a trailing part and one. -/
def syllable? (a b : Nat) : Option Nat :=
  if 0x1100 ≤ a ∧ a < 0x1113 ∧ 0x1161 ≤ b ∧ b < 0x1176 then
    some (firstSyllable + ((a - 0x1100) * 21 + (b - 0x1161)) * 28)
  else if firstSyllable ≤ a ∧ a < firstSyllable + syllableCount ∧ (a - firstSyllable) % 28 = 0
      ∧ 0x11A7 < b ∧ b < 0x11C3 then
    some (a + (b - 0x11A7))
  else none

/-! ## Taking apart and putting together -/

/-- What a character is made of, or another form of. -/
def parts? (n : Nat) : Option (List Nat) :=
  if n < 0xC0 then none
  else if firstSyllable ≤ n ∧ n < firstSyllable + syllableCount then some (syllableParts n)
  else
    let isRowOf (row : List Nat) : Bool := row.head? == some n
    ((composites.find? isRowOf).or (variants.find? isRowOf)).map List.tail

/-- A character taken apart. Parts are made of parts at most `depth` times. -/
def apart : (depth : Nat) → Nat → List Nat
  | 0, n => [n]
  | depth + 1, n => match parts? n with
    | some ns => ns.flatMap (apart depth)
    | none => [n]

/-- How often parts are made of parts. -/
def deepestParts : Nat := 4

/-- What two characters make together. -/
def together? (a b : Char) : Option Char :=
  if b.toNat < 0x300 then none
  else match syllable? a.toNat b.toNat with
    | some n => some (Char.ofNat n)
    | none => match composites.find? fun row => row.tail == [a.toNat, b.toNat] with
      | some (n :: _) => some (Char.ofNat n)
      | _ => none

/-- Put a mark before marks that are in order: it passes those of lower classes. -/
def insertMark (c : Char) : List Char → List Char
  | [] => [c]
  | d :: rest =>
    if markClass d ≠ 0 ∧ markClass d < markClass c then d :: insertMark c rest else c :: d :: rest

/-- Marks in the order of their classes; those of one class keep their order. -/
def ordered (cs : List Char) : List Char := cs.foldr insertMark []

/-- Put a character together with what follows it. `kept` are the marks in between, in reverse, which
it could not be put together with, `last` the class of the last of them. -/
def composeAfter (c : Char) : (kept : List Char) → (last : Nat) → List Char → List Char
  | kept, _, [] => c :: kept.reverse
  | kept, last, d :: rest =>
    let k := markClass d
    match if kept.isEmpty || last < k then together? c d else none with
    | some e => composeAfter e kept last rest
    | none =>
      if k = 0 then c :: kept.reverse ++ composeAfter d [] 0 rest
      else composeAfter c (d :: kept) k rest

/-- Put together what can be. Marks at the start stay. -/
def compose : List Char → List Char
  | [] => []
  | c :: rest => if markClass c = 0 then composeAfter c [] 0 rest else c :: compose rest

/-- A text with as few characters as possible. -/
def composed (cs : List Char) : List Char :=
  if cs.all (·.toNat < 0x300) then cs
  else compose (ordered (cs.flatMap fun c => (apart deepestParts c.toNat).map Char.ofNat))

end Walkthrough.Text
