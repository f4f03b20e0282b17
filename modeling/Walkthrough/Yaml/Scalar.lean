import Walkthrough.Text.Hexadecimal
import Walkthrough.Yaml.Place

/-!
# Scalars

The written forms of a scalar: plain, quoted, and as a block of lines. Lines of plain and quoted
scalars are folded: one line end counts as a space, of more the first is dropped. Reading fails where
the form is broken.
-/

namespace Walkthrough.Yaml

/-! ## Gaps between words -/

/-- Spaces and line ends between words. The spaces count only if there is no line end. -/
structure Gap where
  spaces : List Char
  breaks : List Char
  /-- A line end came first that leaves no trace. -/
  escaped : Bool

namespace Gap

/-- No gap. -/
def none : Gap := ⟨[], [], false⟩

/-- The gap holds a line end. -/
def hasBreak (g : Gap) : Bool := g.escaped || !g.breaks.isEmpty

/-- What a gap means for the text of a scalar. -/
def text (g : Gap) : List Char :=
  if g.escaped then g.breaks
  else match g.breaks with
    | [] => g.spaces
    | '\n' :: [] => [' ']
    | '\n' :: more => more
    | breaks => breaks

end Gap

/-- Read a gap. A tab is refused before column `least` of a new line. -/
def readGap (least : Nat) : Nat → Gap → Place → Option (Gap × Place)
  | 0, g, p => some (g, p)
  | fuel + 1, g, p =>
    match p.head? with
    | none => some (g, p)
    | some c =>
      if isSpace c then
        if g.hasBreak then
          if c = '\t' ∧ p.column < least then none else readGap least fuel g p.next
        else readGap least fuel { g with spaces := g.spaces ++ [c] } p.next
      else if isBreak c then readGap least fuel { g with breaks := g.breaks ++ [c] } p.next
      else some (g, p)

/-! ## Plain scalars -/

/-- The character ends a plain scalar inside brackets. -/
def endsInBrackets (c : Char) : Bool := ",[]\x7b\x7d".toList.contains c

/-- Read a word of a plain scalar: up to a gap, a colon before a gap or, inside brackets, a bracket or
comma. Inside brackets no colon may touch a bracket. -/
def readWord (inFlow : Bool) : List Char → Option (List Char × List Char)
  | [] => some ([], [])
  | c :: rest =>
    if isGap c then some ([], c :: rest)
    else if inFlow ∧ c = ':' ∧ rest.head?.any fun d => d == '?' || endsInBrackets d then none
    else if c = ':' ∧ startsGap rest ∨ inFlow ∧ endsInBrackets c then some ([], c :: rest)
    else (readWord inFlow rest).map fun (word, after) => (c :: word, after)

/-- A scalar that was read: its text, the place after it, and whether the place starts a line. -/
structure Scalar where
  text : List Char
  place : Place
  atLineStart : Bool

/-- Read words of a plain scalar and the gaps between them; on a new line they start at column `least`
or further in. -/
def readPlain (inFlow : Bool) (least : Nat) : Nat → List Char → Gap → Place → Option Scalar
  | 0, _, _, _ => none
  | fuel + 1, text, gap, p =>
    if p.atMarker || p.head? == some '#' then some ⟨text, p, gap.hasBreak⟩
    else do
      let (word, after) ← readWord inFlow p.rest
      let text := if word.isEmpty then text else text ++ gap.text ++ word
      let gap := if word.isEmpty then gap else .none
      let p := p.upTo after
      if p.head?.any isGap then
        let (gap, p) ← readGap least (p.rest.length + 1) gap p
        if !inFlow && p.column < least then some ⟨text, p, gap.hasBreak⟩
        else readPlain inFlow least fuel text gap p
      else some ⟨text, p, gap.hasBreak⟩

/-! ## Quoted scalars -/

/-- The character that a letter stands for after a backslash. -/
def escapedChar? : Char → Option Char
  | '0' => some '\x00' | 'a' => some '\x07' | 'b' => some '\x08'
  | 't' | '\t' => some '\t' | 'n' => some '\n' | 'v' => some '\x0b'
  | 'f' => some '\x0c' | 'r' => some '\r' | 'e' => some '\x1b'
  | ' ' => some ' ' | '"' => some '"' | '/' => some '/' | '\\' => some '\\'
  | 'N' => some '\u0085' | '_' => some '\u00a0' | 'L' => some '\u2028' | 'P' => some '\u2029'
  | _ => none

/-- How many hexadecimal digits follow a letter after a backslash. -/
def escapedDigits? : Char → Option Nat
  | 'x' => some 2 | 'u' => some 4 | 'U' => some 8
  | _ => none

/-- The character whose code point is written in hexadecimal digits. -/
def hexChar? (digits : List Char) : Option Char := do
  let n ← digits.foldlM (fun n c => (Text.hexValue? c).map (n * 16 + ·)) 0
  if n.isValidChar then some (Char.ofNat n) else none

/-- How a word of a quoted scalar ends. -/
inductive WordEnd where
  | quote | gap | escapedBreak
  deriving DecidableEq

/-- Read a word of a quoted scalar, backslashes being special in double quotes only. -/
def readQuotedWord (double : Bool) : Nat → List Char → Option (List Char × WordEnd × List Char)
  | 0, _ => none
  | _ + 1, [] => none
  | fuel + 1, c :: rest =>
    let more (d : Char) (rest : List Char) : Option (List Char × WordEnd × List Char) :=
      (readQuotedWord double fuel rest).map fun (word, how, after) => (d :: word, how, after)
    if isGap c then some ([], .gap, c :: rest)
    else if !double ∧ c = '\'' then
      match rest with
      | '\'' :: rest => more '\'' rest
      | _ => some ([], .quote, c :: rest)
    else if double ∧ c = '"' then some ([], .quote, c :: rest)
    else if double ∧ c = '\\' then
      match rest with
      | [] => none
      | d :: rest =>
        if isBreak d then some ([], .escapedBreak, d :: rest)
        else match escapedChar? d, escapedDigits? d with
          | some e, _ => more e rest
          | none, some n => do
            if rest.length < n then none
            else more (← hexChar? (rest.take n)) (rest.drop n)
          | none, none => none
    else more c rest

/-- Read words of a quoted scalar and the gaps between them, up to the closing quote. -/
def readQuoted (double : Bool) : Nat → List Char → Place → Option Scalar
  | 0, _, _ => none
  | fuel + 1, text, p =>
    if p.atMarker then none
    else do
      let (word, how, after) ← readQuotedWord double (p.rest.length + 1) p.rest
      let text := text ++ word
      let p := p.upTo after
      match how with
      | .quote => some ⟨text, p.skip 1, false⟩
      | .gap =>
        let (gap, p) ← readGap 0 (p.rest.length + 1) .none p
        readQuoted double fuel (text ++ gap.text) p
      | .escapedBreak =>
        let (gap, p) ← readGap 0 (p.rest.length + 1) ⟨[], [], true⟩ p.next
        readQuoted double fuel (text ++ gap.text) p

/-! ## Blocks of lines -/

/-- What becomes of the line ends at the end of a block. -/
inductive Chomp where
  | strip | clip | keep
  deriving DecidableEq

/-- Read the blank lines before a line of a block: their line ends, and the column of the deepest. At
most `indent` spaces are skipped, any number if it is zero; a tab in their place is refused. -/
def readBlankLines (indent : Nat) : Nat → List Char → Nat → Place → Option (List Char × Nat × Place)
  | 0, breaks, deepest, p => some (breaks, deepest, p)
  | fuel + 1, breaks, deepest, p =>
    let inside := indent == 0 || p.column < indent
    match p.head? with
    | none => some (breaks, max deepest p.column, p)
    | some c =>
      if inside && c == ' ' then readBlankLines indent fuel breaks deepest p.next
      else if inside && c == '\t' then none
      else if isBreak c then
        readBlankLines indent fuel (breaks ++ [c]) (max deepest p.column) p.next
      else some (breaks, max deepest p.column, p)

/-- A block that is being read: its text, the line end of the last line, the blank lines after it, and
whether that line began with a space. -/
structure Block where
  text : List Char
  lineEnd : List Char
  blank : List Char
  spaced : Bool

/-- The text of a block before its next line. In a folded block a line end between lines that begin
with no space is a space, unless blank lines follow. -/
def Block.joint (b : Block) (folded spaced : Bool) : List Char :=
  if folded && b.lineEnd == ['\n'] && !b.spaced && !spaced then
    b.text ++ if b.blank.isEmpty then [' '] else b.blank
  else b.text ++ b.lineEnd ++ b.blank

/-- Read the lines of a block that stand at its indentation. -/
def readBlockLines (folded : Bool) (indent : Nat) : Nat → Block → Place → Option (Block × Place)
  | 0, _, _ => none
  | fuel + 1, b, p =>
    match p.head? with
    | none => some (b, p)
    | some c =>
      if p.column ≠ indent then some (b, p)
      else do
        let spaced := isSpace c
        let line := p.rest.takeWhile (!isBreak ·)
        let p := p.skip line.length
        let lineEnd := p.rest.take 1
        let (blank, _, p) ← readBlankLines indent (p.rest.length + 1) [] 0 p.next
        readBlockLines folded indent fuel
          ⟨b.joint folded spaced ++ line, lineEnd, blank, spaced⟩ p

/-- The signs after the one that opens a block, which say how deep it is indented and what becomes of
its last line ends. -/
def readBlockSigns (cs : List Char) : Option (Chomp × Option Nat × List Char) :=
  let chomp : List Char → Option Chomp × List Char
    | '+' :: rest => (some .keep, rest)
    | '-' :: rest => (some .strip, rest)
    | rest => (none, rest)
  let depth : List Char → Option (Option Nat × List Char)
    | c :: rest =>
      if c = '0' then none
      else if c.isDigit then some (some (c.toNat - 48), rest)
      else some (none, c :: rest)
    | [] => some (none, [])
  match chomp cs with
  | (some how, rest) => (depth rest).map fun (n, rest) => (how, n, rest)
  | (none, rest) => do
    match ← depth rest with
    | (none, rest) => return (.clip, none, rest)
    | (some n, rest) =>
      let (how, rest) := chomp rest
      return (how.getD .clip, some n, rest)

/-- Read a block after the sign that opens it. Its lines are indented at least to column `least`. -/
def readBlock (folded : Bool) (least : Nat) (p : Place) : Option Scalar := do
  let (chomp, depth, after) ← readBlockSigns p.rest
  let p := (p.upTo after).skipWhile isSpace
  let p := if p.head? = some '#' then p.skipWhile (!isBreak ·) else p
  if !startsBreak p.rest then none
  else
    let p := p.next
    let given := depth.map (least - 1 + ·)
    let (blank, deepest, p) ← readBlankLines (given.getD 0) (p.rest.length + 1) [] 0 p
    let indent := given.getD (max (max deepest least) 1)
    let (b, p) ← readBlockLines folded indent (p.rest.length + 1) ⟨[], [], blank, false⟩ p
    let text := b.text ++ (if chomp = .strip then [] else b.lineEnd)
      ++ if chomp = .keep then b.blank else []
    some ⟨text, p, true⟩

end Walkthrough.Yaml
