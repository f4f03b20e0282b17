import Walkthrough.Text.Utf8
import Walkthrough.Yaml.Scalar

/-!
# Tokens

The tokens of a document, and the readers of those that are written on one line: names, tags and
directives.
-/

namespace Walkthrough.Yaml

/-- The tag of a node as it is written: a handle, which stands for the start of a tag, and the rest. -/
structure Tag where
  handle : String
  rest : String

/-- A token. Those that open or close a block, and most that start a key, are not written: they follow
from the layout. -/
inductive Token where
  | version (major minor : Nat)
  | handle (name start : String)
  | documentStart
  | documentEnd
  | openBlockList
  | openBlockMap
  | closeBlock
  | openFlowList
  | closeFlowList
  | openFlowMap
  | closeFlowMap
  | item
  | comma
  | key
  | value
  | alias (name : String)
  | anchor (name : String)
  | tag (t : Tag)
  /-- A scalar; whether it is plain. -/
  | scalar (plain : Bool) (text : String)

/-! ## Names -/

/-- Read the name of an anchor or alias after its sign. -/
def readName (p : Place) : Option (String × Place) :=
  let name := p.rest.takeWhile isWord
  let p := p.skip name.length
  let ended := startsGap p.rest || p.head?.any fun c => "?:,]\x7d%@\x60".toList.contains c
  if name.isEmpty || !ended then none else some (String.ofList name, p)

/-! ## Tags -/

/-- The character may stand in a tag; inside angle brackets a few more may. -/
def isTagChar (bracketed : Bool) (c : Char) : Bool :=
  isWord c || ";/?:@&=+$.!~*'()%".toList.contains c || (bracketed && ",[]".toList.contains c)

/-- The bytes of the characters of a tag, percent encoding undone. -/
def tagBytes : List Char → Option (List UInt8)
  | [] => some []
  | '%' :: a :: b :: rest => do
    let h ← Text.hexValue? a
    let l ← Text.hexValue? b
    return UInt8.ofNat (h * 16 + l) :: (← tagBytes rest)
  | '%' :: _ => none
  | c :: rest => (tagBytes rest).map (String.utf8EncodeChar c ++ ·)

/-- Read characters of a tag. -/
def readTagText (bracketed : Bool) (p : Place) : Option (String × Place) :=
  let cs := p.rest.takeWhile (isTagChar bracketed)
  match tagBytes cs with
  | none => none
  | some bytes => match Text.decodeUtf8 bytes with
    | .ok s => some (s, p.skip cs.length)
    | .error _ => none

/-- Read a handle: an exclamation mark, or a word between two of them. Without the second, the word is
the start of a tag. -/
def readHandle (p : Place) : Option (String × Place) :=
  match p.rest with
  | '!' :: rest =>
    let word := rest.takeWhile isWord
    let closed := rest.drop word.length |>.head? |>.any (· == '!')
    some ("!" ++ String.ofList word ++ (if closed then "!" else ""),
      p.skip (1 + word.length + if closed then 1 else 0))
  | _ => none

/-- The handle is an exclamation mark on its own or a word between two. -/
def isClosedHandle (handle : String) : Bool := handle.endsWith "!"

/-- Read a tag, without what has to follow it. -/
def readTagStart (p : Place) : Option (Tag × Place) :=
  match p.rest with
  | '!' :: '<' :: _ => do
    let (text, p) ← readTagText true (p.skip 2)
    if text.isEmpty || p.head? ≠ some '>' then none else some (⟨"", text⟩, p.skip 1)
  | _ => do
    let (handle, after) ← readHandle p
    let (text, after) ← readTagText false after
    if handle ≠ "!" && isClosedHandle handle then
      if text.isEmpty then none else some (⟨handle, text⟩, after)
    else
      let rest := (handle.drop 1).toString ++ text
      some (if rest.isEmpty then ⟨"", "!"⟩ else ⟨"!", rest⟩, after)

/-- Read a tag. A gap follows it or, inside brackets, a comma. -/
def readTag (inFlow : Bool) (p : Place) : Option (Tag × Place) := do
  let (t, p) ← readTagStart p
  if startsGap p.rest || (inFlow && p.head? == some ',') then some (t, p) else none

/-! ## Directives -/

/-- Read a number of at most nine digits. -/
def readNumber (p : Place) : Option (Nat × Place) :=
  let digits := p.rest.takeWhile Char.isDigit
  if digits.isEmpty || 9 < digits.length then none
  else some (digits.foldl (fun n c => n * 10 + (c.toNat - 48)) 0, p.skip digits.length)

/-- Read the settings of a directive of the given name. -/
def readSettings (name : List Char) (p : Place) : Option (Token × Place) := do
  let p := p.skipWhile isSpace
  if name = "YAML".toList then
    let (major, p) ← readNumber p
    if p.head? ≠ some '.' then none
    let (minor, p) ← readNumber (p.skip 1)
    return (.version major minor, p)
  else if name = "TAG".toList then
    let (handle, p) ← readHandle p
    if !isClosedHandle handle || !p.head?.any isSpace then none
    let (start, p) ← readTagText true (p.skipWhile isSpace)
    if start.isEmpty || !startsGap p.rest then none
    return (.handle handle start, p)
  else none

/-- Read a directive after its sign, with the rest of its line. -/
def readDirective (p : Place) : Option (Token × Place) := do
  let name := p.rest.takeWhile isWord
  let p := p.skip name.length
  if name.isEmpty || !startsGap p.rest then none
  let (t, p) ← readSettings name p
  let p := p.skipWhile isSpace
  let p := if p.head? = some '#' then p.skipWhile (!isBreak ·) else p
  if startsBreak p.rest then some (t, p.next) else none

end Walkthrough.Yaml
