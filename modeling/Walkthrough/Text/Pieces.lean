import Walkthrough.Text.Case

/-!
# Pieces of a text

Splitting, replacing and laying out text, on lists of characters.
-/

namespace Walkthrough.Text

/-- Split at every occurrence of a separator that is not empty; `piece` holds the characters since
the last one in reverse. -/
def splitFrom (sep : List Char) : Nat → List Char → List Char → List (List Char)
  | 0, piece, cs => [piece.reverse ++ cs]
  | _ + 1, piece, [] => [piece.reverse]
  | fuel + 1, piece, c :: rest =>
    if sep.isPrefixOf (c :: rest) then
      piece.reverse :: splitFrom sep fuel [] ((c :: rest).drop sep.length)
    else splitFrom sep fuel (c :: piece) rest

/-- Split at every occurrence of a separator. The empty separator stands at either end and between
all characters. -/
def split (sep cs : List Char) : List (List Char) :=
  if sep.isEmpty then [] :: (cs.map fun c => [c]) ++ [[]]
  else splitFrom sep (cs.length + 1) [] cs

/-- Join pieces with a separator. -/
def join (sep : List Char) : List (List Char) → List Char
  | [] => []
  | [p] => p
  | p :: rest => p ++ sep ++ join sep rest

/-- Replace every occurrence of a part. -/
def replace (part new cs : List Char) : List Char := join new (split part cs)

/-- A carriage return at the end of a line belongs to its end. -/
def dropReturn (line : List Char) : List Char :=
  if line.getLast? = some '\r' then line.dropLast else line

/-- The lines of a text. A line feed at the end starts no further line. -/
def lines (cs : List Char) : List (List Char) :=
  let pieces := split ['\n'] cs
  match pieces.getLast? with
  | some [] => pieces.dropLast.map dropReturn
  | some last => pieces.dropLast.map dropReturn ++ [last]
  | none => []

/-- Without one line end at the end of the text. -/
def dropLineEnd (cs : List Char) : List Char :=
  let cs := if cs.getLast? = some '\n' then cs.dropLast else cs
  dropReturn cs

/-- Every line moved to the right, the first and the blank ones only on request. -/
def indent (width : Nat) (first blank : Bool) (cs : List Char) : List Char :=
  let pad := List.replicate width ' '
  let move (line : List Char) : List Char :=
    if line.isEmpty then (if blank then pad ++ ['\n'] else ['\n']) else pad ++ line ++ ['\n']
  match split ['\n'] (dropLineEnd cs) with
  | [] => []
  | line :: rest =>
    dropLineEnd ((if first then move line else line ++ ['\n']) ++ rest.flatMap move)

/-- Punctuation among the ASCII characters. -/
def isPunctuation (c : Char) : Bool :=
  let n := c.toNat
  0x21 ≤ n && n < 0x7F && !c.isAlphanum

/-- Every word capitalized: `start` tells whether a word starts. -/
def titleFrom : Bool → List Char → List Char
  | _, [] => []
  | start, c :: rest =>
    if isPunctuation c || isBlank c then c :: titleFrom true rest
    else (if start then upperChar c else lowerChar c) ++ titleFrom false rest

/-- A text that starts with a capital and goes on in lower case. -/
def capitalize : List Char → List Char
  | [] => []
  | c :: rest => upperChar c ++ lowercaseAfter [] rest

/-- A character in a document of marked-up text. -/
def markupChar (c : Char) : List Char :=
  if c = '<' then "&lt;".toList
  else if c = '>' then "&gt;".toList
  else if c = '&' then "&amp;".toList
  else if c = '"' then "&quot;".toList
  else if c = '\'' then "&#x27;".toList
  else if c = '/' then "&#x2f;".toList
  else [c]

/-- A text in a document of marked-up text. -/
def escapeMarkup (s : String) : String := String.ofList (s.toList.flatMap markupChar)

end Walkthrough.Text
