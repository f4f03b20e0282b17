import Walkthrough.Text.Case
import Walkthrough.Text.Composition
import Walkthrough.Text.Silent
import Walkthrough.Url.LetterTable

/-!
# Letters in domains

Domains that differ only in the case, width or style of their letters are the same. `folded?` brings
a text into the one form that counts, unless it has a character that no domain contains.
-/

namespace Walkthrough.Url

/-- The characters that join others, or keep them from being joined. -/
def isJoiner (c : Char) : Bool := c.toNat == 0x200C || c.toNat == 0x200D

/-- What the table makes of a character. -/
def tabulated? (n : Nat) : Option (List Char) :=
  match letters.find? fun row => row.head? == some n with
  | some row => some (row.tail.map Char.ofNat)
  | none => match letterRuns.find? fun
      | [first, last, _] => first ≤ n && n ≤ last
      | _ => false with
    | some [first, _, target] => some [Char.ofNat (target + (n - first))]
    | _ => none

/-- What becomes of a character; none if no domain contains it. -/
def letter? (c : Char) : Option (List Char) :=
  let n := c.toNat
  if n < 0x80 then some [c.toLower]
  else if Text.inStretches ignoredStretches n then some []
  else if isJoiner c then some [c]
  else if Text.isSilent c || Text.inStretches refusedStretches n then none
  else some ((tabulated? n).getD (Text.lowerChar c))

/-- The form of a text in a domain. -/
def folded? (cs : List Char) : Option (List Char) :=
  (cs.mapM letter?).map fun parts => Text.composed parts.flatten

/-- A text has the form that it has in a domain. -/
def isFolded (cs : List Char) : Bool :=
  cs.all (fun c => letter? c == some [c]) && Text.composed cs == cs

end Walkthrough.Url
