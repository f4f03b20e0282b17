import Walkthrough.Text.Utf8
import Walkthrough.Url.Direction
import Walkthrough.Url.Joining
import Walkthrough.Url.Machine
import Walkthrough.Url.Percent
import Walkthrough.Url.Punycode

/-!
# Domains

The host of an address. Under the schemes of the web it is a domain in ASCII letters, in which a label
of other letters is encoded, or the address of a machine. Under other schemes it is any text, or the
address of a machine in brackets.
-/

namespace Walkthrough.Url.Domain

open Machine (bracketed endsInNumber address4 showAddress4)

/-! ## Labels -/

/-- A character that no domain contains. -/
def isForbidden (c : Char) : Bool :=
  c.toNat ≤ 0x20 || c.toNat == 0x7F || "%#/:<>?@[\\]^|".toList.contains c

/-- All characters are ASCII. -/
def isAscii (cs : List Char) : Bool := cs.all (·.toNat < 0x80)

/-- A label in letters, and in ASCII as it is written. -/
structure Label where
  letters : List Char
  written : List Char

/-- How many characters beyond ASCII letters a label has at most. -/
def longest : Nat := 1000

/-- How many characters an encoded label has at most after its mark. -/
def longestEncoded : Nat := 2000

/-- The letters that an encoded label stands for, given without its mark. They have the form that they
have in a domain, and some of them are beyond ASCII. -/
def decoded? (cs : List Char) : Option (List Char) :=
  if cs.isEmpty || cs.getLast? == some '-' || !isAscii cs || longestEncoded < cs.length then none
  else (Punycode.decode? cs).filter isFolded

/-- A label of folded characters, which may be encoded. -/
def label? (cs : List Char) : Option Label :=
  match cs with
  | 'x' :: 'n' :: '-' :: '-' :: rest => (decoded? rest).map fun letters => ⟨letters, cs⟩
  | _ => some ⟨cs, if isAscii cs then cs else "xn--".toList ++ Punycode.encode cs⟩

/-- A label as such is in order: it does not begin with a mark, joiners stand only where they may,
and it is not too long to be encoded. -/
def Label.isProper (l : Label) : Bool :=
  !l.letters.head?.any Text.isMark && keepsJoiners [] l.letters
    && (isAscii l.letters || l.letters.length ≤ longest)

/-- A domain in ASCII. -/
def ascii? (cs : List Char) : Option (List Char) := do
  let folded ← folded? cs
  if folded.any isForbidden then none
  let labels ← (Text.partsAt '.' folded).mapM label?
  if !labels.all Label.isProper then none
  if (labels.any fun l => runsRight l.letters) && !labels.all (keepsDirection ·.letters) then none
  return ".".toList.intercalate (labels.map Label.written)

/-! ## Hosts -/

/-- The host of an address under a scheme of the web. -/
def ofWeb (cs : List Char) : Except Fault String :=
  if cs.head? = some '[' then bracketed cs
  else match Text.decodeUtf8 (Percent.decode cs) with
    | .error _ => .error .internationalName
    | .ok decoded => match ascii? decoded.toList with
      | none => .error .internationalName
      | some domain =>
        if domain.isEmpty then .error .emptyHost
        else if endsInNumber domain then (address4 domain).map showAddress4
        else .ok (String.ofList domain)

/-- A character that no host of another scheme contains. -/
def isForbiddenElsewhere (c : Char) : Bool :=
  c == '\x00' || c == '\t' || c == '\n' || c == '\r' || " #/:<>?@[\\]^|".toList.contains c

/-- The host of an address under another scheme. -/
def ofOther (cs : List Char) : Except Fault String :=
  if cs.head? = some '[' then bracketed cs
  else if cs.any isForbiddenElsewhere then .error .domainCharacter
  else .ok (Percent.encode Percent.isControl cs)

end Walkthrough.Url.Domain
