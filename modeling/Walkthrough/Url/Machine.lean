import Walkthrough.Text.Hexadecimal
import Walkthrough.Text.Parts
import Walkthrough.Url.Fault

/-!
# Addresses of machines

A machine has an address of four bytes, written as numbers with points between them, or one of eight
pieces of two bytes, written in hexadecimal digits with colons between them. `showAddress4` and
`showAddress6` are the only forms that are written; more are read.
-/

namespace Walkthrough.Url.Machine

/-! ## Addresses of the fourth version -/

/-- A part of an address: a number in base ten, in base eight after a zero, or in base sixteen after
`0x`. What is too large for an address is still a number. -/
def part? (cs : List Char) : Option Nat :=
  let (base, digits) := match cs with
    | '0' :: 'x' :: rest | '0' :: 'X' :: rest => (16, rest)
    | '0' :: c :: rest => (8, c :: rest)
    | _ => (10, cs)
  if cs.isEmpty then none
  else digits.foldlM (fun n c => do
    let d ← Text.hexValue? c
    if d < base then some (n * base + d) else none) 0

/-- The last part of a domain is a number, so that the domain can only be an address. -/
def endsInNumber (domain : List Char) : Bool :=
  let parts := (Text.partsAt '.' domain).reverse
  match (if parts.head? = some [] then parts.tail else parts) with
  | [] => false
  | last :: _ => (!last.isEmpty && last.all Char.isDigit) || (part? last).isSome

/-- A number of four bytes as an address. -/
def showAddress4 (n : Nat) : String :=
  s!"{n / 16777216}.{n / 65536 % 256}.{n / 256 % 256}.{n % 256}"

/-- Read an address of at most four parts, the last of which fills all bytes that are left. -/
def address4 (domain : List Char) : Except Fault Nat :=
  let parts := Text.partsAt '.' domain
  let parts := if parts.getLast? = some [] then parts.dropLast else parts
  match parts.mapM part? with
  | none => .error .ipv4
  | some numbers =>
    match numbers.reverse with
    | [] => .error .ipv4
    | last :: before =>
      let before := before.reverse
      if 3 < before.length ∨ Nat.pow 256 (4 - before.length) ≤ last ∨ before.any (255 < ·) then
        .error .ipv4
      else .ok (before.zipIdx.foldl (fun sum p => sum + p.1 * Nat.pow 256 (3 - p.2)) last)

/-! ## Addresses of the sixth version -/

/-- Four decimal numbers below 256 without leading zeros, as two pieces. -/
def embedded? (cs : List Char) : Option (List Nat) := do
  let numbers ← (Text.partsAt '.' cs).mapM fun digits => do
    let n ← part? digits
    if digits.all Char.isDigit ∧ n < 256 ∧ (digits.head? ≠ some '0' ∨ digits.length = 1) then some n
    else none
  match numbers with
  | [a, b, c, d] => some [a * 256 + b, c * 256 + d]
  | _ => none

/-- A piece of at most four hexadecimal digits. -/
def piece? (cs : List Char) : Option Nat :=
  if cs.isEmpty ∨ 4 < cs.length then none
  else cs.foldlM (fun n c => (Text.hexValue? c).map (n * 16 + ·)) 0

/-- Pieces separated by colons; the last two may be written as four decimal numbers if `tail` allows
it. -/
def pieces? (tail : Bool) (cs : List Char) : Option (List Nat) :=
  if cs.isEmpty then some []
  else
    let parts := Text.partsAt ':' cs
    match parts.getLast? with
    | none => some []
    | some last => do
      if tail ∧ last.contains '.' then
        return (← parts.dropLast.mapM piece?) ++ (← embedded? last)
      else parts.mapM piece?

/-- Cut a text at the first double colon. -/
def cutAtGap : List Char → Option (List Char × List Char)
  | [] => none
  | ':' :: ':' :: rest => some ([], rest)
  | c :: rest => (cutAtGap rest).map fun (before, after) => (c :: before, after)

/-- Read the eight pieces of an address, in which a double colon stands for pieces of zero. -/
def address6? (cs : List Char) : Option (List Nat) := do
  match cutAtGap cs with
  | none =>
    let pieces ← pieces? true cs
    if pieces.length = 8 then some pieces else none
  | some (before, after) =>
    let before ← pieces? false before
    let after ← pieces? true after
    if before.length + after.length ≤ 7 then
      some (before ++ List.replicate (8 - before.length - after.length) 0 ++ after)
    else none

/-- The start and length of the longest run of zeros, of the first if there are several. -/
def longestGap (pieces : List Nat) : Nat × Nat :=
  (List.range pieces.length).foldl (fun best i =>
    let run := ((pieces.drop i).takeWhile (· == 0)).length
    if best.2 < run then (i, run) else best) (0, 0)

/-- A number in hexadecimal digits. -/
def showPiece (n : Nat) : String := String.ofList (Nat.toDigits 16 n)

/-- The text of an address: the longest run of at least two zeros is left out. -/
def showAddress6 (pieces : List Nat) : String :=
  let text (ps : List Nat) : String := ":".intercalate (ps.map showPiece)
  match longestGap pieces with
  | (i, n) =>
    if n < 2 then text pieces else text (pieces.take i) ++ "::" ++ text (pieces.drop (i + n))

/-- Read an address in brackets. -/
def bracketed (cs : List Char) : Except Fault String :=
  if cs.getLast? ≠ some ']' then .error .ipv6
  else match address6? (cs.drop 1).dropLast with
    | some pieces => .ok ("[" ++ showAddress6 pieces ++ "]")
    | none => .error .ipv6

end Walkthrough.Url.Machine
