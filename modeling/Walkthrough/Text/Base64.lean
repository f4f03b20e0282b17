/-!
# Base64

The standard alphabet with padding. Decoding is strict: padding must be complete and the bits that
the last symbol leaves over must be zero.
-/

namespace Walkthrough.Text.Base64

/-- Why a text is no base64. -/
inductive Fault where
  | symbol (byte offset : Nat)
  | length (n : Nat)
  | lastSymbol (byte offset : Nat)
  | padding
  deriving DecidableEq

/-- What is said of a fault. -/
def Fault.message : Fault → String
  | .symbol b i => s!"Invalid symbol {b}, offset {i}."
  | .length n => s!"Invalid input length: {n}"
  | .lastSymbol b i => s!"Invalid last symbol {b}, offset {i}."
  | .padding => "Invalid padding"

/-- The symbol of six bits. -/
def symbol (n : Nat) : Char :=
  if n < 26 then Char.ofNat ('A'.toNat + n)
  else if n < 52 then Char.ofNat ('a'.toNat + (n - 26))
  else if n < 62 then Char.ofNat ('0'.toNat + (n - 52))
  else if n = 62 then '+' else '/'

/-- The six bits of a symbol. -/
def value? (b : Nat) : Option Nat :=
  if 65 ≤ b ∧ b ≤ 90 then some (b - 65)
  else if 97 ≤ b ∧ b ≤ 122 then some (b - 71)
  else if 48 ≤ b ∧ b ≤ 57 then some (b + 4)
  else if b = 43 then some 62
  else if b = 47 then some 63
  else none

/-- The byte of the padding symbol. -/
def pad : Nat := 61

/-- The symbols of bytes, three by three. -/
def encode : List Nat → List Char
  | [] => []
  | [a] => [symbol (a / 4), symbol (a % 4 * 16), '=', '=']
  | [a, b] => [symbol (a / 4), symbol (a % 4 * 16 + b / 16), symbol (b % 16 * 4), '=']
  | a :: b :: c :: rest =>
    symbol (a / 4) :: symbol (a % 4 * 16 + b / 16) :: symbol (b % 16 * 4 + c / 64)
      :: symbol (c % 64) :: encode rest

/-- The last group of at most four symbols, whose first has the given offset: the symbols read so far
are in reverse, `pads` counts the padding after them. -/
def decodeLast (start : Nat) :
    (index : Nat) → (read : List (Nat × Nat)) → (pads : Nat) → List Nat → Except Fault (List Nat)
  | _, read, pads, [] =>
    let n := read.length
    let bits : Nat := read.reverse.foldl (fun acc m => acc * 64 + m.2) 0
    let used := n * 6 / 8
    let spare := n * 6 - used * 8
    if n < 2 then .error (.length (start + n))
    else if (n + pads) % 4 ≠ 0 then .error .padding
    else if bits % Nat.pow 2 spare ≠ 0 then
      .error (.lastSymbol ((read.head?.map Prod.fst).getD 0) (start + n - 1))
    else
      let all := bits / Nat.pow 2 spare
      .ok ((List.range used).map fun i => all / Nat.pow 256 (used - 1 - i) % 256)
  | index, read, pads, b :: rest =>
    if b = pad then
      if index < 2 then .error (.symbol b (start + index))
      else decodeLast start (index + 1) read (pads + 1) rest
    else if 0 < pads then .error (.symbol pad (start + read.length))
    else match value? b with
      | none => .error (.symbol b (start + index))
      | some v => decodeLast start (index + 1) ((b, v) :: read) pads rest

/-- Groups of four symbols before the last group. -/
def decodeGroups (start : Nat) : List Nat → Except Fault (List Nat)
  | a :: b :: c :: d :: e :: rest =>
    match value? a, value? b, value? c, value? d with
    | some w, some x, some y, some z =>
      (decodeGroups (start + 4) (e :: rest)).map fun tail =>
        (w * 4 + x / 16) :: (x % 16 * 16 + y / 4) :: (y % 4 * 64 + z) :: tail
    | none, _, _, _ => .error (.symbol a start)
    | _, none, _, _ => .error (.symbol b (start + 1))
    | _, _, none, _ => .error (.symbol c (start + 2))
    | _, _, _, none => .error (.symbol d (start + 3))
  | [] => .ok []
  | last => decodeLast start 0 [] 0 last

/-- The bytes that symbols encode. A foreign byte after whole groups is reported first. -/
def decode (bytes : List Nat) : Except Fault (List Nat) :=
  let n := bytes.length
  match bytes.getLast? with
  | some b =>
    if n % 4 = 1 ∧ b ≠ pad ∧ (value? b).isNone then .error (.symbol b (n - 1))
    else decodeGroups 0 bytes
  | none => .ok []

end Walkthrough.Text.Base64
