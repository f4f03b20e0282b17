/-!
# Punycode

A label of letters beyond ASCII as a label of ASCII letters: first its ASCII characters, then the
others in the order of their code points, each as the distance in a count over all places and code
points, written as a number whose digits have thresholds that adapt to the distances before.
-/

namespace Walkthrough.Url.Punycode

/-- A digit below 36. -/
def digit (n : Nat) : Char :=
  if n < 26 then Char.ofNat (97 + n) else Char.ofNat (22 + n)

/-- The value of a digit. -/
def digitValue? (c : Char) : Option Nat :=
  let n := c.toNat
  if 97 ≤ n ∧ n ≤ 122 then some (n - 97)
  else if 65 ≤ n ∧ n ≤ 90 then some (n - 65)
  else if 48 ≤ n ∧ n ≤ 57 then some (n - 22)
  else none

/-- The least value of a digit that is not the last, by the weight of its place. -/
def threshold (weight bias : Nat) : Nat :=
  if weight ≤ bias then 1 else if bias + 26 ≤ weight then 26 else weight - bias

/-- Divide a distance until it is small, counting the divisions. -/
def shrink : Nat → Nat → Nat → Nat × Nat
  | 0, delta, k => (delta, k)
  | fuel + 1, delta, k => if 455 < delta then shrink fuel (delta / 35) (k + 36) else (delta, k)

/-- The bias after a distance, when `points` characters are placed. -/
def adapt (delta points : Nat) (first : Bool) : Nat :=
  let halved := if first then delta / 700 else delta / 2
  let (small, k) := shrink (halved + 1) (halved + halved / points) 0
  k + 36 * small / (small + 38)

/-- A distance as digits. -/
def distance (bias : Nat) : Nat → Nat → Nat → List Char
  | 0, _, _ => []
  | fuel + 1, weight, q =>
    let t := threshold weight bias
    if q < t then [digit q]
    else digit (t + (q - t) % (36 - t)) :: distance bias fuel (weight + 36) ((q - t) / (36 - t))

/-- A label that is being encoded: the digits so far, the distance since the last character placed,
the bias, and how many characters are placed. -/
structure Encoding where
  digits : List Char
  delta : Nat
  bias : Nat
  placed : Nat

/-- Pass one place of the label while placing the code point `n`. -/
def Encoding.pass (basic n : Nat) (e : Encoding) (c : Char) : Encoding :=
  if c.toNat < n then { e with delta := e.delta + 1 }
  else if c.toNat = n then
    { digits := e.digits ++ distance e.bias (e.delta + 1) 36 e.delta
      delta := 0
      bias := adapt e.delta (e.placed + 1) (e.placed == basic)
      placed := e.placed + 1 }
  else e

/-- Place the given code points, which ascend; `start` is the least not yet passed. -/
def Encoding.place (label : List Char) (basic : Nat) :
    (points : List Nat) → (start : Nat) → Encoding → Encoding
  | [], _, e => e
  | n :: rest, start, e =>
    let e := { e with delta := e.delta + (n - start) * (e.placed + 1) }
    let e := label.foldl (Encoding.pass basic n) e
    Encoding.place label basic rest (n + 1) { e with delta := e.delta + 1 }

/-- Put a number into ascending numbers without repetition. -/
def insertNumber (n : Nat) : List Nat → List Nat
  | [] => [n]
  | m :: rest => if n < m then n :: m :: rest else if n = m then m :: rest else m :: insertNumber n rest

/-- Encode a label. -/
def encode (label : List Char) : List Char :=
  let basic := label.filter fun c => c.toNat < 128
  let others := (label.filter fun c => 128 ≤ c.toNat).foldl (fun ns c => insertNumber c.toNat ns) []
  let e := Encoding.place label basic.length others 128 ⟨[], 0, 72, basic.length⟩
  (if basic.isEmpty then [] else basic ++ ['-']) ++ e.digits

/-- What distances and the factors of their digits stay below. -/
def limit : Nat := 4294967296

/-- Read a distance: its value and the characters after it. -/
def readDistance (bias : Nat) : (weight value factor : Nat) → List Char → Option (Nat × List Char)
  | _, _, _, [] => none
  | weight, value, factor, c :: rest => do
    let d ← digitValue? c
    let value := value + d * factor
    let t := threshold weight bias
    if limit ≤ value then none
    else if d < t then some (value, rest)
    else if limit ≤ factor * (36 - t) then none
    else readDistance bias (weight + 36) value (factor * (36 - t)) rest

/-- Read the digits of a label whose characters so far are given; the next character is placed at or
after the place `i` with a code point of at least `n`. -/
def readDigits : Nat → List Char → (n i bias : Nat) → List Char → Option (List Char)
  | _, label, _, _, _, [] => some label
  | 0, _, _, _, _, _ => none
  | fuel + 1, label, n, i, bias, c :: rest => do
    let (delta, rest) ← readDistance bias 36 0 1 (c :: rest)
    let count := label.length + 1
    let n := n + (i + delta) / count
    let place := (i + delta) % count
    if n.isValidChar then
      readDigits fuel (label.take place ++ Char.ofNat n :: label.drop place) n (place + 1)
        (adapt delta count (i == 0)) rest
    else none

/-- Decode a label. The characters before the last hyphen stand for themselves; there must be some. -/
def decode? (cs : List Char) : Option (List Char) :=
  match cs.reverse.idxOf? '-' with
  | none => readDigits cs.length [] 128 0 72 cs
  | some k =>
    let place := cs.length - 1 - k
    if place = 0 then none
    else readDigits cs.length (cs.take place) 128 0 72 (cs.drop (place + 1))

end Walkthrough.Url.Punycode
