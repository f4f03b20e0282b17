import Walkthrough.Binary64.Basic

/-!
# Decimal text of binary64 numbers

A finite number is written with the fewest decimal digits that read back as the same number, and of
those with the digits nearest to it. `shortest` finds the digits; a `FloatText` says how they are
laid out. `readDecimal?` reads a decimal back.
-/

namespace Walkthrough.Binary64

/-! ## Fewest digits -/

/-- The greatest `p` with `10^p ≤ num / den`, searched upward from `p`. -/
def floorLog10From (num den : Nat) (p : Int) : Nat → Int
  | 0 => p
  | fuel + 1 =>
    let next := p + 1
    let reached :=
      if 0 ≤ next then den * Nat.pow 10 next.toNat ≤ num else den ≤ num * Nat.pow 10 (-next).toNat
    if reached then floorLog10From num den next fuel else p

/-- The greatest `p` with `10^p ≤ num / den`, for positive `num` and `den`. -/
def floorLog10 (num den : Nat) : Int :=
  floorLog10From num den ((floorLog2 num den * 30103).fdiv 100000 - 1) 4

/-- The reals that round to a number, as quotients over one denominator: the number itself and the
two ends. The ends belong to it iff its mantissa is even. -/
structure Neighbourhood where
  value : Nat
  low : Nat
  high : Nat
  den : Nat
  closed : Bool

/-- The neighbourhood of `m · 2^e`. Just above a power of two the lower half is half as wide. -/
def neighbourhood (m : Nat) (e : Int) : Neighbourhood :=
  let narrow := m = fraction ∧ leastExponent < e
  let scale := e - 2
  let up := if 0 ≤ scale then Nat.pow 2 scale.toNat else 1
  { value := 4 * m * up
    low := (if narrow then 4 * m - 1 else 4 * m - 2) * up
    high := (4 * m + 2) * up
    den := if 0 ≤ scale then 1 else Nat.pow 2 (-scale).toNat
    closed := m % 2 = 0 }

/-- The point `c · 10^k` lies in the neighbourhood. -/
def Neighbourhood.holds (nb : Neighbourhood) (c : Nat) (k : Int) : Bool :=
  let point := if 0 ≤ k then c * Nat.pow 10 k.toNat * nb.den else c * nb.den
  let up := if 0 ≤ k then 1 else Nat.pow 10 (-k).toNat
  if nb.closed then nb.low * up ≤ point && point ≤ nb.high * up
  else nb.low * up < point && point < nb.high * up

/-- The point of the grid `10^k` nearest to the number among its two neighbours that lie in the
neighbourhood. -/
def Neighbourhood.nearest? (nb : Neighbourhood) (k : Int) : Option Nat :=
  let unit := if 0 ≤ k then nb.den * Nat.pow 10 k.toNat else nb.den
  let up := if 0 ≤ k then 1 else Nat.pow 10 (-k).toNat
  let c := nb.value * up / unit
  let below := nb.value * up - c * unit
  let above := (c + 1) * unit - nb.value * up
  match nb.holds c k, nb.holds (c + 1) k with
  | true, true => some (if below < above ∨ (below = above ∧ c % 2 = 0) then c else c + 1)
  | true, false => some c
  | false, true => some (c + 1)
  | false, false => none

/-- Try grids of more and more digits. -/
def Neighbourhood.search (nb : Neighbourhood) (top : Int) : Nat → Nat → Nat × Int
  | 0, _ => (nb.value / nb.den, 0)
  | fuel + 1, n =>
    let k := top - n + 1
    match nb.nearest? k with
    | some c => (c, k)
    | none => nb.search top fuel (n + 1)

/-- Drop trailing zeros of `c · 10^k`. -/
def stripZeros : Nat → Nat → Int → Nat × Int
  | 0, c, k => (c, k)
  | fuel + 1, c, k => if c ≠ 0 ∧ c % 10 = 0 then stripZeros fuel (c / 10) (k + 1) else (c, k)

/-- The fewest digits `c` and the exponent `k` with `c · 10^k` nearest to `m · 2^e`, for `0 < m`. -/
def shortest (m : Nat) (e : Int) : Nat × Int :=
  let nb := neighbourhood m e
  let (c, k) := nb.search (floorLog10 nb.value nb.den) 18 1
  stripZeros 20 c k

/-! ## Layout -/

/-- How the digits of a number are laid out. -/
structure FloatText where
  /-- Decimal exponents written without an exponent part: from the first, below the second. -/
  positional : Option (Int × Int)
  /-- A positive exponent carries a plus sign. -/
  plus : Bool

/-- Numbers in JSON text: positional from `1e-5` and below `1e16`, else `1e+16`. -/
def jsonText : FloatText := ⟨some (-5, 16), true⟩

/-- Numbers inside a printed list or mapping: positional from `1e-4` and below `1e16`, else
`1e16`. -/
def nestedText : FloatText := ⟨some (-4, 16), false⟩

/-- Numbers declared in a document: positional from `1e-5` and below `1e16`, else `1e16`. -/
def declaredText : FloatText := ⟨some (-5, 16), false⟩

/-- Numbers printed on their own: always positional. -/
def plainText : FloatText := ⟨none, false⟩

/-- `n` zeros. -/
def zeros (n : Nat) : List Char := List.replicate n '0'

/-- The digits with the point after `point` of them, at least one digit on either side. -/
def positionalText (digits : List Char) (point : Int) : List Char :=
  if point ≤ 0 then '0' :: '.' :: (zeros (-point).toNat ++ digits)
  else
    let p := point.toNat
    if digits.length ≤ p then digits ++ zeros (p - digits.length) ++ ['.', '0']
    else digits.take p ++ '.' :: digits.drop p

/-- The digits with the point after the first and the exponent behind. -/
def exponentText (plus : Bool) (digits : List Char) (exponent : Int) : List Char :=
  let head := match digits with
    | d :: d' :: rest => d :: '.' :: d' :: rest
    | ds => ds
  let sign := if exponent < 0 then ['-'] else if plus then ['+'] else []
  head ++ 'e' :: sign ++ Nat.toDigits 10 exponent.natAbs

/-- The text of a number, infinities and NaN included. -/
def FloatText.write (style : FloatText) (x : Float) : String :=
  match ofFloat x with
  | .nan => "NaN"
  | .infinite s => if s then "-inf" else "inf"
  | .finite s m e =>
    let body :=
      if m = 0 then ['0', '.', '0']
      else
        let (c, k) := shortest m e
        let digits := Nat.toDigits 10 c
        let point := k + digits.length
        let positional := match style.positional with
          | none => true
          | some (first, past) => first < point && point ≤ past
        if positional then positionalText digits point
        else exponentText style.plus digits (point - 1)
    String.ofList (if s then '-' :: body else body)

/-! ## Reading -/

/-- The value of a run of decimal digits. -/
def digitsValue (ds : List Char) : Nat :=
  ds.foldl (fun n c => n * 10 + (c.toNat - '0'.toNat)) 0

/-- Letters compared without regard to ASCII case. -/
def sameLetters (cs : List Char) (word : String) : Bool :=
  cs.map Char.toLower == word.toList

/-- An exponent part: `e` or `E`, an optional sign and digits, and nothing after them. -/
def readExponent? : List Char → Option Int
  | [] => some 0
  | c :: rest =>
    if c = 'e' ∨ c = 'E' then
      let (negative, ds) := match rest with
        | '-' :: ds => (true, ds)
        | '+' :: ds => (false, ds)
        | ds => (false, ds)
      if ds ≠ [] ∧ ds.all Char.isDigit then some (signed negative (digitsValue ds)) else none
    else none

/-- Digits with an optional point and an optional exponent, at least one digit before the
exponent. -/
def readUnsigned? (negative : Bool) (cs : List Char) : Option Float :=
  let whole := cs.takeWhile Char.isDigit
  let rest := cs.dropWhile Char.isDigit
  let (frac, rest) := match rest with
    | '.' :: r => (r.takeWhile Char.isDigit, r.dropWhile Char.isDigit)
    | r => ([], r)
  if whole = [] ∧ frac = [] then none
  else
    (readExponent? rest).map fun e =>
      ofDecimal negative (digitsValue (whole ++ frac)) (e - frac.length)

/-- Read a number: a sign, then digits with point and exponent, or `inf`, `infinity` or `nan` in any
case. -/
def readFloat? (cs : List Char) : Option Float :=
  let (negative, body) := match cs with
    | '-' :: r => (true, r)
    | '+' :: r => (false, r)
    | r => (false, r)
  if sameLetters body "inf" || sameLetters body "infinity" then some (infinity negative)
  else if sameLetters body "nan" then some (0.0 / 0.0)
  else readUnsigned? negative body

end Walkthrough.Binary64
