/-!
# Binary64 numbers, exactly

The numbers of expressions and documents are IEEE binary64. This module takes one apart into sign,
mantissa and exponent and builds the nearest one to an exact quotient, all in `Nat` arithmetic, so
that reading and writing decimals never depends on a library's rounding.
-/

namespace Walkthrough

/-- What a binary64 number is: `finite s m e` is `± m · 2^e`. -/
inductive Binary64 where
  | nan
  | infinite (negative : Bool)
  | finite (negative : Bool) (mantissa : Nat) (exponent : Int)
  deriving DecidableEq, Repr

namespace Binary64

/-- Numbers are written with 52 stored mantissa bits. -/
def fraction : Nat := 4503599627370496

/-- The exponent of the least positive number. -/
def leastExponent : Int := -1074

/-- Take a number apart. -/
def ofFloat (x : Float) : Binary64 :=
  let bits := x.toBits.toNat
  let negative := bits / 9223372036854775808 == 1
  let biased := bits / fraction % 2048
  let stored := bits % fraction
  if biased = 2047 then
    if stored = 0 then .infinite negative else .nan
  else if biased = 0 then .finite negative stored leastExponent
  else .finite negative (stored + fraction) ((biased : Int) - 1075)

/-- The number with the given sign and the given remaining bits. -/
def ofMagnitudeBits (negative : Bool) (bits : Nat) : Float :=
  Float.ofBits (UInt64.ofNat (bits + if negative then 9223372036854775808 else 0))

/-- The bits of infinity, its sign aside: no finite magnitude reaches them. -/
def infinityBits : Nat := 2047 * fraction

/-- `num / den` rounded to a whole number, a half going to the even neighbour. -/
def roundHalfEven (num den : Nat) : Nat :=
  let q := num / den
  let r := num % den
  if 2 * r < den then q
  else if den < 2 * r then q + 1
  else if q % 2 = 0 then q else q + 1

/-- `num · 2^(-e) / den` as a pair of a numerator and a denominator. -/
def scaleTwo (num den : Nat) (e : Int) : Nat × Nat :=
  if 0 ≤ e then (num, den * Nat.pow 2 e.toNat) else (num * Nat.pow 2 (-e).toNat, den)

/-- The greatest `e` with `2^e ≤ num / den`, for positive `num` and `den`. -/
def floorLog2 (num den : Nat) : Int :=
  let guess : Int := (num.log2 : Int) - (den.log2 : Int)
  let (n, d) := scaleTwo num den guess
  if d ≤ n then guess else guess - 1

/-- The number nearest to `± num / den`; a tie goes to the even mantissa, and what is too large
becomes infinite. -/
def ofRatio (negative : Bool) (num den : Nat) : Float :=
  if num = 0 then ofMagnitudeBits negative 0
  else
    let e := max (floorLog2 num den - 52) leastExponent
    let (n, d) := scaleTwo num den e
    let q := roundHalfEven n d
    let bits := if q < fraction then q else (e + 1075).toNat * fraction + (q - fraction)
    ofMagnitudeBits negative (min bits infinityBits)

/-- Infinity with a sign. -/
def infinity (negative : Bool) : Float := ofMagnitudeBits negative infinityBits

/-- The number nearest to an integer. -/
def ofInt (n : Int) : Float := ofRatio (n < 0) n.natAbs 1

/-- How many decimal digits a positive number has. -/
def digitCount (n : Nat) : Nat := (Nat.toDigits 10 n).length

/-- The number nearest to `± digits · 10^exponent`. Exponents far outside the range of finite
numbers are answered without building the power. -/
def ofDecimal (negative : Bool) (digits : Nat) (exponent : Int) : Float :=
  if digits = 0 then ofMagnitudeBits negative 0
  else
    let top := exponent + digitCount digits
    if 400 < top then infinity negative
    else if top < -400 then ofMagnitudeBits negative 0
    else if 0 ≤ exponent then ofRatio negative (digits * Nat.pow 10 exponent.toNat) 1
    else ofRatio negative digits (Nat.pow 10 (-exponent).toNat)

/-! ## Whole numbers near a number -/

/-- The magnitude `m · 2^e` as a quotient. -/
def magnitude (m : Nat) (e : Int) : Nat × Nat :=
  if 0 ≤ e then (m * Nat.pow 2 e.toNat, 1) else (m, Nat.pow 2 (-e).toNat)

/-- Give a magnitude its sign. -/
def signed (negative : Bool) (n : Nat) : Int := if negative then -(n : Int) else n

/-- The integer part, toward zero; none for infinities and NaN. -/
def truncate? (x : Float) : Option Int :=
  match ofFloat x with
  | .finite s m e => let (n, d) := magnitude m e; some (signed s (n / d))
  | _ => none

/-- Least and greatest signed 64-bit integer. -/
def minWord : Int := -9223372036854775808
@[inherit_doc minWord] def maxWord : Int := 9223372036854775808 - 1

/-- The integer part as a signed 64-bit integer: what is out of range goes to the nearest end, NaN
to zero. -/
def toWord (x : Float) : Int :=
  match ofFloat x with
  | .nan => 0
  | .infinite s => if s then minWord else maxWord
  | .finite s m e =>
    let (n, d) := magnitude m e
    max minWord (min maxWord (signed s (n / d)))

/-- The signed 64-bit integer that a number is, if converting it there and back gives it again. -/
def exactWord? (x : Float) : Option Int :=
  let n := toWord x
  if ofInt n == x then some n else none

/-- The whole number nearest to a number, a half going away from zero. -/
def round (x : Float) : Float :=
  match ofFloat x with
  | .finite s m e => let (n, d) := magnitude m e; ofRatio s ((2 * n + d) / (2 * d)) 1
  | _ => x

/-- The number without its fractional part. -/
def trunc (x : Float) : Float :=
  match ofFloat x with
  | .finite s m e => let (n, d) := magnitude m e; ofRatio s (n / d) 1
  | _ => x

/-- The remainder of a division rounded toward zero; it has the sign of the dividend. -/
def remainder (x y : Float) : Float :=
  match ofFloat x, ofFloat y with
  | .nan, _ | _, .nan | .infinite _, _ => 0.0 / 0.0
  | .finite _ _ _, .infinite _ => x
  | .finite s m e, .finite _ m' e' =>
    if m' = 0 then 0.0 / 0.0
    else
      let least := min e e'
      let a := m * Nat.pow 2 (e - least).toNat
      let b := m' * Nat.pow 2 (e' - least).toNat
      let (n, d) := magnitude (a % b) least
      ofRatio s n d

/-- The quotient of the division whose remainder is not negative. -/
def euclideanQuotient (x y : Float) : Float :=
  let q := trunc (x / y)
  if remainder x y < 0.0 then (if 0.0 < y then q - 1.0 else q + 1.0) else q

/-- Order by the bits: negative before positive, `-0.0` before `0.0`, NaN beyond infinity. -/
def totalKey (x : Float) : Int :=
  let bits := x.toBits.toNat
  if bits < 9223372036854775808 then bits else -((bits - 9223372036854775808 : Nat) : Int) - 1

end Binary64

end Walkthrough
