import Walkthrough.Json.Basic

/-!
# Identifiers

Identifiers of 128 bits for steps that have none of their own: 32 hexadecimal digits in five groups,
with the version and variant of random identifiers. They are drawn from a seed by place, so that no
order of drawing is needed.
-/

namespace Walkthrough.Identifier

/-- The lowest hexadecimal digits of a number, as many as asked for. -/
def hexDigits (count n : Nat) : List Char :=
  (List.range count).reverse.map fun i => Json.hexDigit (n / Nat.pow 16 i % 16)

/-- The identifier of 128 bits, six of which mark it as random. -/
def ofWords (high low : UInt64) : String :=
  let high := (high &&& 0xFFFFFFFFFFFF0FFF ||| 0x4000).toNat
  let low := (low &&& 0x3FFFFFFFFFFFFFFF ||| 0x8000000000000000).toNat
  String.ofList ("-".toList.intercalate [hexDigits 8 (high / 4294967296), hexDigits 4 (high / 65536),
    hexDigits 4 high, hexDigits 4 (low / 281474976710656), hexDigits 12 low])

/-- Scatter the bits of a word. -/
def scatter (x : UInt64) : UInt64 :=
  let x := (x ^^^ x >>> 30) * 0xBF58476D1CE4E5B9
  let x := (x ^^^ x >>> 27) * 0x94D049BB133111EB
  x ^^^ x >>> 31

/-- The word of a seed that has a number. -/
def draw (seed : UInt64) (number : Nat) : UInt64 :=
  scatter (seed + UInt64.ofNat (number + 1) * 0x9E3779B97F4A7C15)

/-- The identifier of a step, by the places of its file, its scenario and its own. -/
def fresh (seed : UInt64) (file scenario step : Nat) : String :=
  let number := 2 * ((file * 65536 + scenario) * 16777216 + step)
  ofWords (draw seed number) (draw seed (number + 1))

end Walkthrough.Identifier
