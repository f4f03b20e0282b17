/-!
# UTF-8

Decoding bytes as UTF-8. What is no UTF-8 is reported at the first byte of the first bad sequence,
with the number of bytes that are bad, or as incomplete if the bytes end inside a sequence.
-/

namespace Walkthrough.Text

/-- Bytes that are no UTF-8: where, and how many are bad; none if the bytes end too early. -/
structure Utf8Fault where
  index : Nat
  length : Option Nat
  deriving DecidableEq

/-- What is said of a fault. -/
def Utf8Fault.message (f : Utf8Fault) : String :=
  match f.length with
  | some n => s!"invalid utf-8 sequence of {n} bytes from index {f.index}"
  | none => s!"incomplete utf-8 byte sequence from index {f.index}"

/-- A byte that goes on with a sequence. -/
def isContinuation (b : Nat) : Bool := 0x80 ≤ b && b < 0xC0

/-- The bytes that may follow the first byte of a sequence of three or four. -/
def secondRange (first : Nat) : Nat × Nat :=
  if first = 0xE0 then (0xA0, 0xBF)
  else if first = 0xED then (0x80, 0x9F)
  else if first = 0xF0 then (0x90, 0xBF)
  else if first = 0xF4 then (0x80, 0x8F)
  else (0x80, 0xBF)

/-- How many bytes a sequence has, by its first byte; zero if none starts so. -/
def sequenceLength (first : Nat) : Nat :=
  if first < 0x80 then 1
  else if 0xC2 ≤ first ∧ first ≤ 0xDF then 2
  else if 0xE0 ≤ first ∧ first ≤ 0xEF then 3
  else if 0xF0 ≤ first ∧ first ≤ 0xF4 then 4
  else 0

/-- How many bytes at the start of `rest` go on with a sequence that needs `need` more after a first
byte. -/
def goodAfter (first need : Nat) (rest : List Nat) : Nat :=
  match rest with
  | [] => 0
  | b :: more =>
    let (lo, hi) := secondRange first
    if need = 0 ∨ b < lo ∨ hi < b then 0
    else 1 + ((more.take (need - 1)).takeWhile isContinuation).length

/-- The code point of a sequence. -/
def codePoint (first : Nat) (rest : List Nat) : Nat :=
  let top := match rest.length with
    | 0 => first
    | 1 => first - 0xC0
    | 2 => first - 0xE0
    | _ => first - 0xF0
  rest.foldl (fun n b => n * 64 + (b - 0x80)) top

/-- Decode at most `fuel` sequences; `index` counts the bytes before. -/
def decodeUtf8From : Nat → Nat → List Nat → Except Utf8Fault (List Char)
  | 0, _, _ => .ok []
  | _ + 1, _, [] => .ok []
  | fuel + 1, index, b :: rest =>
    let need := sequenceLength b - 1
    if sequenceLength b = 0 then .error ⟨index, some 1⟩
    else
      let good := goodAfter b need rest
      if good = need then
        (decodeUtf8From fuel (index + need + 1) (rest.drop need)).map
          (Char.ofNat (codePoint b (rest.take need)) :: ·)
      else if rest.length ≤ good then .error ⟨index, none⟩
      else .error ⟨index, some (good + 1)⟩

/-- Decode bytes. -/
def decodeUtf8 (bytes : List UInt8) : Except Utf8Fault String :=
  (decodeUtf8From (bytes.length + 1) 0 (bytes.map UInt8.toNat)).map String.ofList

/-- The bytes of a text. -/
def utf8Bytes (s : String) : List UInt8 := s.toUTF8.toList

end Walkthrough.Text
