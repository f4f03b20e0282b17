import Walkthrough.Template.Fault
import Walkthrough.Text.Number

/-!
# Operators

What the operators do with their values. Integers are exact within 128 bits and an operation that
leaves them fails; a float among the operands makes the result a float; division always does. Integer
division and remainder are Euclidean: the remainder is never negative.
-/

namespace Walkthrough.Template

/-- The operators between two operands. -/
inductive BinaryOp where
  | or | and
  | equal | unequal | less | lessEqual | greater | greaterEqual | contained
  | add | subtract | concat | multiply | divide | wholeDivide | remainder | power
  deriving DecidableEq

namespace Value

/-! ## Items and iteration -/

/-- The values that iterating over a value yields: the characters of a string, the keys of a mapping,
nothing for what is undefined or null. -/
def iterate? : Value → Option (List Value)
  | .undefined | .none => some []
  | .string s _ => some (s.toList.map fun c => ofChars [c])
  | .sequence items _ | .stream items _ => some items
  | .mapping entries _ => some (entries.map Prod.fst)
  | _ => Option.none

/-- The values that iterating over a value yields. -/
def iterate (v : Value) : Except Cause (List Value) :=
  match v.iterate? with
  | some items => .ok items
  | Option.none => .error (.notIterable v.kind)

/-- How many characters, items or entries a value is known to have. -/
def length? : Value → Option Nat
  | .string s _ => some s.length
  | .sequence items _ | .stream items true => some items.length
  | .mapping entries _ => some entries.length
  | _ => Option.none

/-- The position that an index means in a list: a negative one counts from the end, if the length of
the list is known. -/
def position? (index : Value) (length : Option Nat) : Option Nat :=
  match index.word?, length with
  | some i, some n =>
    if 0 ≤ i then some i.toNat
    else if (-i).toNat ≤ n then some (n - (-i).toNat) else Option.none
  | some i, Option.none => if 0 ≤ i then some i.toNat else Option.none
  | Option.none, _ => Option.none

/-- The item of a value at an index or key. -/
def item? (v index : Value) : Option Value :=
  match v with
  | .mapping entries _ => findEntry index entries
  | .string s _ =>
    (position? index (some s.length)).bind fun i => (s.toList[i]?).map fun c => ofChars [c]
  | .stream items sized =>
    (position? index (if sized then some items.length else Option.none)).bind fun i => items[i]?
  | .sequence items origin =>
    match position? index (some items.length) with
    | some i => items[i]?
    | Option.none => match origin, index with
      | .group, .string "grouper" _ => items[0]?
      | .group, .string "list" _ => items[1]?
      | _, _ => Option.none
  | _ => Option.none

/-- The attribute of a value: what it has under the name as a key. -/
def attribute? (v : Value) (name : String) : Option Value :=
  match v with
  | .mapping _ _ | .sequence _ _ => v.item? (text name)
  | _ => Option.none

/-- What is found, which may be nothing but must not stand for items that are not there. -/
def checked (found : Option Value) : Except Cause Value :=
  match found with
  | some (.invalid source) => .error (.notIterable source)
  | some v => .ok v
  | Option.none => .ok .undefined

/-- Look up an item, which an undefined value cannot have. -/
def itemOf (v index : Value) : Except Cause Value :=
  match v with
  | .undefined => .error .undefinedValue
  | _ => .ok ((v.item? index).getD .undefined)

/-- The position that a part of a path is: decimal digits after an optional plus sign, if it is a
word. -/
def pathPosition? (part : String) : Option Nat :=
  match Text.natBelow 18446744073709551616 part with
  | .ok n => some n
  | .error _ => Option.none

/-- Follow a path of names and positions that are separated by points. -/
def follow (v : Value) (path : String) : Except Cause Value :=
  (path.splitOn ".").foldlM (fun v part =>
    match v with
    | .undefined => .error .undefinedValue
    | _ => match pathPosition? part with
      | some n => .ok ((v.item? (.int n)).getD .undefined)
      | Option.none => .ok ((v.attribute? part).getD .undefined)) v

/-- Follow a path, answering a default where it leads nowhere. -/
def followOr (v : Value) (path : String) (default : Value) : Value :=
  match v.follow path with
  | .ok .undefined | .error _ => default
  | .ok w => w

/-! ## Arithmetic -/

/-- An integer result, if it fits. -/
def fitting (op : String) (a b : Value) (n : Int) : Except Cause Value :=
  if minInt ≤ n ∧ n ≤ maxInt then .ok (.int n) else .error (.range op a b)

/-- An operation on two integers or two floats. -/
def arithmetic (op : String) (ints : Int → Int → Option Int) (floats : Float → Float → Float)
    (a b : Value) : Except Cause Value :=
  match pair? true a b with
  | some (.ints m n) => match ints m n with
    | some r => fitting op a b r
    | Option.none => .error (.range op a b)
  | some (.floats x y) => .ok (.float (floats x y))
  | Option.none => .error (.operands op a.kind b.kind)

/-- The sum of two numbers, the joined text of two strings, or the items of two sequences. -/
def add (a b : Value) : Except Cause Value :=
  match a, b with
  | .string s _, .string t _ => .ok (text (s ++ t))
  | _, _ => match a.items?, b.items? with
    | some xs, some ys => .ok (.stream (xs ++ ys) (a.length?.isSome && b.length?.isSome))
    | _, _ => arithmetic "+" (fun m n => some (m + n)) (· + ·) a b

/-- The difference of two numbers. -/
def subtract (a b : Value) : Except Cause Value :=
  arithmetic "-" (fun m n => some (m - n)) (· - ·) a b

/-- How many bytes a repeated string may have. -/
def maxRepeated : Nat := 100000000

/-- A number of repetitions. -/
def repetitions? (v : Value) : Option Nat :=
  match v.integer? with
  | some n => if 0 ≤ n ∧ n < 18446744073709551616 then some n.toNat else Option.none
  | Option.none => Option.none

/-- A string a number of times. -/
def repeatString (s : String) (times : Value) : Except Cause Value :=
  match times.repetitions? with
  | Option.none => .error .repeatString
  | some n =>
    if maxRepeated < s.utf8ByteSize * n then .error .repeatTooLarge
    else .ok (text (if s.isEmpty then "" else Nat.repeat (fun made => made ++ s) n ""))

/-- The items of a sequence or stream a number of times. Its length must be known. -/
def repeatItems (v times : Value) : Except Cause Value :=
  match times.repetitions?, v.length?, v.items? with
  | Option.none, _, _ => .error .repeatSequence
  | some n, some _, some items =>
    .ok (.stream (if items.isEmpty then [] else (List.replicate n items).flatten) true)
  | some _, _, _ => .error .repeatUnsized

/-- The product of two numbers, or a string or sequence repeated. -/
def multiply (a b : Value) : Except Cause Value :=
  match a, b with
  | .string s _, n | n, .string s _ => repeatString s n
  | _, _ => match a.items?, b.items? with
    | some _, _ => repeatItems a b
    | _, some _ => repeatItems b a
    | _, _ => arithmetic "*" (fun m n => some (m * n)) (· * ·) a b

/-- The quotient of two numbers, always a float. -/
def divide (a b : Value) : Except Cause Value :=
  match float? true a, float? true b with
  | some x, some y => .ok (.float (x / y))
  | _, _ => .error (.operands "/" a.kind b.kind)

/-- The quotient of the Euclidean division. -/
def wholeDivide (a b : Value) : Except Cause Value :=
  arithmetic "//" (fun m n => if n = 0 then Option.none else some (m / n))
    Binary64.euclideanQuotient a b

/-- The remainder: not negative for integers, with the sign of the dividend for floats. -/
def remainder (a b : Value) : Except Cause Value :=
  arithmetic "%"
    (fun m n => if n = 0 ∨ (m = minInt ∧ n = -1) then Option.none else some (m % n))
    Binary64.remainder a b

/-- The greatest exponent that is tried for a base other than `0`, `1` and `-1`. -/
def maxExponent : Nat := 127

/-- An integer to a power that is not negative and below `2^32`, as far as the result can fit. -/
def powerOfInt (m n : Int) : Option Int :=
  if n < 0 ∨ 4294967296 ≤ n then Option.none
  else if m = 0 ∨ m = 1 then some (if n = 0 then 1 else m)
  else if m = -1 then some (if n % 2 = 0 then 1 else -1)
  else if n ≤ maxExponent then some (Int.pow m n.toNat) else Option.none

/-- A number to a power. -/
def power (a b : Value) : Except Cause Value := arithmetic "**" powerOfInt Float.pow a b

/-- The opposite of a number. -/
def opposite : Value → Except Cause Value
  | .float x => .ok (.float (-x))
  | .int n => if n = minInt then .error .overflow else .ok (.int (-n))
  | .wide n =>
    if n ≤ maxInt then .ok (.int (-n))
    else if n = maxInt + 1 then .ok (.wide n)
    else .error .invalid
  | _ => .error .invalid

/-! ## Other operators -/

/-- The texts of two values, one after the other. -/
def concat (a b : Value) : Value := text (a.display ++ b.display)

/-- One list of characters occurs in another. -/
def occursIn (part : List Char) : List Char → Bool
  | [] => part.isEmpty
  | c :: rest => part.isPrefixOf (c :: rest) || occursIn part rest

/-- A value is in a container: a part of a string, a key of a mapping, an item of a sequence. -/
def contains (container v : Value) : Except Cause Bool :=
  match container with
  | .undefined => .ok false
  | .string s _ => .ok (occursIn v.display.toList s.toList)
  | .sequence items _ | .stream items _ => .ok (items.any fun w => same w v)
  | .mapping entries _ => .ok (findEntry v entries).isSome
  | .function _ => .ok false
  | _ => .error .containment

/-- The order of two values is one of those given. -/
def ordered (os : List Ordering) (a b : Value) : Value := .bool (os.contains (order a b))

/-! ## Slices -/

/-- The bounds of a slice. -/
structure Slice where
  start : Option Int
  stop : Option Int
  step : Int

/-- A bound in a list of a length: a negative one counts from the end, but not beyond the start. -/
def Slice.fromStart (length : Nat) (i : Int) : Nat :=
  if 0 ≤ i then i.toNat else (length + i).toNat

/-- The positions of a slice that runs forward, in a list of a length. -/
def Slice.forward (s : Slice) (length : Nat) : Nat × Nat :=
  let start := Slice.fromStart length (s.start.getD 0)
  let stop := match s.stop with
    | some i => Slice.fromStart length i
    | Option.none => length
  (start, stop - start)

/-- The positions of a slice that runs backward, in a list of a length. It starts at the last item at
the latest; a bound at the first item includes it. -/
def Slice.backward (s : Slice) (length : Nat) : List Nat :=
  let step := s.step.natAbs
  let start := match s.start with
    | some i => min (Slice.fromStart length i) (length - 1)
    | Option.none => length - 1
  let stop := match s.stop with
    | some i => Slice.fromStart length i
    | Option.none => 0
  let count := if stop = 0 then (start + step) / step else (start - stop + step - 1) / step
  (List.range count).map fun k => start - k * step

/-- Every item of a list at a distance from the one before. -/
def everyFrom {α : Type} (step : Nat) : Nat → List α → List α
  | _, [] => []
  | 0, x :: rest => x :: everyFrom step (step - 1) rest
  | skip + 1, _ :: rest => everyFrom step skip rest

/-- The items of a list that a slice takes; the list counts as being of the given length. -/
def Slice.select {α : Type} (s : Slice) (length : Nat) (items : List α) : List α :=
  if 0 < s.step then
    let (start, count) := s.forward length
    everyFrom s.step.natAbs 0 ((items.drop start).take count)
  else
    let table := items.toArray
    (s.backward length).filterMap fun i => table[i]?

/-- The slice of items whose length may be unknown; it counts as zero for a slice that runs forward,
and then the length of the slice is unknown too unless it takes nothing. -/
def Slice.ofItems (s : Slice) (known : Option Nat) (items : List Value) : Value :=
  if s.step < 0 then .stream (s.select items.length items) true
  else
    .stream (s.select (known.getD 0) items) (known.isSome || (s.forward 0).2 == 0)

/-- A bound of a slice. -/
def sliceBound (v : Value) : Except Cause (Option Int) :=
  match v with
  | .none => .ok Option.none
  | _ => match v.word? with
    | some i => .ok (some i)
    | Option.none => .error (.conversion v.kind "i64")

/-- The slice of a string or sequence; what is undefined or null has the empty one. -/
def slice (v start stop step : Value) : Except Cause Value := do
  let start ← sliceBound start
  let stop ← sliceBound stop
  let step ← sliceBound step
  let s : Slice := ⟨start, stop, step.getD 1⟩
  if s.step = 0 then .error .sliceStep
  else match v with
    | .undefined | .none => .ok (list [])
    | .string t _ => .ok (ofChars (s.select t.length t.toList))
    | .sequence items _ | .stream items _ => .ok (s.ofItems v.length? items)
    | _ => .error (.sliceKind v.kind)

/-- An operator that needs both operands. -/
def binary (op : BinaryOp) (a b : Value) : Except Cause Value :=
  match op with
  | .or => .ok (if a.isTrue then a else b)
  | .and => .ok (if a.isTrue then b else a)
  | .equal => .ok (.bool (same a b))
  | .unequal => .ok (.bool (!same a b))
  | .less => .ok (ordered [.lt] a b)
  | .lessEqual => .ok (ordered [.lt, .eq] a b)
  | .greater => .ok (ordered [.gt] a b)
  | .greaterEqual => .ok (ordered [.gt, .eq] a b)
  | .contained => (contains b a).map .bool
  | .add => add a b
  | .subtract => subtract a b
  | .concat => .ok (concat a b)
  | .multiply => multiply a b
  | .divide => divide a b
  | .wholeDivide => wholeDivide a b
  | .remainder => remainder a b
  | .power => power a b

end Value

end Walkthrough.Template
