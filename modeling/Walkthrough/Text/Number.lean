/-!
# Natural numbers in settings and arguments

A natural number below a bound, written with decimal digits after an optional plus sign. Leading zeros
are allowed, blanks are not.
-/

namespace Walkthrough.Text

/-- Why a text is no number. -/
inductive NumberFault where
  | empty
  | badDigit
  | tooLarge
  deriving DecidableEq

/-- What is said of a fault. -/
def NumberFault.message : NumberFault → String
  | .empty => "cannot parse integer from empty string"
  | .badDigit => "invalid digit found in string"
  | .tooLarge => "number too large to fit in target type"

/-- Read digits on from a number below the bound. The first character at which something is wrong
decides what it is. -/
def digitsBelow (bound : Nat) : Nat → List Char → Except NumberFault Nat
  | n, [] => .ok n
  | n, c :: rest =>
    if c.isDigit then
      let m := 10 * n + (c.toNat - '0'.toNat)
      if m < bound then digitsBelow bound m rest else .error .tooLarge
    else .error .badDigit

/-- Read a number below a bound. -/
def natBelow (bound : Nat) (s : String) : Except NumberFault Nat :=
  match s.toList with
  | [] => .error .empty
  | ['+'] => .error .badDigit
  | '+' :: digits => digitsBelow bound 0 digits
  | digits => digitsBelow bound 0 digits

end Walkthrough.Text
