/-!
# Stretches of code points

A class of characters is a list of stretches, each given by its first and last code point.
-/

namespace Walkthrough.Text

/-- A first and a last code point. -/
abbrev Stretch := Nat × Nat

/-- A code point lies in one of the stretches. -/
def inStretches (stretches : List Stretch) (n : Nat) : Bool :=
  stretches.any fun s => s.1 ≤ n && n ≤ s.2

end Walkthrough.Text
