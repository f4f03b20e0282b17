/-!
# Parts of a text

The parts of a text between the places where one character stands.
-/

namespace Walkthrough.Text

/-- The parts of a text between separators: one more than there are separators. -/
def partsAt (separator : Char) : List Char → List (List Char)
  | [] => [[]]
  | c :: rest =>
    match partsAt separator rest with
    | [] => [[]]
    | part :: parts => if c = separator then [] :: part :: parts else (c :: part) :: parts

end Walkthrough.Text
