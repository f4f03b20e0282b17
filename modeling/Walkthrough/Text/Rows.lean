import Walkthrough.Text.Hexadecimal

/-!
# Tables that are written as text

A large table of code points is written as a text of rows. A row ends with a semicolon and holds
hexadecimal numbers with blanks or line ends between them.
-/

namespace Walkthrough.Text

/-- A text of rows that is being read: the rows and the numbers of the open row, the last first, and
the number whose digits are being read. -/
structure RowReader where
  rows : List (List Nat)
  row : List Nat
  number : Option Nat

namespace RowReader

/-- A number ends. -/
def endNumber (r : RowReader) : RowReader :=
  match r.number with
  | some n => { r with row := n :: r.row, number := none }
  | none => r

/-- A row ends. -/
def endRow (r : RowReader) : RowReader := { r with rows := r.row.reverse :: r.rows, row := [] }

/-- Read a character. -/
def next (r : RowReader) (c : Char) : RowReader :=
  match hexValue? c with
  | some d => { r with number := some (r.number.getD 0 * 16 + d) }
  | none => if c = ';' then r.endNumber.endRow else r.endNumber

end RowReader

/-- The rows of a text. -/
def rowsOf (s : String) : List (List Nat) := (s.foldl RowReader.next ⟨[], [], none⟩).rows.reverse

end Walkthrough.Text
