/-!
# Values of the wrong shape

What can be wrong with a value that is read into a type: it is of another kind, out of range, too
short, or lacks, repeats or misnames a field. The wording is that of the messages about requests,
settings and documents alike.
-/

namespace Walkthrough

/-- What is wrong with a value, apart from where it stands. -/
inductive ShapeFault where
  /-- A value of one kind stands where another is expected. -/
  | kind (found expected : String)
  /-- A value of the right kind is not among those expected. -/
  | value (found expected : String)
  /-- A sequence ends too early. -/
  | length (found : Nat) (expected : String)
  | missingField (name : String)
  | duplicateField (name : String)
  /-- A field is none of those expected. -/
  | unknownField (name : String) (expected : List String)
  /-- A value matches none of the forms that are allowed. -/
  | noForm (name : String)
  /-- A value with a tag stands where the form of a value decides what it is. -/
  | taggedForm
  deriving DecidableEq

/-- The names of the fields that are expected, in words. -/
def expectedFields : List String → String
  | [] => "there are no fields"
  | [a] => s!"expected `{a}`"
  | [a, b] => s!"expected `{a}` or `{b}`"
  | names => "expected one of " ++ ", ".intercalate (names.map fun n => s!"`{n}`")

/-- What is said of a fault. -/
def ShapeFault.message : ShapeFault → String
  | .kind found expected => s!"invalid type: {found}, expected {expected}"
  | .value found expected => s!"invalid value: {found}, expected {expected}"
  | .length found expected => s!"invalid length {found}, expected {expected}"
  | .missingField name => s!"missing field `{name}`"
  | .duplicateField name => s!"duplicate field `{name}`"
  | .unknownField name expected => s!"unknown field `{name}`, {expectedFields expected}"
  | .noForm name => s!"data did not match any variant of untagged enum {name}"
  | .taggedForm => "untagged and internally tagged enums do not support enum input"

end Walkthrough
