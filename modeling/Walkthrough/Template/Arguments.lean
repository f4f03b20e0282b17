import Walkthrough.Template.Operator

/-!
# Arguments

Filters, tests and functions take their arguments one by one from a list. Named arguments come last,
as one mapping. What a value is taken for is decided here: any value can be taken for a text, but
only a number for a number.
-/

namespace Walkthrough.Template

/-- Named arguments. -/
structure Named where
  entries : List (Value × Value)

/-- Taking arguments from a list. -/
abbrev Take := StateT (List Value) (Except Cause)

namespace Take

/-- The value as text. -/
def textOf : Value → Except Cause String
  | .string s _ => .ok s
  | .mapping _ .arguments => .error .namedAsString
  | v => .ok v.display

/-- The value, which must be a string. -/
def stringOf : Value → Except Cause String
  | .string s _ => .ok s
  | _ => .error .notString

/-- The value, which must be a truth value. -/
def truthOf : Value → Except Cause Bool
  | .bool b => .ok b
  | v => .error (.conversion v.kind "bool")

/-- The value as an integer between two bounds; `target` names the type of the bounds. -/
def integerOf (lo hi : Int) (target : String) (v : Value) : Except Cause Int :=
  match v.integer? with
  | some n => if lo ≤ n ∧ n ≤ hi then .ok n else .error (.conversion v.kind target)
  | none => .error (.conversion v.kind target)

/-- A position or a step: a signed word. -/
def offsetOf : Value → Except Cause Int := integerOf Binary64.minWord Binary64.maxWord "isize"

/-- A count: an unsigned word. -/
def countOf (v : Value) : Except Cause Nat :=
  (integerOf 0 (18446744073709551616 - 1) "usize" v).map Int.toNat

/-- A number of decimal places. -/
def placesOf : Value → Except Cause Int := integerOf (-2147483648) (2147483648 - 1) "i32"

/-- Take an argument. -/
def required {α : Type} (convert : Value → Except Cause α) : Take α := do
  match ← get with
  | [] => throw .missingArgument
  | v :: rest =>
    let a ← (convert v : Except Cause α)
    set rest
    pure a

/-- Take an argument as it is. -/
def value : Take Value := required .ok

/-- Take an argument that may be missing; null and undefined count as missing. -/
def optional {α : Type} (convert : Value → Except Cause α) : Take (Option α) := do
  match ← get with
  | [] => pure none
  | v :: rest =>
    let a ← (if v.isPresent then (convert v).map some else .ok none : Except Cause (Option α))
    set rest
    pure a

/-- Take all that is left. -/
def remaining : Take (List Value) := do
  let vs ← get
  set ([] : List Value)
  pure vs

/-- Take the named arguments, which come last. -/
def named : Take Named := do
  let vs ← get
  match vs.getLast? with
  | some (.mapping entries .arguments) =>
    set vs.dropLast
    pure ⟨entries⟩
  | _ => pure ⟨[]⟩

/-- Take arguments from a list that must hold no more. -/
def all {α : Type} (take : Take α) (args : List Value) : Except Cause α :=
  match take.run args with
  | .ok (a, []) => .ok a
  | .ok (_, _ :: _) => .error .tooManyArguments
  | .error cause => .error cause

end Take

namespace Named

/-- A named argument that may be missing; null and undefined count as missing. -/
def optional {α : Type} (ns : Named) (convert : Value → Except Cause α) (name : String) :
    Except Cause (Option α) :=
  match Value.findEntry (.text name) ns.entries with
  | some v => if v.isPresent then (convert v).map some else .ok none
  | none => .ok none

/-- A named argument. -/
def required {α : Type} (ns : Named) (convert : Value → Except Cause α) (name : String) :
    Except Cause α :=
  match Value.findEntry (.text name) ns.entries with
  | some v => convert v
  | none => .error (.missingNamed name)

/-- An argument that is given by its place, or else perhaps by its name. Beside it stand the names
that may then be used. -/
def unlessGiven {α : Type} (ns : Named) (given : Option α) (convert : Value → Except Cause α)
    (name : String) : Except Cause (Option α × List String) :=
  match given with
  | some a => .ok (some a, [])
  | none => (ns.optional convert name).map fun a => (a, [name])

/-- The name of a named argument is none of the known, or none at all. -/
def isUnknown (known : List String) (key : Value) : Bool :=
  match key with
  | .string name _ => !known.contains name
  | _ => true

/-- Every named argument is one of the known. -/
def onlyKnown (ns : Named) (known : List String) : Except Cause Unit :=
  match ns.entries.find? fun e => isUnknown known e.1 with
  | some (.string name _, _) => .error (.unknownNamed name)
  | some _ => .error .namedKind
  | none => .ok ()

end Named

end Walkthrough.Template
