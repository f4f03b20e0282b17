import Walkthrough.Template.Arguments
import Walkthrough.Text.Case

/-!
# Tests

What can be asked of a value after `is`.
-/

namespace Walkthrough.Template

/-- A test. -/
inductive Test where
  | undefined | defined | none | safe | boolean | odd | even | divisibleBy | number | integer
  | float | string | sequence | iterable | mapping | startingWith | endingWith | lower | upper
  | sameAs | equal | unequal | less | lessEqual | greater | greaterEqual | contained | isTrue
  | isFalse | filter | test
  deriving DecidableEq

/-- The names of the tests. -/
def Test.names : List (String × Test) := [
  ("undefined", .undefined), ("defined", .defined), ("none", .none), ("safe", .safe),
  ("escaped", .safe), ("boolean", .boolean), ("odd", .odd), ("even", .even),
  ("divisibleby", .divisibleBy), ("number", .number), ("integer", .integer), ("int", .integer),
  ("float", .float), ("string", .string), ("sequence", .sequence), ("iterable", .iterable),
  ("mapping", .mapping), ("startingwith", .startingWith), ("endingwith", .endingWith),
  ("lower", .lower), ("upper", .upper), ("sameas", .sameAs), ("eq", .equal), ("equalto", .equal),
  ("==", .equal), ("ne", .unequal), ("!=", .unequal), ("lt", .less), ("lessthan", .less),
  ("<", .less), ("le", .lessEqual), ("<=", .lessEqual), ("gt", .greater),
  ("greaterthan", .greater), (">", .greater), ("ge", .greaterEqual), (">=", .greaterEqual),
  ("in", .contained), ("true", .isTrue), ("false", .isFalse), ("filter", .filter),
  ("test", .test)]

/-- The test of a name. -/
def Test.ofName? (name : String) : Option Test := names.lookup name

namespace Test

/-- A number is a multiple of another. -/
def isMultiple (a b : Value) : Bool :=
  match Value.pair? false a b with
  | some (.ints m n) => n != 0 && m % n == 0
  | some (.floats x y) => Binary64.remainder x y == 0.0
  | Option.none => false

/-- A value is an integer with a property. -/
def isInteger (p : Int → Bool) (v : Value) : Bool :=
  match v.integer? with
  | some n => p n
  | Option.none => false

/-- Two values are the same: sequences and mappings if they are one object, others if they are equal
and of one kind, integers and floats apart. -/
def isSame (a b : Value) : Bool :=
  match a, b with
  | .sequence _ o, .sequence _ o' | .mapping _ o, .mapping _ o' => o.isOneWith o'
  | .stream _ _, .stream _ _ => false
  | .float _, .float _ => Value.same a b
  | .float _, _ | _, .float _ => false
  | _, _ => a.kind == b.kind && Value.same a b

/-- Ask one value. -/
def ofOne (p : Value → Bool) (args : List Value) : Except Cause Bool :=
  (Take.all Take.value args).map p

/-- Ask a value with an argument. -/
def ofTwo (p : Value → Value → Bool) (args : List Value) : Except Cause Bool :=
  (Take.all (do
    let a ← Take.value
    let b ← Take.value
    pure (p a b)) args)

/-- Ask a text with an argument that is a text. -/
def ofTexts (p : List Char → List Char → Bool) (args : List Value) : Except Cause Bool :=
  Take.all (do
    let a ← Take.required Take.textOf
    let b ← Take.required Take.textOf
    pure (p a.toList b.toList)) args

/-- Ask a string. -/
def ofString (p : String → Bool) (args : List Value) : Except Cause Bool :=
  Take.all (do
    let s ← Take.required Take.stringOf
    pure (p s)) args

/-- Ask the test of its arguments, the first of which is the value that is asked. `isFilter` knows
the names of the filters. -/
def ask (isFilter : String → Bool) (t : Test) (args : List Value) : Except Cause Bool :=
  match t with
  | .undefined => ofOne (fun v => v.kind == .undefined) args
  | .defined => ofOne (fun v => v.kind != .undefined) args
  | .none => ofOne (fun v => v.kind == .none) args
  | .safe => ofOne (fun v => match v with
    | .string _ marked => marked
    | _ => false) args
  | .boolean => ofOne (fun v => v.kind == .bool) args
  | .odd => ofOne (isInteger fun n => n % 2 != 0) args
  | .even => ofOne (isInteger fun n => n % 2 == 0) args
  | .divisibleBy => ofTwo isMultiple args
  | .number => ofOne (fun v => v.kind == .number) args
  | .integer => ofOne (fun v => match v with
    | .int _ | .wide _ => true
    | _ => false) args
  | .float => ofOne (fun v => match v with
    | .float _ => true
    | _ => false) args
  | .string => ofOne (fun v => v.kind == .string) args
  | .sequence => ofOne (fun v => v.kind == .sequence) args
  | .iterable => ofOne (fun v => v.iterate?.isSome) args
  | .mapping => ofOne (fun v => v.kind == .map) args
  | .startingWith => ofTexts (fun s t => t.isPrefixOf s) args
  | .endingWith => ofTexts (fun s t => t.isSuffixOf s) args
  | .lower => ofString (fun s => s.toList.all Text.isLowercase) args
  | .upper => ofString (fun s => s.toList.all Text.isUppercase) args
  | .sameAs => ofTwo isSame args
  | .equal => ofTwo Value.same args
  | .unequal => ofTwo (fun a b => !Value.same a b) args
  | .less => ofTwo (fun a b => Value.order a b == .lt) args
  | .lessEqual => ofTwo (fun a b => Value.order a b != .gt) args
  | .greater => ofTwo (fun a b => Value.order a b == .gt) args
  | .greaterEqual => ofTwo (fun a b => Value.order a b != .lt) args
  | .contained => ofTwo (fun a b => match Value.contains b a with
    | .ok found => found
    | .error _ => false) args
  | .isTrue => ofOne (fun v => match v with
    | .bool b => b
    | _ => false) args
  | .isFalse => ofOne (fun v => match v with
    | .bool b => !b
    | _ => false) args
  | .filter => ofString isFilter args
  | .test => ofString (fun s => (ofName? s).isSome) args

end Test

end Walkthrough.Template
