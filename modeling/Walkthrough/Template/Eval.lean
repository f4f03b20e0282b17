import Walkthrough.Template.Parser
import Walkthrough.Template.Filter
import Walkthrough.Host
import Walkthrough.Scope

/-!
# Evaluating expressions

The value of an expression where names have values. A name without one is noted; it stands for null
in a tolerant environment and for an undefined value otherwise, and evaluation goes on, so that all
names that an expression misses are known. Names that start with two underscores and those of the
built-in functions are never noted.
-/

namespace Walkthrough.Template

/-- What an expression is evaluated in. -/
structure Environment where
  bindings : Bindings Json
  tolerant : Bool
  /-- Functions that touch the host are denied. -/
  restricted : Bool
  host : Host

/-- Evaluation: it fails with a fault or yields a value, and notes missing names in either case. -/
abbrev Eval := ExceptT Fault (StateM (List String))

namespace Eval

/-- Fail at a line where a step fails with a cause. -/
def orFailAt {α : Type} (line : Nat) (step : Except Cause α) : Eval α :=
  match step with
  | .ok a => pure a
  | .error cause => throw ⟨cause, line⟩

/-- Fail at the line of an expression where a step fails with a cause. -/
def orFail {α : Type} (e : Expr) (step : Except Cause α) : Eval α := orFailAt e.faultLine step

/-- A name that is not noted when it is missing. -/
def isSilent (name : String) : Bool :=
  (Builtin.ofName? name).isSome || ['_', '_'].isPrefixOf name.toList

/-- The value of a name, if it has one. -/
def lookup (env : Environment) (name : String) : Eval (Option Value) := do
  match env.bindings.find? name with
  | some v => pure (some (Value.ofJsonAt (.bound name []) v))
  | none =>
    if isSilent name then pure ((Builtin.ofName? name).map .function)
    else
      modify (Context.insertName name)
      pure (if env.tolerant then some .none else none)

/-! ## Functions -/

/-- The greatest number of items of a range. -/
def maxRange : Nat := 100000

/-- The integers of a range: up to a bound or from one to another, in steps. -/
def rangeOf (lower : Int) (upper step : Option Int) : Except Cause Value :=
  let (first, past) := match upper with
    | some u => (lower, u)
    | none => (0, lower)
  let step := step.getD 1
  if step = 0 then .error .rangeStep
  else
    let distance := if 0 < step then past - first else first - past
    let size := ((distance + step.natAbs - 1) / step.natAbs).toNat
    if maxRange < size then .error .rangeSize
    else .ok (.stream ((List.range size).map fun (i : Nat) => .int (first + step * i)) true)

/-- The entries whose keys are strings. -/
def stringEntries (entries : List (Value × Value)) : List (Value × Value) :=
  entries.filter fun e => e.1.kind == .string

/-- The entries of a mapping with string keys. -/
def recordOf (defaults : Option Value) : Except Cause Value :=
  match defaults with
  | none => .ok (.mapping [] .made)
  | some (.mapping entries _) => .ok (.mapping (stringEntries entries) .made)
  | some v => .error (.recordKind v.kind)

/-- Call a function. Arguments are looked at before a denied function is refused. -/
def callBuiltin (env : Environment) (f : Builtin) (args : List Value) : Except Cause Value := do
  match f with
  | .range =>
    let (lower, upper, step) ← Take.all (do
      let lower ← Take.required Take.offsetOf
      let upper ← Take.optional Take.offsetOf
      let step ← Take.optional Take.offsetOf
      pure (lower, upper, step)) args
    rangeOf lower upper step
  | .dict =>
    let (base, ns) ← Take.all (do
      let ns ← Take.named
      let base ← Take.optional .ok
      pure (base, ns)) args
    match base with
    | none => .ok (Value.dictionary (stringEntries ns.entries))
    | some (.mapping entries _) =>
      .ok (Value.dictionary (entries ++ stringEntries ns.entries))
    | some _ => .error .invalid
  | .debug => .ok (.text (env.host.dump env.bindings args))
  | .record =>
    let defaults ← Take.all (Take.optional .ok) args
    recordOf defaults
  | .environment =>
    let name ← Take.all (Take.required Take.textOf) args
    if env.restricted then .error (.denied f.name)
    else match env.host.environmentValue? name with
      | some v => .ok (.text v)
      | none => .error (.environmentUnset name)
  | .fileText =>
    let path ← Take.all (Take.required Take.textOf) args
    if env.restricted then .error (.denied f.name)
    else match env.host.readText path with
      | .ok s => .ok (.text s)
      | .error fault => .error (.unreadable path fault.message)

/-- Call a value. -/
def callValue (env : Environment) (v : Value) (args : List Value) : Except Cause Value :=
  match v with
  | .function f => callBuiltin env f args
  | .sequence _ _ | .stream _ _ | .mapping _ _ => .error .notCallableObject
  | _ => .error (.notCallable v.kind)

/-- Call what a value has under a name. -/
def callMethod (env : Environment) (v : Value) (name : String) (args : List Value) :
    Except Cause Value :=
  match v.attribute? name with
  | some m => callValue env m args
  | none => .error (.unknownMethod v.kind name)

/-- Call a function by its name, given the value that the name has. One name is kept for blocks, which
an expression cannot be in. -/
def callNamed (env : Environment) (name : String) (v : Option Value) (args : List Value) :
    Except Cause Value :=
  if name = "super" then .error (if args.isEmpty then .superOutsideBlock else .superArguments)
  else match v with
    | some v => callValue env v args
    | none => .error (.unknownFunction name)

/-! ## Arguments -/

/-- The arguments passed by place, those that are spread in their place. -/
def placed : List (ArgumentKind × Value) → Except Cause (List Value)
  | [] => .ok []
  | (.spread, v) :: rest => do
    let items ← v.iterate
    let more ← placed rest
    .ok (items ++ more)
  | (_, v) :: rest => do
    let more ← placed rest
    .ok (v :: more)

/-- The arguments passed by name, as entries. -/
def named : List (ArgumentKind × Value) → Except Cause (List (Value × Value))
  | [] => .ok []
  | (.named name, v) :: rest => do
    let more ← named rest
    .ok ((.text name, v) :: more)
  | (_, .mapping entries _) :: rest => do
    let more ← named rest
    .ok (entries ++ more)
  | (_, v) :: _ => .error (.spreadKind v.kind)

/-- The arguments of a call as one list, those passed by name as a mapping at its end. -/
def gather (places names : List (ArgumentKind × Value)) : Except Cause (List Value) := do
  let entries ← named names
  let items ← placed places
  .ok (items ++ if names.isEmpty then [] else [.mapping (Value.sortEntries entries) .arguments])

/-! ## Expressions -/

mutual

/-- The value of an expression. -/
def eval (env : Environment) : Expr → Eval Value
  | .name _ name => return (← lookup env name).getD .undefined
  | .literal _ v => pure v
  | .list _ items => return .list (← evalItems env items)
  | .mapping _ entries => return Value.dictionary (← evalEntries env entries)
  | .negation _ e => return .bool !(← eval env e).isTrue
  | .opposite line e => do
    let v ← eval env e
    orFail (.opposite line e) v.opposite
  | .binary _ .or l r => do
    let a ← eval env l
    if a.isTrue then pure a else eval env r
  | .binary _ .and l r => do
    let a ← eval env l
    if a.isTrue then eval env r else pure a
  | .binary line op l r => do
    let a ← eval env l
    let b ← eval env r
    orFail (.binary line op l r) (Value.binary op a b)
  | .comparisons _ first others => do
    let a ← eval env first
    evalComparisons env a others
  | .conditional _ test value otherwise => do
    let t ← eval env test
    if t.isTrue then eval env value else evalOption env .undefined otherwise
  | .filter line name subject args => do
    let v ← eval env subject
    let places ← evalArguments env false args
    let names ← evalArguments env true args
    orFail (.filter line name subject args) do
      let args ← gather places names
      match Filter.ofName? name with
      | some f => f.apply (v :: args)
      | none => .error (.unknownFilter name)
  | .test line name subject args => do
    let v ← eval env subject
    let places ← evalArguments env false args
    let names ← evalArguments env true args
    orFail (.test line name subject args) do
      let args ← gather places names
      match Test.ofName? name with
      | some t => (t.ask Filter.isFilter (v :: args)).map .bool
      | none => .error (.unknownTest name)
  | .attribute line subject name => do
    let v ← eval env subject
    orFail (.attribute line subject name) (Value.checked (v.attribute? name))
  | .item line subject index => do
    let v ← eval env subject
    let i ← eval env index
    orFail (.item line subject index) (Value.checked (v.item? i))
  | .slice line subject start stop step => do
    let v ← eval env subject
    let a ← evalOption env .none start
    let b ← evalOption env .none stop
    let c ← evalOption env (.int 1) step
    orFail (.slice line subject start stop step) (v.slice a b c)
  | .call line (.name own name) args => do
    let places ← evalArguments env false args
    let names ← evalArguments env true args
    let args' ← orFail (.call line (.name own name) args) (gather places names)
    let v ← lookup env name
    orFail (.call line (.name own name) args) (callNamed env name v args')
  | .call line (.attribute own subject name) args =>
    match subject with
    | .name _ "self" => throw ⟨.unknownBlock name, line⟩
    | _ => do
      let v ← eval env subject
      let places ← evalArguments env false args
      let names ← evalArguments env true args
      orFail (.call line (.attribute own subject name) args) do
        let args ← gather places names
        callMethod env v name args
  | .call line callee args => do
    let v ← eval env callee
    let places ← evalArguments env false args
    let names ← evalArguments env true args
    orFail (.call line callee args) do
      let args ← gather places names
      callValue env v args

/-- What comparisons answer that start with a value: the first that does not hold ends them. -/
def evalComparisons (env : Environment) (a : Value) : List (Comparison × Expr) → Eval Value
  | [] => pure (.bool true)
  | [(c, e)] => do
    let b ← eval env e
    orFailAt e.lastLine (c.apply a b)
  | (c, e) :: rest => do
    let b ← eval env e
    let v ← orFailAt e.lastLine (c.apply a b)
    if v.isTrue then evalComparisons env b rest else pure v

/-- The value of an expression that may be missing. -/
def evalOption (env : Environment) (default : Value) : Option Expr → Eval Value
  | none => pure default
  | some e => eval env e

/-- The values of items. -/
def evalItems (env : Environment) : List Expr → Eval (List Value)
  | [] => pure []
  | e :: rest => do
    let v ← eval env e
    let vs ← evalItems env rest
    pure (v :: vs)

/-- The keys and values of entries. -/
def evalEntries (env : Environment) : List (Expr × Expr) → Eval (List (Value × Value))
  | [] => pure []
  | (k, v) :: rest => do
    let k ← eval env k
    let v ← eval env v
    let vs ← evalEntries env rest
    pure ((k, v) :: vs)

/-- The values of the arguments that are passed by name, or of those that are not. -/
def evalArguments (env : Environment) (byName : Bool) :
    List (ArgumentKind × Expr) → Eval (List (ArgumentKind × Value))
  | [] => pure []
  | (kind, e) :: rest => do
    if kind.isNamed = byName then
      let v ← eval env e
      let vs ← evalArguments env byName rest
      pure ((kind, v) :: vs)
    else evalArguments env byName rest

end

end Eval

end Walkthrough.Template
