import Walkthrough.Template.Operator

/-!
# Expressions

The tree of an expression. Every node knows the line on which it starts. `Expr.constant?` is the value
of an expression of literals, which is known before anything is evaluated; `Expr.lastLine` is the line
to which a failure of an operation after the expression belongs: that of its last name, literal or
constant part.
-/

namespace Walkthrough.Template

/-- How an argument is passed. -/
inductive ArgumentKind where
  | positional
  | named (name : String)
  /-- The items of a sequence, each as an argument. -/
  | spread
  /-- The entries of a mapping, each as a named argument. -/
  | spreadNamed
  deriving DecidableEq

/-- The argument is passed by name. -/
def ArgumentKind.isNamed : ArgumentKind → Bool
  | .named _ | .spreadNamed => true
  | .positional | .spread => false

/-- A comparison with the operand to its left, perhaps negated. -/
structure Comparison where
  op : BinaryOp
  negated : Bool
  deriving DecidableEq

/-- What a comparison answers. -/
def Comparison.apply (c : Comparison) (a b : Value) : Except Cause Value := do
  let v ← Value.binary c.op a b
  .ok (if c.negated then .bool !v.isTrue else v)

/-- An expression. -/
inductive Expr where
  | name (line : Nat) (name : String)
  | literal (line : Nat) (value : Value)
  | list (line : Nat) (items : List Expr)
  | mapping (line : Nat) (entries : List (Expr × Expr))
  | negation (line : Nat) (operand : Expr)
  | opposite (line : Nat) (operand : Expr)
  | binary (line : Nat) (op : BinaryOp) (left right : Expr)
  /-- Comparisons of each operand with the next, all of which must hold. -/
  | comparisons (line : Nat) (first : Expr) (others : List (Comparison × Expr))
  | conditional (line : Nat) (test value : Expr) (otherwise : Option Expr)
  | filter (line : Nat) (name : String) (subject : Expr) (arguments : List (ArgumentKind × Expr))
  | test (line : Nat) (name : String) (subject : Expr) (arguments : List (ArgumentKind × Expr))
  | attribute (line : Nat) (subject : Expr) (name : String)
  | item (line : Nat) (subject index : Expr)
  | slice (line : Nat) (subject : Expr) (start stop step : Option Expr)
  | call (line : Nat) (callee : Expr) (arguments : List (ArgumentKind × Expr))

namespace Expr

instance : Inhabited Expr := ⟨.literal 0 .undefined⟩

/-! ## Constants -/

mutual

/-- The value of an expression that consists of literals and operators only. An operation that fails
leaves none. -/
def constant? : Expr → Option Value
  | .literal _ v => some v
  | .list _ items => (constantItems? items).map Value.list
  | .mapping _ entries => (constantEntries? entries).map Value.dictionary
  | .negation _ e => (constant? e).map fun v => .bool !v.isTrue
  | .opposite _ e => (constant? e).bind fun v => v.opposite.toOption
  | .binary _ op l r =>
    match constant? l, constant? r with
    | some a, some b => (Value.binary op a b).toOption
    | _, _ => none
  | .comparisons _ first others => (constant? first).bind fun a => constantComparisons? a others
  | _ => none

/-- What comparisons with a constant answer. -/
def constantComparisons? (a : Value) : List (Comparison × Expr) → Option Value
  | [] => some (.bool true)
  | (c, e) :: rest => match constant? e with
    | some b => match (c.apply a b).toOption with
      | some v => match constantComparisons? b rest with
        | some w => some (if v.isTrue then w else v)
        | none => none
      | none => none
    | none => none

/-- The values of constant items. -/
def constantItems? : List Expr → Option (List Value)
  | [] => some []
  | e :: rest => match constant? e, constantItems? rest with
    | some v, some vs => some (v :: vs)
    | _, _ => none

/-- The values of constant entries. -/
def constantEntries? : List (Expr × Expr) → Option (List (Value × Value))
  | [] => some []
  | (k, v) :: rest => match constant? k, constant? v, constantEntries? rest with
    | some k, some v, some vs => some ((k, v) :: vs)
    | _, _, _ => none

end

/-! ## Lines -/

/-- The line on which an expression starts. -/
def line : Expr → Nat
  | .name line _ | .literal line _ | .list line _ | .mapping line _ | .negation line _
  | .opposite line _ | .binary line _ _ _ | .comparisons line _ _ | .conditional line _ _ _
  | .filter line _ _ _ | .test line _ _ _ | .attribute line _ _ | .item line _ _
  | .slice line _ _ _ _ | .call line _ _ => line

/-- Every argument passed by name is a literal. -/
def literalNames (args : List (ArgumentKind × Expr)) : Bool :=
  args.all fun
    | (.named _, .literal _ _) => true
    | (.named _, _) | (.spreadNamed, _) => false
    | _ => true

mutual

/-- The line that an expression leaves in force. -/
def lastLine (e : Expr) : Nat :=
  if (constant? e).isSome then e.line
  else match e with
    | .name line _ | .literal line _ => line
    | .list line items => (lastOfItems? items).getD line
    | .mapping line entries => (lastOfEntries? entries).getD line
    | .negation _ e => lastLine e
    | .opposite _ e => lastLine e
    | .binary _ _ _ r => lastLine r
    | .comparisons _ first others => (lastOfOthers? others).getD (lastLine first)
    | .conditional _ _ v o => (lastOfOption? o).getD (lastLine v)
    | .filter _ _ e args => (lastOfArguments? args).getD (lastLine e)
    | .test _ _ e args => (lastOfArguments? args).getD (lastLine e)
    | .attribute _ e _ => lastLine e
    | .item _ _ i => lastLine i
    | .slice _ e start stop step =>
      (lastOfOption? step).getD ((lastOfOption? stop).getD
        ((lastOfOption? start).getD (lastLine e)))
    | .call line (.name _ _) args => (lastOfArguments? args).getD line
    | .call line (.attribute _ (.name own root) _) args =>
      (lastOfArguments? args).getD (if root = "self" then line else own)
    | .call _ (.attribute _ e _) args => (lastOfArguments? args).getD (lastLine e)
    | .call _ callee args => (lastOfArguments? args).getD (lastLine callee)

/-- The line that an expression leaves in force, if it is there. -/
def lastOfOption? : Option Expr → Option Nat
  | none => none
  | some e => some (lastLine e)

/-- The line that items leave in force. -/
def lastOfItems? : List Expr → Option Nat
  | [] => none
  | e :: rest => (lastOfItems? rest).or (some (lastLine e))

/-- The line that further operands leave in force. -/
def lastOfOthers? : List (Comparison × Expr) → Option Nat
  | [] => none
  | (_, e) :: rest => (lastOfOthers? rest).or (some (lastLine e))

/-- The line that entries leave in force. -/
def lastOfEntries? : List (Expr × Expr) → Option Nat
  | [] => none
  | (_, v) :: rest => (lastOfEntries? rest).or (some (lastLine v))

/-- The lines that arguments leave in force, apart for those passed by place and by name. -/
def linesOfArguments : List (ArgumentKind × Expr) → Option Nat × Option Nat
  | [] => (none, none)
  | (kind, e) :: rest =>
    let (places, names) := linesOfArguments rest
    if kind.isNamed then (places, names.or (some (lastLine e)))
    else (places.or (some (lastLine e)), names)

/-- The line that arguments leave in force: those passed by name come last, and they do not count if
all of them are literals. -/
def lastOfArguments? (args : List (ArgumentKind × Expr)) : Option Nat :=
  let (places, names) := linesOfArguments args
  if literalNames args then places else names.or places

end

/-- The line of a failure of the operation that an expression ends with. A sign is found wanting at
the sign itself. -/
def faultLine : Expr → Nat
  | .opposite line _ => line
  | e => lastLine e

end Expr

end Walkthrough.Template
