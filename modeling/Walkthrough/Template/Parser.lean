import Walkthrough.Template.Token
import Walkthrough.Template.Expr

/-!
# Reading expressions

A recursive reader over the tokens of a text. From loosest to tightest bind: a condition after `if`,
`or`, `and`, `not`, comparisons, sums, joined text, products, powers, and a sign. What follows an
operand, attributes, items and calls, applies to the operand with its sign; filters and tests apply
after that.
-/

namespace Walkthrough.Template

namespace Parser

/-- What is left to read, the line of the last token that was taken (zero before any), and how many
expressions are open around the reader. -/
structure Input where
  tokens : Tokens
  last : Nat
  depth : Nat

/-- A step of the reader. -/
abbrev Parse := StateT Input (Except Fault)

/-- Fail at the line of the last token. -/
def fail {α : Type} (cause : Cause) : Parse α := do
  let input ← get
  throw ⟨cause, input.last⟩

/-- The next token and its line, if there is one; it is not taken. -/
def peekWithLine : Parse (Option (Token × Nat)) := do
  let input ← get
  match input.tokens.tokens, input.tokens.fault with
  | t :: _, _ => pure (some t)
  | [], none => pure none
  | [], some (cause, line) => throw ⟨cause, line.getD input.last⟩

/-- The next token, if there is one; it is not taken. -/
def peek : Parse (Option Token) := do
  return (← peekWithLine).map Prod.fst

/-- The line of the next token, or of the last one at the end. -/
def line : Parse Nat := do
  let input ← get
  pure (match input.tokens.tokens with
    | (_, n) :: _ => n
    | [] => input.last)

/-- Take the next token, if there is one. -/
def take : Parse (Option Token) := do
  match ← peekWithLine with
  | none => pure none
  | some (t, n) =>
    modify fun input =>
      { input with tokens := { input.tokens with tokens := input.tokens.tokens.tail }, last := n }
    pure (some t)

/-- Take the next token if it is the given one. -/
def skip (t : Token) : Parse Bool := do
  if (← peek) = some t then
    let _ ← take
    pure true
  else pure false

/-- Take the next token, which must be there. -/
def expectAny (expected : String) : Parse Token := do
  match ← take with
  | some t => pure t
  | none => fail (.unexpectedEnd expected)

/-- Take a token that must be the given one. -/
def expect (t : Token) (expected : String) : Parse Unit := do
  let found ← expectAny expected
  if found = t then pure () else fail (.unexpectedToken found.description (some expected))

/-- Take a mark. -/
def expectMark (m : Mark) : Parse Unit := expect (.mark m) m.quoted

/-- Take a name. -/
def expectName : Parse String := do
  match ← expectAny "identifier" with
  | .ident name => pure name
  | t => fail (.unexpectedToken t.description (some "identifier"))

/-- How deeply expressions may be nested. -/
def maxDepth : Nat := 150

/-- Read inside one more open expression. -/
def nested {α : Type} (p : Parse α) : Parse α := do
  let input ← get
  if maxDepth < input.depth + 1 then fail .tooDeep
  else
    set { input with depth := input.depth + 1 }
    let a ← p
    modify fun input => { input with depth := input.depth - 1 }
    pure a

/-! ## Levels of binding -/

/-- The levels of binding between two operands, from loosest to tightest. -/
inductive Level where
  | or | and | not | compare | sum | concat | product | power | sign
  deriving DecidableEq

/-- The next tighter level. -/
def Level.next : Level → Level
  | .or => .and
  | .and => .not
  | .not => .compare
  | .compare => .sum
  | .sum => .concat
  | .concat => .product
  | .product => .power
  | .power | .sign => .sign

/-- The operator that a token is at a level. -/
def Level.operator? : Level → Token → Option BinaryOp
  | .or, .ident "or" => some .or
  | .and, .ident "and" => some .and
  | .compare, .mark .equal => some .equal
  | .compare, .mark .unequal => some .unequal
  | .compare, .mark .less => some .less
  | .compare, .mark .lessEqual => some .lessEqual
  | .compare, .mark .greater => some .greater
  | .compare, .mark .greaterEqual => some .greaterEqual
  | .compare, .ident "in" => some .contained
  | .sum, .mark .plus => some .add
  | .sum, .mark .minus => some .subtract
  | .concat, .mark .concat => some .concat
  | .product, .mark .times => some .multiply
  | .product, .mark .divide => some .divide
  | .product, .mark .wholeDivide => some .wholeDivide
  | .product, .mark .remainder => some .remainder
  | .power, .mark .power => some .power
  | _, _ => none

/-- A token that starts the bare argument of a test. -/
def startsBareArgument : Token → Bool
  | .ident name => !(["and", "or", "else", "is"].contains name)
  | .string _ | .integer _ | .float _ => true
  | .mark m => [.plus, .minus, .bracketOpen, .braceOpen].contains m
  | .blockEnd => false

/-- The literal that a name is. -/
def literalName? : String → Option Value
  | "true" | "True" => some (.bool true)
  | "false" | "False" => some (.bool false)
  | "none" | "None" => some .none
  | _ => none

/-! ## The reader

Every function takes a bound on the depth of calls; `Expr.ofString` gives one that is never
reached. -/

/-- What cannot be read as a token counts as the end of the text, if it comes next. -/
def passFault : Parse Unit :=
  modify fun input => match input.tokens.tokens with
    | [] => { input with tokens := ⟨[], none⟩ }
    | _ :: _ => input

/-- Further strings next to a string. A string that something unreadable follows is the last token. -/
def adjacentStrings : Nat → Parse String
  | 0 => pure ""
  | fuel + 1 => do
    passFault
    match ← peek with
    | some (.string s) =>
      let _ ← take
      return s ++ (← adjacentStrings fuel)
    | _ => pure ""

/-- Further parts of a name after points. -/
def dottedName : Nat → String → Parse String
  | 0, name => pure name
  | fuel + 1, name => do
    if ← skip (.mark .dot) then
      let part ← expectName
      dottedName fuel (name ++ "." ++ part)
    else pure name

/-- How many arguments a call may have. -/
def maxArguments : Nat := 2000

/-- Refuse a call that has too many arguments. -/
def checkArguments (args : List (ArgumentKind × Expr)) : Parse Unit :=
  if maxArguments < args.length then fail .longCall else pure ()

/-- The comparison that comes next, if there is one. -/
def comparison? : Parse (Option Comparison) := do
  match ← peek with
  | none => pure none
  | some t =>
    match Level.compare.operator? t with
    | some op =>
      let _ ← take
      pure (some ⟨op, false⟩)
    | none =>
      if t = .ident "not" then do
        let _ ← take
        expect (.ident "in") "in"
        pure (some ⟨.contained, true⟩)
      else pure none

/-- An operand with the operands that it is compared with. -/
def compared (start : Nat) (first : Expr) : List (Comparison × Expr) → Expr
  | [] => first
  | [(c, e)] =>
    let test := Expr.binary start c.op first e
    if c.negated then .negation start test else test
  | others => .comparisons start first others

mutual

/-- An expression. -/
def expression : Nat → Parse Expr
  | 0 => fail .tooDeep
  | fuel + 1 => nested (conditional fuel)

/-- An expression with an optional condition. -/
def conditional : Nat → Parse Expr
  | 0 => fail .tooDeep
  | fuel + 1 => do
    let start := (← get).last
    conditions fuel start (← binary fuel .or)

/-- Conditions after an expression. -/
def conditions : Nat → Nat → Expr → Parse Expr
  | 0, _, _ => fail .tooDeep
  | fuel + 1, start, value => do
    if ← skip (.ident "if") then
      let test ← binary fuel .or
      let otherwise ←
        if ← skip (.ident "else") then do
          let e ← conditional fuel
          pure (some e)
        else pure none
      conditions fuel (← get).last (.conditional start test value otherwise)
    else pure value

/-- Operands joined by the operators of a level. -/
def binary : Nat → Level → Parse Expr
  | 0, _ => fail .tooDeep
  | fuel + 1, .sign => suffixed fuel
  | fuel + 1, .not => do
    let start ← line
    if ← skip (.ident "not") then
      return .negation start (← binary fuel .not)
    else binary fuel .compare
  | fuel + 1, .compare => do
    let start := (← get).last
    let first ← binary fuel .sum
    return compared start first (← comparisons fuel)
  | fuel + 1, level => do
    let start ← line
    operators fuel level start (← binary fuel level.next)

/-- Comparisons with further operands. -/
def comparisons : Nat → Parse (List (Comparison × Expr))
  | 0 => fail .tooDeep
  | fuel + 1 => do
    match ← comparison? with
    | some c =>
      let e ← binary fuel .sum
      return (c, e) :: (← comparisons fuel)
    | none => pure []

/-- Operators of a level and their right operands, applied from left to right. -/
def operators : Nat → Level → Nat → Expr → Parse Expr
  | 0, _, _, _ => fail .tooDeep
  | fuel + 1, level, start, left => do
    match ← peek with
    | none => pure left
    | some t =>
      match level.operator? t with
      | some op =>
        let _ ← take
        let right ← binary fuel level.next
        operators fuel level start (.binary start op left right)
      | none => pure left

/-- An operand with a sign and what follows it, filters and tests included. -/
def suffixed : Nat → Parse Expr
  | 0 => fail .tooDeep
  | fuel + 1 => do
    let start ← line
    let e ← signed fuel
    let e ← postfixes fuel start e
    filters fuel e

/-- An operand, perhaps with signs. -/
def signed : Nat → Parse Expr
  | 0 => fail .tooDeep
  | fuel + 1 => do
    let start ← line
    if ← skip (.mark .minus) then
      return .opposite start (← signed fuel)
    else nested (operand fuel)

/-- Attributes, items and calls after an operand. -/
def postfixes : Nat → Nat → Expr → Parse Expr
  | 0, _, _ => fail .tooDeep
  | fuel + 1, start, e => do
    let here ← line
    match ← peek with
    | some (.mark .dot) =>
      let _ ← take
      match ← expectAny "identifier or integer" with
      | .ident name => postfixes fuel here (.attribute start e name)
      | .integer n => postfixes fuel here (.item start e (.literal (← get).last (.ofLiteral n)))
      | t => fail (.unexpectedToken t.description (some "identifier or integer"))
    | some (.mark .bracketOpen) =>
      let _ ← take
      postfixes fuel here (← subscript fuel start e)
    | some (.mark .parenOpen) =>
      let _ ← take
      postfixes fuel here (.call start e (← arguments fuel [] true))
    | _ => pure e

/-- What stands in brackets after an operand: an index, or the bounds of a slice. -/
def subscript : Nat → Nat → Expr → Parse Expr
  | 0, _, _ => fail .tooDeep
  | fuel + 1, start, e => do
    let first ←
      if (← peek) = some (.mark .colon) then pure none
      else do
        let i ← expression fuel
        pure (some i)
    if ← skip (.mark .colon) then
      let stop ← bound fuel true
      let step ← if ← skip (.mark .colon) then bound fuel false else pure none
      expectMark .bracketClose
      return .slice start e first stop step
    else
      expectMark .bracketClose
      match first with
      | some i => pure (.item start e i)
      | none => fail .tooDeep

/-- A bound of a slice, unless the slice ends or, where `colon` is set, another bound follows. -/
def bound : Nat → Bool → Parse (Option Expr)
  | 0, _ => fail .tooDeep
  | fuel + 1, colon => do
    match ← peek with
    | some (.mark .bracketClose) => pure none
    | t =>
      if colon ∧ t = some (.mark .colon) then pure none
      else
        let e ← expression fuel
        pure (some e)

/-- Filters and tests after an operand. -/
def filters : Nat → Expr → Parse Expr
  | 0, _ => fail .tooDeep
  | fuel + 1, e => do
    match ← peek with
    | some (.mark .pipe) =>
      let _ ← take
      let name ← expectName
      let start := (← get).last
      let name ← dottedName fuel name
      let args ← if ← skip (.mark .parenOpen) then arguments fuel [] true else pure []
      filters fuel (.filter start name e args)
    | some (.ident "is") =>
      let _ ← take
      let negated ← skip (.ident "not")
      let name ← expectName
      let start := (← get).last
      let name ← dottedName fuel name
      let args ← testArguments fuel
      let test := Expr.test start name e args
      filters fuel (if negated then .negation start test else test)
    | _ => pure e

/-- The arguments of a test: in parentheses, or one operand that follows. -/
def testArguments : Nat → Parse (List (ArgumentKind × Expr))
  | 0 => fail .tooDeep
  | fuel + 1 => do
    match ← peek with
    | some (.mark .parenOpen) =>
      let _ ← take
      arguments fuel [] true
    | some t =>
      if startsBareArgument t then do
        let start ← line
        let e ← signed fuel
        let e ← postfixes fuel start e
        pure [(.positional, e)]
      else pure []
    | none => pure []

/-- The arguments of a call up to the closing parenthesis, after those in `before`, which are in
reverse; `first` until one is read. -/
def arguments : Nat → List (ArgumentKind × Expr) → Bool → Parse (List (ArgumentKind × Expr))
  | 0, _, _ => fail .tooDeep
  | fuel + 1, before, first => do
    checkArguments before
    if ← skip (.mark .parenClose) then return before.reverse
    if !first then
      expectMark .comma
      if ← skip (.mark .parenClose) then return before.reverse
    if ← skip (.mark .power) then
      let e ← expression fuel
      arguments fuel ((.spreadNamed, e) :: before) false
    else if ← skip (.mark .times) then
      let e ← expression fuel
      arguments fuel ((.spread, e) :: before) false
    else
      let e ← expression fuel
      let named ← match e with
        | .name _ name => do
          if ← skip (.mark .assign) then pure (some name) else pure none
        | _ => pure none
      match named with
      | some name =>
        let v ← expression fuel
        arguments fuel ((.named name, v) :: before) false
      | none =>
        if before.any fun a => a.1.isNamed then fail .positionalAfterNamed
        else arguments fuel ((.positional, e) :: before) false

/-- A name, a literal, or something in brackets. -/
def operand : Nat → Parse Expr
  | 0 => fail .tooDeep
  | fuel + 1 => do
    let t ← expectAny "expression"
    let start := (← get).last
    match t with
    | .ident name =>
      match literalName? name with
      | some v => pure (.literal start v)
      | none => pure (.name start name)
    | .string s =>
      let more ← adjacentStrings fuel
      pure (.literal start (Value.text (s ++ more)))
    | .integer n => pure (.literal start (.ofLiteral n))
    | .float x => pure (.literal start (.float x))
    | .mark .parenOpen => parenthesized fuel start
    | .mark .bracketOpen => return .list start (← items fuel .bracketClose [] true)
    | .mark .braceOpen => return .mapping start (← entries fuel [] true)
    | t => fail (.unexpectedToken t.description none)

/-- An expression in parentheses, or a list written so. -/
def parenthesized : Nat → Nat → Parse Expr
  | 0, _ => fail .tooDeep
  | fuel + 1, start => do
    if ← skip (.mark .parenClose) then return .list start []
    let e ← expression fuel
    if (← peek) = some (.mark .comma) then
      return .list start (← items fuel .parenClose [e] false)
    else
      expectMark .parenClose
      pure e

/-- The items of a list up to the closing mark, after those in `before`, which are in reverse. -/
def items : Nat → Mark → List Expr → Bool → Parse (List Expr)
  | 0, _, _, _ => fail .tooDeep
  | fuel + 1, close, before, first => do
    if ← skip (.mark close) then return before.reverse
    if !first then
      expectMark .comma
      if ← skip (.mark close) then return before.reverse
    let e ← expression fuel
    items fuel close (e :: before) false

/-- The entries of a mapping up to the closing brace, after those in `before`, which are in
reverse. -/
def entries : Nat → List (Expr × Expr) → Bool → Parse (List (Expr × Expr))
  | 0, _, _ => fail .tooDeep
  | fuel + 1, before, first => do
    if ← skip (.mark .braceClose) then return before.reverse
    if !first then
      expectMark .comma
      if ← skip (.mark .braceClose) then return before.reverse
    let k ← expression fuel
    expectMark .colon
    let v ← expression fuel
    entries fuel ((k, v) :: before) false

end

/-- An expression and nothing after it. -/
def whole (fuel : Nat) : Parse Expr := do
  let e ← expression fuel
  match ← take with
  | none => pure e
  | some _ => fail .trailingInput

end Parser

/-- A bound on the depth of calls for a number of tokens: at most sixteen calls lie between two
tokens that are taken. -/
def Parser.fuelFor (tokens : Nat) : Nat := 16 * (tokens + 2)

/-- Read an expression. -/
def Expr.ofString (s : String) : Except Fault Expr :=
  let tokens := Tokens.ofChars s.toList
  ((Parser.whole (Parser.fuelFor tokens.tokens.length)).run ⟨tokens, 0, 0⟩).map Prod.fst

end Walkthrough.Template
