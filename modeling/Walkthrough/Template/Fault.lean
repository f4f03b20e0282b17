import Walkthrough.Template.Value

/-!
# What can be wrong with an expression

An expression fails to be read or to be evaluated for one of the causes listed here. A fault is a
cause with the line of the expression at which it arose; `Fault.message` is its only wording.
-/

namespace Walkthrough.Template

/-- The two ways in which text is no expression, and what operators, filters, tests and functions
refuse. -/
inductive Cause where
  /-- The text ends where something is expected. -/
  | unexpectedEnd (expected : String)
  /-- A token stands where it cannot, perhaps in place of something that is expected. -/
  | unexpectedToken (found : String) (expected : Option String)
  /-- An expression is followed by more text. -/
  | trailingInput
  | unclosedString
  | unexpectedCharacter
  | badEscape
  | badFloat
  | wideInteger
  | trailingUnderscore
  /-- A positional argument follows a named one. -/
  | positionalAfterNamed
  /-- Expressions are nested too deeply. -/
  | tooDeep
  /-- A call has too many arguments for any call. -/
  | longCall
  | unknownFunction (name : String)
  | unknownMethod (kind : Value.Kind) (name : String)
  | unknownFilter (name : String)
  /-- A filter that was itself an argument is unknown. -/
  | unknownInnerFilter
  | unknownTest (name : String)
  /-- A test that was itself an argument is unknown. -/
  | unknownInnerTest
  | unknownBlock (name : String)
  | missingArgument
  | missingNamed (name : String)
  | tooManyArguments
  | unknownNamed (name : String)
  /-- A named argument has a name that is no string. -/
  | namedKind
  /-- An argument is of the wrong kind. -/
  | conversion (kind : Value.Kind) (target : String)
  /-- Named arguments are given where a string is expected. -/
  | namedAsString
  | notString
  /-- Arguments are spread from something that is no mapping. -/
  | spreadKind (kind : Value.Kind)
  /-- An operator does not apply to its operands. -/
  | operands (op : String) (left right : Value.Kind)
  /-- The result of an operator is out of range. -/
  | range (op : String) (left right : Value)
  /-- An operation does not apply, and nothing more is said. -/
  | invalid
  | repeatString
  | repeatTooLarge
  | repeatSequence
  /-- A stream without a known length is repeated. -/
  | repeatUnsized
  | overflow
  | containment
  | sliceStep
  | sliceKind (kind : Value.Kind)
  | notCallable (kind : Value.Kind)
  | notCallableObject
  | notIterable (kind : Value.Kind)
  /-- Something is looked up in an undefined value. -/
  | undefinedValue
  | superOutsideBlock
  | superArguments
  | rangeStep
  | rangeSize
  | recordKind (kind : Value.Kind)
  | environmentUnset (name : String)
  | unreadable (path : String) (reason : String)
  /-- A function is called that is not allowed here. -/
  | denied (function : String)
  | lengthKind (kind : Value.Kind)
  | pairList
  | pairs
  | reverseKind (kind : Value.Kind)
  | joinKind (kind : Value.Kind)
  | roundKind (kind : Value.Kind)
  | absolute
  | floatText (isEmpty : Bool)
  | floatKind (kind : Value.Kind)
  | firstItem
  | lastItem
  | listKind
  | countZero
  | sumKind (kind : Value.Kind)
  | filterName
  | filterNameKind
  | zipKind (kind : Value.Kind)
  | keysKind
  | integerText (isEmpty : Bool)
  | badBase64 (reason : String)
  | badUtf8 (reason : String)
  | badJson (reason : String)
  | json (fault : Value.JsonFault)
  /-- A directive has no letter. -/
  | directiveEnd (offset : Nat)
  /-- The key of a directive is not closed. -/
  | directiveKey (offset : Nat)
  | directiveLetter (letter : Char) (offset : Nat)
  /-- A directive finds no value. -/
  | directiveArgument (offset : Nat)
  /-- Directives with keys are given no mapping. -/
  | directiveMapping
  /-- A directive cannot write a value of this kind. -/
  | directiveKind (offset : Nat) (kind name : String) (letter : Char)

namespace Cause

/-- A fault of reading, in words. -/
def readingMessage (detail : String) : String := "syntax error: " ++ detail

/-- A fault of an operation, in words. -/
def operationMessage (detail : String) : String := "invalid operation: " ++ detail

/-- What is said of a cause. -/
def message : Cause → String
  | .unexpectedEnd expected => readingMessage s!"unexpected end of input, expected {expected}"
  | .unexpectedToken found none => readingMessage s!"unexpected {found}"
  | .unexpectedToken found (some expected) =>
    readingMessage s!"unexpected {found}, expected {expected}"
  | .trailingInput => readingMessage "unexpected input after expression"
  | .unclosedString => readingMessage "unexpected end of string"
  | .unexpectedCharacter => readingMessage "unexpected character"
  | .badEscape => "bad string escape"
  | .badFloat => readingMessage "invalid float"
  | .wideInteger => readingMessage "invalid integer (too large)"
  | .trailingUnderscore => readingMessage "'_' may not occur at end of number"
  | .positionalAfterNamed => readingMessage "non-keyword arg after keyword arg"
  | .tooDeep => readingMessage "template exceeds maximum recursion limits"
  | .longCall => readingMessage "Too many arguments in function call"
  | .unknownFunction name => s!"unknown function: {name} is unknown"
  | .unknownMethod kind name => s!"unknown method: {kind.name} has no method named {name}"
  | .unknownFilter name => s!"unknown filter: filter {name} is unknown"
  | .unknownInnerFilter => "unknown filter"
  | .unknownTest name => s!"unknown test: test {name} is unknown"
  | .unknownInnerTest => "unknown test"
  | .unknownBlock name => s!"unknown block: block '{name}' not found"
  | .missingArgument => "missing argument"
  | .missingNamed name => s!"missing argument: missing keyword argument '{name}'"
  | .tooManyArguments => "too many arguments"
  | .unknownNamed name => s!"too many arguments: unknown keyword argument '{name}'"
  | .namedKind => operationMessage "non string keys passed to kwargs"
  | .conversion kind target => operationMessage s!"cannot convert {kind.name} to {target}"
  | .namedAsString => operationMessage "cannot convert kwargs to string"
  | .notString => operationMessage "value is not a string"
  | .spreadKind kind =>
    operationMessage s!"attempted to apply keyword arguments from non map (got {kind.name})"
  | .operands op left right => operationMessage
    s!"tried to use {op} operator on unsupported types {left.name} and {right.name}"
  | .range op left right =>
    operationMessage s!"unable to calculate {left.display} {op} {right.display}"
  | .invalid => "invalid operation"
  | .repeatString => operationMessage "strings can only be multiplied with integers"
  | .repeatTooLarge => operationMessage "repeated string is too large"
  | .repeatSequence => operationMessage "sequences and iterables can only be multiplied with integers"
  | .repeatUnsized => operationMessage "cannot repeat unsized iterables"
  | .overflow => operationMessage "overflow"
  | .containment => operationMessage "cannot perform a containment check on this value"
  | .sliceStep => operationMessage "cannot slice by step size of 0"
  | .sliceKind kind => operationMessage s!"value of type {kind.name} cannot be sliced"
  | .notCallable kind => operationMessage s!"value of type {kind.name} is not callable"
  | .notCallableObject => operationMessage "object is not callable"
  | .notIterable kind => operationMessage s!"{kind.name} is not iterable"
  | .undefinedValue => "undefined value"
  | .superOutsideBlock => operationMessage "cannot super outside of block"
  | .superArguments => operationMessage "super() takes no arguments"
  | .rangeStep => operationMessage "cannot create range with step of 0"
  | .rangeSize => operationMessage "range has too many elements"
  | .recordKind kind => operationMessage s!"expected object or keyword arguments, got {kind.name}"
  | .environmentUnset name => operationMessage s!"environment variable {name} is not set"
  | .unreadable path reason => operationMessage s!"cannot read {path}: {reason}"
  | .denied function => s!"function {function}() is not allowed in restricted mode"
  | .lengthKind kind => operationMessage s!"cannot calculate length of value of type {kind.name}"
  | .pairList => operationMessage "cannot convert value into pair list"
  | .pairs => operationMessage "cannot convert value into pairs"
  | .reverseKind kind => operationMessage s!"cannot reverse values of type {kind.name}"
  | .joinKind kind => operationMessage s!"cannot join value of type {kind.name}"
  | .roundKind kind => operationMessage s!"cannot round value ({kind.name})"
  | .absolute => operationMessage "cannot get absolute value"
  | .floatText true => operationMessage "cannot parse float from empty string"
  | .floatText false => operationMessage "invalid float literal"
  | .floatKind kind => operationMessage s!"cannot convert {kind.name} to float"
  | .firstItem => operationMessage "cannot get first item from value"
  | .lastItem => operationMessage "cannot get last item from value"
  | .listKind => operationMessage "cannot convert value to list"
  | .countZero => operationMessage "count cannot be 0"
  | .sumKind kind => operationMessage s!"can only sum numbers, got {kind.name}"
  | .filterName => operationMessage "filter name is required"
  | .filterNameKind => operationMessage "filter name must be a string"
  | .zipKind kind => operationMessage s!"zip filter argument must be iterable, got {kind.name}"
  | .keysKind => operationMessage "keys requires a mapping"
  | .integerText true => operationMessage "int error: cannot parse integer from empty string"
  | .integerText false => operationMessage "int error: invalid digit found in string"
  | .badBase64 reason => operationMessage s!"b64decode error: {reason}"
  | .badUtf8 reason => operationMessage s!"utf8 error: {reason}"
  | .badJson reason => operationMessage s!"fromjson error: {reason}"
  | .json fault => operationMessage s!"tojson error: {fault.message}"
  | .directiveEnd offset =>
    operationMessage s!"incomplete format spec at offset {offset}; missing conversion type"
  | .directiveKey offset =>
    operationMessage s!"incomplete format key at offset {offset}; missing closing ')'"
  | .directiveLetter letter offset =>
    operationMessage s!"invalid conversion type '{letter}' in format spec at offset {offset}"
  | .directiveArgument offset =>
    operationMessage s!"missing an argument for format spec at offset '{offset}'"
  | .directiveMapping => operationMessage "format argument must be a mapping"
  | .directiveKind offset kind name letter => operationMessage
    s!"invalid format spec at offset {offset}; '{kind}' cannot be formatted in {name} format ('{letter}')"

end Cause

/-- A cause and the line at which it arose; lines are counted from one, zero is before any. -/
structure Fault where
  cause : Cause
  line : Nat

/-- What is said of a fault. -/
def Fault.message (f : Fault) : String := s!"{f.cause.message} (in <expression>:{f.line})"

end Walkthrough.Template
