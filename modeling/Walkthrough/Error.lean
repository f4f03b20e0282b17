import Walkthrough.Bindings
import Walkthrough.Template.Fault
import Walkthrough.Url.Fault
import Walkthrough.Document.Fault

/-!
# Errors of a run

Every error names its cause; the wording of each cause is in one place. All errors but a failed
expectation mean that the scenario, or the caller that drives it, is at fault.
-/

namespace Walkthrough

/-- What is wrong with a scenario. -/
inductive ConfigurationFault where
  | rootOutside
  | duplicateStep (uuid : String)
  | linkOutside (uuid : String)
  | loopUnnamed (uuid : String)
  | loopSameName (uuid name : String)
  /-- A step is asked for a request that it does not produce. -/
  | noRequest (uuid : String) (kind : Option String)
  | tooManyIterations (uuid : String) (limit : Nat)
  | notIterable (uuid : String) (value : Json)
  | badEndpoint (text : String) (fault : Url.Fault)
  | badUrl (text : String) (fault : Url.Fault)
  | relativeUrl (text : String)
  | emptyMethod (uuid : String)
  | notRedirect (uuid : String) (status : Nat)
  | noPrevious (uuid kind : String)

/-- What is said of a configuration fault. -/
def ConfigurationFault.message : ConfigurationFault → String
  | .rootOutside => "Root step handle is out of range"
  | .duplicateStep uuid => s!"Duplicate step uuid: {uuid}"
  | .linkOutside uuid => s!"Step {uuid} refers to a step outside the graph"
  | .loopUnnamed uuid => s!"Loop step {uuid} needs both key and value names"
  | .loopSameName uuid name => s!"Loop step {uuid} binds key and value to the same name '{name}'"
  | .noRequest uuid none => s!"Step {uuid} does not produce a request"
  | .noRequest uuid (some kind) => s!"Step {uuid} ({kind}) does not produce a request"
  | .tooManyIterations uuid limit => s!"While step {uuid} exceeded {limit} iterations"
  | .notIterable uuid value =>
    s!"Loop step {uuid} collection did not evaluate to an iterable: {value.compact}"
  | .badEndpoint text fault => s!"Invalid endpoint '{text}': {fault.message}"
  | .badUrl text fault => s!"Invalid URL '{text}': {fault.message}"
  | .relativeUrl text => s!"Relative URL '{text}' needs an endpoint"
  | .emptyMethod uuid => s!"Step {uuid} evaluated to an empty method"
  | .notRedirect uuid status =>
    s!"Step {uuid} follows a response that is not a redirect (status {status})"
  | .noPrevious uuid kind => s!"Step {uuid} ({kind}) needs a previous request"

/-- What is wrong with an expression in its scope. -/
inductive ExpressionFault where
  /-- A name is bound nowhere; the expression, if the name is part of one. -/
  | undefined (name : String) (expression : Option String)
  | reading (expression : String) (fault : Template.Fault)
  | evaluation (expression : String) (fault : Template.Fault)

/-- What is said of an expression fault. -/
def ExpressionFault.message : ExpressionFault → String
  | .undefined name none => s!"undefined variable `{name}`"
  | .undefined name (some e) => s!"undefined variable `{name}` in `{e}`"
  | .reading e fault => s!"Syntax error in `{e}`: {fault.message}"
  | .evaluation e fault => s!"Failed to evaluate `{e}`: {fault.message}"

/-- How a caller breaks the order of requests and responses. -/
inductive ProtocolFault where
  | peekFailed
  | resumeEarly
  | resumeDone
  | resumeFailed
  | noPending
  | notPeeked (uuid : String)
  | otherRequest (uuid : String)
  deriving DecidableEq

/-- What is said of a protocol fault. -/
def ProtocolFault.message : ProtocolFault → String
  | .peekFailed => "peek called on a failed run"
  | .resumeEarly => "resume called before peek"
  | .resumeDone => "resume called on a finished run"
  | .resumeFailed => "resume called on a failed run"
  | .noPending => "resume called without a pending request"
  | .notPeeked uuid => s!"request for step {uuid} has not been peeked"
  | .otherRequest uuid => s!"request does not match the pending request of step {uuid}"

/-- The assertions of a step that were false, with every extraction of the run up to and with that
step. -/
structure ExpectationFailure where
  step : String
  failures : List String
  extractions : Bindings Json

namespace ExpectationFailure

/-- What is said of failed assertions. -/
def message (f : ExpectationFailure) : String :=
  "Expectation failure: " ++ "; ".intercalate f.failures

/-- Failed assertions as JSON; extractions are left out if there are none. -/
def toJson (f : ExpectationFailure) : Json :=
  .object ([("step", .string f.step), ("failures", Json.ofStrings f.failures)]
    ++ if f.extractions.isEmpty then [] else [("extractions", .object f.extractions.entries)])

end ExpectationFailure

/-- An error of building, checking or running a scenario. -/
inductive Error where
  | configuration (fault : ConfigurationFault)
  | expression (fault : ExpressionFault)
  /-- An expression calls a function that is not allowed. -/
  | security (expression function : String)
  | expectation (failure : ExpectationFailure)
  | protocol (fault : ProtocolFault)
  | parse (fault : Document.Fault)
  | serialization (fault : Template.Value.JsonFault)

namespace Error

/-- The kind of an error. -/
def kind : Error → String
  | .configuration _ => "Configuration"
  | .expression _ => "Expression"
  | .security _ _ => "Security"
  | .expectation _ => "Expectation"
  | .protocol _ => "Protocol"
  | .parse _ => "Parse"
  | .serialization _ => "Serialization"

/-- What is said of an error. -/
def message : Error → String
  | .configuration fault => s!"Configuration error: {fault.message}"
  | .expression fault => s!"Expression error: {fault.message}"
  | .security e f => s!"Security error: `{e}`: {(Template.Cause.denied f).message}"
  | .expectation failure => failure.message
  | .protocol fault => s!"Protocol error: {fault.message}"
  | .parse .malformed => Document.Fault.malformed.message
  | .parse fault => s!"Parse error: {fault.message}"
  | .serialization fault => s!"Serialization error: {fault.message}"

/-- The error ends the run whatever the responses were. -/
def isFatal : Error → Bool
  | .expectation _ => false
  | _ => true

end Error

end Walkthrough
