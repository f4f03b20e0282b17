import Walkthrough.Evaluator
import Walkthrough.Exchange
import Walkthrough.Step

/-!
# Converters

A converter turns a step that produces a request into one. The engine knows nothing else of requests
and responses than what is here: how a request is made, when two are the same, and what expressions
see of a request and of a response.
-/

namespace Walkthrough

/-- What makes requests of steps. -/
structure Converter (Req Res : Type) where
  /-- The request of a step in a scope, after the previous exchange. -/
  convert : Evaluator → Step → Scope → Option (Exchange Req Res) → Except Error Req
  /-- Two requests are the same. -/
  same : Req → Req → Bool
  /-- What expressions see of a request, unless it refuses to be written as JSON. -/
  requestJson : Req → Except Template.Value.JsonFault Json
  /-- What expressions see of a response, unless it refuses. -/
  responseJson : Res → Except Template.Value.JsonFault Json

/-- The value of an expression in a scope. -/
def Evaluator.value (ev : Evaluator) (expression : String) (s : Scope) : Except Error Json :=
  (ev.evaluate expression s).result

/-- Whether an expression holds in a scope. -/
def Evaluator.holds (ev : Evaluator) (expression : String) (s : Scope) : Except Error Bool :=
  (ev.condition expression s).result

/-- The value of an expression as it stands in an address or a header. -/
def Evaluator.shown (ev : Evaluator) (expression : String) (s : Scope) : Except Error String :=
  (ev.value expression s).map Json.display

end Walkthrough
