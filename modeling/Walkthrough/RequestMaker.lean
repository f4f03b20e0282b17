import Walkthrough.Converter
import Walkthrough.Url.Reader

/-!
# Making requests

The converter of steps to requests of the web. Addresses are completed from the endpoint, or from the
address of the previous request. Headers that correlate a request with its response do not follow a
redirect.
-/

namespace Walkthrough

/-- The endpoint that relative addresses are completed from, and the names of headers that do not
follow a redirect. -/
structure RequestMaker where
  endpoint : Option Url
  stripped : List String

namespace RequestMaker

/-- The headers that do not follow a redirect unless others are named. -/
def defaultStripped : List String := ["x-profiling-query", "x-profiling-uuid"]

/-- Without an endpoint. -/
def plain : RequestMaker := ⟨none, defaultStripped⟩

/-- With an endpoint. -/
def withEndpoint (m : RequestMaker) (endpoint : String) : Except Error RequestMaker :=
  match Url.parse endpoint with
  | .ok url => .ok { m with endpoint := some url }
  | .error fault => .error (.configuration (.badEndpoint endpoint fault))

/-- With other headers that do not follow a redirect. -/
def withStripped (m : RequestMaker) (names : List String) : RequestMaker :=
  { m with stripped := names.map Text.asciiLowercase }

/-- A request and the response to it. -/
abbrev WebExchange := Exchange Request Response

/-- The text of an address, or what is wrong with the text it was read from. -/
def textOr (text : String) : Except Url.Fault Url → Except Error String
  | .ok url => .ok url.text
  | .error fault => .error (.configuration (.badUrl text fault))

/-- Complete a reference from the text of an address. -/
def complete (address reference : String) : Except Error String :=
  match Url.parse address with
  | .error fault => .error (.configuration (.badUrl address fault))
  | .ok base => textOr reference (base.join reference)

/-- The address to visit: one of its own, or one completed from the endpoint or, without any, from the
previous request. -/
def resolve (m : RequestMaker) (target : String) (previous : Option WebExchange) :
    Except Error String :=
  match Url.parse target with
  | .ok url => .ok url.text
  | .error _ =>
    match m.endpoint, previous with
    | some base, _ => textOr target (base.join target)
    | none, some e => complete e.request.url target
    | none, none => .error (.configuration (.relativeUrl target))

/-- The previous exchange, which a step needs. -/
def need (step : Step) : Option WebExchange → Except Error WebExchange
  | some e => .ok e
  | none => .error (.configuration (.noPrevious step.uuid step.tag.name))

/-- A request with the value of its body: null is none, a string stands for itself, and all else is
written as JSON. -/
def withBodyValue (r : Request) : Json → Request
  | .null => r
  | .string s => r.withBody s
  | v => (r.withBody v.compact).setHeader "content-type" "application/json"

/-- Visit an address. -/
def visit (m : RequestMaker) (ev : Evaluator) (step : Step) (s : Scope)
    (previous : Option WebExchange) (url : String) (method body : Option String) :
    Except Error Request := do
  let address ← m.resolve (← ev.shown url s) previous
  let method ← match method with
    | some e => ev.shown e s
    | none => .ok "GET"
  let method := Text.trim method
  if method.isEmpty then .error (.configuration (.emptyMethod step.uuid))
  else
    let r := Request.new method address
    match body with
    | some e => return withBodyValue r (← ev.value e s)
    | none => return r

/-- Click a link of the previous page. -/
def click (ev : Evaluator) (step : Step) (s : Scope) (previous : Option WebExchange) (link : String) :
    Except Error Request := do
  let e ← need step previous
  let target ← ev.shown link s
  return Request.get (← complete e.request.url target)

/-- The status keeps method and body of the request that it redirects. -/
def keepsMethod (status : UInt16) : Bool := status == 307 || status == 308

/-- Follow a redirect: the headers to strip are left out, and method and body are kept only if the
status says so. -/
def follow (m : RequestMaker) (step : Step) (previous : Option WebExchange) :
    Except Error Request := do
  let e ← need step previous
  match e.response.location? with
  | none => .error (.configuration (.notRedirect step.uuid e.response.status.toNat))
  | some location =>
    let r := { e.request with url := ← complete e.request.url location }
    let r :=
      if keepsMethod e.response.status then r
      else (({ r with method := "GET", body := none }).removeHeader "content-type").removeHeader
        "content-length"
    return m.stripped.foldl Request.removeHeader r

/-- Set the headers of a step, one after the other. -/
def applyHeaders (ev : Evaluator) (s : Scope) : List (String × String) → Request →
    Except Error Request
  | [], r => .ok r
  | (name, e) :: rest, r => do applyHeaders ev s rest (r.setHeader name (← ev.shown e s))

/-- The request of a step before its headers are set. -/
def base (m : RequestMaker) (ev : Evaluator) (step : Step) (s : Scope)
    (previous : Option WebExchange) : Except Error Request :=
  match step.action with
  | .visit url method body _ => m.visit ev step s previous url method body
  | .click link _ => click ev step s previous link
  | .reload _ => (need step previous).map (·.request)
  | .follow _ => m.follow step previous
  | _ => .error (.configuration (.noRequest step.uuid (some step.tag.name)))

/-- The request of a step. -/
def request (m : RequestMaker) (ev : Evaluator) (step : Step) (s : Scope)
    (previous : Option WebExchange) : Except Error Request := do
  let r ← m.base ev step s previous
  match step.action.leaf? with
  | some leaf => applyHeaders ev s leaf.headers.entries r
  | none => return r

/-- The converter of steps to requests of the web. -/
def converter (m : RequestMaker) : Converter Request Response where
  convert := m.request
  same := Request.same
  requestJson r := .ok r.toJson.canonical
  responseJson r := .ok r.toJson.canonical

end RequestMaker

end Walkthrough
