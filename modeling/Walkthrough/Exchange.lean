import Walkthrough.Json.Shape
import Walkthrough.Text.Case

/-!
# Requests and responses

A request names a method and an absolute address; a response has a status. Both carry headers, whose
names are looked up without regard to the case of ASCII letters. Their JSON form leaves out what is
missing from a request, and reading it gives the value back.
-/

namespace Walkthrough

/-- A request. -/
structure Request where
  method : String
  url : String
  headers : Bindings String
  body : Option String

/-- A response. -/
structure Response where
  status : UInt16
  headers : Bindings String
  body : String

/-- A request and the response to it. -/
structure Exchange (Req Res : Type) where
  request : Req
  response : Res

/-- Headers as JSON. -/
def headersJson (headers : Bindings String) : Json :=
  .object (headers.map Json.string).entries

namespace Request

/-- A request without headers and body; its method is written in capitals. -/
def new (method url : String) : Request := ⟨Text.uppercase method, url, .empty, none⟩

/-- A request for an address. -/
def get (url : String) : Request := new "GET" url

/-- Set a header, replacing any value under the same name. -/
def setHeader (r : Request) (name value : String) : Request :=
  { r with headers := r.headers.insert (Text.asciiLowercase name) value }

/-- The value of a header. -/
def header? (r : Request) (name : String) : Option String :=
  r.headers.find? (Text.asciiLowercase name)

/-- Drop a header. -/
def removeHeader (r : Request) (name : String) : Request :=
  { r with headers := r.headers.erase (Text.asciiLowercase name) }

/-- Set the body. -/
def withBody (r : Request) (body : String) : Request := { r with body := some body }

/-- Two requests are the same; the order of headers does not matter. -/
def same (a b : Request) : Bool :=
  a.method == b.method && a.url == b.url && a.body == b.body
    && a.headers.entries.length == b.headers.entries.length
    && a.headers.entries.all fun h => b.headers.find? h.1 == some h.2

/-- A request as JSON, without empty headers and without a body that is missing. -/
def toJson (r : Request) : Json :=
  .object ([("method", .string r.method), ("url", .string r.url)]
    ++ (if r.headers.isEmpty then [] else [("headers", headersJson r.headers)])
    ++ match r.body with
      | some b => [("body", .string b)]
      | none => [])

/-- The fields of a request. -/
def fields : List (Json.Field Request) := [
  ⟨"method", false, fun v r => v.asString.map fun s => { r with method := s }⟩,
  ⟨"url", false, fun v r => v.asString.map fun s => { r with url := s }⟩,
  ⟨"headers", true, fun v r => v.asStringMap.map fun h => { r with headers := h }⟩,
  ⟨"body", true, fun v r => v.asStringOrNull.map fun b => { r with body := b }⟩]

/-- Read a request from its JSON text. -/
def ofText (text : String) : Except Json.RecordFault Request :=
  Json.readRecordText "HttpRequest" fields ⟨"", "", .empty, none⟩ text

end Request

namespace Response

/-- A response without headers and body. -/
def new (status : UInt16) : Response := ⟨status, .empty, ""⟩

/-- Set a header, replacing any value under the same name. -/
def setHeader (r : Response) (name value : String) : Response :=
  { r with headers := r.headers.insert (Text.asciiLowercase name) value }

/-- The value of a header. -/
def header? (r : Response) (name : String) : Option String :=
  r.headers.find? (Text.asciiLowercase name)

/-- Set the body. -/
def withBody (r : Response) (body : String) : Response := { r with body := body }

/-- The response is a redirect. -/
def isRedirect (r : Response) : Bool := 300 ≤ r.status && r.status < 400

/-- Where a redirect leads. -/
def location? (r : Response) : Option String :=
  if r.isRedirect then r.header? "location" else none

/-- A response as JSON. -/
def toJson (r : Response) : Json :=
  .object [("status", .ofNat r.status.toNat), ("headers", headersJson r.headers),
    ("body", .string r.body)]

/-- The fields of a response. -/
def fields : List (Json.Field Response) := [
  ⟨"status", false, fun v r =>
    (v.asNatBelow (65536) "u16").map fun n => { r with status := UInt16.ofNat n }⟩,
  ⟨"headers", true, fun v r => v.asStringMap.map fun h => { r with headers := h }⟩,
  ⟨"body", true, fun v r => v.asString.map fun b => { r with body := b }⟩]

/-- Read a response from its JSON text. -/
def ofText (text : String) : Except Json.RecordFault Response :=
  Json.readRecordText "HttpResponse" fields ⟨0, .empty, ""⟩ text

end Response

end Walkthrough
