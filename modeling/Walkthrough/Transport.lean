import Walkthrough.Exchange
import Walkthrough.Url.Reader

/-!
# Transports

A transport answers a request with a response, or with the fault that kept it from doing so. What it
answers may depend on all that was sent through it. The transport without a network
(`Transport.offline`) finds all the faults that show before anything is sent.
-/

namespace Walkthrough

/-- Why there is no response. -/
inductive TransportFault where
  | invalidRequest (text : String)
  | timeout (url : String)
  | failed (text : String)
  deriving DecidableEq

/-- What is said of a fault. -/
def TransportFault.message : TransportFault → String
  | .invalidRequest text => s!"Invalid request: {text}"
  | .timeout url => s!"Request timed out: {url}"
  | .failed text => s!"Request failed: {text}"

/-- The fault of a request whose method is none. -/
def TransportFault.invalidMethod (method : String) : TransportFault :=
  .invalidRequest s!"method {method}"

/-- Answers a request, given all requests that were sent until the answer, this one among them. -/
abbrev Transport := (sent : List Request) → Request → Except TransportFault Response

namespace Transport

/-- The character may occur in a method and in the name of a header. -/
def isTokenChar (c : Char) : Bool :=
  c.isAlphanum || ['!', '#', '$', '%', '&', '\'', '*', '+', '-', '.', '^', '_', '\x60', '|', '~'].contains c

/-- The text is a method or the name of a header. -/
def isToken (s : String) : Bool := !s.isEmpty && s.toList.all isTokenChar

/-- The text can be the value of a header. -/
def isHeaderValue (s : String) : Bool :=
  s.toList.all fun c => c = '\t' || (c.toNat ≥ 0x20 && c.toNat ≠ 0x7F)

/-- The scheme is one of the web. -/
def isWebScheme (scheme : String) : Bool := scheme == "http" || scheme == "https"

/-- The fault of a request that shows before it is sent. -/
def faultBefore? (r : Request) : Option TransportFault :=
  if !isToken r.method then some (.invalidMethod r.method)
  else match Url.parse r.url with
    | .error _ => some (.failed "builder error")
    | .ok url =>
      let bad := TransportFault.failed s!"builder error for url ({url.text})"
      if url.authority.isNone then some bad
      else if !r.headers.entries.all fun h => isToken h.1 && isHeaderValue h.2 then
        some (.failed "builder error")
      else if isWebScheme url.scheme then none
      else some bad

/-- Without a network no request is answered. -/
def offline : Transport := fun _ r =>
  .error ((faultBefore? r).getD (.failed s!"error sending request for url ({r.url})"))

end Transport

end Walkthrough
