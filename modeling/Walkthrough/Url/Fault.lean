/-!
# Why a text is no address
-/

namespace Walkthrough.Url

/-- Why a text is no address. -/
inductive Fault where
  | emptyHost
  | internationalName
  | port
  | ipv4
  | ipv6
  | domainCharacter
  | noBase
  | opaqueBase
  deriving DecidableEq

/-- What is said of a fault. -/
def Fault.message : Fault → String
  | .emptyHost => "empty host"
  | .internationalName => "invalid international domain name"
  | .port => "invalid port number"
  | .ipv4 => "invalid IPv4 address"
  | .ipv6 => "invalid IPv6 address"
  | .domainCharacter => "invalid domain character"
  | .noBase => "relative URL without a base"
  | .opaqueBase => "relative URL with a cannot-be-a-base base"

end Walkthrough.Url
