/-!
# Faults of URLs

Why a text is not a URL.
-/

namespace TwinQuery.Url

/-- Why a text is not a URL. -/
inductive Fault where
  | emptyHost
  | domainName
  | port
  | ipv4Address
  | ipv6Address
  | hostCharacter
  | relativeWithoutBase
  | relativeToFlatBase
  deriving DecidableEq, Repr

def Fault.message : Fault → String
  | emptyHost => "empty host"
  | domainName => "invalid international domain name"
  | port => "invalid port number"
  | ipv4Address => "invalid IPv4 address"
  | ipv6Address => "invalid IPv6 address"
  | hostCharacter => "invalid domain character"
  | relativeWithoutBase => "relative URL without a base"
  | relativeToFlatBase => "relative URL with a cannot-be-a-base base"

end TwinQuery.Url
