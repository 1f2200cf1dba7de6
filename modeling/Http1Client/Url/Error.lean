/-!
# Why a text is no URL

The errors of the library `url`, in its words.
-/

namespace Http1Client.Url

/-- The ways in which reading a URL fails. -/
inductive Error where
  | relativeWithoutBase
  | emptyHost
  /-- A domain name that has no ASCII form. -/
  | domainName
  /-- A character that the host of the scheme may not hold. -/
  | domainCharacter
  | ipv4Address
  | ipv6Address
  | port
  deriving DecidableEq, Repr

/-- The error in words. -/
def Error.message : Error → String
  | .relativeWithoutBase => "relative URL without a base"
  | .emptyHost => "empty host"
  | .domainName => "invalid international domain name"
  | .domainCharacter => "invalid domain character"
  | .ipv4Address => "invalid IPv4 address"
  | .ipv6Address => "invalid IPv6 address"
  | .port => "invalid port number"

end Http1Client.Url
