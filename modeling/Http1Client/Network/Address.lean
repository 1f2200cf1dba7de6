import Http1Client.Url.Ipv6

/-!
# Where a socket connects

An address with a port. A host that is itself an address in the usual form needs
no lookup; the lenient IPv4 forms of URLs are not among those. This is how the
system's sockets read a host.
-/

namespace Http1Client

/-- An address of either kind. -/
inductive Address where
  | ipv4 (address : Ipv4)
  | ipv6 (address : Ipv6)
  deriving DecidableEq, Repr

/-- Reads an address in the usual form, IPv6 without brackets. -/
def Address.parse? (host : String) : Option Address :=
  match Ipv4.dotted? host.toList with
  | some a => some (.ipv4 a)
  | none => (Ipv6.parse? host.toList).map .ipv6

/-- An address and a port. -/
structure Endpoint where
  address : Address
  port : Nat
  deriving DecidableEq, Repr

/-- The endpoint in the usual form, IPv6 in brackets. -/
def Endpoint.render (e : Endpoint) : String :=
  match e.address with
  | .ipv4 a => String.ofList a.render ++ ":" ++ toString e.port
  | .ipv6 a => "[" ++ String.ofList a.renderMapped ++ "]:" ++ toString e.port

end Http1Client
