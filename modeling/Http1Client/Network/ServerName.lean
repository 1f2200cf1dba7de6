import Http1Client.Network.Address
import Http1Client.Text.Cut

/-!
# Names that TLS can verify

The name of a server is checked before it is sent: a domain name or an address.
The labels of a domain name hold ASCII letters, digits, underscores and hyphens;
no hyphen starts or ends one, and the last one is not all digits, so that no name
looks like an address. One point may follow the last label.

This stands in for the check of a `ServerName` by `rustls`.
-/

namespace Http1Client.ServerName

/-- A character of a label, hyphen apart. -/
def isLabelChar (c : Char) : Bool := c.isAlphanum || c == '_'

/-- A label by itself. -/
def isLabel (s : List Char) : Bool :=
  s.length ≤ 63 && s.all (fun c => isLabelChar c || c == '-') &&
    s.head?.any isLabelChar && s.getLast?.any isLabelChar

/-- The labels of a name, without the empty one after a point at the end. -/
def labels (s : List Char) : List (List Char) :=
  let all := Text.split '.' s
  if all.getLast? = some [] then all.dropLast else all

/-- The text is a domain name. -/
def isDomainName (s : List Char) : Bool :=
  s.length ≤ 253 && (labels s).all isLabel &&
    (labels s).getLast?.any (fun last => !last.all Char.isDigit)

/-- The host can be verified. -/
def valid (host : String) : Bool := isDomainName host.toList || (Address.parse? host).isSome

end Http1Client.ServerName
