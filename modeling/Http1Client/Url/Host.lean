import Http1Client.Url.DomainName
import Http1Client.Url.Error
import Http1Client.Url.Ipv6
import Http1Client.Url.Percent

/-!
# Hosts

A host is a name, an IPv4 address or an IPv6 address. The schemes that are known
have domain names, percent-decoded and in ASCII, and addresses in the lenient
form; the host of any other scheme is an opaque text, of which only controls and
characters outside ASCII are encoded. Brackets always hold an IPv6 address.

A host is written twice, in two forms: `render` is its form in a URL and in the
Host field, `dialled` the form that is looked up or connected to, without
brackets. This stands in for the type of hosts of the library `url`.
-/

namespace Http1Client.Url

/-- Where a URL points. -/
inductive Host where
  | name (text : List Char)
  | ipv4 (address : Ipv4)
  | ipv6 (address : Ipv6)
  deriving DecidableEq, Repr

namespace Host

/-- Reads what stands in brackets, the first of which is given. -/
def bracketed (rest : List Char) : Except Error Host :=
  if rest.getLast? = some ']' then
    match Ipv6.parse? rest.dropLast with
    | some a => .ok (.ipv6 a)
    | none => .error .ipv6Address
  else .error .ipv6Address

/-- The host of a scheme that is known. -/
def ofDomain (s : List Char) : Except Error Host :=
  match Utf8.decode? (percentDecode (Utf8.encode (String.ofList s))) with
  | none => .error .domainName
  | some decoded =>
    match DomainName.ascii? decoded.toList with
    | none => .error .domainName
    | some [] => .error .emptyHost
    | some domain =>
      if Ipv4.endsInNumber domain then
        match Ipv4.ofHost? domain with
        | some a => .ok (.ipv4 a)
        | none => .error .ipv4Address
      else .ok (.name domain)

/-- Characters that the host of an unknown scheme may not hold. -/
def forbidden : List Char :=
  ['\x00', '\t', '\n', '\r', ' ', '#', '/', ':', '<', '>', '?', '@', '[', '\\', ']', '^', '|']

/-- The host of a scheme that is not known. -/
def ofOpaque (s : List Char) : Except Error Host :=
  if s.any forbidden.contains then .error .domainCharacter
  else .ok (.name (percentEncode controlSet s))

/-- Reads a host. -/
def parse (special : Bool) : List Char → Except Error Host
  | '[' :: rest => bracketed rest
  | s => if special then ofDomain s else ofOpaque s

/-- No host at all, as in a URL with an empty authority. -/
def isNone : Host → Bool
  | .name text => text.isEmpty
  | _ => false

/-- The host in a URL. -/
def render : Host → List Char
  | .name text => text
  | .ipv4 a => a.render
  | .ipv6 a => '[' :: a.render ++ [']']

/-- The host as it is looked up or connected to. -/
def dialled : Host → List Char
  | .name text => text
  | .ipv4 a => a.render
  | .ipv6 a => a.renderMapped

end Host

end Http1Client.Url
