import Http1Client.Url.Host
import Http1Client.Url.Path

/-!
# URLs

The parts of a URL as they are after reading: the scheme in small letters, user
name and password encoded (empty where absent), the port only if it is not the
one that the scheme implies, the path resolved. `render` writes them back.

Reading URLs is left to the library `url` by the client; the modules below `Url`
stand in for what it does with the URL of a request. This one is its type of URLs.
-/

namespace Http1Client

/-- A URL. -/
structure Url where
  scheme : List Char
  username : List Char
  password : List Char
  host : Option Url.Host
  port : Option Nat
  path : Url.Path
  query : Option (List Char)
  fragment : Option (List Char)
  deriving DecidableEq, Repr

namespace Url

/-- The port that a scheme implies. -/
def impliedPort (scheme : List Char) : Option Nat :=
  if scheme == "http".toList || scheme == "ws".toList then some 80
  else if scheme == "https".toList || scheme == "wss".toList then some 443
  else if scheme == "ftp".toList then some 21
  else none

/-- User name and password before the host. -/
def credentials (u : Url) : List Char :=
  if u.username.isEmpty && u.password.isEmpty then []
  else
    u.username ++ (if u.password.isEmpty then [] else ':' :: u.password) ++ ['@']

/-- A colon and the port, if it is written. -/
def portText (u : Url) : List Char :=
  match u.port with
  | none => []
  | some p => ':' :: Text.decimal p

/-- What stands between the scheme and the path. Without an authority a path that
starts with two slashes would look like one, so a segment `.` goes before it. -/
def authority (u : Url) : List Char :=
  match u.host with
  | some host => '/' :: '/' :: u.credentials ++ host.render ++ u.portText
  | none =>
    match u.path with
    | .segments ([] :: _ :: _) => ['/', '.']
    | _ => []

/-- A mark and a text, if there is one. -/
def marked (mark : Char) : Option (List Char) → List Char
  | none => []
  | some s => mark :: s

/-- The text of a URL. -/
def render (u : Url) : List Char :=
  u.scheme ++ ':' :: u.authority ++ u.path.render ++ marked '?' u.query ++
    marked '#' u.fragment

/-- What a request asks for on the host: the path and the query. The fragment
stays with the client. -/
def target (u : Url) : List Char :=
  let path := u.path.render
  (if path.isEmpty then ['/'] else path) ++ marked '?' u.query

end Url

end Http1Client
