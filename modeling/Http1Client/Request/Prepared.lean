import Http1Client.Config
import Http1Client.Failure
import Http1Client.Request.Spec
import Http1Client.Token
import Http1Client.Url.Reader

/-!
# Requests ready to be sent

`prepare` checks a request and completes it, without touching the network. The
checks come in a fixed order and the first that fails decides: URL, scheme,
method, the header fields in order, then the host. After them

- Host is added unless the caller gave one, and User-Agent if one is configured
  and the caller gave none;
- Connection is always `close`;
- the body is sent whole, so Transfer-Encoding goes, and Content-Length is the
  length of the body, or absent without one.
-/

namespace Http1Client

/-- Where an exchange connects. -/
structure Target where
  /-- The host as it is dialled: an IPv6 address has no brackets. -/
  host : String
  port : Nat
  secure : Bool
  deriving DecidableEq, Repr

/-- A request ready to be sent. -/
structure Request where
  method : Method
  url : Url
  /-- Path and query, as on the request line. -/
  path : String
  headers : Headers
  body : Bytes
  target : Target
  deriving DecidableEq, Repr

/-- Why a request cannot be sent. -/
inductive RequestFault where
  | noUrl
  | badUrl (text : String) (error : Url.Error)
  /-- Neither `http` nor `https`. -/
  | notHttp (url : Url)
  | badMethod (text : String)
  | badHeader (name : String)
  | noHost (url : Url)
  deriving DecidableEq, Repr

/-- The fault in words. -/
def RequestFault.message : RequestFault → String
  | .noUrl => "no URL given"
  | .badUrl text error => "URL '" ++ text ++ "' is invalid: " ++ error.message
  | .notHttp url => "URL '" ++ String.ofList url.render ++ "' is not a http url"
  | .badMethod text => "'" ++ text ++ "' is not a valid method"
  | .badHeader name => "invalid header '" ++ name ++ "'"
  | .noHost url => "URL '" ++ String.ofList url.render ++ "' has no host"

/-- The fault as the failure of a call. -/
def RequestFault.toFailure (f : RequestFault) : Failure := .invalidRequest f.message

namespace Request

/-- A character that would end a line early. -/
def isLineBreak (c : Char) : Bool := c == '\r' || c == '\n'

/-- The field can be written on a line of its own. -/
def fieldAllowed (f : Field) : Bool :=
  isToken f.name.toList && !f.value.toList.any isLineBreak

/-- The method can be written. The ones with a name of their own always can. -/
def methodAllowed : Method → Bool
  | .other text => isToken text.toList
  | _ => true

/-- The scheme is `https`, or else `http`; none for any other. -/
def security? (url : Url) : Option Bool :=
  if url.scheme == "https".toList then some true
  else if url.scheme == "http".toList then some false
  else none

/-- The host, unless it is missing or empty. -/
def host? (url : Url) : Option Url.Host := url.host.filter (!·.isNone)

/-- The value of the Host field: the host, and the port if the URL names one that
its scheme does not imply. -/
def hostField (host : Url.Host) (port : Option Nat) : String :=
  String.ofList (host.render ++
    match port with
    | none => []
    | some p => ':' :: Text.decimal p)

/-- The caller's fields completed. -/
def completeHeaders (config : Config) (host : String) (bodyLength : Nat) (h : Headers) :
    Headers :=
  let h := if h.contains "Host" then h else h.set "Host" host
  let h := match config.userAgent with
    | none => h
    | some agent => if h.contains "User-Agent" then h else h.set "User-Agent" agent
  let h := (h.set "Connection" "close").without "Transfer-Encoding"
  if bodyLength = 0 then h.without "Content-Length"
  else h.set "Content-Length" (String.ofList (Text.decimal bodyLength))

end Request

/-- Checks a request and completes it. -/
def prepare (spec : RequestSpec) (config : Config) : Except RequestFault Request :=
  match spec.url with
  | none => .error .noUrl
  | some text =>
    match Url.parse text with
    | .error e => .error (.badUrl text e)
    | .ok url =>
      match Request.security? url with
      | none => .error (.notHttp url)
      | some secure =>
        if !Request.methodAllowed spec.method then .error (.badMethod spec.method.text)
        else
          match spec.headers.fields.find? (!Request.fieldAllowed ·) with
          | some f => .error (.badHeader f.name)
          | none =>
            match Request.host? url with
            | none => .error (.noHost url)
            | some host =>
              let body := spec.body.getD []
              .ok {
                method := spec.method
                url := url
                path := String.ofList url.target
                headers := Request.completeHeaders config (Request.hostField host url.port)
                  body.length spec.headers
                body := body
                target :=
                  ⟨String.ofList host.dialled, url.port.getD (defaultPort secure), secure⟩ }

end Http1Client
