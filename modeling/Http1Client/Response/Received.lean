import Http1Client.Lifetime.Store
import Http1Client.MediaType.Reader
import Http1Client.Response.Draft

/-!
# Responses in the hands of their callers

The body of a response that has been received lies in a store and lasts as long
as the scope of its caller; after that it reads as empty. `Store.assemble` makes
that so: the scope takes a reference, and the one that the message held is given
back, whether or not the scope could take one.
-/

namespace Http1Client

/-- A response as its caller gets it. -/
structure Received where
  status : Status
  headers : Headers
  /-- What the body is, as the first Content-Type says. -/
  mediaType : MediaType
  body : BufferId
  deriving DecidableEq, Repr

/-- What there is to read of the body. -/
def Received.content (r : Received) (s : Store) : Bytes := (s.buffer r.body).bytes.getD []

/-- The body as text, with a replacement for what is not UTF-8. -/
def Received.text (r : Received) (s : Store) : String := Utf8.decodeLossy (r.content s)

/-- Hands a response over to a scope. The content's own reference is used up. -/
def Store.assemble (s : Store) (status : Status) (headers : Headers) (content : BufferId)
    (e : ScopeId) : Store × Except Failure Received :=
  let (s, kept) := s.keepUntilClose content e
  let (s, _) := s.release content
  let response : Received :=
    ⟨status, headers, MediaType.ofField (headers.get? "Content-Type"), content⟩
  (s, if kept then .ok response else .error .abandoned)

/-- Puts the content of a message into the store and hands the response over. -/
def Store.deliver (s : Store) (m : Message) (e : ScopeId) : Store × Except Failure Received :=
  let (s, content) := s.hold m.content
  s.assemble m.status m.headers content e

end Http1Client
