import Http1Client.Lifetime.Buffer
import Http1Client.Response.Decoder
import Http1Client.Response.Status

/-!
# A response under construction

A draft collects what the decoder reports, up to a limit on the body. The limit
is applied twice, to a length declared in advance and to the bytes as they come;
a chunk that would pass it is refused whole and leaves the draft unchanged.
Trailer fields join the header fields.

Only a draft that has a status and has been completed becomes a message.
-/

namespace Http1Client

/-- A complete response. Its content holds one reference, owned by whoever holds
the message. -/
structure Message where
  status : Status
  headers : Headers
  content : Buffer
  deriving DecidableEq, Repr

/-- What has been collected of a response. -/
structure Draft where
  /-- The longest body accepted. -/
  limit : Nat
  status : Option Status
  headers : Headers
  body : Bytes
  complete : Bool
  deriving DecidableEq, Repr

namespace Draft

/-- Nothing collected. -/
def start (limit : Nat) : Draft := ⟨limit, none, .empty, [], false⟩

/-- An event other than body bytes. -/
def note (d : Draft) : Event → Draft
  | .status code reason => { d with status := some ⟨code, reason⟩ }
  | .header name value => { d with headers := d.headers.add name value }
  | .trailer name value => { d with headers := d.headers.add name value }
  | .complete => { d with complete := true }
  | .body _ => d

/-- Body bytes, unless they pass the limit. -/
def accept (d : Draft) (data : Bytes) : Except Failure Draft :=
  if d.limit < d.body.length + data.length then .error (.tooLarge d.limit)
  else .ok { d with body := d.body ++ data }

/-- The draft as a collector of events. -/
def collector : Collector Draft := ⟨note, accept⟩

/-- A declared length above the limit is refused before any body is read. For one
that is accepted room is taken at once, which may be more than there is: that is
told of the whole intake, by `Intake.overflow?`. -/
def checkFraming (d : Draft) : Framing → Option Failure
  | .sized n => if d.limit < n then some (.tooLarge d.limit) else none
  | _ => none

/-- Forgets the head of an interim response. -/
def discardInterim (d : Draft) : Draft := { d with status := none, headers := .empty }

/-- The status code collected, or zero. -/
def code (d : Draft) : Nat := (d.status.map (·.code)).getD 0

/-- The finished message. -/
def toMessage (d : Draft) : Except Failure Message :=
  match d.complete, d.status with
  | true, some status => .ok ⟨status, d.headers, .new d.body⟩
  | _, _ => .error .connectionClosed

end Draft

end Http1Client
