import Http1Client.Network.Peer
import Http1Client.Network.ServerName
import Http1Client.Request.Prepared

/-!
# Connections

A connection serves one exchange. Opening it connects to the target and, if the
target is secure, negotiates TLS: for that the client needs to have TLS at all, and
a name for the peer that can be verified. A connection that has been opened is shut
down at the end; if it is secure, that includes the farewell.

This is the `Connection` of the client with what it does: `open` is `openTo`,
`write_request` and `read` are what `write` and `reads` make of the peer, with the
failures that `talk` gives, and `close` is the shutdown. `with_timeout` is
`Wait.within`. `session` is a whole use of a connection: open, write, read to the
end, close.
-/

namespace Http1Client

/-- A time limit turns silence into a failure. -/
def Wait.within {α : Type} (limit : Option Nat) (activity : String) :
    Wait (Outcome α) → Wait (Outcome α)
  | .done outcome => .done outcome
  | .forever => if limit.isSome then .done (.error (.timedOut activity)) else .forever

/-- An attempt to open a connection. -/
structure Opening where
  tried : List Endpoint
  result : Wait (Outcome Unit)

namespace Peer

/-- TLS negotiation. -/
def negotiate (p : Peer) : Wait (Outcome Unit) :=
  match p.tls.negotiation with
  | none => .done (.ok ())
  | some (.trouble t) => .done (.error (.tlsFailed t.message))
  | some .silence => .forever

/-- What secures a connection that has been made, if it has to be secure. Without
`tls` there is nothing to secure it with. -/
def secure (p : Peer) (target : Target) (tls : Bool) : Wait (Outcome Unit) :=
  if !target.secure then .done (.ok ())
  else if !tls then .done (.error (.tlsFailed "no TLS connector configured"))
  else if !ServerName.valid target.host then .done (.error (.tlsFailed "invalid dns name"))
  else p.negotiate

/-- Opens a connection. -/
def openTo (p : Peer) (target : Target) (tls : Bool) : Opening :=
  let dialling := p.dial target.host target.port
  ⟨dialling.tried,
    match dialling.stop with
    | some (.trouble t) => .done (.error (.connectFailed target.host target.port t.message))
    | some .silence => .forever
    | none => p.secure target tls⟩

/-- Writes bytes and reads what the peer sends to the end of its stream: the bytes
that it took and those that it sent. -/
def talk (p : Peer) (secure : Bool) (bytes : Bytes) : Wait (Outcome (Bytes × Bytes)) :=
  match p.write bytes with
  | (_, some (.trouble t)) => .done (.error (.writeFailed t.message))
  | (_, some .silence) => .forever
  | (taken, none) =>
    match p.endingOver secure with
    | none => .done (.ok (taken, p.parts.flatten))
    | some (.trouble t) => .done (.error t.readFailure)
    | some .silence => .forever

/-- Opens a connection, talks over it and closes it. -/
def session (p : Peer) (target : Target) (tls : Bool) (bytes : Bytes) :
    Wait (Outcome (Bytes × Bytes)) :=
  match (p.openTo target tls).result with
  | .done (.error f) => .done (.error f)
  | .forever => .forever
  | .done (.ok ()) =>
    match p.talk target.secure bytes with
    | .done (.ok answer) => if p.lingers target.secure then .forever else .done (.ok answer)
    | other => other

end Peer

end Http1Client
