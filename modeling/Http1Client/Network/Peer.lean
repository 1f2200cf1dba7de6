import Http1Client.Bytes
import Http1Client.Network.Address
import Http1Client.Network.Trouble

/-!
# The other side

A peer is described by what it does when it is asked: how its name is looked up,
how it takes connections and bytes, what it sends, and how it ends. So it stands
for all that a connection reaches through its socket, the resolver and the network
of the system included. Connecting tries the addresses of a host in order until
one accepts; silence on one of them is silence for all.

A read gives bytes of one part at most and no more than `readSize` of them; it
never gives none, because empty parts are skipped.

The cryptography of TLS is not looked into: what `rustls`, the library for it,
makes of a session is part of the description. A connection that is secure has a
negotiation before anything else and a farewell after everything; what is taken
and sent in between is described as the two sides of the session see it, without
the records that carry it.
-/

namespace Http1Client

/-- What a peer does with a session of TLS. -/
structure Tls where
  /-- What stops the negotiation; it succeeds without. -/
  negotiation : Option Stop := none
  /-- What stops the farewell, by which the client ends the session. -/
  farewell : Option Stop := none

/-- What a peer does. -/
structure Peer where
  /-- What its name resolves to. -/
  lookup : Except Trouble (List Address)
  /-- What stops each connect in turn, or nothing; nothing stops the later ones. -/
  connects : List (Option Stop)
  /-- How many bytes it takes and what stops the write of more; no limit without. -/
  capacity : Option (Nat × Stop)
  /-- The bytes it sends. -/
  parts : List Bytes
  /-- What a read meets after those bytes: the end of the stream, or a stop. -/
  ending : Option Stop
  /-- What it does with a connection that has to be secure. -/
  tls : Tls := {}

/-- The most bytes that a read asks for. -/
def readSize : Nat := 8192

/-- Cuts bytes into reads. -/
def cutReads (bytes : Bytes) : List Bytes :=
  if bytes.isEmpty then []
  else bytes.take readSize :: cutReads (bytes.drop readSize)
  termination_by bytes.length
  decreasing_by
    rename_i h
    cases bytes with
    | nil => simp at h
    | cons =>
      simp only [readSize, List.length_drop, List.length_cons]
      omega

/-- A connect: the endpoints that were tried, and what stopped it. -/
structure Dialling where
  tried : List Endpoint
  stop : Option Stop
  deriving DecidableEq, Repr

/-- Tries endpoints in order, with what stops each; the last trouble counts. -/
def dialAll (last : Trouble) (stops : List (Option Stop)) : List Endpoint → Dialling
  | [] => ⟨[], some (.trouble last)⟩
  | e :: rest =>
    match stops.head?.join with
    | none => ⟨[e], none⟩
    | some .silence => ⟨[e], some .silence⟩
    | some (.trouble t) =>
      let later := dialAll t stops.tail rest
      ⟨e :: later.tried, later.stop⟩

namespace Peer

/-- The addresses of a host. One that is an address is not looked up. -/
def addresses (p : Peer) (host : String) : Except Trouble (List Address) :=
  match Address.parse? host with
  | some a => .ok [a]
  | none => p.lookup

/-- Connects to a host. -/
def dial (p : Peer) (host : String) (port : Nat) : Dialling :=
  match p.addresses host with
  | .error t => ⟨[], some (.trouble t)⟩
  | .ok as => dialAll .noAddress p.connects (as.map (⟨·, port⟩))

/-- Writes bytes: those that the peer takes, and what stopped the write. -/
def write (p : Peer) (bytes : Bytes) : Bytes × Option Stop :=
  match p.capacity with
  | some (n, stop) => if n < bytes.length then (bytes.take n, some stop) else (bytes, none)
  | none => (bytes, none)

/-- What the reads give, in order, before the end. -/
def reads (p : Peer) : List Bytes := p.parts.flatMap cutReads

/-- What the reads meet at the end. -/
def endingOver (p : Peer) (secure : Bool) : Option Stop :=
  if secure then p.ending else p.ending.map .plain

/-- The peer never takes the farewell, so that the shutdown of the connection goes
on for ever. One that fails is as good as any other. -/
def lingers (p : Peer) (secure : Bool) : Bool := secure && p.tls.farewell == some .silence

end Peer

end Http1Client
