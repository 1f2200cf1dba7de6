import Http1Client.Config
import Http1Client.Exchange.Intake
import Http1Client.Network.Connection
import Http1Client.Request.Wire

/-!
# The part of an exchange that uses the network

A conversation opens a connection, writes the request, reads the response and
shuts the connection down: that is `execute` up to the point where the message is
there, `hold`, and in it `send_and_receive`, `send`. A time limit may end the wait
for the connection and the wait for the response; the write has none, and the
shutdown has none either. A connection that has been opened is shut down before
anything is reported, whatever came of it; one that was never made, or not secured,
is not.

A conversation in which there is no room for the body breaks off where it stands:
the task that works for it fails, and drops the connection as it is.
-/

namespace Http1Client

/-- What a conversation comes to. -/
inductive Conversation.Result where
  | done (outcome : Outcome Message)
  | forever
  /-- It broke off. -/
  | broken

/-- What comes of an operation that does not break off. -/
def Conversation.Result.ofWait : Wait (Outcome Message) → Conversation.Result
  | .done outcome => .done outcome
  | .forever => .forever

/-- A course of events so far: the moments, the stage reached, and what it came
to. -/
structure Conversation where
  moments : List Moment
  stage : Stage
  result : Conversation.Result

namespace Conversation

/-- Moments that come before. -/
def after (earlier : List Moment) (c : Conversation) : Conversation :=
  { c with moments := earlier ++ c.moments }

/-- Shuts the connection down, if that point is ever reached. The shutdown may last
for ever. -/
def shutDown (c : Conversation) (lingers : Bool) : Conversation :=
  match c.result with
  | .done _ =>
    if lingers then { c with result := .forever }
    else { c with moments := c.moments ++ [.shutDown] }
  | .forever | .broken => c

/-- Waits for the response. -/
def receive (config : Config) (request : Request) (peer : Peer) : Conversation :=
  let start := Intake.start config.maxContentLength
  match start.overflow? request.method peer.reads with
  | some moments =>
    ⟨.moved .sending .awaitingResponse :: moments, .awaitingResponse, .broken⟩
  | none =>
    let ending := peer.endingOver request.target.secure
    let (moments, result) := Intake.readAll request.method ending start peer.reads
    ⟨.moved .sending .awaitingResponse :: moments, .awaitingResponse,
      .ofWait (result.within config.readTimeout "response")⟩

/-- Writes the request, and waits for the response once it is written. -/
def send (config : Config) (request : Request) (peer : Peer) : Conversation :=
  let (taken, stop) := peer.write request.encode
  let sent := [.moved .connected .sending, .wrote taken]
  match stop with
  | some (.trouble t) => ⟨sent, .sending, .done (.error (.writeFailed t.message))⟩
  | some .silence => ⟨sent, .sending, .forever⟩
  | none => (receive config request peer).after sent

/-- What there is to tell before a connection is open. -/
def attempts (tried : List Endpoint) : List Moment :=
  Moment.moved .idle .connecting :: tried.map Moment.dialled

/-- And when it is. -/
def opened (tried : List Endpoint) : List Moment :=
  attempts tried ++ [Moment.moved .connecting .connected]

/-- The whole conversation. -/
def hold (config : Config) (request : Request) (peer : Peer) : Conversation :=
  let opening := peer.openTo request.target true
  match opening.result.within config.connectTimeout "connect" with
  | .forever => ⟨attempts opening.tried, .connecting, .forever⟩
  | .done (.error failure) => ⟨attempts opening.tried, .connecting, .done (.error failure)⟩
  | .done (.ok ()) =>
    ((send config request peer).shutDown (peer.lingers request.target.secure)).after
      (opened opening.tried)

end Conversation

end Http1Client
