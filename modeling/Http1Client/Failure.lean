/-!
# How an exchange fails

Every failure ends its exchange and is reported once. A failure is one of nine
causes; callers match on a coarser `Kind`, in which a broken response, a failed
TLS negotiation and a premature close are one. `message` is the text for people
and `source` the text of the transport error underneath, where there is one.
-/

namespace Http1Client

/-- Why an exchange, or a call before it, failed. -/
inductive Failure where
  /-- The request cannot be sent as described; nothing was connected. -/
  | invalidRequest (detail : String)
  /-- No connection to the target. -/
  | connectFailed (host : String) (port : Nat) (cause : String)
  /-- The connection broke while the request was written. -/
  | writeFailed (cause : String)
  /-- The peer's bytes are no response, or could not be read. -/
  | malformed (detail : String)
  /-- TLS negotiation failed. -/
  | tlsFailed (cause : String)
  /-- The peer closed before the response was complete. -/
  | connectionClosed
  /-- The body is longer than the client accepts. -/
  | tooLarge (limit : Nat)
  /-- A configured time limit passed. -/
  | timedOut (activity : String)
  /-- The exchange ended without an outcome. -/
  | abandoned
  deriving DecidableEq, Repr

namespace Failure

/-- What callers distinguish. -/
inductive Kind where
  | invalidRequest
  | connectFailed
  | writeFailed
  | malformed
  | tooLarge
  | timedOut
  | abandoned
  deriving DecidableEq, Repr

/-- The kind of a failure. -/
def kind : Failure → Kind
  | .invalidRequest _ => .invalidRequest
  | .connectFailed .. => .connectFailed
  | .writeFailed _ => .writeFailed
  | .malformed _ | .tlsFailed _ | .connectionClosed => .malformed
  | .tooLarge _ => .tooLarge
  | .timedOut _ => .timedOut
  | .abandoned => .abandoned

/-- The failure in words. -/
def message : Failure → String
  | .invalidRequest detail => "invalid request: " ++ detail
  | .connectFailed host port cause =>
    "connect to " ++ host ++ ":" ++ toString port ++ " failed: " ++ cause
  | .writeFailed cause => "request write failed: " ++ cause
  | .malformed detail => "protocol error: " ++ detail
  | .tlsFailed cause => "TLS negotiation failed: " ++ cause
  | .connectionClosed => "connection closed before response was complete"
  | .tooLarge limit =>
    "response exceeds maximum content length of " ++ toString limit ++ " bytes"
  | .timedOut activity => activity ++ " timed out"
  | .abandoned => "exchange abandoned without an outcome"

/-- The text of the transport error behind the failure. -/
def source : Failure → Option String
  | .connectFailed _ _ cause | .writeFailed cause | .tlsFailed cause => some cause
  | _ => none

end Failure

/-- What comes of something that can fail. -/
abbrev Outcome (α : Type) := Except Failure α

end Http1Client
