/-!
# Stages of an exchange

An exchange goes through its stages in order and ends in one of two; it can fail
in any of the others. This is the state that its task keeps, the `ExchangeState`.
-/

namespace Http1Client

/-- Where an exchange stands. -/
inductive Stage where
  | idle
  | connecting
  | connected
  | sending
  | awaitingResponse
  | completed
  | failed
  deriving DecidableEq, Repr

/-- The exchange is over. -/
def Stage.isTerminal : Stage → Bool
  | .completed | .failed => true
  | _ => false

/-- The stage in words. -/
def Stage.name : Stage → String
  | .idle => "Idle"
  | .connecting => "Connecting"
  | .connected => "Connected"
  | .sending => "Sending"
  | .awaitingResponse => "AwaitingResponse"
  | .completed => "Completed"
  | .failed => "Failed"

end Http1Client
