/-!
# Configuration

What all exchanges of a client share. No time limit applies unless it is set: an
unresponsive peer then holds an exchange until it closes or fails.
-/

namespace Http1Client

/-- The port that a scheme implies. -/
def defaultPort (secure : Bool) : Nat := if secure then 443 else 80

/-- Settings of a client. Times are in milliseconds. -/
structure Config where
  /-- The longest body that is accepted, in bytes. -/
  maxContentLength : Nat := 10 * 1024 * 1024
  /-- Limit on connecting, TLS negotiation included. -/
  connectTimeout : Option Nat := none
  /-- Limit on receiving the response once the request is written. -/
  readTimeout : Option Nat := none
  /-- Sent as User-Agent by requests that carry none. -/
  userAgent : Option String := none
  deriving DecidableEq, Repr

end Http1Client
