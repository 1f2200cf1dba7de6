/-!
# Warnings

What is out of order without being a failure: the operation goes on, and the
warning is all that tells.
-/

namespace Http1Client

/-- What a warning is about. -/
inductive Warning where
  /-- An action came to a closed scope and is run at once. -/
  | lateCleanup
  /-- A buffer without references was released. -/
  | releaseOfFreed
  /-- A response has nobody left to read it. -/
  | lateResponse
  /-- An outcome was reported and nobody waits for it. -/
  | unheardOutcome
  deriving DecidableEq, Repr

/-- The warning in words. -/
def Warning.message : Warning → String
  | .lateCleanup => "cleanup registered on a closed execution; running it now"
  | .releaseOfFreed => "release on a freed body buffer ignored"
  | .lateResponse => "response arrived after the caller's execution closed"
  | .unheardOutcome => "exchange completed after its promise was dropped"

end Http1Client
