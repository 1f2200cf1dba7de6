/-!
# Status of a response

A code and a reason phrase, which may be empty. The hundreds of the code say
what class the response belongs to; a code outside them belongs to none.
-/

namespace Http1Client

/-- Code and reason phrase. -/
structure Status where
  code : Nat
  reason : String
  deriving DecidableEq, Repr

namespace Status

/-- The code lies in the hundred that starts at `base`. -/
def inClass (s : Status) (base : Nat) : Bool := base ≤ s.code && s.code < base + 100

/-- The response announces another one, or a change of protocols. -/
def isInformational (s : Status) : Bool := s.inClass 100

/-- The request was understood and done. -/
def isSuccess (s : Status) : Bool := s.inClass 200

/-- The client has to go on elsewhere. -/
def isRedirection (s : Status) : Bool := s.inClass 300

/-- The request is at fault. -/
def isClientError (s : Status) : Bool := s.inClass 400

/-- The server is at fault. -/
def isServerError (s : Status) : Bool := s.inClass 500

/-- The code, and the reason after a space if there is one. -/
def render (s : Status) : String :=
  if s.reason.isEmpty then toString s.code else toString s.code ++ " " ++ s.reason

end Status

end Http1Client
