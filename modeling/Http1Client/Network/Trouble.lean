import Http1Client.Response.Fault

/-!
# Trouble with the network

What goes wrong below HTTP, in the words of the system or the library that
reports it: these are the errors of sockets, of the resolver and of `rustls`, as
far as they are told apart. An operation may also be met by silence: no answer,
ever. `Wait` is the result of an operation for which that can be so, and a time
limit turns silence into a failure.

One trouble is told from the others: bytes that TLS refuses, or an alert in their
place. Without TLS there is nothing that would refuse bytes.
-/

namespace Http1Client

/-- What goes wrong. -/
inductive Trouble where
  | refused
  | reset
  | brokenPipe
  | noRoute
  | networkDown
  | timedOut
  /-- A write that took nothing. -/
  | nothingTaken
  /-- A name that is not known. -/
  | unknownName
  /-- A name without addresses. -/
  | noAddress
  /-- Bytes that TLS refuses, or an alert. -/
  | corrupt (detail : String)
  /-- Anything else. -/
  | other (detail : String)
  deriving DecidableEq, Repr

/-- The trouble in words. -/
def Trouble.message : Trouble → String
  | .refused => "Connection refused (os error 111)"
  | .reset => "Connection reset by peer (os error 104)"
  | .brokenPipe => "Broken pipe (os error 32)"
  | .noRoute => "No route to host (os error 113)"
  | .networkDown => "Network is unreachable (os error 101)"
  | .timedOut => "Connection timed out (os error 110)"
  | .nothingTaken => "write zero"
  | .unknownName => "failed to lookup address information: Name or service not known"
  | .noAddress => "could not resolve to any address"
  | .corrupt detail | .other detail => detail

/-- The failure of a read that meets the trouble. -/
def Trouble.readFailure : Trouble → Failure
  | .corrupt detail => .tlsFailed detail
  | t => Fault.toFailure (.readFailed t.message)

theorem Trouble.readFailure_cases (t : Trouble) :
    (∃ detail, t = .corrupt detail ∧ t.readFailure = .tlsFailed detail) ∨
      ∃ detail, t.readFailure = .malformed detail := by
  cases t with
  | corrupt detail => exact .inl ⟨detail, rfl, rfl⟩
  | _ => exact .inr ⟨_, rfl⟩

/-- What stops an operation. -/
inductive Stop where
  | trouble (t : Trouble)
  | silence
  deriving DecidableEq, Repr

/-- What stops an operation where there is no TLS. -/
def Stop.plain : Stop → Stop
  | .trouble (.corrupt detail) => .trouble (.other detail)
  | stop => stop

/-- What comes of an operation that may never end. -/
inductive Wait (α : Type) where
  | done (value : α)
  | forever
  deriving DecidableEq, Repr

end Http1Client
