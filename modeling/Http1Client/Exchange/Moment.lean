import Http1Client.Exchange.Stage
import Http1Client.Network.Address
import Http1Client.Response.Received

/-!
# What an exchange does

The course of an exchange is a list of moments, in order: the stages it goes
through, what it does with the network, and at the end what it reports. That is
what the task of an exchange does and can be seen to do: each `transition`, each
call on its connection and its fulfiller, and each warning.
-/

namespace Http1Client

/-- One thing that an exchange does. -/
inductive Moment where
  /-- From one stage to another. -/
  | moved (source target : Stage)
  /-- Tried to connect. -/
  | dialled (endpoint : Endpoint)
  /-- The peer took bytes of the request. -/
  | wrote (data : Bytes)
  /-- Bytes of the response arrived. -/
  | read (data : Bytes)
  /-- Passed over an interim response. -/
  | skipped (code : Nat)
  /-- Shut the connection down. -/
  | shutDown
  | warned (warning : Warning)
  /-- Reported the outcome. -/
  | reported (outcome : Outcome Received)

end Http1Client
