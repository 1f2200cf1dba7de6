import Http1Client.Exchange.Conversation
import Http1Client.Promise.Basic

/-!
# How an exchange ends

A conversation that has ended is concluded in the store of the caller, as it is by
then. This is the end of `execute`, which assembles the response, and of `run`: a
message is handed over to the caller's scope, which may be closed, and the
outcome is reported to the promise, which may have been dropped. Both leave a
warning. The last stage says what was reported.

One that broke off reports nothing. Its task is gone, and with it the fulfiller.
-/

namespace Http1Client

/-- The warnings in the journal of a store since an earlier state of it. -/
def Store.warningsSince (earlier s : Store) : List Warning :=
  (s.journal.take (s.journal.length - earlier.journal.length)).reverse.filterMap fun
    | .warned w => some w
    | _ => none

/-- An exchange that is over, or broke off, or waits for ever. -/
structure Conclusion where
  moments : List Moment
  store : Store
  promise : Promise Received

namespace Conversation

/-- Hands a message over to a scope: what is to be reported. -/
def handOver (outcome : Outcome Message) (scope : ScopeId) (store : Store) :
    Store × Outcome Received :=
  match outcome with
  | .ok message => store.deliver message scope
  | .error failure => (store, .error failure)

/-- The stage in which an exchange ends. -/
def lastStage : Outcome Received → Stage
  | .ok _ => .completed
  | .error _ => .failed

/-- Concludes a conversation. -/
def conclude (c : Conversation) (scope : ScopeId) (store : Store) (promise : Promise Received) :
    Conclusion :=
  match c.result with
  | .forever => ⟨c.moments, store, promise⟩
  | .broken => ⟨c.moments, store, promise.giveUp.1⟩
  | .done outcome =>
    let (store', result) := handOver outcome scope store
    let (promise', report) := promise.complete result
    let unheard := if report = .unheard then [Moment.warned .unheardOutcome] else []
    ⟨c.moments ++ (store.warningsSince store').map .warned ++
      [.moved c.stage (lastStage result), .reported result] ++ unheard, store', promise'⟩

end Conversation

end Http1Client
