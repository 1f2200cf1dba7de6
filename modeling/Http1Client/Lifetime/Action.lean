/-!
# Cleanup actions

A scope is a caller's unit of work; actions queued on it run when it ends. An
action is written as data, so that what a close does can be followed step by
step: it gives back references to buffers, offers further actions to scopes,
leaves marks, and ends well or fails. It never runs another action itself, so
running one is a recursion on its steps.
-/

namespace Http1Client

/-- Names a scope of a store. -/
structure ScopeId where
  index : Nat
  deriving DecidableEq, Repr

/-- Names a buffer of a store. -/
structure BufferId where
  index : Nat
  deriving DecidableEq, Repr

/-- What is to be done when a scope ends. -/
inductive Action where
  /-- Ends well. -/
  | done
  /-- Fails. -/
  | fail
  /-- Gives back the reference that a scope holds on a buffer. -/
  | giveBack (buffer : BufferId)
  /-- Leaves a mark in the journal. -/
  | mark (label : String) (next : Action)
  /-- Releases a reference to a buffer. -/
  | release (buffer : BufferId) (next : Action)
  /-- Offers an action to a scope. -/
  | offer (scope : ScopeId) (action : Action) (next : Action)
  deriving DecidableEq, Repr

/-- How an action, or a run of actions, ends. -/
inductive Ending where
  | fine
  | failed
  deriving DecidableEq, Repr

/-- A queued action with its ticket. -/
structure Entry where
  ticket : Nat
  action : Action
  deriving DecidableEq, Repr

/-- A caller's unit of work. -/
inductive Scope where
  /-- Still going on, with the actions queued on it, the newest first. -/
  | live (queue : List Entry)
  /-- Over; it never queues anything again. -/
  | closed
  deriving DecidableEq, Repr

/-- The scope is over. -/
def Scope.isClosed : Scope → Bool
  | .live _ => false
  | .closed => true

end Http1Client
