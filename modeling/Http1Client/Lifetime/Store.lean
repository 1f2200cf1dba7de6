import Http1Client.Lifetime.Action
import Http1Client.Lifetime.Buffer
import Http1Client.Warning

/-!
# Scopes and the buffers they keep alive

A store holds all scopes and buffers. Closing a scope takes its whole queue and
runs it from the newest action to the oldest; if one fails, those after it are
discarded. The scope counts as closed from the moment its queue is taken, so an
action that offers another to the same scope gets it handed back.

`keepUntilClose` is how a body reaches its reader: the scope takes a reference of
its own and queues the action that gives it back.

Every action that is offered gets a ticket, and the journal says what became of
it: it began to run, was handed back, or was discarded; otherwise it is queued.
A scope that is dropped is closed, and a name that the store does not know is
that of a closed scope or a freed buffer.
-/

namespace Http1Client

/-- What the journal of a store says. -/
inductive Note where
  /-- The action of the ticket began to run. -/
  | began (ticket : Nat)
  /-- The action of the ticket came to a closed scope and was not queued. -/
  | handedBack (ticket : Nat)
  /-- The action of the ticket was queued behind one that failed. -/
  | discarded (ticket : Nat)
  /-- A running action left a mark. -/
  | marked (label : String)
  /-- A running action released a buffer, which freed it or not. -/
  | released (buffer : BufferId) (freed : Bool)
  /-- A running action offered another one, which was queued or handed back. -/
  | offered (action : Action) (queued : Bool)
  | warned (warning : Warning)
  deriving DecidableEq, Repr

/-- All scopes and buffers. -/
structure Store where
  scopes : List Scope := []
  buffers : List Buffer := []
  /-- The ticket of the next action that is offered. -/
  nextTicket : Nat := 0
  /-- What happened, the newest first. -/
  journal : List Note := []
  deriving DecidableEq, Repr

namespace Store

/-! ## Looking up and noting down -/

/-- A scope by its name. -/
def scope (s : Store) (e : ScopeId) : Scope := s.scopes[e.index]?.getD .closed

/-- A buffer by its name. -/
def buffer (s : Store) (b : BufferId) : Buffer := s.buffers[b.index]?.getD ⟨0, none⟩

/-- The store with another scope under a name that it knows. -/
def setScope (s : Store) (e : ScopeId) (scope : Scope) : Store :=
  { s with scopes := s.scopes.set e.index scope }

/-- The store with another buffer under a name that it knows. -/
def setBuffer (s : Store) (b : BufferId) (buffer : Buffer) : Store :=
  { s with buffers := s.buffers.set b.index buffer }

/-- Writes into the journal. -/
def note (s : Store) (n : Note) : Store := { s with journal := n :: s.journal }

/-- Writes a warning into the journal. -/
def warn (s : Store) (w : Warning) : Store := s.note (.warned w)

/-- The next ticket, which is used up. -/
def ticket (s : Store) : Store × Nat :=
  ({ s with nextTicket := s.nextTicket + 1 }, s.nextTicket)

/-! ## Buffers -/

/-- A new buffer in the store. -/
def hold (s : Store) (buffer : Buffer) : Store × BufferId :=
  ({ s with buffers := s.buffers ++ [buffer] }, ⟨s.buffers.length⟩)

/-- One more reference to a buffer, and whether there could be one. -/
def retain (s : Store) (b : BufferId) : Store × Bool :=
  match (s.buffer b).retain? with
  | some buffer => (s.setBuffer b buffer, true)
  | none => (s, false)

/-- One reference to a buffer fewer, and whether that freed it. A buffer that is
freed already stays as it is. -/
def release (s : Store) (b : BufferId) : Store × Bool :=
  if (s.buffer b).isFreed then (s.warn .releaseOfFreed, false)
  else
    let (buffer, freed) := (s.buffer b).release
    (s.setBuffer b buffer, freed)

/-! ## Scopes -/

/-- An entry begins to run. -/
def begin (s : Store) (entry : Entry) : Store := s.note (.began entry.ticket)

/-- Entries are discarded, behind one that failed. -/
def discard (s : Store) (rest : List Entry) : Store :=
  rest.foldl (fun s later => s.note (.discarded later.ticket)) s

/-- A new scope. -/
def openScope (s : Store) : Store × ScopeId :=
  ({ s with scopes := s.scopes ++ [.live []] }, ⟨s.scopes.length⟩)

/-- Queues an action on a scope, and says whether it did; a closed scope hands it
back. -/
def offer (s : Store) (e : ScopeId) (a : Action) : Store × Bool :=
  let (s, ticket) := s.ticket
  match s.scope e with
  | .live queue => (s.setScope e (.live (⟨ticket, a⟩ :: queue)), true)
  | .closed => (s.note (.handedBack ticket), false)

/-- Queues an action for the owner of a scope, and says whether it did; on a closed
scope it begins at once. -/
def register (s : Store) (e : ScopeId) (a : Action) : Store × Bool :=
  match s.scope e with
  | .live _ => s.offer e a
  | .closed =>
    let (s, ticket) := s.ticket
    ((s.warn .lateCleanup).begin ⟨ticket, a⟩, false)

/-- Runs an action to its end, or to the step that fails. -/
def run (s : Store) : Action → Store × Ending
  | .done => (s, .fine)
  | .fail => (s, .failed)
  | .giveBack b => ((s.release b).1, .fine)
  | .mark label next => run (s.note (.marked label)) next
  | .release b next =>
    let (s, freed) := s.release b
    run (s.note (.released b freed)) next
  | .offer e a next =>
    let (s, queued) := s.offer e a
    run (s.note (.offered a queued)) next

/-- Runs a queue up to the first action that fails and discards the rest. -/
def runQueue (s : Store) : List Entry → Store × Ending
  | [] => (s, .fine)
  | entry :: rest =>
    match (s.begin entry).run entry.action with
    | (s, .fine) => runQueue s rest
    | (s, .failed) => (s.discard rest, .failed)

/-- Takes the queue of a scope, which is closed from then on; there is none if it is
closed already. -/
def takeQueue (s : Store) (e : ScopeId) : Option (List Entry × Store) :=
  match s.scope e with
  | .live queue => some (queue, s.setScope e .closed)
  | .closed => none

/-- Ends a scope. One that is over already stays as it is. -/
def close (s : Store) (e : ScopeId) : Store × Ending :=
  match s.takeQueue e with
  | some (queue, s) => s.runQueue queue
  | none => (s, .fine)

/-- Registers an action for the owner of a scope. On a closed scope it runs at once,
and may fail there. -/
def onCleanup (s : Store) (e : ScopeId) (a : Action) : Store × Ending :=
  match s.register e a with
  | (s, true) => (s, .fine)
  | (s, false) => s.run a

/-- A reference to a buffer that lasts as long as a scope, and whether there could
be one. Without a scope to hold it the reference is given back at once. -/
def keepUntilClose (s : Store) (b : BufferId) (e : ScopeId) : Store × Bool :=
  match s.retain b with
  | (s, false) => (s, false)
  | (s, true) =>
    match s.offer e (.giveBack b) with
    | (s, true) => (s, true)
    | (s, false) => (((s.warn .lateResponse).release b).1, false)

end Store

end Http1Client
