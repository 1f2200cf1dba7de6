import Http1Client.Promise.Basic

/-!
# Tasks on an event loop

An event loop runs tasks side by side, each with a promise of its own. A task
gives way some number of times and then finishes: it reports an outcome, falls
silent or fails; in the last two cases its fulfiller is dropped. In which order
the loop moves its tasks, and when promises are polled or dropped, is a list of
moves. `settle` is the fair order: every task gets its turn in every round until
all have finished, and then all promises are polled.
-/

namespace Http1Client

/-- How a task finishes. -/
inductive Finish (α : Type) where
  | report (outcome : Outcome α)
  | silent
  | fail

/-- A task that has not finished. -/
structure Job (α : Type) where
  /-- How often it gives way before it finishes. -/
  yields : Nat
  finish : Finish α

/-- A place on the loop: a task, until it has finished, and its promise. -/
structure Slot (α : Type) where
  job : Option (Job α)
  promise : Promise α
  /-- The outcomes to which the promise has resolved. -/
  resolved : List (Outcome α)

namespace Slot

variable {α : Type}

/-- A task that starts. -/
def start (job : Job α) : Slot α := ⟨some job, .new, []⟩

/-- The task takes a step. -/
def advance (s : Slot α) : Slot α :=
  match s.job with
  | none => s
  | some ⟨n + 1, finish⟩ => { s with job := some ⟨n, finish⟩ }
  | some ⟨0, .report outcome⟩ => { s with job := none, promise := (s.promise.complete outcome).1 }
  | some ⟨0, _⟩ => { s with job := none, promise := s.promise.giveUp.1 }

/-- The promise is polled. -/
def poll (s : Slot α) : Slot α :=
  match s.promise.poll with
  | (p, .resolved outcome) => { s with promise := p, resolved := s.resolved ++ [outcome] }
  | (p, _) => { s with promise := p }

/-- The promise is dropped. -/
def forget (s : Slot α) : Slot α := { s with promise := s.promise.forget }

/-- How many steps the task still has to take. -/
def stepsLeft (s : Slot α) : Nat :=
  match s.job with
  | none => 0
  | some job => job.yields + 1

end Slot

/-- One move of a loop, in a slot. -/
inductive Move where
  | advance (slot : Nat)
  | poll (slot : Nat)
  | forget (slot : Nat)
  deriving DecidableEq, Repr

/-- Tasks side by side, in the order they were started. -/
structure EventLoop (α : Type) where
  slots : List (Slot α)

namespace EventLoop

variable {α : Type}

/-- A loop that starts all tasks. -/
def ofJobs (jobs : List (Job α)) : EventLoop α := ⟨jobs.map .start⟩

/-- One move. -/
def step (l : EventLoop α) : Move → EventLoop α
  | .advance i => ⟨l.slots.modify i .advance⟩
  | .poll i => ⟨l.slots.modify i .poll⟩
  | .forget i => ⟨l.slots.modify i .forget⟩

/-- Moves in order. -/
def run (l : EventLoop α) (moves : List Move) : EventLoop α := moves.foldl step l

/-- Rounds until all tasks have finished, and a poll of every promise. -/
def fairMoves (l : EventLoop α) : List Move :=
  let all := List.range l.slots.length
  let rounds := (l.slots.map (·.stepsLeft)).foldl max 0
  (List.replicate rounds (all.map .advance)).flatten ++ all.map .poll

/-- Runs the loop in the fair order. -/
def settle (l : EventLoop α) : EventLoop α := l.run l.fairMoves

/-- What the promises have resolved to, in the order of the tasks. -/
def outcomes (l : EventLoop α) : List (List (Outcome α)) := l.slots.map (·.resolved)

end EventLoop

end Http1Client
