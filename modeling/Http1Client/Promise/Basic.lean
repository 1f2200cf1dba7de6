import Http1Client.Failure

/-!
# Promises

A promise carries one outcome from the task that works for it, which holds the
*fulfiller*, to whoever awaits it. Each end is used up by its use: the fulfiller
reports at most once, and the promise resolves at most once. A fulfiller that is
dropped lets its promise resolve to `abandoned`; an outcome that nobody awaits is
lost, and nothing else changes.
-/

namespace Http1Client

/-- The end that reports. -/
inductive Fulfiller (α : Type) where
  /-- Nothing reported yet. -/
  | working
  /-- The outcome waits to be read. -/
  | reported (outcome : Outcome α)
  /-- Used up, with nothing to read. -/
  | spent

/-- A promise with its fulfiller. -/
structure Promise (α : Type) where
  fulfiller : Fulfiller α
  /-- The promise has neither resolved nor been dropped. -/
  awaited : Bool

namespace Promise

variable {α : Type}

/-- Nothing reported, and somebody waits. -/
def new : Promise α := ⟨.working, true⟩

/-- What became of a report. -/
inductive Report where
  | delivered
  /-- Nobody awaits the outcome. -/
  | unheard
  /-- The fulfiller is used up already. -/
  | refused
  deriving DecidableEq, Repr

/-- Reports an outcome. -/
def complete (p : Promise α) (outcome : Outcome α) : Promise α × Report :=
  match p.fulfiller with
  | .working =>
    if p.awaited then (⟨.reported outcome, true⟩, .delivered) else (⟨.spent, false⟩, .unheard)
  | _ => (p, .refused)

/-- Drops the fulfiller, and says whether there was one. -/
def giveUp (p : Promise α) : Promise α × Bool :=
  match p.fulfiller with
  | .working => (⟨.spent, p.awaited⟩, true)
  | _ => (p, false)

/-- Drops the end that waits. -/
def forget (p : Promise α) : Promise α := { p with awaited := false }

/-- What a promise says when it is asked. -/
inductive Answer (α : Type) where
  | pending
  | resolved (outcome : Outcome α)
  /-- The promise has resolved before or been dropped. -/
  | gone

/-- Asks for the outcome. -/
def poll (p : Promise α) : Promise α × Answer α :=
  if p.awaited then
    match p.fulfiller with
    | .working => (p, .pending)
    | .reported outcome => (⟨.spent, false⟩, .resolved outcome)
    | .spent => (⟨.spent, false⟩, .resolved (.error .abandoned))
  else (p, .gone)

end Promise

end Http1Client
