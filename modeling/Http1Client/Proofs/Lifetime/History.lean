import Http1Client.Proofs.Lifetime.Store
import Http1Client.Response.Received
import Mathlib.Logic.Function.Iterate

/-!
# What callers do, step by step

A history takes calls one after another and does each of them in steps, so that every moment
can be looked at: also those in the middle of a close, between two actions and between two
steps of one. All that changes the store is the operations of the store itself. Beside the
store stands the list of *deeds*, which nothing is decided by: it tells who gave and took the
references to a buffer, and what became of what was queued.

A drop ends a scope as `close` does, with or without a failure under way, so there is one call
for all of them. An action that was handed back is run by `perform`, or not at all.

`faithful` says that the steps come to what the calls do in one go.
-/

namespace Http1Client

/-- What a caller does. -/
inductive Call where
  /-- A new buffer. -/
  | hold (bytes : Bytes)
  | openScope
  | retain (b : BufferId)
  | release (b : BufferId)
  | keepUntilClose (b : BufferId) (e : ScopeId)
  | assemble (status : Status) (headers : Headers) (content : BufferId) (e : ScopeId)
  | onCleanup (e : ScopeId) (a : Action)
  | offer (e : ScopeId) (a : Action)
  /-- Runs an action. -/
  | perform (a : Action)
  /-- Ends a scope, explicitly or by dropping it. -/
  | close (e : ScopeId)
  deriving DecidableEq, Repr

/-- What a call does to a store. -/
def Store.call (s : Store) : Call → Store
  | .hold bytes => (s.hold (.new bytes)).1
  | .openScope => s.openScope.1
  | .retain b => (s.retain b).1
  | .release b => (s.release b).1
  | .keepUntilClose b e => (s.keepUntilClose b e).1
  | .assemble status headers content e => (s.assemble status headers content e).1
  | .onCleanup e a => (s.onCleanup e a).1
  | .offer e a => (s.offer e a).1
  | .perform a => (s.run a).1
  | .close e => (s.close e).1

/-- A reference to a buffer that a scope took, to be given back under a ticket. -/
structure Lease where
  buffer : BufferId
  scope : ScopeId
  ticket : Nat
  deriving DecidableEq, Repr

/-- The entry that gives it back, and the scope on which that is queued. -/
def Lease.entry (l : Lease) : ScopeId × Entry := (l.scope, ⟨l.ticket, .giveBack l.buffer⟩)

/-- One thing that has happened to a buffer or a scope. -/
inductive Deed where
  /-- A buffer was made, with the reference of its maker. -/
  | made (b : BufferId) (bytes : Bytes)
  /-- A caller got another reference. -/
  | retained (b : BufferId)
  /-- A caller or an action released a reference, which freed the buffer or not. -/
  | released (b : BufferId) (freed : Bool)
  /-- A response used up the reference of its message. -/
  | consumed (b : BufferId) (freed : Bool)
  | kept (l : Lease)
  | returned (l : Lease) (freed : Bool)
  | queued (e : ScopeId) (entry : Entry)
  | began (e : ScopeId) (entry : Entry)
  /-- An action failed, and those behind it were discarded. -/
  | failed (e : ScopeId)
  deriving DecidableEq, Repr

/-- What a history is at. -/
inductive Work where
  /-- Between two calls. -/
  | idle
  /-- Closing a scope, with entries that are still to be run. -/
  | closing (e : ScopeId) (rest : List Entry)
  /-- Running an action, and what is to be run after it. -/
  | acting (behind : Option (ScopeId × List Entry)) (a : Action)
  deriving DecidableEq, Repr

/-- What comes after an action that ends well. -/
def Work.after : Option (ScopeId × List Entry) → Work
  | none => .idle
  | some (e, rest) => .closing e rest

/-- Calls that are being done. -/
structure History where
  store : Store
  work : Work
  /-- The calls that have not begun yet. -/
  calls : List Call
  /-- What has happened, the newest first. -/
  deeds : List Deed
  deriving DecidableEq, Repr

namespace History

/-- Before the first call. -/
def start (calls : List Call) : History := ⟨{}, .idle, calls, []⟩

/-- Goes on with another store, with what has happened to it. -/
def go (h : History) (s : Store) (work : Work) (deeds : List Deed) : History :=
  ⟨s, work, h.calls, deeds ++ h.deeds⟩

/-- The reference that an entry gives back, if a scope took it. -/
def keptBy (h : History) (e : ScopeId) (x : Entry) : Option BufferId :=
  match x.action with
  | .giveBack b => if .kept ⟨b, e, x.ticket⟩ ∈ h.deeds then some b else none
  | _ => none

/-- Offers an action to a scope. -/
def offer (h : History) (e : ScopeId) (a : Action) : Store × Bool × List Deed :=
  let (s, queued) := h.store.offer e a
  (s, queued, if queued then [.queued e ⟨h.store.nextTicket, a⟩] else [])

/-- Takes a reference that lasts as long as a scope. -/
def keep (h : History) (b : BufferId) (e : ScopeId) : Store × List Deed :=
  let (s, kept) := h.store.keepUntilClose b e
  (s, if kept then
    [.kept ⟨b, e, h.store.nextTicket⟩, .queued e ⟨h.store.nextTicket, .giveBack b⟩] else [])

/-- Begins a call; most of them are done with that. -/
def begin (h : History) : Call → History
  | .hold bytes =>
    let (s, b) := h.store.hold (.new bytes)
    h.go s .idle [.made b bytes]
  | .openScope => h.go h.store.openScope.1 .idle []
  | .retain b =>
    let (s, more) := h.store.retain b
    h.go s .idle (if more then [.retained b] else [])
  | .release b =>
    let (s, freed) := h.store.release b
    h.go s .idle [.released b freed]
  | .keepUntilClose b e =>
    let (s, deeds) := h.keep b e
    h.go s .idle deeds
  | .assemble _ _ content e =>
    let (s, deeds) := h.keep content e
    let (s, freed) := s.release content
    h.go s .idle (.consumed content freed :: deeds)
  | .onCleanup e a =>
    match h.store.register e a with
    | (s, true) => h.go s .idle [.queued e ⟨h.store.nextTicket, a⟩]
    | (s, false) => h.go s (.acting none a) []
  | .offer e a =>
    let (s, _, deeds) := h.offer e a
    h.go s .idle deeds
  | .perform a => h.go h.store (.acting none a) []
  | .close e =>
    match h.store.takeQueue e with
    | some (queue, s) => h.go s (.closing e queue) []
    | none => h

/-- Begins to run an entry of a scope that is being closed. To give back a reference that the
scope took is one step; any other action is run in steps of its own. -/
def enter (h : History) (e : ScopeId) (x : Entry) (rest : List Entry) : History :=
  let s := h.store.begin x
  match h.keptBy e x with
  | some b =>
    let (s, freed) := s.release b
    h.go s (.closing e rest) [.returned ⟨b, e, x.ticket⟩ freed, .began e x]
  | none => h.go s (.acting (some (e, rest)) x.action) [.began e x]

/-- A step of an action. -/
def act (h : History) (behind : Option (ScopeId × List Entry)) : Action → History
  | .done => h.go h.store (.after behind) []
  | .fail =>
    match behind with
    | none => h.go h.store .idle []
    | some (e, rest) => h.go (h.store.discard rest) .idle [.failed e]
  | .giveBack b =>
    let (s, freed) := h.store.release b
    h.go s (.after behind) [.released b freed]
  | .mark label next => h.go (h.store.note (.marked label)) (.acting behind next) []
  | .release b next =>
    let (s, freed) := h.store.release b
    h.go (s.note (.released b freed)) (.acting behind next) [.released b freed]
  | .offer e a next =>
    let (s, queued, deeds) := h.offer e a
    h.go (s.note (.offered a queued)) (.acting behind next) deeds

/-- One step. -/
def step (h : History) : History :=
  match h.work with
  | .idle =>
    match h.calls with
    | [] => h
    | c :: calls => { h with calls := calls }.begin c
  | .closing _ [] => h.go h.store .idle []
  | .closing e (x :: rest) => h.enter e x rest
  | .acting behind a => h.act behind a

/-- The history after a number of steps. -/
def after (calls : List Call) (n : Nat) : History := step^[n] (start calls)

theorem after_succ (calls : List Call) (n : Nat) : after calls (n + 1) = (after calls n).step :=
  Function.iterate_succ_apply' step n (start calls)

variable {h next last : History} {calls : List Call} {e : ScopeId} {queue : List Entry}

/-! ## How calls on a scope begin -/

theorem begin_onCleanup_of_live (hlive : h.store.scope e = .live queue) (a : Action) :
    h.begin (.onCleanup e a) = h.begin (.offer e a) := by
  simp only [begin, offer, Store.register_of_live hlive, Store.offer_of_live hlive, if_true]

theorem begin_onCleanup_of_closed (hclosed : h.store.scope e = .closed) (a : Action) :
    h.begin (.onCleanup e a) = h.go (h.store.register e a).1 (.acting none a) [] := by
  simp only [begin, Store.register_of_closed hclosed]

theorem begin_close_of_live (hlive : h.store.scope e = .live queue) :
    h.begin (.close e) = h.go (h.store.setScope e .closed) (.closing e queue) [] := by
  simp only [begin, Store.takeQueue_of_live hlive]

theorem begin_close_of_closed (hclosed : h.store.scope e = .closed) :
    h.begin (.close e) = h := by
  simp only [begin, Store.takeQueue_of_closed hclosed]

/-- On a scope that is live, an action for its owner is offered to it; on any other it runs. -/
theorem begin_onCleanup_cases (h : History) (e : ScopeId) (a : Action) :
    h.begin (.onCleanup e a) = h.begin (.offer e a) ∨
      h.store.Unmoved (h.store.register e a).1 ∧
        h.begin (.onCleanup e a) = h.go (h.store.register e a).1 (.acting none a) [] := by
  cases hscope : h.store.scope e with
  | live queue => exact .inl (begin_onCleanup_of_live hscope a)
  | closed =>
    refine .inr ⟨?_, begin_onCleanup_of_closed hscope a⟩
    rw [Store.register_of_closed hscope]
    exact ⟨rfl, rfl, Nat.le_succ _⟩

/-- A close takes the queue of a scope that is live, and does nothing to any other. -/
theorem begin_close_cases (h : History) (e : ScopeId) :
    (∃ queue, h.store.scope e = .live queue ∧
      h.begin (.close e) = h.go (h.store.setScope e .closed) (.closing e queue) []) ∨
    h.begin (.close e) = h := by
  cases hscope : h.store.scope e with
  | live queue => exact .inl ⟨queue, rfl, begin_close_of_live hscope⟩
  | closed => exact .inr (begin_close_of_closed hscope)

/-! ## The steps come to what the calls do -/

/-- Steps lead from one history to another. -/
def Reaches (h last : History) : Prop := ∃ n, step^[n] h = last

theorem Reaches.refl (h : History) : Reaches h h := ⟨0, rfl⟩

theorem Reaches.step (hstep : h.step = next) (hlast : Reaches next last) : Reaches h last := by
  obtain ⟨n, hn⟩ := hlast
  exact ⟨n + 1, by rw [Function.iterate_succ_apply, hstep, hn]⟩

theorem Reaches.trans (hnext : Reaches h next) (hlast : Reaches next last) : Reaches h last := by
  obtain ⟨n, rfl⟩ := hnext
  obtain ⟨m, rfl⟩ := hlast
  exact ⟨m + n, Function.iterate_add_apply _ m n h⟩

/-- An action that a scope queued to give back a reference is nothing else. -/
theorem action_of_keptBy {e : ScopeId} {x : Entry} {b : BufferId} (hkept : h.keptBy e x = some b) :
    x.action = .giveBack b ∧ .kept ⟨b, e, x.ticket⟩ ∈ h.deeds := by
  unfold keptBy at hkept
  split at hkept
  · next hx =>
    split at hkept
    · next hmem =>
      cases hkept
      exact ⟨hx, hmem⟩
    · cases hkept
  · cases hkept

/-- The entry of a lease gives back the reference. -/
theorem keptBy_of_lease {l : Lease} (hkept : .kept l ∈ h.deeds) :
    h.keptBy l.scope l.entry.2 = some l.buffer := if_pos hkept

theorem enter_of_kept {e : ScopeId} {x : Entry} {b : BufferId} (hkept : h.keptBy e x = some b)
    (rest : List Entry) :
    h.enter e x rest = h.go ((h.store.begin x).release b).1 (.closing e rest)
      [.returned ⟨b, e, x.ticket⟩ ((h.store.begin x).release b).2, .began e x] := by
  unfold enter
  simp only [hkept]

theorem enter_of_unkept {e : ScopeId} {x : Entry} (hkept : h.keptBy e x = none)
    (rest : List Entry) :
    h.enter e x rest =
      h.go (h.store.begin x) (.acting (some (e, rest)) x.action) [.began e x] := by
  unfold enter
  simp only [hkept]

/-- What is left when an action has ended. -/
def ended (calls : List Call) (behind : Option (ScopeId × List Entry)) (deeds : List Deed) :
    Store × Ending → History
  | (s, .fine) => ⟨s, .after behind, calls, deeds⟩
  | (s, .failed) =>
    match behind with
    | none => ⟨s, .idle, calls, deeds⟩
    | some (_, rest) => ⟨s.discard rest, .idle, calls, deeds⟩

/-- An action is run to its end. -/
theorem exists_ended (calls : List Call) (behind : Option (ScopeId × List Entry)) (a : Action)
    (s : Store) (deeds : List Deed) :
    ∃ deeds', Reaches ⟨s, .acting behind a, calls, deeds⟩
      (ended calls behind deeds' (s.run a)) := by
  induction a generalizing s deeds with
  | done => exact ⟨_, .step rfl (.refl _)⟩
  | fail => cases behind <;> exact ⟨_, .step rfl (.refl _)⟩
  | giveBack b => exact ⟨_, .step rfl (.refl _)⟩
  | mark label next ih =>
    obtain ⟨deeds', hnext⟩ := ih (s.note (.marked label)) deeds
    exact ⟨deeds', .step rfl hnext⟩
  | release b next ih =>
    obtain ⟨deeds', hnext⟩ := ih _ _
    exact ⟨deeds', .step rfl hnext⟩
  | offer e a next _ ih =>
    obtain ⟨deeds', hnext⟩ := ih _ _
    exact ⟨deeds', .step rfl hnext⟩

/-- An entry of a scope that is being closed is run, and the rest after it or not. -/
theorem exists_entered (calls : List Call) (e : ScopeId) (x : Entry) (rest : List Entry)
    (s : Store) (deeds : List Deed) :
    ∃ deeds', Reaches ⟨s, .closing e (x :: rest), calls, deeds⟩
      (ended calls (some (e, rest)) deeds' ((s.begin x).run x.action)) := by
  cases hkept : keptBy ⟨s, .closing e (x :: rest), calls, deeds⟩ e x with
  | some b =>
    rw [(action_of_keptBy hkept).1]
    exact ⟨_, .step (enter_of_kept hkept rest) (.refl _)⟩
  | none =>
    obtain ⟨deeds', hrun⟩ := exists_ended calls (some (e, rest)) x.action
      (s.begin x) (.began e x :: deeds)
    exact ⟨deeds', .step (enter_of_unkept hkept rest) hrun⟩

/-- A queue is run to its end. -/
theorem exists_closed (calls : List Call) (e : ScopeId) (queue : List Entry) (s : Store)
    (deeds : List Deed) :
    ∃ deeds', Reaches ⟨s, .closing e queue, calls, deeds⟩
      ⟨(s.runQueue queue).1, .idle, calls, deeds'⟩ := by
  induction queue generalizing s deeds with
  | nil => exact ⟨deeds, .step rfl (.refl _)⟩
  | cons x rest ih =>
    obtain ⟨deeds', hentered⟩ := exists_entered calls e x rest s deeds
    unfold Store.runQueue
    rcases hrun : (s.begin x).run x.action with ⟨s', ending⟩
    rw [hrun] at hentered
    cases ending with
    | fine =>
      obtain ⟨deeds'', hrest⟩ := ih s' deeds'
      exact ⟨deeds'', hentered.trans hrest⟩
    | failed => exact ⟨deeds', hentered⟩

/-- An action that nothing comes after is run to its end, good or bad. -/
theorem exists_performed (calls : List Call) (a : Action) (s : Store) (deeds : List Deed) :
    ∃ deeds', Reaches ⟨s, .acting none a, calls, deeds⟩ ⟨(s.run a).1, .idle, calls, deeds'⟩ := by
  obtain ⟨deeds', hrun⟩ := exists_ended calls none a s deeds
  refine ⟨deeds', ?_⟩
  rcases hending : s.run a with ⟨s', ending⟩
  rw [hending] at hrun
  cases ending <;> exact hrun

/-- A call is done. -/
theorem exists_called (calls : List Call) (c : Call) (s : Store) (deeds : List Deed) :
    ∃ deeds', Reaches ⟨s, .idle, c :: calls, deeds⟩ ⟨s.call c, .idle, calls, deeds'⟩ := by
  cases c with
  | onCleanup e a =>
    cases hscope : s.scope e with
    | live queue =>
      rw [Store.call, Store.onCleanup_of_live hscope]
      exact ⟨_, .step (begin_onCleanup_of_live hscope a) (.refl _)⟩
    | closed =>
      rw [Store.call, Store.onCleanup_of_closed hscope]
      obtain ⟨deeds', hrun⟩ := exists_performed calls a (s.register e a).1 deeds
      exact ⟨deeds', .step (begin_onCleanup_of_closed hscope a) hrun⟩
  | perform a =>
    obtain ⟨deeds', hrun⟩ := exists_performed calls a s deeds
    exact ⟨deeds', .step rfl hrun⟩
  | close e =>
    cases hscope : s.scope e with
    | live queue =>
      rw [Store.call, Store.close_of_live hscope]
      obtain ⟨deeds', hrun⟩ := exists_closed calls e queue (s.setScope e .closed) deeds
      exact ⟨deeds', .step (begin_close_of_live hscope) hrun⟩
    | closed =>
      rw [Store.call, Store.close_of_closed hscope]
      exact ⟨deeds, .step (begin_close_of_closed hscope) (.refl _)⟩
  | _ => exact ⟨_, .step rfl (.refl _)⟩

/-- Between any two of the calls comes a moment at which the store is the one that the calls
before it leave when each is done in one go. -/
def Faithful (calls : List Call) : Prop :=
  ∀ done rest, done ++ rest = calls →
    ∃ n deeds, after calls n = ⟨done.foldl Store.call {}, .idle, rest, deeds⟩

/-- The steps come to what the calls do. -/
theorem faithful (calls : List Call) : Faithful calls := by
  rintro done calls rfl
  have hdone : ∀ (done : List Call) (s : Store) (deeds : List Deed), ∃ deeds',
      Reaches ⟨s, .idle, done ++ calls, deeds⟩ ⟨done.foldl Store.call s, .idle, calls, deeds'⟩ := by
    intro done
    induction done with
    | nil => exact fun s deeds => ⟨deeds, .refl _⟩
    | cons c done ih =>
      intro s deeds
      obtain ⟨deeds', hcalled⟩ := exists_called (done ++ calls) c s deeds
      obtain ⟨deeds'', hrest⟩ := ih (s.call c) deeds'
      exact ⟨deeds'', hcalled.trans hrest⟩
  obtain ⟨deeds, n, hn⟩ := hdone done {} []
  exact ⟨n, deeds, hn⟩

end History

end Http1Client
