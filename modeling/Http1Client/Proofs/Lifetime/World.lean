import Http1Client.Proofs.Lifetime.Queues

/-!
# Scopes in a world of their own

A world is a store with all closes that have begun on it, any number of them at the same time.
What happens in it is a list of moves in any order: callers and running actions open scopes, offer
actions and close scopes, and a close begins its next action, comes to its end or meets a
failure. So an action can do anything while it runs, also end other scopes or its own, and so
can several callers at once. A move that is not possible changes nothing.

Beside the store stand two records, which nothing but `begin`, `finish` and `fail` looks at:
the closes, and for each ticket what was offered under it. All that changes the store is its own
operations.

`World.call` does a whole call, as `Store.call` does, and writes down what that offers and closes,
which is told by the call and the store before it. It is a run of moves (`leads_call`), and where
no close is under way, none is after it (`rested_call`).
-/

namespace Http1Client

/-- Through what an action is offered to a scope. -/
inductive Door where
  | owner
  | reference
  deriving DecidableEq, Repr

/-- An action that was offered to a scope. -/
structure Offer where
  scope : ScopeId
  door : Door
  action : Action
  /-- The scope was closed then. -/
  late : Bool
  deriving DecidableEq, Repr

/-- A close that has taken a queue. -/
structure Closing where
  scope : ScopeId
  /-- The entries that have begun, the first first. -/
  ran : List Entry
  /-- The entries after them. -/
  rest : List Entry
  /-- How it ended, if it has. -/
  ending : Option Ending
  deriving DecidableEq, Repr

/-- The queue that was taken, in the order in which it is run. -/
def Closing.queue (c : Closing) : List Entry := c.ran ++ c.rest

/-- Scopes, the closes that have begun and the offers under their tickets. -/
structure World where
  store : Store
  offers : List Offer
  closings : List Closing
  deriving DecidableEq, Repr

namespace World

/-- Before anything has happened. -/
def start : World := ⟨{}, [], []⟩

/-- One thing that happens. -/
inductive Move where
  | openScope
  | hold (buffer : Buffer)
  | retain (b : BufferId)
  | release (b : BufferId)
  /-- Something else is written into the journal. -/
  | remark (n : Note)
  /-- An action is offered through a reference. -/
  | offer (e : ScopeId) (a : Action)
  /-- An action is registered by the owner of a scope. -/
  | register (e : ScopeId) (a : Action)
  /-- A scope is closed, by its owner or because that is dropped. -/
  | close (e : ScopeId)
  /-- A close begins its next action; the one before has ended well. -/
  | begin (i : Nat)
  /-- A close has nothing left to begin. -/
  | finish (i : Nat)
  /-- The action that a close has begun last fails. -/
  | fail (i : Nat)
  deriving DecidableEq, Repr

end World

/-- What becomes of a ticket that is not queued any more. -/
inductive Fate where
  | begun
  | handedBack
  | discarded
  deriving DecidableEq, Repr

/-- The fate of which a note tells. -/
def Note.fate? : Note → Option (Nat × Fate)
  | .began t => some (t, .begun)
  | .handedBack t => some (t, .handedBack)
  | .discarded t => some (t, .discarded)
  | _ => none

namespace World

/-- One move. -/
def step (w : World) : Move → World
  | .openScope => { w with store := w.store.openScope.1 }
  | .hold buffer => { w with store := (w.store.hold buffer).1 }
  | .retain b => { w with store := (w.store.retain b).1 }
  | .release b => { w with store := (w.store.release b).1 }
  | .remark n => if n.fate? = none then { w with store := w.store.note n } else w
  | .offer e a =>
    { w with
      store := (w.store.offer e a).1
      offers := w.offers ++ [⟨e, .reference, a, (w.store.scope e).isClosed⟩] }
  | .register e a =>
    { w with
      store := (w.store.register e a).1
      offers := w.offers ++ [⟨e, .owner, a, (w.store.scope e).isClosed⟩] }
  | .close e =>
    match w.store.takeQueue e with
    | some (queue, s) =>
      { w with
        store := s
        closings := w.closings ++ [⟨e, [], queue, none⟩] }
    | none => w
  | .begin i =>
    match w.closings[i]? with
    | some ⟨e, ran, x :: rest, none⟩ =>
      { w with
        store := w.store.begin x
        closings := w.closings.set i ⟨e, ran ++ [x], rest, none⟩ }
    | _ => w
  | .finish i =>
    match w.closings[i]? with
    | some ⟨e, ran, [], none⟩ => { w with closings := w.closings.set i ⟨e, ran, [], some .fine⟩ }
    | _ => w
  | .fail i =>
    match w.closings[i]? with
    | some ⟨e, x :: ran, rest, none⟩ =>
      { w with
        store := w.store.discard rest
        closings := w.closings.set i ⟨e, x :: ran, rest, some .failed⟩ }
    | _ => w

/-- Moves in order. -/
def run (w : World) (moves : List Move) : World := moves.foldl step w

/-- Some moves lead from one world to another. -/
def Leads (w w' : World) : Prop := ∃ moves, w.run moves = w'

end World

/-! ## What a call offers and closes -/

/-- The entries of a queue behind the first that fails. -/
def lost : List Entry → List Entry
  | [] => []
  | x :: rest => if x.action.fails then rest else lost rest

theorem ran_append_lost (queue : List Entry) : ran queue ++ lost queue = queue := by
  induction queue with
  | nil => rfl
  | cons x rest ih =>
    rw [ran, lost, List.cons_append]
    cases x.action.fails with
    | true => rfl
    | false => exact congrArg (x :: ·) ih

/-- How a close of a queue ends. -/
def ending (queue : List Entry) : Ending :=
  if queue.any (·.action.fails) then .failed else .fine

theorem ending_cons (x : Entry) (queue : List Entry) :
    ending (x :: queue) = if x.action.fails then .failed else ending queue := by
  unfold ending
  rw [List.any_cons]
  cases x.action.fails <;> rfl

namespace Store

/-- What an action offers that is run. It opens and closes no scope, so that what is late is told
by the store before it. -/
def offering (s : Store) : Action → List Offer
  | .done | .fail | .giveBack _ => []
  | .mark _ next | .release _ next => s.offering next
  | .offer e a next => ⟨e, .reference, a, (s.scope e).isClosed⟩ :: s.offering next

/-- What entries offer that are run one after another. -/
def offeringAll (s : Store) (entries : List Entry) : List Offer :=
  entries.flatMap fun x => s.offering x.action

/-- What is offered to have a reference given back; without a reference it is nothing. -/
def offeringBack (s : Store) (b : BufferId) (e : ScopeId) : List Offer :=
  if (s.retain b).2 then [⟨e, .reference, .giveBack b, (s.scope e).isClosed⟩] else []

/-- What a call offers. -/
def offered (s : Store) : Call → List Offer
  | .hold _ | .openScope | .retain _ | .release _ => []
  | .keepUntilClose b e | .assemble _ _ b e => s.offeringBack b e
  | .offer e a => [⟨e, .reference, a, (s.scope e).isClosed⟩]
  | .onCleanup e a =>
    let late := (s.scope e).isClosed
    ⟨e, .owner, a, late⟩ :: if late then s.offering a else []
  | .perform a => s.offering a
  | .close e =>
    match s.scope e with
    | .live queue => (s.setScope e .closed).offeringAll (ran queue)
    | .closed => []

/-- The close that a call is, from its beginning to its end. -/
def closings (s : Store) : Call → List Closing
  | .close e =>
    match s.scope e with
    | .live queue => [⟨e, ran queue, lost queue, some (ending queue)⟩]
    | .closed => []
  | _ => []

/-- The same scopes are closed. -/
def ClosedAlike (s s' : Store) : Prop := ∀ e, (s'.scope e).isClosed = (s.scope e).isClosed

variable {s s' s'' : Store}

theorem closedAlike_of_scopes (h : s'.scopes = s.scopes) : ClosedAlike s s' := by
  intro e
  rw [scope_eq_of_scopes h]

theorem ClosedAlike.trans (h : ClosedAlike s s') (h' : ClosedAlike s' s'') : ClosedAlike s s'' :=
  fun e => (h' e).trans (h e)

theorem closedAlike_offer (s : Store) (e : ScopeId) (a : Action) :
    ClosedAlike s (s.offer e a).1 := by
  intro other
  cases hscope : s.scope e with
  | live queue =>
    rw [scope_offer hscope]
    split
    · next heq =>
      rw [heq, hscope]
      rfl
    · rfl
  | closed =>
    rw [offer_of_closed hscope]
    rfl

/-- To run an action opens and closes nothing. -/
theorem closedAlike_run (a : Action) (s : Store) : ClosedAlike s (s.run a).1 := by
  induction a generalizing s with
  | done => exact closedAlike_of_scopes rfl
  | fail => exact closedAlike_of_scopes rfl
  | giveBack b => exact closedAlike_of_scopes (s.release_scopes b).1
  | mark label next ih => exact ih (s.note (.marked label))
  | release b next ih =>
    exact (closedAlike_of_scopes (s.release_scopes b).1).trans (ih ((s.release b).1.note _))
  | offer e a next _ ih => exact (closedAlike_offer s e a).trans (ih ((s.offer e a).1.note _))

theorem offering_congr (h : ClosedAlike s s') (a : Action) : s'.offering a = s.offering a := by
  induction a with
  | done => rfl
  | fail => rfl
  | giveBack b => rfl
  | mark label next ih => exact ih
  | release b next ih => exact ih
  | offer e a next _ ih => rw [offering, offering, h e, ih]

theorem offeringAll_congr (h : ClosedAlike s s') (entries : List Entry) :
    s'.offeringAll entries = s.offeringAll entries := by
  unfold offeringAll
  simp only [offering_congr h]

/-- An action ends as it is written. -/
theorem run_ending (s : Store) (a : Action) :
    (s.run a).2 = if a.fails then .failed else .fine := by
  induction a generalizing s with
  | done => rfl
  | fail => rfl
  | giveBack b => rfl
  | mark label next ih => exact ih _
  | release b next ih => exact ih _
  | offer e a next _ ih => exact ih _

variable {x : Entry}

/-- A queue goes on behind an action that ends well. -/
theorem runQueue_of_fine (hx : x.action.fails = false) (rest : List Entry) :
    s.runQueue (x :: rest) = ((s.begin x).run x.action).1.runQueue rest := by
  have hending := (s.begin x).run_ending x.action
  rw [hx] at hending
  rw [runQueue]
  rcases hrun : (s.begin x).run x.action with ⟨s', ending⟩
  rw [hrun] at hending
  cases hending
  rfl

/-- Behind one that fails it is discarded. -/
theorem runQueue_of_fails (hx : x.action.fails = true) (rest : List Entry) :
    s.runQueue (x :: rest) = (((s.begin x).run x.action).1.discard rest, .failed) := by
  have hending := (s.begin x).run_ending x.action
  rw [hx] at hending
  rw [runQueue]
  rcases hrun : (s.begin x).run x.action with ⟨s', ending⟩
  rw [hrun] at hending
  cases hending
  rfl

theorem runQueue_ending (queue : List Entry) (s : Store) : (s.runQueue queue).2 = ending queue := by
  induction queue generalizing s with
  | nil => rfl
  | cons x rest ih =>
    rw [ending_cons]
    cases hx : x.action.fails with
    | true => rw [runQueue_of_fails hx, if_pos rfl]
    | false => rw [runQueue_of_fine hx, ih, if_neg Bool.false_ne_true]

end Store

namespace World

/-- One call. -/
def call (w : World) (c : Call) : World :=
  ⟨w.store.call c, w.offers ++ w.store.offered c, w.closings ++ w.store.closings c⟩

variable {w w' w'' : World}

theorem Leads.refl (w : World) : Leads w w := ⟨[], rfl⟩

theorem Leads.step (m : Move) (h : Leads (w.step m) w') : Leads w w' := by
  obtain ⟨moves, hmoves⟩ := h
  exact ⟨m :: moves, hmoves⟩

theorem Leads.trans (h : Leads w w') (h' : Leads w' w'') : Leads w w'' := by
  obtain ⟨moves, rfl⟩ := h
  obtain ⟨moves', rfl⟩ := h'
  exact ⟨moves ++ moves', List.foldl_append⟩

/-! ## A call is a run of moves -/

theorem step_remark {n : Note} (hn : n.fate? = none) :
    w.step (.remark n) = { w with store := w.store.note n } := if_pos hn

/-- An action that is run begins and ends no close. -/
theorem leads_run (a : Action) (w : World) :
    w.Leads ⟨(w.store.run a).1, w.offers ++ w.store.offering a, w.closings⟩ := by
  induction a generalizing w with
  | done =>
    rw [Store.offering, List.append_nil]
    exact .refl w
  | fail =>
    rw [Store.offering, List.append_nil]
    exact .refl w
  | giveBack b =>
    rw [Store.offering, List.append_nil]
    exact .step (.release b) (.refl _)
  | mark label next ih =>
    have hmark : (Note.marked label).fate? = none := rfl
    have halike : w.store.ClosedAlike (w.store.note (.marked label)) :=
      Store.closedAlike_of_scopes rfl
    have hnext := ih { w with store := w.store.note (.marked label) }
    rw [Store.offering_congr halike, ← step_remark hmark] at hnext
    exact .step _ hnext
  | release b next ih =>
    let released := w.step (.release b)
    let remark : Note := .released b (w.store.release b).2
    have hmark : remark.fate? = none := rfl
    have halike : w.store.ClosedAlike (released.store.note remark) :=
      Store.closedAlike_of_scopes (w.store.release_scopes b).1
    have hnext := ih { released with store := released.store.note remark }
    rw [Store.offering_congr halike, ← step_remark hmark] at hnext
    exact .step (.release b) (.step _ hnext)
  | offer e a next _ ih =>
    let offered := w.step (.offer e a)
    let remark : Note := .offered a (w.store.offer e a).2
    have hmark : remark.fate? = none := rfl
    have halike : w.store.ClosedAlike (offered.store.note remark) :=
      w.store.closedAlike_offer e a
    have hnext := ih { offered with store := offered.store.note remark }
    rw [Store.offering_congr halike, ← step_remark hmark] at hnext
    rw [Store.offering, List.append_cons]
    exact .step (.offer e a) (.step _ hnext)

section Closing

variable {e : ScopeId} {i : Nat} {done rest queue : List Entry} {x : Entry}

theorem step_close (hlive : w.store.scope e = .live queue) :
    w.step (.close e) =
      ⟨w.store.setScope e .closed, w.offers, w.closings ++ [⟨e, [], queue, none⟩]⟩ := by
  simp only [step, Store.takeQueue_of_live hlive]

theorem step_close_of_closed (hclosed : w.store.scope e = .closed) : w.step (.close e) = w := by
  simp only [step, Store.takeQueue_of_closed hclosed]

theorem step_begin (hi : w.closings[i]? = some ⟨e, done, x :: rest, none⟩) :
    w.step (.begin i) = ⟨w.store.begin x, w.offers,
      w.closings.set i ⟨e, done ++ [x], rest, none⟩⟩ := by
  simp only [step, hi]

theorem step_finish (hi : w.closings[i]? = some ⟨e, done, [], none⟩) :
    w.step (.finish i) = ⟨w.store, w.offers, w.closings.set i ⟨e, done, [], some .fine⟩⟩ := by
  simp only [step, hi]

theorem step_fail (hi : w.closings[i]? = some ⟨e, done ++ [x], rest, none⟩) :
    w.step (.fail i) = ⟨w.store.discard rest, w.offers,
      w.closings.set i ⟨e, done ++ [x], rest, some .failed⟩⟩ := by
  cases done <;> simp only [step, hi, List.nil_append, List.cons_append]

/-- A close runs the queue that it has taken, up to the first action that fails. -/
theorem leads_runQueue (queue : List Entry) (w : World) (done : List Entry)
    (hi : w.closings[i]? = some ⟨e, done, queue, none⟩) :
    w.Leads ⟨(w.store.runQueue queue).1, w.offers ++ w.store.offeringAll (ran queue),
      w.closings.set i ⟨e, done ++ ran queue, lost queue, some (ending queue)⟩⟩ := by
  induction queue generalizing w done with
  | nil =>
    refine .step (.finish i) ?_
    rw [step_finish hi, ran, List.append_nil, Store.offeringAll, List.flatMap_nil, List.append_nil]
    exact .refl _
  | cons x queue ih =>
    refine .step (.begin i) ?_
    have hlength : i < w.closings.length := (List.getElem?_eq_some_iff.1 hi).1
    have hi' : (w.closings.set i ⟨e, done ++ [x], queue, none⟩)[i]? =
        some ⟨e, done ++ [x], queue, none⟩ := List.getElem?_set_self hlength
    -- No action opens or closes a scope, so what the later ones offer is told by the store as it
    -- was when the close began.
    have hbegin : w.store.ClosedAlike (w.store.begin x) := Store.closedAlike_of_scopes rfl
    have halike : w.store.ClosedAlike ((w.store.begin x).run x.action).1 :=
      hbegin.trans (Store.closedAlike_run x.action (w.store.begin x))
    have hrun := leads_run x.action (w.step (.begin i))
    rw [step_begin hi] at hrun ⊢
    refine hrun.trans ?_
    dsimp only
    rw [Store.offering_congr hbegin, ran, lost, ending_cons]
    cases hx : x.action.fails with
    | false =>
      have hqueue := ih ⟨((w.store.begin x).run x.action).1,
        w.offers ++ w.store.offering x.action, _⟩ _ hi'
      rw [List.set_set, List.append_assoc done, List.append_assoc w.offers,
        Store.offeringAll_congr halike] at hqueue
      rw [Store.runQueue_of_fine hx]
      exact hqueue
    | true =>
      have hfail := step_fail (w := ⟨((w.store.begin x).run x.action).1,
        w.offers ++ w.store.offering x.action, _⟩) hi'
      rw [List.set_set] at hfail
      rw [Store.runQueue_of_fails hx, Store.offeringAll, if_pos rfl, List.flatMap_singleton]
      exact .step (.fail i) (hfail ▸ .refl _)

end Closing

/-- A reference that is to last as long as a scope is taken, and given back or queued. -/
theorem leads_keep (w : World) (b : BufferId) (e : ScopeId) :
    w.Leads ⟨(w.store.keepUntilClose b e).1, w.offers ++ w.store.offeringBack b e,
      w.closings⟩ := by
  have hscopes := (w.store.retain_scopes b).1
  unfold Store.keepUntilClose Store.offeringBack
  rcases hretain : w.store.retain b with ⟨s, more⟩
  have hretained : w.step (.retain b) = { w with store := s } := by simp only [step, hretain]
  rw [hretain] at hscopes
  cases more with
  | false =>
    rw [if_neg Bool.false_ne_true, List.append_nil]
    exact .step (.retain b) (hretained ▸ .refl _)
  | true =>
    rw [if_pos rfl, ← Store.scope_eq_of_scopes hscopes]
    dsimp only
    rcases hoffer : s.offer e (.giveBack b) with ⟨s', queued⟩
    let offers := w.offers ++ [⟨e, .reference, .giveBack b, (s.scope e).isClosed⟩]
    have hoffered : step { w with store := s } (.offer e (.giveBack b)) =
        ⟨s', offers, w.closings⟩ := by
      simp only [step, hoffer, offers]
    cases queued with
    | true =>
      -- The scope gives the reference back at its end.
      refine .step (.retain b) (.step (.offer e (.giveBack b)) ?_)
      rw [hretained, hoffered]
      exact .refl _
    | false =>
      -- No scope is left to do that, and the reference is given back here.
      have hlate : (Note.warned .lateResponse).fate? = none := rfl
      refine .step (.retain b) (.step (.offer e (.giveBack b))
        (.step (.remark (.warned .lateResponse)) (.step (.release b) ?_)))
      rw [hretained, hoffered, step_remark hlate]
      exact .refl _

theorem call_of_open {c : Call} (hclosings : w.store.closings c = []) :
    w.call c = ⟨w.store.call c, w.offers ++ w.store.offered c, w.closings⟩ := by
  rw [call, hclosings, List.append_nil]

theorem call_of_quiet {c : Call} (hclosings : w.store.closings c = [])
    (hoffered : w.store.offered c = []) : w.call c = { w with store := w.store.call c } := by
  rw [call_of_open hclosings, hoffered, List.append_nil]

/-- A call is a run of moves. -/
theorem leads_call (c : Call) (w : World) : w.Leads (w.call c) := by
  cases c with
  | hold bytes =>
    rw [call_of_quiet rfl rfl]
    exact .step (.hold (.new bytes)) (.refl _)
  | openScope =>
    rw [call_of_quiet rfl rfl]
    exact .step .openScope (.refl _)
  | retain b =>
    rw [call_of_quiet rfl rfl]
    exact .step (.retain b) (.refl _)
  | release b =>
    rw [call_of_quiet rfl rfl]
    exact .step (.release b) (.refl _)
  | keepUntilClose b e =>
    rw [call_of_open rfl]
    exact leads_keep w b e
  | assemble status headers content e =>
    rw [call_of_open rfl]
    exact (leads_keep w content e).trans (.step (.release content) (.refl _))
  | onCleanup e a =>
    rw [call_of_open rfl, Store.offered]
    cases hscope : w.store.scope e with
    | live queue =>
      have hregister : w.step (.register e a) = ⟨(w.store.offer e a).1,
          w.offers ++ [⟨e, .owner, a, false⟩], w.closings⟩ := by
        rw [step, Store.register_of_live hscope, hscope]
        rfl
      rw [Store.call, Store.onCleanup_of_live hscope]
      exact .step (.register e a) (hregister ▸ .refl _)
    | closed =>
      have hrun := leads_run a (w.step (.register e a))
      have halike : w.store.ClosedAlike (w.store.register e a).1 := by
        rw [Store.register_of_closed hscope]
        exact Store.closedAlike_of_scopes rfl
      rw [step, Store.offering_congr halike, hscope, List.append_assoc] at hrun
      rw [Store.call, Store.onCleanup_of_closed hscope]
      refine .step (.register e a) ?_
      rw [step, hscope]
      exact hrun
  | offer e a =>
    rw [call_of_open rfl]
    exact .step (.offer e a) (.refl _)
  | perform a =>
    rw [call_of_open rfl]
    exact leads_run a w
  | close e =>
    cases hscope : w.store.scope e with
    | closed =>
      have hclosings : w.store.closings (.close e) = [] := by rw [Store.closings, hscope]
      have hoffered : w.store.offered (.close e) = [] := by rw [Store.offered, hscope]
      rw [call_of_quiet hclosings hoffered, Store.call, Store.close_of_closed hscope]
      exact .refl w
    | live queue =>
      have hlast : (w.closings ++ [⟨e, [], queue, none⟩])[w.closings.length]? =
          some ⟨e, [], queue, none⟩ := List.getElem?_concat_length
      have hqueue := leads_runQueue queue ⟨w.store.setScope e .closed, w.offers, _⟩ [] hlast
      rw [List.nil_append, List.set_append_right _ _ (Nat.le_refl _), Nat.sub_self] at hqueue
      refine .step (.close e) ?_
      rw [step_close hscope, call, Store.call, Store.close_of_live hscope, Store.offered,
        Store.closings, hscope]
      exact hqueue

/-- So are calls one after another. -/
theorem leads_calls (calls : List Call) (w : World) : w.Leads (calls.foldl call w) := by
  induction calls generalizing w with
  | nil => exact .refl w
  | cons c calls ih => exact (leads_call c w).trans (ih (w.call c))

theorem store_calls (calls : List Call) (w : World) :
    (calls.foldl call w).store = calls.foldl Store.call w.store := by
  induction calls generalizing w with
  | nil => rfl
  | cons c calls ih => exact ih (w.call c)

/-- All closes have ended, each after the first action that failed. -/
def Rested (w : World) : Prop :=
  ∀ c ∈ w.closings, c.ran = ran c.queue ∧ c.ending = some (ending c.queue)

theorem rested_start : start.Rested := by
  intro c hc
  cases hc

/-- A call leaves no close under way. -/
theorem rested_call (h : w.Rested) (c : Call) : (w.call c).Rested := by
  refine List.forall_mem_append.2 ⟨h, ?_⟩
  cases c with
  | close e =>
    cases hscope : w.store.scope e with
    | closed =>
      rw [Store.closings, hscope]
      exact nofun
    | live queue =>
      have hqueue := ran_append_lost queue
      rw [Store.closings, hscope]
      refine List.forall_mem_singleton.2 ⟨?_, ?_⟩
      · exact congrArg ran hqueue.symm
      · exact congrArg (some ∘ ending) hqueue.symm
  | _ => exact nofun

theorem rested_calls (h : w.Rested) (calls : List Call) : (calls.foldl call w).Rested := by
  induction calls generalizing w with
  | nil => exact h
  | cons c calls ih => exact ih (rested_call h c)

end World

end Http1Client
