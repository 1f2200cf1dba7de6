import Http1Client.Proofs.Lifetime.World

/-!
# What becomes of what is offered

Whatever happens in a world, each action that has been offered is at one place, once: in the
queue of the live scope to which it was offered, in what a close is still going to begin, or
among the fates: begun, handed back, discarded (`Accounted.once`). Each fate has its reason
(`World.Explains`): an action is begun by the close of its scope, or at once if it is registered
late; it is handed back if it is offered late through a reference; and it is discarded behind one
that its close has begun and that failed.

What a move can do to a world is told once (`Changes`); what else is said of moves follows from
that. So it is here with what is over, which stays over: no scope opens again, no close begins
what is not in the queue that it has taken, and one that has ended begins nothing (`Grows`).
-/

namespace Http1Client

/-! ## Places and fates -/

/-- The tickets that are queued on a scope. -/
def Scope.tickets : Scope → List Nat
  | .live queue => queue.map (·.ticket)
  | .closed => []

/-- The tickets that a close is still going to begin, if nothing fails. -/
def Closing.tickets (c : Closing) : List Nat :=
  if c.ending = none then c.rest.map (·.ticket) else []

/-- What the journal tells of tickets, the latest first. -/
def Store.fates (s : Store) : List (Nat × Fate) := s.journal.filterMap Note.fate?

/-- All places of the store at which a ticket can be: the queues and the fates. -/
def Store.places (s : Store) : List Nat :=
  s.scopes.flatMap Scope.tickets ++ s.fates.map (·.1)

/-- The tickets that have begun, the latest first. -/
def Store.begunTickets (s : Store) : List Nat :=
  (s.fates.filter (·.2 = .begun)).map (·.1)

/-- All places at which a ticket can be. -/
def World.places (w : World) : List Nat :=
  w.store.places ++ w.closings.flatMap Closing.tickets

/-- What becomes of an action that is offered late. -/
def Door.fate : Door → Fate
  | .owner => .begun
  | .reference => .handedBack

/-- The scope has been opened and closed. -/
def Store.Over (s : Store) (e : ScopeId) : Prop :=
  e.index < s.scopes.length ∧ s.scope e = .closed

/-- Entries in the order in which they are run, the newest first, of actions that were offered to
the scope while it was live. -/
structure Lined (offers : List Offer) (e : ScopeId) (queue : List Entry) : Prop where
  ordered : queue.Pairwise fun newer older => older.ticket < newer.ticket
  offered : ∀ x ∈ queue, ∃ door, offers[x.ticket]? = some ⟨e, door, x.action, false⟩

/-- What holds of a close that has taken a queue. -/
structure Closing.Sound (c : Closing) (w : World) : Prop where
  isOver : w.store.Over c.scope
  lined : Lined w.offers c.scope c.queue
  /-- What it has run has begun, in this order. -/
  begun : (c.ran.map (·.ticket)).reverse.Sublist w.store.begunTickets
  /-- It ends well with the whole queue, -/
  fine : c.ending = some .fine → c.rest = []
  /-- or else at an action that it has begun, and the rest is discarded. -/
  failed : c.ending = some .failed →
    c.ran ≠ [] ∧ ∀ x ∈ c.rest, (x.ticket, .discarded) ∈ w.store.fates

namespace World

/-- The reason of a fate. -/
def Explains (w : World) (t : Nat) : Fate → Prop
  | .begun => (∃ c ∈ w.closings, ∃ x ∈ c.ran, x.ticket = t) ∨
    ∃ o, w.offers[t]? = some o ∧ o.late = true ∧ o.door = .owner
  | .handedBack => ∃ o, w.offers[t]? = some o ∧ o.late = true ∧ o.door = .reference
  | .discarded => ∃ c ∈ w.closings, c.ending = some .failed ∧ ∃ x ∈ c.rest, x.ticket = t

/-- An offer in time is in the queue of its scope, or in the one that was taken. -/
def Keeps (w : World) (t : Nat) (o : Offer) : Prop :=
  (∃ queue, w.store.scope o.scope = .live queue ∧ ⟨t, o.action⟩ ∈ queue) ∨
    ∃ c ∈ w.closings, c.scope = o.scope ∧ ⟨t, o.action⟩ ∈ c.queue

/-- All that was offered is accounted for. -/
structure Accounted (w : World) : Prop where
  /-- Each ticket that has been given out is at one place, once, and no other is anywhere. -/
  once : ∀ t, w.places.count t = if t < w.store.nextTicket then 1 else 0
  offered : w.offers.length = w.store.nextTicket
  lined : ∀ e queue, w.store.scope e = .live queue → Lined w.offers e queue
  kept : ∀ t o, w.offers[t]? = some o → o.late = false → w.Keeps t o
  /-- What was offered late is run at once for the owner, and else handed back. -/
  late : ∀ t o, w.offers[t]? = some o → o.late = true → (t, o.door.fate) ∈ w.store.fates
  explained : ∀ t fate, (t, fate) ∈ w.store.fates → w.Explains t fate
  sound : ∀ c ∈ w.closings, c.Sound w
  /-- A scope is closed once. -/
  apart : (w.closings.map (·.scope)).Nodup

/-- How a close gets on: its queue stays, and it is over when it has ended. -/
structure GetsOn (c c' : Closing) : Prop where
  scope_eq : c'.scope = c.scope
  queue_eq : c'.queue = c.queue
  ran : c.ran <+: c'.ran
  ended : c.ending ≠ none → c' = c

/-- What has happened is not undone. -/
structure Grows (w w' : World) : Prop where
  offers : w.offers <+: w'.offers
  fates : w.store.fates <:+ w'.store.fates
  isOver : ∀ e, w.store.Over e → w'.store.Over e
  /-- What is queued stays queued until it is taken. -/
  queues : ∀ e queue, w.store.scope e = .live queue →
    (∃ newer, w'.store.scope e = .live (newer ++ queue)) ∨
    ∃ c ∈ w'.closings, c.scope = e ∧ queue <:+ c.queue
  closings : ∀ c ∈ w.closings, ∃ c' ∈ w'.closings, GetsOn c c'

variable {w w' w'' : World}

theorem GetsOn.refl (c : Closing) : GetsOn c c := ⟨rfl, rfl, List.prefix_rfl, fun _ => rfl⟩

theorem getsOn_begin (e : ScopeId) (done rest : List Entry) (x : Entry) :
    GetsOn ⟨e, done, x :: rest, none⟩ ⟨e, done ++ [x], rest, none⟩ :=
  ⟨rfl, List.append_assoc _ _ _, List.prefix_append _ _, fun hended => absurd rfl hended⟩

theorem getsOn_end (e : ScopeId) (done rest : List Entry) (ending : Ending) :
    GetsOn ⟨e, done, rest, none⟩ ⟨e, done, rest, some ending⟩ :=
  ⟨rfl, rfl, List.prefix_rfl, fun hended => absurd rfl hended⟩

theorem GetsOn.trans {c c' c'' : Closing} (h : GetsOn c c') (h' : GetsOn c' c'') :
    GetsOn c c'' := by
  refine ⟨h'.scope_eq.trans h.scope_eq, h'.queue_eq.trans h.queue_eq, h.ran.trans h'.ran, ?_⟩
  intro hended
  obtain rfl := h.ended hended
  exact h'.ended hended

theorem Grows.refl (w : World) : Grows w w :=
  ⟨List.prefix_rfl, List.suffix_rfl, fun _ h => h, fun _ _ hlive => .inl ⟨[], hlive⟩,
    fun c hc => ⟨c, hc, .refl c⟩⟩

/-- A queue that has been taken stays the one of its close. -/
theorem Grows.taken (h : Grows w w') {e : ScopeId} {queue : List Entry}
    (htaken : ∃ c ∈ w.closings, c.scope = e ∧ queue <:+ c.queue) :
    ∃ c ∈ w'.closings, c.scope = e ∧ queue <:+ c.queue := by
  obtain ⟨c, hc, rfl, hqueue⟩ := htaken
  obtain ⟨c', hc', hgets⟩ := h.closings c hc
  exact ⟨c', hc', hgets.scope_eq, hgets.queue_eq ▸ hqueue⟩

theorem Grows.trans (h : Grows w w') (h' : Grows w' w'') : Grows w w'' := by
  refine ⟨h.offers.trans h'.offers, h.fates.trans h'.fates, fun e he => h'.isOver e (h.isOver e he),
    ?_, ?_⟩
  · intro e queue hlive
    rcases h.queues e queue hlive with ⟨newer, hlive'⟩ | htaken
    · rcases h'.queues e _ hlive' with ⟨newest, hlive''⟩ | ⟨c, hc, hscope, hqueue⟩
      · rw [← List.append_assoc] at hlive''
        exact .inl ⟨newest ++ newer, hlive''⟩
      · exact .inr ⟨c, hc, hscope, (List.suffix_append newer queue).trans hqueue⟩
    · exact .inr (h'.taken htaken)
  · intro c hc
    obtain ⟨c', hc', hgets⟩ := h.closings c hc
    obtain ⟨c'', hc'', hgets'⟩ := h'.closings c' hc'
    exact ⟨c'', hc'', hgets.trans hgets'⟩

/-! ## What a move can do -/

/-- A change of a store that is not about scopes or tickets. -/
structure Same (s s' : Store) : Prop where
  scopes : s'.scopes = s.scopes
  nextTicket : s'.nextTicket = s.nextTicket
  fates : s'.fates = s.fates

theorem same_retain (s : Store) (b : BufferId) : Same s (s.retain b).1 := by
  obtain ⟨hscopes, hticket⟩ := s.retain_scopes b
  refine ⟨hscopes, hticket, ?_⟩
  unfold Store.retain
  split <;> rfl

theorem same_release (s : Store) (b : BufferId) : Same s (s.release b).1 := by
  obtain ⟨hscopes, hticket⟩ := s.release_scopes b
  refine ⟨hscopes, hticket, ?_⟩
  unfold Store.release
  split <;> rfl

/-- The ways in which a move changes a world. -/
inductive Changes (w : World) : World → Prop
  | same {s : Store} (h : Same w.store s) : Changes w ⟨s, w.offers, w.closings⟩
  | opens : Changes w ⟨w.store.openScope.1, w.offers, w.closings⟩
  /-- An action is queued. -/
  | queues {e : ScopeId} {queue : List Entry} (hlive : w.store.scope e = .live queue) (door : Door)
    (a : Action) :
    Changes w ⟨(w.store.offer e a).1, w.offers ++ [⟨e, door, a, false⟩], w.closings⟩
  /-- An action comes too late. -/
  | late {s : Store} {o : Offer} (ho : o.late = true) (hscopes : s.scopes = w.store.scopes)
    (hticket : s.nextTicket = w.store.nextTicket + 1)
    (hfates : s.fates = (w.store.nextTicket, o.door.fate) :: w.store.fates) :
    Changes w ⟨s, w.offers ++ [o], w.closings⟩
  /-- A close takes the queue. -/
  | takes {e : ScopeId} {queue : List Entry} (hlive : w.store.scope e = .live queue) :
    Changes w ⟨w.store.setScope e .closed, w.offers, w.closings ++ [⟨e, [], queue, none⟩]⟩
  | begins {i : Nat} {e : ScopeId} {done rest : List Entry} {x : Entry}
    (hi : w.closings[i]? = some ⟨e, done, x :: rest, none⟩) :
    Changes w ⟨w.store.begin x, w.offers,
      w.closings.set i ⟨e, done ++ [x], rest, none⟩⟩
  | finishes {i : Nat} {e : ScopeId} {done : List Entry}
    (hi : w.closings[i]? = some ⟨e, done, [], none⟩) :
    Changes w ⟨w.store, w.offers, w.closings.set i ⟨e, done, [], some .fine⟩⟩
  | fails {i : Nat} {e : ScopeId} {done rest : List Entry} (hdone : done ≠ [])
    (hi : w.closings[i]? = some ⟨e, done, rest, none⟩) :
    Changes w ⟨w.store.discard rest, w.offers, w.closings.set i ⟨e, done, rest, some .failed⟩⟩

/-- A move changes a world in one of these ways. -/
theorem changes_step (w : World) (m : Move) : Changes w (w.step m) := by
  have hnone : Changes w w := .same ⟨rfl, rfl, rfl⟩
  cases m with
  | openScope => exact .opens
  | hold buffer => exact .same ⟨rfl, rfl, rfl⟩
  | retain b => exact .same (same_retain w.store b)
  | release b => exact .same (same_release w.store b)
  | remark n =>
    by_cases hn : n.fate? = none
    · rw [step_remark hn]
      exact .same ⟨rfl, rfl, List.filterMap_cons_none hn⟩
    · simp only [step, if_neg hn]
      exact hnone
  | offer e a =>
    cases hscope : w.store.scope e with
    | live queue =>
      simp only [step, hscope]
      exact .queues hscope .reference a
    | closed =>
      simp only [step, hscope, Store.offer_of_closed hscope]
      exact .late rfl rfl rfl rfl
  | register e a =>
    cases hscope : w.store.scope e with
    | live queue =>
      simp only [step, hscope, Store.register_of_live hscope]
      exact .queues hscope .owner a
    | closed =>
      simp only [step, hscope, Store.register_of_closed hscope]
      exact .late rfl rfl rfl rfl
  | close e =>
    cases hscope : w.store.scope e with
    | live queue =>
      rw [step_close hscope]
      exact .takes hscope
    | closed =>
      rw [step_close_of_closed hscope]
      exact hnone
  | begin i =>
    simp only [step]
    split
    · next hi => exact .begins hi
    · exact hnone
  | finish i =>
    simp only [step]
    split
    · next hi => exact .finishes hi
    · exact hnone
  | fail i =>
    simp only [step]
    split
    · next hi => exact .fails (List.cons_ne_nil _ _) hi
    · exact hnone

/-! ## What has happened is not undone -/

theorem fates_discard (rest : List Entry) (s : Store) :
    (s.discard rest).fates = (rest.map fun x => (x.ticket, Fate.discarded)).reverse ++ s.fates := by
  induction rest generalizing s with
  | nil => rfl
  | cons x rest ih =>
    rw [List.map_cons, List.reverse_cons, List.append_assoc]
    exact ih (s.note (.discarded x.ticket))

theorem nextTicket_discard (rest : List Entry) (s : Store) :
    (s.discard rest).nextTicket = s.nextTicket := by
  induction rest generalizing s with
  | nil => rfl
  | cons x rest ih => exact ih (s.note (.discarded x.ticket))

theorem over_of_scopes {s s' : Store} (h : s'.scopes = s.scopes) {e : ScopeId} (he : s.Over e) :
    s'.Over e := by
  obtain ⟨hindex, hclosed⟩ := he
  exact ⟨h ▸ hindex, (Store.scope_eq_of_scopes h e).trans hclosed⟩

/-- A scope that has changed its queue or has been closed now was live before. -/
theorem over_setScope {s : Store} {e : ScopeId} {queue : List Entry}
    (hlive : s.scope e = .live queue) (scope : Scope) {other : ScopeId} (hother : s.Over other) :
    (s.setScope e scope).Over other := by
  obtain ⟨hindex, hclosed⟩ := hother
  have hne : other ≠ e := by
    rintro rfl
    rw [hlive] at hclosed
    cases hclosed
  have hlength : (s.setScope e scope).scopes.length = s.scopes.length := List.length_set
  refine ⟨hlength ▸ hindex, ?_⟩
  rw [Store.scope_setScope (Store.index_lt_of_live hlive), if_neg hne]
  exact hclosed

/-- Where one element is replaced, the others stay. -/
theorem exists_mem_set {l : List Closing} {i : Nat} {c c' : Closing} (hi : l[i]? = some c)
    (hgets : GetsOn c c') {d : Closing} (hd : d ∈ l) : ∃ d' ∈ l.set i c', GetsOn d d' := by
  obtain ⟨j, hj⟩ := List.mem_iff_getElem?.1 hd
  by_cases hji : j = i
  · subst hji
    cases hi.symm.trans hj
    exact ⟨c', List.mem_set (List.getElem?_eq_some_iff.1 hi).1 c', hgets⟩
  · refine ⟨d, List.mem_iff_getElem?.2 ⟨j, ?_⟩, .refl d⟩
    rw [List.getElem?_set_ne (Ne.symm hji)]
    exact hj

/-- While scopes stay as they are, so do their queues. -/
theorem queues_of_scopes {s s' : Store} (h : s'.scopes = s.scopes) (closings : List Closing)
    (e : ScopeId) (queue : List Entry) (hlive : s.scope e = .live queue) :
    (∃ newer, s'.scope e = .live (newer ++ queue)) ∨
      ∃ c ∈ closings, c.scope = e ∧ queue <:+ c.queue :=
  .inl ⟨[], (Store.scope_eq_of_scopes h e).trans hlive⟩

/-- No move undoes what has happened. -/
theorem grows_of_changes (h : Changes w w') : Grows w w' := by
  have hsame : ∀ c ∈ w.closings, ∃ c' ∈ w.closings, GetsOn c c' := by
    intro c hc
    exact ⟨c, hc, .refl c⟩
  cases h with
  | same h =>
    exact ⟨List.prefix_rfl, h.fates ▸ List.suffix_rfl, fun _ => over_of_scopes h.scopes,
      queues_of_scopes h.scopes _, hsame⟩
  | opens =>
    -- The new scope is none of those that were known before.
    have hscope {e : ScopeId} (he : e.index < w.store.scopes.length) :
        w.store.openScope.1.scope e = w.store.scope e := by
      rw [Store.scope_openScope, if_neg (Nat.ne_of_lt he)]
    refine ⟨List.prefix_rfl, List.suffix_rfl, ?_, ?_, hsame⟩
    · intro e he
      have hlength : w.store.openScope.1.scopes.length = w.store.scopes.length + 1 :=
        List.length_append
      exact ⟨hlength ▸ Nat.lt_succ_of_lt he.1, (hscope he.1).trans he.2⟩
    · intro e queue hlive
      exact .inl ⟨[], (hscope (Store.index_lt_of_live hlive)).trans hlive⟩
  | queues hlive door a =>
    refine ⟨List.prefix_append _ _, ?_, ?_, ?_, hsame⟩
    · rw [Store.offer_of_live hlive]
      exact List.suffix_rfl
    · intro e he
      rw [Store.offer_of_live hlive]
      exact over_setScope (s := w.store.ticket.1) hlive _ he
    · intro e queue he
      rw [Store.scope_offer hlive]
      split
      · next heq =>
        subst heq
        cases hlive.symm.trans he
        exact .inl ⟨[_], rfl⟩
      · exact .inl ⟨[], he⟩
  | late _ hscopes _ hfates =>
    refine ⟨List.prefix_append _ _, ?_, fun _ => over_of_scopes hscopes,
      queues_of_scopes hscopes _, hsame⟩
    rw [hfates]
    exact List.suffix_cons _ _
  | takes hlive =>
    refine ⟨List.prefix_rfl, List.suffix_rfl, fun e he => over_setScope hlive _ he,
      ?_, fun c hc => ⟨c, List.mem_append_left _ hc, .refl c⟩⟩
    intro e queue he
    rw [Store.scope_setScope (Store.index_lt_of_live hlive)]
    split
    · next heq =>
      -- This queue is the one that is taken.
      subst heq
      cases hlive.symm.trans he
      exact .inr ⟨_, List.mem_append_right _ (List.mem_singleton_self _), rfl, List.suffix_rfl⟩
    · exact .inl ⟨[], he⟩
  | begins hi =>
    exact ⟨List.prefix_rfl, List.suffix_cons _ _, fun _ => over_of_scopes rfl,
      queues_of_scopes rfl _, fun c hc => exists_mem_set hi (getsOn_begin ..) hc⟩
  | finishes hi =>
    exact ⟨List.prefix_rfl, List.suffix_rfl, fun _ he => he, queues_of_scopes rfl _,
      fun c hc => exists_mem_set hi (getsOn_end ..) hc⟩
  | @fails i e done rest hdone hi =>
    have hunmoved := Store.unmoved_discard rest w.store
    refine ⟨List.prefix_rfl, ?_, fun _ => over_of_scopes hunmoved.scopes,
      queues_of_scopes hunmoved.scopes _, fun c hc => exists_mem_set hi (getsOn_end ..) hc⟩
    rw [fates_discard]
    exact List.suffix_append _ _

/-- So it is along a run. -/
theorem grows_run (w : World) (moves : List Move) : Grows w (w.run moves) := by
  induction moves generalizing w with
  | nil => exact .refl w
  | cons m moves ih => exact (grows_of_changes (changes_step w m)).trans (ih (w.step m))

end World

end Http1Client
