import Http1Client.Lifetime.Store

/-!
# What the operations of a store change

Each operation is told by what it does to the scopes, to the buffers and to the next ticket.
Nothing here looks into the journal.
-/

namespace Http1Client

/-- Where one part is replaced, the whole has more what the new part has more. -/
theorem countP_flatMap_set {α β : Type} {l : List α} {i : Nat} {x : α} (f : α → List β)
    (hi : l[i]? = some x) (y : α) (p : β → Bool) :
    ((l.set i y).flatMap f).countP p + (f x).countP p =
      (l.flatMap f).countP p + (f y).countP p := by
  induction l generalizing i with
  | nil => cases hi
  | cons z l ih =>
    cases i with
    | zero =>
      cases hi
      simp only [List.set_cons_zero, List.flatMap_cons, List.countP_append]
      omega
    | succ i =>
      have hrest := ih hi
      simp only [List.set_cons_succ, List.flatMap_cons, List.countP_append]
      omega

namespace Store

variable {s s' : Store} {e : ScopeId} {b : BufferId} {queue : List Entry}

/-! ## Scopes -/

theorem scope_eq_of_scopes (h : s'.scopes = s.scopes) (e : ScopeId) : s'.scope e = s.scope e := by
  unfold scope
  rw [h]

/-- The store knows a scope that is live. -/
theorem index_lt_of_live (h : s.scope e = .live queue) : e.index < s.scopes.length := by
  refine Nat.lt_of_not_le fun hle => ?_
  rw [scope, List.getElem?_eq_none hle] at h
  cases h

theorem getElem?_of_live (h : s.scope e = .live queue) :
    s.scopes[e.index]? = some (.live queue) := by
  have hindex := index_lt_of_live h
  rw [scope, List.getElem?_eq_getElem hindex, Option.getD_some] at h
  rw [List.getElem?_eq_getElem hindex, h]

theorem scope_of_unopened (h : s.scopes.length ≤ e.index) : s.scope e = .closed := by
  rw [scope, List.getElem?_eq_none h, Option.getD_none]

theorem scope_setScope (h : e.index < s.scopes.length) (scope : Scope) (other : ScopeId) :
    (s.setScope e scope).scope other = if other = e then scope else s.scope other := by
  unfold setScope Store.scope
  split
  · next heq =>
    rw [heq, List.getElem?_set_self h, Option.getD_some]
  · next hne =>
    have hindex : e.index ≠ other.index := fun heq => hne (by cases e; cases other; cases heq; rfl)
    rw [List.getElem?_set_ne hindex]

/-- A new scope is live, and nothing is queued on it. -/
theorem scope_openScope (s : Store) (e : ScopeId) :
    s.openScope.1.scope e = if e.index = s.scopes.length then .live [] else s.scope e := by
  unfold openScope scope
  split
  · next heq => rw [heq, List.getElem?_concat_length, Option.getD_some]
  · next hne =>
    rcases Nat.lt_or_ge e.index s.scopes.length with hlt | hge
    · rw [List.getElem?_append_left hlt]
    · rw [List.getElem?_eq_none hge, List.getElem?_eq_none]
      rw [List.length_append, List.length_singleton]
      omega

/-- A live scope queues what it is offered. -/
theorem offer_of_live (h : s.scope e = .live queue) (a : Action) :
    s.offer e a =
      (s.ticket.1.setScope e (.live (⟨s.nextTicket, a⟩ :: queue)), true) := by
  have hscope : s.ticket.1.scope e = .live queue := h
  unfold offer
  simp only [ticket] at hscope ⊢
  rw [hscope]

theorem scope_offer (h : s.scope e = .live queue) (a : Action) (other : ScopeId) :
    (s.offer e a).1.scope other =
      if other = e then .live (⟨s.nextTicket, a⟩ :: queue) else s.scope other := by
  rw [offer_of_live h]
  exact scope_setScope (index_lt_of_live h) _ other

/-- A closed scope hands it back. -/
theorem offer_of_closed (h : s.scope e = .closed) (a : Action) :
    s.offer e a = (s.ticket.1.note (.handedBack s.nextTicket), false) := by
  have hscope : s.ticket.1.scope e = .closed := h
  unfold offer
  simp only [ticket] at hscope ⊢
  rw [hscope]

theorem takeQueue_of_live (h : s.scope e = .live queue) :
    s.takeQueue e = some (queue, s.setScope e .closed) := by
  unfold takeQueue
  rw [h]

theorem takeQueue_of_closed (h : s.scope e = .closed) : s.takeQueue e = none := by
  unfold takeQueue
  rw [h]

/-- A live scope is closed with its queue. -/
theorem close_of_live (h : s.scope e = .live queue) :
    s.close e = (s.setScope e .closed).runQueue queue := by
  unfold close
  rw [takeQueue_of_live h]

theorem close_of_closed (h : s.scope e = .closed) : s.close e = (s, .fine) := by
  unfold close
  rw [takeQueue_of_closed h]

theorem register_of_live (h : s.scope e = .live queue) (a : Action) :
    s.register e a = s.offer e a := by
  unfold register
  rw [h]

theorem register_of_closed (h : s.scope e = .closed) (a : Action) :
    s.register e a =
      ((s.ticket.1.warn .lateCleanup).begin ⟨s.nextTicket, a⟩, false) := by
  unfold register
  rw [h]
  rfl

/-- A live scope queues what its owner registers. -/
theorem onCleanup_of_live (h : s.scope e = .live queue) (a : Action) :
    s.onCleanup e a = ((s.offer e a).1, .fine) := by
  unfold onCleanup
  rw [register_of_live h, offer_of_live h]

theorem onCleanup_of_closed (h : s.scope e = .closed) (a : Action) :
    s.onCleanup e a = (s.register e a).1.run a := by
  unfold onCleanup
  rw [register_of_closed h]

/-! ## Buffers -/

theorem buffer_eq_of_buffers (h : s'.buffers = s.buffers) (b : BufferId) :
    s'.buffer b = s.buffer b := by
  unfold buffer
  rw [h]

/-- The store knows a buffer with references. -/
theorem index_lt_of_refs (h : (s.buffer b).refs ≠ 0) : b.index < s.buffers.length := by
  refine Nat.lt_of_not_le fun hle => h ?_
  rw [buffer, List.getElem?_eq_none hle, Option.getD_none]

theorem buffer_setBuffer (h : b.index < s.buffers.length) (buffer : Buffer) (other : BufferId) :
    (s.setBuffer b buffer).buffer other = if other = b then buffer else s.buffer other := by
  unfold setBuffer Store.buffer
  split
  · next heq =>
    rw [heq, List.getElem?_set_self h, Option.getD_some]
  · next hne =>
    have hindex : b.index ≠ other.index := fun heq => hne (by cases b; cases other; cases heq; rfl)
    rw [List.getElem?_set_ne hindex]

theorem buffer_hold (s : Store) (buffer : Buffer) (b : BufferId) :
    (s.hold buffer).1.buffer b =
      if b.index = s.buffers.length then buffer else s.buffer b := by
  unfold hold Store.buffer
  split
  · next heq => rw [heq, List.getElem?_concat_length, Option.getD_some]
  · next hne =>
    rcases Nat.lt_or_ge b.index s.buffers.length with hlt | hge
    · rw [List.getElem?_append_left hlt]
    · rw [List.getElem?_eq_none hge, List.getElem?_eq_none]
      rw [List.length_append, List.length_singleton]
      omega

theorem retain_of_freed (h : (s.buffer b).refs = 0) : s.retain b = (s, false) := by
  unfold retain Buffer.retain?
  rw [if_pos h]

theorem retain_of_refs (h : (s.buffer b).refs ≠ 0) :
    s.retain b =
      (s.setBuffer b ⟨(s.buffer b).refs + 1, (s.buffer b).bytes⟩, true) := by
  unfold retain Buffer.retain?
  rw [if_neg h]

theorem release_of_freed (h : (s.buffer b).refs = 0) :
    s.release b = (s.warn .releaseOfFreed, false) := by
  unfold release Buffer.isFreed
  rw [h]
  rfl

/-- With the last reference the bytes go. -/
theorem release_of_refs {n : Nat} (h : (s.buffer b).refs = n + 1) :
    s.release b =
      (s.setBuffer b ⟨n, if n = 0 then none else (s.buffer b).bytes⟩, n == 0) := by
  unfold release Buffer.isFreed Buffer.release
  rw [h]
  cases n <;> rfl

/-! ## What an operation leaves alone -/

theorem retain_other (s : Store) {b other : BufferId} (hne : other ≠ b) :
    (s.retain b).1.buffer other = s.buffer other := by
  by_cases hrefs : (s.buffer b).refs = 0
  · rw [retain_of_freed hrefs]
  · rw [retain_of_refs hrefs]
    exact (buffer_setBuffer (index_lt_of_refs hrefs) _ other).trans (if_neg hne)

theorem release_other (s : Store) {b other : BufferId} (hne : other ≠ b) :
    (s.release b).1.buffer other = s.buffer other := by
  cases hrefs : (s.buffer b).refs with
  | zero =>
    rw [release_of_freed hrefs]
    exact buffer_eq_of_buffers rfl other
  | succ n =>
    have hindex : b.index < s.buffers.length := index_lt_of_refs (by omega)
    rw [release_of_refs hrefs]
    exact (buffer_setBuffer hindex _ other).trans (if_neg hne)

theorem retain_length (s : Store) (b : BufferId) :
    (s.retain b).1.buffers.length = s.buffers.length := by
  unfold retain
  split
  · exact List.length_set
  · rfl

theorem release_length (s : Store) (b : BufferId) :
    (s.release b).1.buffers.length = s.buffers.length := by
  unfold release
  split
  · rfl
  · exact List.length_set

theorem retain_scopes (s : Store) (b : BufferId) :
    (s.retain b).1.scopes = s.scopes ∧ (s.retain b).1.nextTicket = s.nextTicket := by
  unfold retain
  split <;> exact ⟨rfl, rfl⟩

theorem release_scopes (s : Store) (b : BufferId) :
    (s.release b).1.scopes = s.scopes ∧ (s.release b).1.nextTicket = s.nextTicket := by
  unfold release
  split <;> exact ⟨rfl, rfl⟩

theorem offer_buffers (s : Store) (e : ScopeId) (a : Action) :
    (s.offer e a).1.buffers = s.buffers := by
  cases h : s.scope e with
  | live queue =>
    rw [offer_of_live h]
    rfl
  | closed =>
    rw [offer_of_closed h]
    rfl

/-- The same scopes, the same buffers, and no ticket less. -/
structure Unmoved (s s' : Store) : Prop where
  scopes : s'.scopes = s.scopes
  buffers : s'.buffers = s.buffers
  nextTicket : s.nextTicket ≤ s'.nextTicket

theorem Unmoved.refl (s : Store) : Unmoved s s := ⟨rfl, rfl, Nat.le_refl _⟩

theorem unmoved_discard (rest : List Entry) (s : Store) :
    Unmoved s (s.discard rest) := by
  induction rest generalizing s with
  | nil => exact .refl s
  | cons x rest ih =>
    have hrest := ih (s.note (.discarded x.ticket))
    exact ⟨hrest.scopes, hrest.buffers, hrest.nextTicket⟩

/-- To give back a reference that has just been taken leaves the buffer as it was. -/
theorem buffers_release_retain (h : (s.buffer b).refs ≠ 0)
    (hs : s'.buffers = (s.retain b).1.buffers) : (s'.release b).1.buffers = s.buffers := by
  have hindex := index_lt_of_refs h
  have hretained : s'.buffer b = ⟨(s.buffer b).refs + 1, (s.buffer b).bytes⟩ := by
    rw [buffer_eq_of_buffers hs, retain_of_refs h, buffer_setBuffer hindex, if_pos rfl]
  have hrefs : (s'.buffer b).refs = (s.buffer b).refs + 1 := by rw [hretained]
  have hbuffer : s.buffers[b.index] = s.buffer b := by
    rw [buffer, List.getElem?_eq_getElem hindex, Option.getD_some]
  rw [release_of_refs hrefs, if_neg h, hretained]
  show s'.buffers.set b.index (s.buffer b) = s.buffers
  rw [hs, retain_of_refs h, ← hbuffer]
  show (s.buffers.set b.index _).set b.index _ = s.buffers
  rw [List.set_set, List.set_getElem_self]

/-- A live scope takes a reference if there is one. -/
theorem keepUntilClose_of_live (h : s.scope e = .live queue) (hrefs : (s.buffer b).refs ≠ 0) :
    s.keepUntilClose b e = (((s.retain b).1.offer e (.giveBack b)).1, true) := by
  have hlive := (scope_eq_of_scopes (retain_scopes s b).1 e).trans h
  have hretain : s.retain b = ((s.retain b).1, true) := by rw [retain_of_refs hrefs]
  unfold keepUntilClose
  rw [hretain]
  dsimp only
  rw [offer_of_live hlive]

/-- A scope takes a reference if it is live and there is one; otherwise nothing changes. -/
theorem keepUntilClose_cases (s : Store) (b : BufferId) (e : ScopeId) :
    (∃ queue, s.scope e = .live queue ∧ (s.buffer b).refs ≠ 0 ∧
      s.keepUntilClose b e = (((s.retain b).1.offer e (.giveBack b)).1, true)) ∨
    (s.keepUntilClose b e).2 = false ∧ Unmoved s (s.keepUntilClose b e).1 := by
  by_cases hrefs : (s.buffer b).refs = 0
  · unfold keepUntilClose
    rw [retain_of_freed hrefs]
    exact .inr ⟨rfl, .refl s⟩
  cases hscope : s.scope e with
  | live queue => exact .inl ⟨queue, rfl, hrefs, keepUntilClose_of_live hscope hrefs⟩
  | closed =>
    obtain ⟨hscopes, hticket⟩ := retain_scopes s b
    have hclosed := (scope_eq_of_scopes hscopes e).trans hscope
    have hretain : s.retain b = ((s.retain b).1, true) := by rw [retain_of_refs hrefs]
    unfold keepUntilClose
    rw [hretain]
    dsimp only
    rw [offer_of_closed hclosed]
    refine .inr ⟨rfl, ?_, ?_, ?_⟩
    · exact (release_scopes _ b).1.trans hscopes
    · exact buffers_release_retain hrefs rfl
    · dsimp only
      rw [(release_scopes _ b).2]
      show s.nextTicket ≤ (s.retain b).1.nextTicket + 1
      rw [hticket]
      exact Nat.le_succ _

end Store

end Http1Client
