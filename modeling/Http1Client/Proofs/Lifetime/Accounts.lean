import Http1Client.Proofs.Lifetime.Fates

/-!
# Nothing that is offered is lost or run twice

Every move keeps a world accounted for. The tickets are only moved about: a move leaves all places
with the same tickets, or adds the next one (`places_of_changes`). What else is told of offers,
queues and closes is kept because nothing of it is undone (`Grows`), so that only the new offer,
the new queue or the close that got on is to be looked at.
-/

namespace Http1Client

/-! ## Lists that have grown or changed at one place -/

section Lists

variable {α : Type} {l l' : List α} {i : Nat} {x y : α}

theorem getElem?_of_prefix (h : l <+: l') (hi : l[i]? = some x) : l'[i]? = some x := by
  obtain ⟨later, rfl⟩ := h
  rw [List.getElem?_append_left (List.getElem?_eq_some_iff.1 hi).1]
  exact hi

theorem getElem?_concat_eq_some (h : (l ++ [x])[i]? = some y) :
    l[i]? = some y ∨ i = l.length ∧ y = x := by
  rcases Nat.lt_trichotomy i l.length with hlt | rfl | hgt
  · rw [List.getElem?_append_left hlt] at h
    exact .inl h
  · rw [List.getElem?_concat_length] at h
    exact .inr ⟨rfl, (Option.some.inj h).symm⟩
  · have hlength : (l ++ [x]).length ≤ i := by
      rw [List.length_append, List.length_singleton]
      exact hgt
    rw [List.getElem?_eq_none hlength] at h
    cases h

end Lists

theorem Lined.mono {offers offers' : List Offer} {e : ScopeId} {queue : List Entry}
    (h : Lined offers e queue) (hoffers : offers <+: offers') : Lined offers' e queue := by
  refine ⟨h.ordered, ?_⟩
  intro x hx
  obtain ⟨door, hdoor⟩ := h.offered x hx
  exact ⟨door, getElem?_of_prefix hoffers hdoor⟩

namespace World

variable {w w' : World}

/-! ## Tickets are moved about -/

theorem count_places (s : Store) (offers : List Offer) (closings : List Closing) (t : Nat) :
    (World.mk s offers closings).places.count t = (s.scopes.flatMap Scope.tickets).count t +
      (s.fates.map (·.1)).count t + (closings.flatMap Closing.tickets).count t := by
  rw [places, Store.places, List.count_append, List.count_append]

/-- A scope that is changed takes its tickets with it. -/
theorem count_setScope {s : Store} {e : ScopeId} {queue : List Entry}
    (hlive : s.scope e = .live queue) (scope : Scope) (t : Nat) :
    ((s.setScope e scope).scopes.flatMap Scope.tickets).count t +
        (queue.map (·.ticket)).count t =
      (s.scopes.flatMap Scope.tickets).count t + scope.tickets.count t :=
  countP_flatMap_set Scope.tickets (Store.getElem?_of_live hlive) scope (· == t)

theorem count_offer {s : Store} {e : ScopeId} {queue : List Entry}
    (hlive : s.scope e = .live queue) (a : Action) (t : Nat) :
    ((s.offer e a).1.scopes.flatMap Scope.tickets).count t =
      (s.nextTicket :: s.scopes.flatMap Scope.tickets).count t := by
  have hscopes : s.ticket.1.scopes = s.scopes := rfl
  have hset := count_setScope (s := s.ticket.1) hlive (.live (⟨s.nextTicket, a⟩ :: queue)) t
  rw [hscopes, Scope.tickets, List.map_cons, List.count_cons] at hset
  rw [Store.offer_of_live hlive, List.count_cons]
  dsimp only at hset ⊢
  omega

/-- A close that gets on turns tickets into fates. -/
theorem places_set (moved : List Nat) {s : Store} {i : Nat} {c c' : Closing}
    (hi : w.closings[i]? = some c) (hscopes : s.scopes = w.store.scopes)
    (hfates : s.fates.map (·.1) = moved ++ w.store.fates.map (·.1))
    (hmoved : c.tickets.Perm (moved ++ c'.tickets)) :
    (World.mk s w.offers (w.closings.set i c')).places.Perm w.places := by
  rw [List.perm_iff_count]
  intro t
  have hset : ((w.closings.set i c').flatMap Closing.tickets).count t + c.tickets.count t =
      (w.closings.flatMap Closing.tickets).count t + c'.tickets.count t :=
    countP_flatMap_set Closing.tickets hi c' (· == t)
  rw [hmoved.count_eq, List.count_append] at hset
  rw [count_places, count_places, hscopes, hfates, List.count_append]
  omega

/-- A move gives out no ticket, or the next one; all others are still somewhere. -/
theorem places_of_changes (h : Changes w w') :
    w'.store.nextTicket = w.store.nextTicket ∧ w'.places.Perm w.places ∨
      w'.store.nextTicket = w.store.nextTicket + 1 ∧
        w'.places.Perm (w.store.nextTicket :: w.places) := by
  cases h with
  | same h =>
    refine .inl ⟨h.nextTicket, List.perm_iff_count.2 ?_⟩
    intro t
    rw [count_places, count_places, h.scopes, h.fates]
  | opens =>
    have hscopes : w.store.openScope.1.scopes.flatMap Scope.tickets =
        w.store.scopes.flatMap Scope.tickets := by
      unfold Store.openScope
      rw [List.flatMap_append]
      exact List.append_nil _
    refine .inl ⟨rfl, List.perm_iff_count.2 ?_⟩
    intro t
    rw [count_places, count_places, hscopes]
    rfl
  | @queues e queue hlive door a =>
    have hfates : (w.store.offer e a).1.fates = w.store.fates := by
      rw [Store.offer_of_live hlive]
      rfl
    have hticket : (w.store.offer e a).1.nextTicket = w.store.nextTicket + 1 := by
      rw [Store.offer_of_live hlive]
      rfl
    refine .inr ⟨hticket, List.perm_iff_count.2 ?_⟩
    intro t
    rw [List.count_cons, count_places, count_places, hfates, count_offer hlive, List.count_cons]
    omega
  | late _ hscopes hticket hfates =>
    refine .inr ⟨hticket, List.perm_iff_count.2 ?_⟩
    intro t
    rw [List.count_cons, count_places, count_places, hscopes, hfates, List.map_cons,
      List.count_cons]
    dsimp only
    omega
  | @takes e queue hlive =>
    let c : Closing := ⟨e, [], queue, none⟩
    have htaken : (w.closings ++ [c]).flatMap Closing.tickets =
        w.closings.flatMap Closing.tickets ++ queue.map (·.ticket) := by
      rw [List.flatMap_append, List.flatMap_singleton]
      rfl
    -- What the scope had queued is now what the close is going to begin.
    refine .inl ⟨rfl, List.perm_iff_count.2 ?_⟩
    intro t
    have hset := count_setScope hlive .closed t
    have hfates : (w.store.setScope e .closed).fates = w.store.fates := rfl
    rw [Scope.tickets, List.count_nil] at hset
    rw [count_places, count_places, htaken, List.count_append, hfates]
    omega
  | @begins i e done rest x hi =>
    exact .inl ⟨rfl, places_set [x.ticket] hi rfl rfl (List.Perm.refl _)⟩
  | @finishes i e done hi =>
    exact .inl ⟨rfl, places_set [] hi rfl rfl (List.Perm.refl [])⟩
  | @fails i e done rest _ hi =>
    have hfates : (w.store.discard rest).fates.map (·.1) =
        (rest.map (·.ticket)).reverse ++ w.store.fates.map (·.1) := by
      rw [fates_discard, List.map_append, List.map_reverse, List.map_map]
      rfl
    have hmoved : (Closing.tickets ⟨e, done, rest, none⟩).Perm
        ((rest.map (·.ticket)).reverse ++ Closing.tickets ⟨e, done, rest, some .failed⟩) := by
      show (rest.map (·.ticket)).Perm ((rest.map (·.ticket)).reverse ++ [])
      rw [List.append_nil]
      exact (List.reverse_perm _).symm
    have hscopes := (Store.unmoved_discard rest w.store).scopes
    exact .inl ⟨nextTicket_discard rest w.store, places_set _ hi hscopes hfates hmoved⟩

theorem once_of_changes (h : Changes w w')
    (honce : ∀ t, w.places.count t = if t < w.store.nextTicket then 1 else 0) (t : Nat) :
    w'.places.count t = if t < w'.store.nextTicket then 1 else 0 := by
  rcases places_of_changes h with ⟨hticket, hplaces⟩ | ⟨hticket, hplaces⟩
  · rw [hplaces.count_eq, hticket, honce]
  · rw [hplaces.count_eq, hticket, List.count_cons, honce]
    by_cases heq : w.store.nextTicket = t
    · subst heq
      simp
    · have hne : ¬ (w.store.nextTicket == t) = true := by simpa using heq
      rw [if_neg hne, Nat.add_zero]
      exact if_congr (by omega) rfl rfl

/-! ## What is told stays true -/

theorem Grows.keeps (h : Grows w w') {t : Nat} {o : Offer} (hkeeps : w.Keeps t o) :
    w'.Keeps t o := by
  rcases hkeeps with ⟨queue, hlive, hmem⟩ | ⟨c, hc, hscope, hmem⟩
  · rcases h.queues o.scope queue hlive with ⟨newer, hlive'⟩ | ⟨c, hc, hscope, hqueue⟩
    · exact .inl ⟨_, hlive', List.mem_append_right newer hmem⟩
    · exact .inr ⟨c, hc, hscope, hqueue.subset hmem⟩
  · obtain ⟨c', hc', hgets⟩ := h.closings c hc
    exact .inr ⟨c', hc', hgets.scope_eq.trans hscope, hgets.queue_eq ▸ hmem⟩

theorem Grows.explains (h : Grows w w') {t : Nat} {fate : Fate} (hwhy : w.Explains t fate) :
    w'.Explains t fate := by
  cases fate with
  | begun =>
    rcases hwhy with ⟨c, hc, x, hx, rfl⟩ | ⟨o, ho, hlate⟩
    · obtain ⟨c', hc', hgets⟩ := h.closings c hc
      exact .inl ⟨c', hc', x, hgets.ran.subset hx, rfl⟩
    · exact .inr ⟨o, getElem?_of_prefix h.offers ho, hlate⟩
  | handedBack =>
    obtain ⟨o, ho, hlate⟩ := hwhy
    exact ⟨o, getElem?_of_prefix h.offers ho, hlate⟩
  | discarded =>
    obtain ⟨c, hc, hfailed, hrest⟩ := hwhy
    obtain ⟨c', hc', hgets⟩ := h.closings c hc
    obtain rfl := hgets.ended (by rw [hfailed]; nofun)
    exact ⟨c', hc', hfailed, hrest⟩

/-- What has begun has begun in the same order. -/
theorem Grows.begunTickets (h : Grows w w') :
    w.store.begunTickets.Sublist w'.store.begunTickets :=
  ((h.fates.filter _).sublist).map _

theorem Grows.sound (h : Grows w w') {c : Closing} (hc : c.Sound w) : c.Sound w' := by
  refine ⟨h.isOver _ hc.isOver, hc.lined.mono h.offers, hc.begun.trans h.begunTickets, hc.fine, ?_⟩
  intro hfailed
  obtain ⟨hran, hrest⟩ := hc.failed hfailed
  refine ⟨hran, ?_⟩
  intro x hx
  exact h.fates.subset (hrest x hx)

/-! ## Each part is kept -/

theorem length_offers_of_changes (h : Changes w w')
    (hoffered : w.offers.length = w.store.nextTicket) :
    w'.offers.length = w'.store.nextTicket := by
  cases h with
  | same h => exact hoffered.trans h.nextTicket.symm
  | opens => exact hoffered
  | queues hlive door a =>
    rw [Store.offer_of_live hlive, List.length_append, List.length_singleton, hoffered]
    rfl
  | late _ _ hticket _ =>
    rw [hticket, List.length_append, List.length_singleton, hoffered]
  | takes hlive => exact hoffered
  | begins hi => exact hoffered
  | finishes hi => exact hoffered
  | fails _ hi => exact hoffered.trans (nextTicket_discard _ _).symm

theorem lined_of_changes (h : Changes w w') (hoffered : w.offers.length = w.store.nextTicket)
    (hlined : ∀ e queue, w.store.scope e = .live queue → Lined w.offers e queue) (e : ScopeId)
    (queue : List Entry) (hlive : w'.store.scope e = .live queue) : Lined w'.offers e queue := by
  have hoffers := (grows_of_changes h).offers
  have hsame (hscopes : w'.store.scopes = w.store.scopes) : Lined w'.offers e queue := by
    rw [Store.scope_eq_of_scopes hscopes] at hlive
    exact (hlined e queue hlive).mono hoffers
  cases h with
  | same h => exact hsame h.scopes
  | opens =>
    rw [Store.scope_openScope] at hlive
    split at hlive
    · cases hlive
      exact ⟨.nil, nofun⟩
    · exact hlined e queue hlive
  | @queues e' older hlive' door a =>
    rw [Store.scope_offer hlive'] at hlive
    split at hlive
    · next heq =>
      cases hlive
      subst heq
      have holder := (hlined e older hlive').mono hoffers
      -- The new ticket is the number of all offers before, so it is above those of the queue.
      refine ⟨List.pairwise_cons.2 ⟨?_, holder.ordered⟩,
        List.forall_mem_cons.2 ⟨⟨door, ?_⟩, holder.offered⟩⟩
      · intro x hx
        obtain ⟨_, hx⟩ := (hlined e older hlive').offered x hx
        exact hoffered ▸ (List.getElem?_eq_some_iff.1 hx).1
      · rw [← hoffered]
        exact List.getElem?_concat_length
    · exact (hlined e queue hlive).mono hoffers
  | late _ hscopes _ _ => exact hsame hscopes
  | @takes e' older hlive' =>
    rw [Store.scope_setScope (Store.index_lt_of_live hlive')] at hlive
    split at hlive
    · cases hlive
    · exact hlined e queue hlive
  | begins hi => exact hsame rfl
  | finishes hi => exact hsame rfl
  | fails _ hi => exact hsame (Store.unmoved_discard _ w.store).scopes

/-- An offer that was not there before is the one just made. -/
theorem offer_of_changes (h : Changes w w') (hoffered : w.offers.length = w.store.nextTicket)
    {t : Nat} {o : Offer} (ho : w'.offers[t]? = some o) :
    w.offers[t]? = some o ∨
      (o.late = false ∧ ∃ queue, w'.store.scope o.scope = .live (⟨t, o.action⟩ :: queue)) ∨
      (o.late = true ∧ (t, o.door.fate) ∈ w'.store.fates) := by
  cases h with
  | @queues e older hlive door a =>
    rcases getElem?_concat_eq_some ho with hold | ⟨rfl, rfl⟩
    · exact .inl hold
    · refine .inr (.inl ⟨rfl, older, ?_⟩)
      rw [Store.scope_offer hlive, if_pos rfl, hoffered]
  | late hlate _ _ hfates =>
    rcases getElem?_concat_eq_some ho with hold | ⟨rfl, rfl⟩
    · exact .inl hold
    · refine .inr (.inr ⟨hlate, ?_⟩)
      rw [hfates, hoffered]
      exact List.mem_cons_self
  | same h => exact .inl ho
  | opens => exact .inl ho
  | takes hlive => exact .inl ho
  | begins hi => exact .inl ho
  | finishes hi => exact .inl ho
  | fails _ hi => exact .inl ho

theorem explained_of_changes (h : Changes w w') (hoffered : w.offers.length = w.store.nextTicket)
    (hexplained : ∀ t fate, (t, fate) ∈ w.store.fates → w.Explains t fate) (t : Nat) (fate : Fate)
    (hfate : (t, fate) ∈ w'.store.fates) : w'.Explains t fate := by
  have hold (hmem : (t, fate) ∈ w.store.fates) : w'.Explains t fate :=
    (grows_of_changes h).explains (hexplained t fate hmem)
  cases h with
  | same h => exact hold (h.fates ▸ hfate)
  | opens => exact hold hfate
  | queues hlive door a =>
    rw [Store.offer_of_live hlive] at hfate
    exact hold hfate
  | @late s o hlate _ _ hfates =>
    rw [hfates] at hfate
    rcases List.mem_cons.1 hfate with hnew | hmem
    · cases hnew
      have ho : (w.offers ++ [o])[w.store.nextTicket]? = some o :=
        hoffered ▸ List.getElem?_concat_length
      cases hdoor : o.door with
      | owner => exact .inr ⟨o, ho, hlate, hdoor⟩
      | reference => exact ⟨o, ho, hlate, hdoor⟩
    · exact hold hmem
  | takes hlive => exact hold hfate
  | @begins i e done rest x hi =>
    rcases List.mem_cons.1 hfate with hnew | hmem
    · cases hnew
      have hc := List.mem_set (List.getElem?_eq_some_iff.1 hi).1 ⟨e, done ++ [x], rest, none⟩
      exact .inl ⟨_, hc, x, List.mem_append_right _ (List.mem_singleton_self x), rfl⟩
    · exact hold hmem
  | finishes hi => exact hold hfate
  | @fails i e done rest _ hi =>
    rw [fates_discard] at hfate
    rcases List.mem_append.1 hfate with hnew | hmem
    · obtain ⟨x, hx, hticket⟩ := List.mem_map.1 (List.mem_reverse.1 hnew)
      cases hticket
      have hc := List.mem_set (List.getElem?_eq_some_iff.1 hi).1 ⟨e, done, rest, some .failed⟩
      exact ⟨_, hc, rfl, x, hx, rfl⟩
    · exact hold hmem

theorem sound_of_changes (h : Changes w w')
    (hlined : ∀ e queue, w.store.scope e = .live queue → Lined w.offers e queue)
    (hsound : ∀ c ∈ w.closings, c.Sound w) (c : Closing) (hc : c ∈ w'.closings) : c.Sound w' := by
  have hgrows := grows_of_changes h
  have hold (hmem : c ∈ w.closings) : c.Sound w' := hgrows.sound (hsound c hmem)
  cases h with
  | same h => exact hold hc
  | opens => exact hold hc
  | queues hlive door a => exact hold hc
  | late => exact hold hc
  | @takes e queue hlive =>
    rcases List.mem_append.1 hc with hmem | hnew
    · exact hold hmem
    · cases List.mem_singleton.1 hnew
      have hindex := Store.index_lt_of_live hlive
      refine ⟨⟨?_, ?_⟩, hlined e queue hlive, List.nil_sublist _, nofun, nofun⟩
      · exact Nat.lt_of_lt_of_eq hindex List.length_set.symm
      · exact (Store.scope_setScope hindex _ e).trans (if_pos rfl)
  | @begins i e done rest x hi =>
    rcases List.mem_or_eq_of_mem_set hc with hmem | rfl
    · exact hold hmem
    · have hbefore := hsound _ (List.mem_of_getElem? hi)
      have hqueue : Closing.queue ⟨e, done ++ [x], rest, none⟩ = done ++ x :: rest :=
        List.append_assoc _ _ _
      refine ⟨hgrows.isOver _ hbefore.isOver, hqueue ▸ hbefore.lined, ?_, nofun, nofun⟩
      show ((done ++ [x]).map (·.ticket)).reverse.Sublist (x.ticket :: w.store.begunTickets)
      rw [List.map_append, List.reverse_append]
      exact hbefore.begun.cons_cons _
  | @finishes i e done hi =>
    rcases List.mem_or_eq_of_mem_set hc with hmem | rfl
    · exact hold hmem
    · have hbefore := hsound _ (List.mem_of_getElem? hi)
      exact ⟨hbefore.isOver, hbefore.lined, hbefore.begun, fun _ => rfl, nofun⟩
  | @fails i e done rest hdone hi =>
    rcases List.mem_or_eq_of_mem_set hc with hmem | rfl
    · exact hold hmem
    · have hbefore := hgrows.sound (hsound _ (List.mem_of_getElem? hi))
      refine ⟨hbefore.isOver, hbefore.lined, hbefore.begun, nofun, ?_⟩
      intro _
      refine ⟨hdone, ?_⟩
      intro x hx
      show (x.ticket, Fate.discarded) ∈ (w.store.discard rest).fates
      rw [fates_discard]
      exact List.mem_append_left _ (List.mem_reverse.2 (List.mem_map_of_mem hx))

/-- A close that gets on is that of the same scope. -/
theorem apart_set {closings : List Closing} {i : Nat} {c c' : Closing}
    (hi : closings[i]? = some c) (hscope : c'.scope = c.scope)
    (hapart : (closings.map (·.scope)).Nodup) : ((closings.set i c').map (·.scope)).Nodup := by
  obtain ⟨hlt, rfl⟩ := List.getElem?_eq_some_iff.1 hi
  have hlt' : i < (closings.map (·.scope)).length := by rwa [List.length_map]
  have hsame : (closings.map (·.scope))[i] = closings[i].scope := List.getElem_map _
  rw [List.map_set, hscope, ← hsame, List.set_getElem_self]
  exact hapart

theorem apart_of_changes (h : Changes w w') (hsound : ∀ c ∈ w.closings, c.Sound w)
    (hapart : (w.closings.map (·.scope)).Nodup) : (w'.closings.map (·.scope)).Nodup := by
  cases h with
  | same h => exact hapart
  | opens => exact hapart
  | queues hlive door a => exact hapart
  | late => exact hapart
  | @takes e queue hlive =>
    -- The scope is live, and those of earlier closes are over.
    have hnew : e ∉ w.closings.map (·.scope) := by
      intro hmem
      obtain ⟨c, hc, rfl⟩ := List.mem_map.1 hmem
      cases hlive.symm.trans (hsound c hc).isOver.2
    rw [List.map_append]
    exact List.nodup_append_comm.1 (List.nodup_cons.2 ⟨hnew, hapart⟩)
  | begins hi => exact apart_set hi rfl hapart
  | finishes hi => exact apart_set hi rfl hapart
  | fails _ hi => exact apart_set hi rfl hapart

/-! ## All is accounted for -/

theorem accounted_of_changes (h : Changes w w') (hw : w.Accounted) : w'.Accounted where
  once := once_of_changes h hw.once
  offered := length_offers_of_changes h hw.offered
  lined := lined_of_changes h hw.offered hw.lined
  kept t o ho hlate := by
    rcases offer_of_changes h hw.offered ho with hold | ⟨_, queue, hlive⟩ | ⟨hlate', _⟩
    · exact (grows_of_changes h).keeps (hw.kept t o hold hlate)
    · exact .inl ⟨_, hlive, List.mem_cons_self⟩
    · rw [hlate] at hlate'
      cases hlate'
  late t o ho hlate := by
    rcases offer_of_changes h hw.offered ho with hold | ⟨hlate', _⟩ | ⟨_, hfate⟩
    · exact (grows_of_changes h).fates.subset (hw.late t o hold hlate)
    · rw [hlate] at hlate'
      cases hlate'
    · exact hfate
  explained := explained_of_changes h hw.offered hw.explained
  sound := sound_of_changes h hw.lined hw.sound
  apart := apart_of_changes h hw.sound hw.apart

/-- Before anything is offered, nothing is anywhere. -/
theorem accounted_start : start.Accounted where
  once _ := rfl
  offered := rfl
  lined e queue hlive := by
    rw [Store.scope_of_unopened (Nat.zero_le _)] at hlive
    cases hlive
  kept t o ho := nomatch ho
  late t o ho := nomatch ho
  explained := nofun
  sound := nofun
  apart := .nil

theorem accounted_run (moves : List Move) (hw : w.Accounted) : (w.run moves).Accounted := by
  induction moves generalizing w with
  | nil => exact hw
  | cons m moves ih => exact ih (accounted_of_changes (changes_step w m) hw)

/-- Between two calls nothing waits to be begun by a close. -/
theorem places_of_rested (h : w.Rested) : w.places = w.store.places := by
  have hnone : w.closings.flatMap Closing.tickets = [] := by
    rw [List.flatMap_eq_nil_iff]
    intro c hc
    rw [Closing.tickets, (h c hc).2]
    exact if_neg nofun
  rw [places, hnone, List.append_nil]

/-- In every world all that was offered is accounted for, and what has happened is not undone.
Whatever is called leads on in the world that writes down what it offers and closes: so the whole
queue of a live scope that is closed has begun up to the first action that fails, and to close a
scope that is over does nothing. Between calls no close is under way, and each ticket is queued or
has a fate, once. -/
theorem offers_accounted :
    (∀ w, start.Leads w → w.Accounted) ∧ (∀ w w', Leads w w' → Grows w w') ∧
    (∀ (w : World) (c : Call), w.Leads (w.call c)) ∧
    (∀ (w : World) (e : ScopeId) (queue : List Entry), w.store.scope e = .live queue →
      (w.call (.close e)).closings =
          w.closings ++ [⟨e, ran queue, lost queue, some (ending queue)⟩] ∧
        (w.store.close e).2 = ending queue) ∧
    (∀ (w : World) (e : ScopeId), w.store.scope e = .closed →
      w.step (.close e) = w ∧ w.call (.close e) = w) ∧
    ∀ calls later : List Call,
      let w := calls.foldl call start
      let w' := later.foldl call w
      start.Leads w ∧ w.Leads w' ∧ w.store = calls.foldl Store.call {} ∧
        w'.store = later.foldl Store.call w.store ∧ w.Rested ∧ w'.Rested ∧
        ∀ t, w.store.places.count t = if t < w.store.nextTicket then 1 else 0 := by
  have haccounted : ∀ w, start.Leads w → w.Accounted := by
    rintro w ⟨moves, rfl⟩
    exact accounted_run moves accounted_start
  refine ⟨haccounted, ?_, fun w c => leads_call c w, ?_, ?_, ?_⟩
  · rintro w w' ⟨moves, rfl⟩
    exact grows_run w moves
  · intro w e queue hlive
    refine ⟨?_, ?_⟩
    · rw [call, Store.closings, hlive]
    · rw [Store.close_of_live hlive, Store.runQueue_ending]
  · intro w e hclosed
    refine ⟨step_close_of_closed hclosed, ?_⟩
    rw [call_of_quiet (by rw [Store.closings, hclosed]) (by rw [Store.offered, hclosed]),
      Store.call, Store.close_of_closed hclosed]
  · intro calls later w w'
    have hleads : start.Leads w := leads_calls calls start
    have hrested : w.Rested := rested_calls rested_start calls
    refine ⟨hleads, leads_calls later w, store_calls calls start, store_calls later w, hrested,
      rested_calls hrested later, ?_⟩
    intro t
    rw [← places_of_rested hrested]
    exact (haccounted w hleads).once t

/-- The newer of two actions offers another to its own scope, and then it fails; to close the
scope once more does nothing. -/
theorem offers_accounted_nested :
    let calls : List Call := [.openScope, .onCleanup ⟨0⟩ .done,
      .onCleanup ⟨0⟩ (.offer ⟨0⟩ .done .fail), .close ⟨0⟩]
    let w := calls.foldl call start
    w.store.fates = [(0, .discarded), (2, .handedBack), (1, .begun)] ∧
      w.offers = [⟨⟨0⟩, .owner, .done, false⟩,
        ⟨⟨0⟩, .owner, .offer ⟨0⟩ .done .fail, false⟩, ⟨⟨0⟩, .reference, .done, true⟩] ∧
      w.Accounted ∧ Grows w (w.step (.close ⟨0⟩)) ∧ w.call (.close ⟨0⟩) = w := by
  intro calls w
  have hclosed : w.store.scope ⟨0⟩ = .closed := rfl
  obtain ⟨haccounted, hgrows, -, -, hagain, hcalls⟩ := offers_accounted
  obtain ⟨hleads, -⟩ := hcalls calls []
  exact ⟨rfl, rfl, haccounted w hleads, hgrows w _ ⟨[.close ⟨0⟩], rfl⟩, (hagain w ⟨0⟩ hclosed).2⟩

end World

end Http1Client
