import Http1Client.Proofs.Lifetime.History
import Http1Client.Proofs.Lifetime.Store
import Mathlib.Data.List.Nodup

/-!
# What becomes of what is queued

A live scope has in its queue what was queued on it, and has begun none of it. A closed scope
has begun its entries from the newest on, up to the first that fails (`ran`), apart from those
that its close is still going to run (`Work.upcoming`). This and the order of the tickets are
`Queues`, which every step keeps (`Queues.step`).

From it follows what became of an entry, once its scope has ended: it was begun, unless an action
that was queued later fails (`Queues.mem_begun_iff`).
-/

namespace Http1Client

/-! ## Entries that are run -/

/-- The action fails at its end. -/
def Action.fails : Action → Bool
  | .done | .giveBack _ => false
  | .fail => true
  | .mark _ next | .release _ next | .offer _ _ next => next.fails

/-- The entries of a queue that a close runs: up to the first that fails. -/
def ran : List Entry → List Entry
  | [] => []
  | x :: rest => x :: if x.action.fails then [] else ran rest

theorem ran_sublist (queue : List Entry) : (ran queue).Sublist queue := by
  induction queue with
  | nil => exact List.Sublist.slnil
  | cons x rest ih =>
    refine List.Sublist.cons_cons x ?_
    split
    · exact List.nil_sublist rest
    · exact ih

/-- An entry is run unless one before it fails. -/
theorem mem_ran_iff {before later : List Entry} {x : Entry} (hnew : x ∉ before) :
    x ∈ ran (before ++ x :: later) ↔ ∀ y ∈ before, y.action.fails = false := by
  induction before with
  | nil => exact ⟨fun _ => nofun, fun _ => List.mem_cons_self⟩
  | cons y before ih =>
    rw [List.mem_cons, not_or] at hnew
    obtain ⟨hne, hnew⟩ := hnew
    rw [List.forall_mem_cons, ← ih hnew, List.cons_append, ran, List.mem_cons, or_iff_right hne]
    cases y.action.fails with
    | true => exact ⟨nofun, fun h => nomatch h.1⟩
    | false => exact ⟨fun h => ⟨rfl, h⟩, fun h => h.2⟩

namespace Work

/-- The scope that is being closed. -/
def scope? : Work → Option ScopeId
  | .idle | .acting none _ => none
  | .closing e _ | .acting (some (e, _)) _ => some e

/-- The entries of a scope that its close has taken and not begun yet. -/
def pending (e : ScopeId) : Work → List Entry
  | .idle | .acting none _ => []
  | .closing e' rest | .acting (some (e', rest)) _ => if e' = e then rest else []

/-- Those of them that it is going to run. -/
def upcoming (e : ScopeId) : Work → List Entry
  | .idle | .acting none _ => []
  | .closing e' rest => if e' = e then ran rest else []
  | .acting (some (e', rest)) a => if e' = e ∧ a.fails = false then ran rest else []

theorem upcoming_of_ne {w : Work} {e : ScopeId} (h : w.scope? ≠ some e) : w.upcoming e = [] := by
  unfold upcoming
  split
  · rfl
  · rfl
  · exact if_neg fun heq => h (congrArg some heq)
  · exact if_neg fun heq => h (congrArg some heq.1)

theorem pending_of_ne {w : Work} {e : ScopeId} (h : w.scope? ≠ some e) : w.pending e = [] := by
  unfold pending
  split
  · rfl
  · rfl
  · exact if_neg fun heq => h (congrArg some heq)
  · exact if_neg fun heq => h (congrArg some heq)

/-- What is to be run stays the same. -/
structure Continues (w w' : Work) : Prop where
  scope? : ∀ e, w'.scope? = some e → w.scope? = some e
  pending : ∀ e, w'.pending e = w.pending e
  upcoming : ∀ e, w'.upcoming e = w.upcoming e

theorem Continues.refl (w : Work) : w.Continues w := ⟨fun _ h => h, fun _ => rfl, fun _ => rfl⟩

/-- A step of an action that is not its end. -/
theorem continues_acting (behind : Option (ScopeId × List Entry)) {a next : Action}
    (h : next.fails = a.fails) : (acting behind a).Continues (acting behind next) := by
  cases behind with
  | none => exact ⟨fun _ h => h, fun _ => rfl, fun _ => rfl⟩
  | some b => exact ⟨fun _ h => h, fun _ => rfl, fun e => by simp only [Work.upcoming, h]⟩

/-- The end of an action that ends well. -/
theorem continues_after (behind : Option (ScopeId × List Entry)) {a : Action}
    (h : a.fails = false) : (acting behind a).Continues (after behind) := by
  cases behind with
  | none => exact ⟨fun _ h => h, fun _ => rfl, fun _ => rfl⟩
  | some b =>
    refine ⟨fun _ h => h, fun _ => rfl, fun e => ?_⟩
    simp only [after, Work.upcoming, h, and_true]

/-- The end of a close. -/
theorem continues_idle (e : ScopeId) : (closing e []).Continues idle := by
  refine ⟨nofun, fun e' => ?_, fun e' => ?_⟩
  · exact (ite_self []).symm
  · exact (ite_self []).symm

/-- An action that is run alone begins. -/
theorem continues_alone (a : Action) : idle.Continues (acting none a) :=
  ⟨nofun, fun _ => rfl, fun _ => rfl⟩

/-- It ends, well or not. -/
theorem continues_stop (a : Action) : (acting none a).Continues idle :=
  ⟨nofun, fun _ => rfl, fun _ => rfl⟩

end Work

/-! ## What deeds tell of queues -/

/-- Entries of one scope. -/
def entriesOn (e : ScopeId) (entries : List (ScopeId × Entry)) : List Entry :=
  (entries.filter (·.1 = e)).map (·.2)

theorem mem_entriesOn {e : ScopeId} {x : Entry} {entries : List (ScopeId × Entry)} :
    x ∈ entriesOn e entries ↔ (e, x) ∈ entries := by
  simp [entriesOn]

theorem entriesOn_cons (e e' : ScopeId) (x : Entry) (entries : List (ScopeId × Entry)) :
    entriesOn e ((e', x) :: entries) =
      if e' = e then x :: entriesOn e entries else entriesOn e entries := by
  unfold entriesOn
  rw [List.filter_cons]
  split <;> simp_all

namespace Deed

def queued? : Deed → Option (ScopeId × Entry)
  | .queued e x => some (e, x)
  | _ => none

def begun? : Deed → Option (ScopeId × Entry)
  | .began e x => some (e, x)
  | _ => none

def failure? : Deed → Option ScopeId
  | .failed e => some e
  | _ => none

end Deed

/-- What was queued, the newest first. -/
def queued (deeds : List Deed) : List (ScopeId × Entry) := deeds.filterMap Deed.queued?

/-- What began to run, the latest first. -/
def begun (deeds : List Deed) : List (ScopeId × Entry) := deeds.filterMap Deed.begun?

/-- The scopes whose close met an action that failed. -/
def failures (deeds : List Deed) : List ScopeId := deeds.filterMap Deed.failure?

/-- Nothing else was queued, nothing else began and nothing else failed. -/
structure Alike (deeds deeds' : List Deed) : Prop where
  queued : queued deeds' = queued deeds
  begun : begun deeds' = begun deeds
  failures : failures deeds' = failures deeds

theorem Alike.refl (deeds : List Deed) : Alike deeds deeds := ⟨rfl, rfl, rfl⟩

/-- How a store, what has happened and what is being done agree on queues. -/
structure Queues (s : Store) (deeds : List Deed) (w : Work) : Prop where
  live : ∀ e queue, s.scope e = .live queue →
    entriesOn e (queued deeds) = queue ∧ entriesOn e (begun deeds) = []
  closed : ∀ e, s.scope e = .closed →
    ran (entriesOn e (queued deeds)) = (entriesOn e (begun deeds)).reverse ++ w.upcoming e
  /-- If nothing fails, nothing is lost. -/
  whole : ∀ e, s.scope e = .closed → e ∈ failures deeds ∨
    entriesOn e (queued deeds) = (entriesOn e (begun deeds)).reverse ++ w.pending e
  busy : ∀ e, w.scope? = some e → s.scope e = .closed
  unopened : ∀ e : ScopeId, s.scopes.length ≤ e.index → entriesOn e (queued deeds) = []
  /-- Tickets grow. -/
  ordered : (queued deeds).Pairwise fun later earlier => earlier.2.ticket < later.2.ticket
  ticketed : ∀ x ∈ queued deeds, x.2.ticket < s.nextTicket
  distinct : (begun deeds).Nodup

/-! ## Every step keeps to the queues -/

section

variable {s s' : Store} {deeds deeds' : List Deed} {w w' : Work} {e : ScopeId}
  {queue rest : List Entry} {x : Entry} {a : Action}

namespace Queues

theorem empty : Queues {} [] .idle where
  live _ _ h := nomatch h
  closed _ _ := rfl
  whole _ _ := .inr rfl
  busy _ := nofun
  unopened _ _ := rfl
  ordered := List.Pairwise.nil
  ticketed _ := nofun
  distinct := List.nodup_nil

/-- What is not about queues leaves them alone. -/
theorem alike (h : Queues s deeds w) (hscopes : s'.scopes = s.scopes)
    (hticket : s.nextTicket ≤ s'.nextTicket) (hdeeds : Alike deeds deeds')
    (hwork : w.Continues w') : Queues s' deeds' w' where
  live e queue hlive := by
    rw [Store.scope_eq_of_scopes hscopes] at hlive
    rw [hdeeds.queued, hdeeds.begun]
    exact h.live e queue hlive
  closed e hclosed := by
    rw [Store.scope_eq_of_scopes hscopes] at hclosed
    rw [hdeeds.queued, hdeeds.begun, hwork.upcoming]
    exact h.closed e hclosed
  whole e hclosed := by
    rw [Store.scope_eq_of_scopes hscopes] at hclosed
    rw [hdeeds.queued, hdeeds.begun, hdeeds.failures, hwork.pending]
    exact h.whole e hclosed
  busy e hbusy := by
    rw [Store.scope_eq_of_scopes hscopes]
    exact h.busy e (hwork.scope? e hbusy)
  unopened e hunopened := by
    rw [hscopes] at hunopened
    rw [hdeeds.queued]
    exact h.unopened e hunopened
  ordered := by
    rw [hdeeds.queued]
    exact h.ordered
  ticketed y hy := by
    rw [hdeeds.queued] at hy
    exact Nat.lt_of_lt_of_le (h.ticketed y hy) hticket
  distinct := by
    rw [hdeeds.begun]
    exact h.distinct

/-- An action is queued on a live scope. -/
theorem offer (h : Queues s deeds w) (hlive : s.scope e = .live queue) (a : Action) :
    Queues (s.offer e a).1 (.queued e ⟨s.nextTicket, a⟩ :: deeds) w := by
  have hscope := Store.scope_offer hlive a
  -- Only the queue of the one scope changes, so a closed scope is another one.
  have hclosed : ∀ other, (s.offer e a).1.scope other = .closed →
      e ≠ other ∧ s.scope other = .closed := by
    intro other hother
    rw [hscope] at hother
    split at hother
    · cases hother
    · next hne => exact ⟨Ne.symm hne, hother⟩
  have hqueued : queued (.queued e ⟨s.nextTicket, a⟩ :: deeds) =
      (e, ⟨s.nextTicket, a⟩) :: queued deeds := rfl
  have hbegun : begun (.queued e ⟨s.nextTicket, a⟩ :: deeds) = begun deeds := rfl
  refine ⟨fun other q hother => ?_, fun other hother => ?_, fun other hother => ?_,
    fun other hbusy => ?_, fun other hother => ?_, ?_, fun y hy => ?_, h.distinct⟩
  · rw [hscope] at hother
    rw [hqueued, hbegun, entriesOn_cons]
    split at hother
    · next heq =>
      subst heq
      cases hother
      obtain ⟨hqueue, hnone⟩ := h.live other queue hlive
      rw [if_pos rfl, hqueue]
      exact ⟨rfl, hnone⟩
    · next hne =>
      rw [if_neg (Ne.symm hne)]
      exact h.live other q hother
  · obtain ⟨hne, hother⟩ := hclosed other hother
    rw [hqueued, hbegun, entriesOn_cons, if_neg hne]
    exact h.closed other hother
  · obtain ⟨hne, hother⟩ := hclosed other hother
    rw [hqueued, hbegun, entriesOn_cons, if_neg hne]
    exact h.whole other hother
  · have hother := h.busy other hbusy
    rw [hscope, if_neg, hother]
    rintro rfl
    rw [hlive] at hother
    cases hother
  · have hlength : (s.offer e a).1.scopes.length = s.scopes.length := by
      rw [Store.offer_of_live hlive]
      exact List.length_set
    rw [hlength] at hother
    have hne : e ≠ other := by
      rintro rfl
      exact absurd (Store.index_lt_of_live hlive) (Nat.not_lt.2 hother)
    rw [hqueued, entriesOn_cons, if_neg hne]
    exact h.unopened other hother
  · exact List.pairwise_cons.2 ⟨h.ticketed, h.ordered⟩
  · have hticket : (s.offer e a).1.nextTicket = s.nextTicket + 1 := by
      rw [Store.offer_of_live hlive]
      rfl
    rw [hticket]
    rcases List.mem_cons.1 hy with rfl | hy
    · exact Nat.lt_succ_self _
    · exact Nat.lt_succ_of_lt (h.ticketed y hy)

/-- A new scope. -/
theorem openScope (h : Queues s deeds .idle) : Queues s.openScope.1 deeds .idle := by
  have hscope := Store.scope_openScope s
  have hclosed : ∀ other, s.openScope.1.scope other = .closed → s.scope other = .closed := by
    intro other hother
    rw [hscope] at hother
    split at hother
    · cases hother
    · exact hother
  refine ⟨fun other q hother => ?_, fun other hother => h.closed other (hclosed other hother),
    fun other hother => h.whole other (hclosed other hother), nofun, fun other hother => ?_,
    h.ordered, h.ticketed, h.distinct⟩
  · rw [hscope] at hother
    split at hother
    · next hindex =>
      -- Under the new name nothing was queued, so nothing was begun either.
      cases hother
      have hnone := h.unopened other (Nat.le_of_eq hindex.symm)
      have hran := h.closed other (Store.scope_of_unopened (Nat.le_of_eq hindex.symm))
      rw [hnone] at hran
      exact ⟨hnone, List.reverse_eq_nil_iff.1 (List.append_eq_nil_iff.1 hran.symm).1⟩
    · exact h.live other q hother
  · have hlength : s.openScope.1.scopes.length = s.scopes.length + 1 := List.length_append
    rw [hlength] at hother
    exact h.unopened other (Nat.le_of_succ_le hother)

/-- A close takes the queue. -/
theorem close (h : Queues s deeds .idle) (hlive : s.scope e = .live queue) :
    Queues (s.setScope e .closed) deeds (.closing e queue) := by
  have hscope := Store.scope_setScope (Store.index_lt_of_live hlive) .closed
  obtain ⟨hqueue, hnone⟩ := h.live e queue hlive
  refine ⟨fun other q hother => ?_, fun other hother => ?_, fun other hother => ?_,
    fun other hbusy => ?_, fun other hother => ?_, h.ordered, h.ticketed, h.distinct⟩
  · rw [hscope] at hother
    split at hother
    · cases hother
    · exact h.live other q hother
  · rw [hscope] at hother
    split at hother
    · next heq =>
      subst heq
      simp only [Work.upcoming, hqueue, hnone, if_true, List.reverse_nil, List.nil_append]
    · next hne =>
      simp only [Work.upcoming, if_neg (Ne.symm hne)]
      exact h.closed other hother
  · rw [hscope] at hother
    split at hother
    · next heq =>
      subst heq
      simp only [Work.pending, hqueue, hnone, if_true, List.reverse_nil, List.nil_append,
        or_true]
    · next hne =>
      simp only [Work.pending, if_neg (Ne.symm hne)]
      exact h.whole other hother
  · cases hbusy
    rw [hscope, if_pos rfl]
  · have hlength : (s.setScope e .closed).scopes.length = s.scopes.length := List.length_set
    rw [hlength] at hother
    exact h.unopened other hother

theorem ordered_on (h : Queues s deeds w) (e : ScopeId) :
    (entriesOn e (queued deeds)).Pairwise fun later earlier => earlier.ticket < later.ticket :=
  List.pairwise_map.2 (h.ordered.filter _)

/-- Of one scope, nothing is queued twice. -/
theorem queued_nodup (h : Queues s deeds w) (e : ScopeId) :
    (entriesOn e (queued deeds)).Nodup := by
  refine (h.ordered_on e).imp fun hlt heq => ?_
  rw [heq] at hlt
  exact Nat.lt_irrefl _ hlt

/-- A live scope has begun nothing. -/
theorem not_begun_of_live (h : Queues s deeds w) (hlive : s.scope e ≠ .closed) :
    (e, x) ∉ begun deeds := by
  intro hmem
  cases hscope : s.scope e with
  | closed => exact hlive hscope
  | live queue =>
    have hon := mem_entriesOn.2 hmem
    rw [(h.live e queue hscope).2] at hon
    cases hon

/-- An entry that a close is about to run has not begun before. -/
theorem not_begun (h : Queues s deeds (.closing e (x :: rest))) : (e, x) ∉ begun deeds := by
  intro hmem
  have hran := h.closed e (h.busy e rfl)
  simp only [Work.upcoming, if_true, ran] at hran
  have hnodup := (h.queued_nodup e).sublist (ran_sublist _)
  rw [hran] at hnodup
  have hbefore : x ∈ (entriesOn e (begun deeds)).reverse :=
    List.mem_reverse.2 (mem_entriesOn.2 hmem)
  exact (List.nodup_append.1 hnodup).2.2 x hbefore x List.mem_cons_self rfl

/-- A close begins its next entry. -/
theorem enter (h : Queues s deeds (.closing e (x :: rest))) :
    Queues s (.began e x :: deeds) (.acting (some (e, rest)) x.action) := by
  have hbegun : begun (.began e x :: deeds) = (e, x) :: begun deeds := rfl
  have hclosed := h.busy e rfl
  refine ⟨fun other q hother => ?_, fun other hother => ?_, fun other hother => ?_,
    h.busy, h.unopened, h.ordered, h.ticketed, ?_⟩
  · have hne : e ≠ other := by
      rintro rfl
      rw [hclosed] at hother
      cases hother
    rw [hbegun, entriesOn_cons, if_neg hne]
    exact h.live other q hother
  · -- The entry goes from what is upcoming to what has begun.
    have hran := h.closed other hother
    rw [hbegun, entriesOn_cons]
    show ran (entriesOn other (queued deeds)) = _
    rw [hran]
    by_cases heq : e = other
    · simp only [Work.upcoming, heq, if_true, true_and, ran, List.reverse_cons, List.append_assoc,
        List.singleton_append]
      cases x.action.fails <;> rfl
    · simp only [Work.upcoming, heq, if_false, false_and]
  · have hwhole := h.whole other hother
    rw [hbegun, entriesOn_cons]
    show other ∈ failures deeds ∨ entriesOn other (queued deeds) = _
    refine hwhole.imp_right fun hqueued => ?_
    rw [hqueued]
    by_cases heq : e = other
    · simp only [Work.pending, heq, if_true, List.reverse_cons, List.append_assoc,
        List.singleton_append]
    · simp only [Work.pending, heq, if_false]
  · exact List.nodup_cons.2 ⟨h.not_begun, h.distinct⟩

/-- What a scope that has ended has run, the first first. -/
theorem ran_eq (h : Queues s deeds w) (hclosed : s.scope e = .closed) (hdone : w.scope? ≠ some e) :
    ran (entriesOn e (queued deeds)) = (entriesOn e (begun deeds)).reverse := by
  rw [h.closed e hclosed, Work.upcoming_of_ne hdone, List.append_nil]

/-- Once a scope has ended, an entry was begun unless one that was queued later fails. -/
theorem mem_begun_iff (h : Queues s deeds w) (hclosed : s.scope e = .closed)
    (hdone : w.scope? ≠ some e) (hx : (e, x) ∈ queued deeds) :
    (e, x) ∈ begun deeds ↔
      ∀ y, (e, y) ∈ queued deeds → x.ticket < y.ticket → y.action.fails = false := by
  obtain ⟨newer, older, hqueue⟩ := List.append_of_mem (mem_entriesOn.2 hx)
  have hordered := h.ordered_on e
  have hnodup := h.queued_nodup e
  rw [hqueue] at hordered hnodup
  have hbegun : (e, x) ∈ begun deeds ↔ ∀ y ∈ newer, y.action.fails = false := by
    rw [← mem_entriesOn, ← List.mem_reverse, ← h.ran_eq hclosed hdone, hqueue]
    exact mem_ran_iff fun hmem =>
      (List.nodup_append.1 hnodup).2.2 x hmem x List.mem_cons_self rfl
  rw [hbegun]
  obtain ⟨-, holder, hnewer⟩ := List.pairwise_append.1 hordered
  -- The entries with a greater ticket are those before it in the queue.
  refine ⟨fun hfine y hy hlt => hfine y ?_, fun hfine y hy => hfine y ?_ ?_⟩
  · have hmem := mem_entriesOn.2 hy
    rw [hqueue] at hmem
    refine (List.mem_append.1 hmem).resolve_right fun hlater => ?_
    rcases List.mem_cons.1 hlater with rfl | hlater
    · exact Nat.lt_irrefl _ hlt
    · exact Nat.lt_asymm hlt ((List.pairwise_cons.1 holder).1 y hlater)
  · rw [← mem_entriesOn, hqueue]
    exact List.mem_append_left _ hy
  · exact hnewer y hy x List.mem_cons_self

/-- An action fails, and what is behind it is lost. -/
theorem fail (h : Queues s deeds (.acting (some (e, rest)) .fail)) :
    Queues s (.failed e :: deeds) .idle := by
  refine ⟨h.live, fun other hother => ?_, fun other hother => ?_, nofun, h.unopened,
    h.ordered, h.ticketed, h.distinct⟩
  · have hran := h.closed other hother
    simp only [Work.upcoming, Action.fails, Bool.true_eq_false, and_false, if_false] at hran
    exact hran
  · by_cases heq : e = other
    · exact .inl (heq ▸ List.mem_cons_self)
    · have hwhole := h.whole other hother
      simp only [Work.pending, heq, if_false] at hwhole
      exact hwhole.imp_left (List.mem_cons_of_mem e)

end Queues

end

namespace History

variable {h : History} {w : Work}

theorem queues_offer (hq : Queues h.store h.deeds w) (e : ScopeId) (a : Action) :
    Queues (h.offer e a).1 ((h.offer e a).2.2 ++ h.deeds) w := by
  unfold offer
  cases hscope : h.store.scope e with
  | live queue =>
    have hoffer : (h.store.offer e a).2 = true := by rw [Store.offer_of_live hscope]
    simp only [hoffer, if_true]
    exact hq.offer hscope a
  | closed =>
    rw [Store.offer_of_closed hscope]
    exact hq.alike rfl (Nat.le_succ _) (.refl _) (.refl _)

theorem queues_keep (hq : Queues h.store h.deeds w) (b : BufferId) (e : ScopeId) :
    Queues (h.keep b e).1 ((h.keep b e).2 ++ h.deeds) w := by
  unfold keep
  rcases h.store.keepUntilClose_cases b e with ⟨queue, hlive, -, hkeep⟩ | ⟨hnone, hsame⟩
  · obtain ⟨hscopes, hticket⟩ := h.store.retain_scopes b
    have hretained := hq.alike hscopes (Nat.le_of_eq hticket.symm) (.refl _) (.refl w)
    have hstill := (Store.scope_eq_of_scopes hscopes e).trans hlive
    have hoffered := hretained.offer hstill (.giveBack b)
    rw [hticket] at hoffered
    rw [hkeep]
    exact hoffered.alike rfl (Nat.le_refl _) ⟨rfl, rfl, rfl⟩ (.refl w)
  · simp only [hnone]
    exact hq.alike hsame.scopes hsame.nextTicket (.refl _) (.refl w)

/-- A scope has been closed, and its close is over. -/
def Ended (h : History) (e : ScopeId) : Prop :=
  h.store.scope e = .closed ∧ h.work.scope? ≠ some e

instance (h : History) (e : ScopeId) : Decidable (h.Ended e) :=
  inferInstanceAs (Decidable (_ ∧ _))

/-- Queues are kept. -/
def Queued (h : History) : Prop := Queues h.store h.deeds h.work

/-- A reference to a buffer that is released leaves the queues alone. -/
theorem queues_release {s : Store} {deeds deeds' : List Deed} {w' : Work} (hq : Queues s deeds w)
    (b : BufferId) (hdeeds : Alike deeds deeds') (hwork : w.Continues w') :
    Queues (s.release b).1 deeds' w' :=
  have ⟨hscopes, hticket⟩ := s.release_scopes b
  hq.alike hscopes (Nat.le_of_eq hticket.symm) hdeeds hwork

theorem queued_begin (hq : Queues h.store h.deeds .idle) (c : Call) (hidle : h.work = .idle) :
    (h.begin c).Queued := by
  cases c with
  | hold bytes => exact hq.alike rfl (Nat.le_refl _) ⟨rfl, rfl, rfl⟩ (.refl _)
  | openScope => exact hq.openScope
  | retain b =>
    obtain ⟨hscopes, hticket⟩ := h.store.retain_scopes b
    have hdeeds : Alike h.deeds
        ((if (h.store.retain b).2 then [.retained b] else []) ++ h.deeds) := by
      split <;> exact ⟨rfl, rfl, rfl⟩
    exact hq.alike hscopes (Nat.le_of_eq hticket.symm) hdeeds (.refl _)
  | release b => exact queues_release hq b ⟨rfl, rfl, rfl⟩ (.refl _)
  | keepUntilClose b e => exact queues_keep hq b e
  | assemble status headers content e =>
    exact queues_release (queues_keep hq content e) content ⟨rfl, rfl, rfl⟩ (.refl _)
  | onCleanup e a =>
    rcases h.begin_onCleanup_cases e a with hbegin | ⟨hsame, hbegin⟩ <;> rw [hbegin]
    · exact queues_offer hq e a
    · exact hq.alike hsame.scopes hsame.nextTicket (.refl _) (Work.continues_alone a)
  | offer e a => exact queues_offer hq e a
  | perform a => exact hq.alike rfl (Nat.le_refl _) (.refl _) (Work.continues_alone a)
  | close e =>
    rcases h.begin_close_cases e with ⟨queue, hlive, hbegin⟩ | hbegin <;> rw [hbegin]
    · exact hq.close hlive
    · rw [Queued, hidle]
      exact hq

theorem queued_enter {e : ScopeId} {x : Entry} {rest : List Entry}
    (hq : Queues h.store h.deeds (.closing e (x :: rest))) : (h.enter e x rest).Queued := by
  have hentered : Queues (h.store.begin x) (.began e x :: h.deeds)
      (.acting (some (e, rest)) x.action) :=
    hq.enter.alike rfl (Nat.le_refl _) (.refl _) (.refl _)
  cases hkept : h.keptBy e x with
  | some b =>
    rw [enter_of_kept hkept]
    have hfine : x.action.fails = false := by rw [(action_of_keptBy hkept).1]; rfl
    exact queues_release hentered b ⟨rfl, rfl, rfl⟩ (Work.continues_after _ hfine)
  | none =>
    rw [enter_of_unkept hkept]
    exact hentered

theorem queued_act {behind : Option (ScopeId × List Entry)} {a : Action}
    (hq : Queues h.store h.deeds (.acting behind a)) : (h.act behind a).Queued := by
  cases a with
  | done => exact hq.alike rfl (Nat.le_refl _) (.refl _) (Work.continues_after behind rfl)
  | fail =>
    cases behind with
    | none => exact hq.alike rfl (Nat.le_refl _) (.refl _) (Work.continues_stop .fail)
    | some b =>
      -- That the rest is discarded is noted in the journal only.
      have hlost := Store.unmoved_discard b.2 h.store
      exact hq.fail.alike hlost.scopes hlost.nextTicket (.refl _) (.refl _)
  | giveBack b => exact queues_release hq b ⟨rfl, rfl, rfl⟩ (Work.continues_after behind rfl)
  | mark label next =>
    exact hq.alike rfl (Nat.le_refl _) (.refl _) (Work.continues_acting behind rfl)
  | release b next =>
    have hreleased := queues_release hq b (.refl _) (.refl _)
    exact hreleased.alike rfl (Nat.le_refl _) ⟨rfl, rfl, rfl⟩ (Work.continues_acting behind rfl)
  | offer e a next =>
    exact (queues_offer hq e a).alike rfl (Nat.le_refl _) (.refl _)
      (Work.continues_acting behind rfl)

/-- A step keeps the queues. -/
theorem queued_step (hq : h.Queued) : h.step.Queued := by
  unfold step
  unfold Queued at hq
  split
  · next hidle =>
    rw [hidle] at hq
    split
    · rw [Queued, hidle]
      exact hq
    · next c calls _ => exact queued_begin (h := { h with calls := calls }) hq c hidle
  · next e hclosing =>
    rw [hclosing] at hq
    exact hq.alike rfl (Nat.le_refl _) (.refl _) (Work.continues_idle e)
  · next e x rest hclosing =>
    rw [hclosing] at hq
    exact queued_enter hq
  · next behind a hacting =>
    rw [hacting] at hq
    exact queued_act hq

/-- Queues are kept at every moment. -/
theorem queued_after (calls : List Call) (n : Nat) : (after calls n).Queued := by
  induction n with
  | zero => exact Queues.empty
  | succ n ih =>
    rw [after_succ]
    exact queued_step ih

end History

end Http1Client
