import Http1Client.Proofs.Lifetime.Queues

/-!
# References that scopes take

A scope that takes a reference queues the action that gives it back, and the reference counts
as returned when that action has begun. `Leases` says so of all that has happened, and every
step keeps it (`leases_step`): what is returned was taken, and nothing is returned twice.

So the fate of a reference is the fate of its entry (`returned_lease`).
-/

namespace Http1Client

namespace Deed

def kept? : Deed → Option Lease
  | .kept l => some l
  | _ => none

def returned? : Deed → Option Lease
  | .returned l _ => some l
  | _ => none

end Deed

/-- The references that scopes took. -/
def kept (deeds : List Deed) : List Lease := deeds.filterMap Deed.kept?

/-- Those that they gave back. -/
def returned (deeds : List Deed) : List Lease := deeds.filterMap Deed.returned?

theorem mem_kept {l : Lease} {deeds : List Deed} : l ∈ kept deeds ↔ .kept l ∈ deeds := by
  rw [kept, List.mem_filterMap]
  constructor
  · rintro ⟨d, hd, heq⟩
    cases d with
    | kept l' => cases heq; exact hd
    | _ => cases heq
  · exact fun h => ⟨_, h, rfl⟩

theorem Lease.entry_injective : Function.Injective Lease.entry := by
  rintro ⟨b, e, t⟩ ⟨b', e', t'⟩ h
  cases h
  rfl

/-- How what was taken, queued, begun and returned agrees. -/
structure Leases (deeds : List Deed) : Prop where
  entry_mem : ∀ l ∈ kept deeds, l.entry ∈ queued deeds
  returned_iff : ∀ l, l ∈ returned deeds ↔ l ∈ kept deeds ∧ l.entry ∈ begun deeds
  kept_nodup : (kept deeds).Nodup
  returned_nodup : (returned deeds).Nodup

/-- What has happened is told by the same leases and entries. -/
structure SameLeases (deeds deeds' : List Deed) : Prop where
  queued : queued deeds' = queued deeds
  begun : begun deeds' = begun deeds
  kept : kept deeds' = kept deeds
  returned : returned deeds' = returned deeds

namespace Leases

variable {deeds deeds' : List Deed} {e : ScopeId} {x : Entry} {l : Lease}

theorem empty : Leases [] := ⟨nofun, fun _ => ⟨nofun, nofun⟩, List.nodup_nil, List.nodup_nil⟩

theorem same (h : Leases deeds) (hsame : SameLeases deeds deeds') : Leases deeds' where
  entry_mem := by
    rw [hsame.kept, hsame.queued]
    exact h.entry_mem
  returned_iff := by
    rw [hsame.kept, hsame.begun, hsame.returned]
    exact h.returned_iff
  kept_nodup := by
    rw [hsame.kept]
    exact h.kept_nodup
  returned_nodup := by
    rw [hsame.returned]
    exact h.returned_nodup

/-- An entry is queued. -/
theorem queued (h : Leases deeds) (e : ScopeId) (x : Entry) : Leases (.queued e x :: deeds) :=
  ⟨fun l hl => List.mem_cons_of_mem _ (h.entry_mem l hl), h.returned_iff, h.kept_nodup,
    h.returned_nodup⟩

/-- A reference is taken whose entry has just been queued. -/
theorem kept (h : Leases deeds) (hnew : l.entry ∉ Http1Client.queued deeds)
    (hbegun : l.entry ∉ begun deeds) :
    Leases (.kept l :: .queued l.scope l.entry.2 :: deeds) := by
  have hkept : l ∉ Http1Client.kept deeds := fun hl => hnew (h.entry_mem l hl)
  refine ⟨fun l' hl' => ?_, fun l' => ?_, List.nodup_cons.2 ⟨hkept, h.kept_nodup⟩,
    h.returned_nodup⟩
  · rcases List.mem_cons.1 hl' with rfl | hl'
    · exact List.mem_cons_self
    · exact List.mem_cons_of_mem _ (h.entry_mem l' hl')
  · show l' ∈ returned deeds ↔ l' ∈ l :: Http1Client.kept deeds ∧ l'.entry ∈ begun deeds
    rw [h.returned_iff, List.mem_cons]
    refine and_congr_left fun hentry => (or_iff_right ?_).symm
    rintro rfl
    exact hbegun hentry

/-- An entry begins that gives back no reference that was taken. -/
theorem began (h : Leases deeds) (hx : ∀ l ∈ Http1Client.kept deeds, l.entry ≠ (e, x)) :
    Leases (.began e x :: deeds) := by
  refine ⟨h.entry_mem, fun l => ?_, h.kept_nodup, h.returned_nodup⟩
  show l ∈ returned deeds ↔ l ∈ Http1Client.kept deeds ∧ l.entry ∈ (e, x) :: begun deeds
  rw [h.returned_iff, List.mem_cons]
  exact and_congr_right fun hl => (or_iff_right (hx l hl)).symm

/-- An entry gives back the reference that it is there for. -/
theorem returned (h : Leases deeds) (hl : l ∈ Http1Client.kept deeds)
    (hnew : l.entry ∉ begun deeds) (freed : Bool) :
    Leases (.returned l freed :: .began l.scope l.entry.2 :: deeds) := by
  have hreturned : l ∉ Http1Client.returned deeds := fun hmem =>
    hnew ((h.returned_iff l).1 hmem).2
  refine ⟨h.entry_mem, fun l' => ?_, h.kept_nodup,
    List.nodup_cons.2 ⟨hreturned, h.returned_nodup⟩⟩
  show l' ∈ l :: Http1Client.returned deeds ↔
    l' ∈ Http1Client.kept deeds ∧ l'.entry ∈ l.entry :: begun deeds
  rw [List.mem_cons, List.mem_cons, h.returned_iff, Lease.entry_injective.eq_iff]
  by_cases heq : l' = l
  · rw [heq]
    exact ⟨fun _ => ⟨hl, .inl rfl⟩, fun _ => .inl rfl⟩
  · rw [or_iff_right heq, or_iff_right heq]

end Leases

/-! ## Every step keeps to the leases -/

namespace History

variable {h : History} {w : Work}

theorem leases_offer (hl : Leases h.deeds) (e : ScopeId) (a : Action) :
    Leases ((h.offer e a).2.2 ++ h.deeds) := by
  unfold offer
  dsimp only
  split
  · exact hl.queued e _
  · exact hl

theorem leases_keep (hq : Queues h.store h.deeds w) (hl : Leases h.deeds) (b : BufferId)
    (e : ScopeId) : Leases ((h.keep b e).2 ++ h.deeds) := by
  unfold keep
  rcases h.store.keepUntilClose_cases b e with ⟨queue, hlive, -, hkeep⟩ | ⟨hnone, -⟩
  · rw [hkeep]
    -- The ticket is new, and a live scope has begun nothing.
    have hnew : (⟨b, e, h.store.nextTicket⟩ : Lease).entry ∉ queued h.deeds := fun hmem =>
      Nat.lt_irrefl _ (hq.ticketed _ hmem)
    have hbegun : (⟨b, e, h.store.nextTicket⟩ : Lease).entry ∉ begun h.deeds :=
      hq.not_begun_of_live (by rw [hlive]; exact nofun)
    exact hl.kept hnew hbegun
  · simp only [hnone]
    exact hl

theorem leases_begin (hq : Queues h.store h.deeds w) (hl : Leases h.deeds) (c : Call) :
    Leases (h.begin c).deeds := by
  cases c with
  | retain b =>
    refine hl.same ?_
    show SameLeases h.deeds ((if (h.store.retain b).2 then [.retained b] else []) ++ h.deeds)
    split <;> exact ⟨rfl, rfl, rfl, rfl⟩
  | keepUntilClose b e => exact leases_keep hq hl b e
  | assemble status headers content e =>
    exact (leases_keep hq hl content e).same ⟨rfl, rfl, rfl, rfl⟩
  | onCleanup e a =>
    rcases h.begin_onCleanup_cases e a with hbegin | ⟨-, hbegin⟩ <;> rw [hbegin]
    · exact leases_offer hl e a
    · exact hl
  | offer e a => exact leases_offer hl e a
  | close e =>
    rcases h.begin_close_cases e with ⟨queue, -, hbegin⟩ | hbegin <;> rw [hbegin] <;> exact hl
  | _ => exact hl.same ⟨rfl, rfl, rfl, rfl⟩

theorem leases_enter {e : ScopeId} {x : Entry} {rest : List Entry}
    (hq : Queues h.store h.deeds (.closing e (x :: rest))) (hl : Leases h.deeds) :
    Leases (h.enter e x rest).deeds := by
  cases hkept : h.keptBy e x with
  | some b =>
    obtain ⟨haction, hmem⟩ := action_of_keptBy hkept
    have hx : x = ⟨x.ticket, .giveBack b⟩ := by rw [← haction]
    have hnew : (⟨b, e, x.ticket⟩ : Lease).entry ∉ begun h.deeds := by
      have hnot := hq.not_begun
      rwa [hx] at hnot
    have hreturned := hl.returned (mem_kept.2 hmem) hnew
      ((h.store.begin x).release b).2
    rw [enter_of_kept hkept]
    exact hx ▸ hreturned
  | none =>
    rw [enter_of_unkept hkept]
    -- An entry of a lease would have been recognised.
    refine hl.began fun l hmem hentry => ?_
    cases hentry
    exact absurd ((keptBy_of_lease (mem_kept.1 hmem)).symm.trans hkept) nofun

theorem leases_act {behind : Option (ScopeId × List Entry)} {a : Action}
    (hl : Leases h.deeds) : Leases (h.act behind a).deeds := by
  cases a with
  | fail => cases behind <;> exact hl.same ⟨rfl, rfl, rfl, rfl⟩
  | offer e a next => exact leases_offer hl e a
  | _ => exact hl.same ⟨rfl, rfl, rfl, rfl⟩

/-- A step keeps the leases. -/
theorem leases_step (hq : h.Queued) (hl : Leases h.deeds) : Leases h.step.deeds := by
  unfold step
  unfold Queued at hq
  split
  · split
    · exact hl
    · next c calls _ => exact leases_begin (h := { h with calls := calls }) hq hl c
  · exact hl
  · next hclosing =>
    rw [hclosing] at hq
    exact leases_enter hq hl
  · exact leases_act hl

theorem leases_after (calls : List Call) (n : Nat) : Leases (after calls n).deeds := by
  induction n with
  | zero => exact Leases.empty
  | succ n ih =>
    rw [after_succ]
    exact leases_step (queued_after calls n) ih

/-! ## The fate of a reference -/

/-- A reference that a live scope took has not been given back. -/
theorem not_returned_of_live {calls : List Call} {n : Nat} {l : Lease}
    (hlive : (after calls n).store.scope l.scope ≠ .closed) :
    l ∉ returned (after calls n).deeds := fun hmem =>
  (queued_after calls n).not_begun_of_live hlive
    (((leases_after calls n).returned_iff l).1 hmem).2

/-- A reference that a scope takes is given back at most once, and not before the scope is
closed. Once the scope has ended, it has been given back if and only if none of the actions
that were queued on the scope after it fails. The moments are those of the calls themselves. -/
theorem returned_lease (calls : List Call) (n : Nat) {l : Lease}
    (hkept : .kept l ∈ (after calls n).deeds) :
    (returned (after calls n).deeds).count l ≤ 1 ∧
      ((after calls n).store.scope l.scope ≠ .closed →
        (returned (after calls n).deeds).count l = 0) ∧
      ((after calls n).Ended l.scope → ((returned (after calls n).deeds).count l = 1 ↔
        ∀ x, (l.scope, x) ∈ queued (after calls n).deeds → l.ticket < x.ticket →
          x.action.fails = false)) ∧
      Faithful calls := by
  have hq := queued_after calls n
  have hl := leases_after calls n
  have hreturned : l ∈ returned (after calls n).deeds ↔ l.entry ∈ begun (after calls n).deeds := by
    rw [hl.returned_iff, and_iff_right (mem_kept.2 hkept)]
  refine ⟨List.nodup_iff_count_le_one.1 hl.returned_nodup l,
    fun hlive => List.count_eq_zero.2 (not_returned_of_live hlive), fun hended => ?_,
    faithful calls⟩
  · have hcount : (returned (after calls n).deeds).count l = 1 ↔
        l ∈ returned (after calls n).deeds :=
      ⟨fun hone => List.count_pos_iff.1 (Nat.lt_of_lt_of_eq Nat.zero_lt_one hone.symm),
        List.count_eq_one_of_mem hl.returned_nodup⟩
    rw [hcount, hreturned]
    exact hq.mem_begun_iff hended.1 hended.2 (hl.entry_mem l (mem_kept.2 hkept))

/-- A reference that an action does not lose which fails after it. -/
theorem returned_lease_last :
    let calls : List Call := [.openScope, .hold [97], .onCleanup ⟨0⟩ .fail,
      .keepUntilClose ⟨0⟩ ⟨0⟩, .close ⟨0⟩]
    let l : Lease := ⟨⟨0⟩, ⟨0⟩, 1⟩
    Deed.kept l ∈ (after calls 8).deeds ∧ (after calls 8).Ended l.scope ∧
      (returned (after calls 8).deeds).count l = 1 := by
  intro calls l
  have hkept : Deed.kept l ∈ (after calls 8).deeds := by decide
  have hended : (after calls 8).Ended l.scope := by decide
  have hfine : ∀ x, (l.scope, x) ∈ queued (after calls 8).deeds → l.ticket < x.ticket →
      x.action.fails = false := by
    have hall : ∀ p ∈ queued (after calls 8).deeds, l.ticket < p.2.ticket →
        p.2.action.fails = false := by decide
    exact fun x hx => hall (l.scope, x) hx
  exact ⟨hkept, hended, ((returned_lease calls 8 hkept).2.2.1 hended).2 hfine⟩

/-- An action that is queued after the reference was taken loses it when it fails: the scope is
over, and the reference is still there. -/
theorem returned_lease_lost :
    let calls : List Call := [.openScope, .hold [97], .keepUntilClose ⟨0⟩ ⟨0⟩,
      .onCleanup ⟨0⟩ .fail, .close ⟨0⟩]
    let l : Lease := ⟨⟨0⟩, ⟨0⟩, 0⟩
    Deed.kept l ∈ (after calls 8).deeds ∧ (after calls 8).Ended l.scope ∧
      (after calls 8).work = .idle ∧ (after calls 8).calls = [] ∧
      (returned (after calls 8).deeds).count l = 0 ∧
      ((after calls 8).store.buffer l.buffer).refs = 2 := by
  decide

end History

end Http1Client
