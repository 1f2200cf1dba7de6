import Http1Client.Proofs.Lifetime.Leases
import Mathlib.Data.List.Perm.Subperm

/-!
# How long a body lasts

The references to a buffer are those that its holders own, from its making and from what they
retain, and those that scopes have taken and not given back (`Account.balance`). As long as the
holders release no more than they own, no release comes too late, so every one counts
(`Account.drop`), and every step keeps all accounts (`ledger_step`).

A body that a live scope keeps alive is there for that reason; and when all references have
been given back, the last one that was has freed it (`body_lifetime`).
-/

namespace Http1Client

namespace Deed

/-- The buffer whose references a deed is about. -/
def buffer? : Deed → Option BufferId
  | .made b _ | .retained b | .released b _ | .consumed b _ => some b
  | .kept l | .returned l _ => some l.buffer
  | .queued .. | .began .. | .failed _ => none

/-- The bytes with which a buffer is made. -/
def made? (b : BufferId) : Deed → Option Bytes
  | .made b' bytes => if b' = b then some bytes else none
  | _ => none

/-- A holder comes to own a reference to a buffer. -/
def gives (b : BufferId) : Deed → Bool
  | .made b' _ | .retained b' => b' = b
  | _ => false

/-- A holder gives one up. -/
def takes (b : BufferId) : Deed → Bool
  | .released b' _ | .consumed b' _ => b' = b
  | _ => false

/-- A scope takes a reference. -/
def leases (b : BufferId) : Deed → Bool
  | .kept l => l.buffer = b
  | _ => false

/-- A scope gives one back. -/
def restores (b : BufferId) : Deed → Bool
  | .returned l _ => l.buffer = b
  | _ => false

/-- A reference to a buffer is added, for a holder or for a scope. -/
inductive Adds (b : BufferId) : Deed → Prop where
  | retained : Adds b (.retained b)
  | kept {l : Lease} (hl : l.buffer = b) : Adds b (.kept l)

/-- A reference to a buffer goes, in one of the three ways in which it can. -/
inductive Drops (b : BufferId) (freed : Bool) : Deed → Prop where
  | released : Drops b freed (.released b freed)
  | consumed : Drops b freed (.consumed b freed)
  | returned {l : Lease} (hl : l.buffer = b) : Drops b freed (.returned l freed)

/-- A reference goes, and the buffer with it. -/
def frees (b : BufferId) : Deed → Bool
  | .released b' freed | .consumed b' freed => b' = b && freed
  | .returned l freed => l.buffer = b && freed
  | _ => false

end Deed

/-- The bytes with which a buffer was made. -/
def made (b : BufferId) (deeds : List Deed) : List Bytes := deeds.filterMap (Deed.made? b)

/-- How many references the holders of a buffer came to own. -/
def owned (b : BufferId) (deeds : List Deed) : Nat := deeds.countP (Deed.gives b)

/-- How many they gave up. -/
def spent (b : BufferId) (deeds : List Deed) : Nat := deeds.countP (Deed.takes b)

/-- How many scopes took. -/
def leased (b : BufferId) (deeds : List Deed) : Nat := deeds.countP (Deed.leases b)

/-- How many scopes gave back. -/
def restored (b : BufferId) (deeds : List Deed) : Nat := deeds.countP (Deed.restores b)

/-- How often a buffer was freed. -/
def freed (b : BufferId) (deeds : List Deed) : Nat := deeds.countP (Deed.frees b)

theorem leased_eq (b : BufferId) (deeds : List Deed) :
    leased b deeds = (kept deeds).countP (·.buffer = b) := by
  rw [kept, List.countP_filterMap, leased]
  congr 1
  funext d
  cases d <;> rfl

theorem restored_eq (b : BufferId) (deeds : List Deed) :
    restored b deeds = (returned deeds).countP (·.buffer = b) := by
  rw [returned, List.countP_filterMap, restored]
  congr 1
  funext d
  cases d <;> rfl

namespace Leases

variable {deeds : List Deed} {b : BufferId} {l : Lease}

/-- What scopes give back they have taken. -/
theorem restored_le (h : Leases deeds) (b : BufferId) : restored b deeds ≤ leased b deeds := by
  have hsubset : Http1Client.returned deeds ⊆ Http1Client.kept deeds := fun l hl =>
    ((h.returned_iff l).1 hl).1
  rw [restored_eq, leased_eq]
  exact (List.subperm_of_subset h.returned_nodup hsubset).countP_le _

/-- A reference that has not been given back makes the difference. -/
theorem restored_lt (h : Leases deeds) (hkept : l ∈ Http1Client.kept deeds)
    (hout : l ∉ Http1Client.returned deeds) :
    restored l.buffer deeds < leased l.buffer deeds := by
  have hsubset : l :: Http1Client.returned deeds ⊆ Http1Client.kept deeds :=
    List.cons_subset.2 ⟨hkept, fun l hl => ((h.returned_iff l).1 hl).1⟩
  have hnodup := List.nodup_cons.2 ⟨hout, h.returned_nodup⟩
  have hle := (List.subperm_of_subset hnodup hsubset).countP_le (·.buffer = l.buffer)
  rw [List.countP_cons, if_pos (decide_eq_true rfl)] at hle
  rw [restored_eq, leased_eq]
  exact hle

/-- When all have been given back there is no difference. -/
theorem leased_le (h : Leases deeds)
    (hall : ∀ l ∈ Http1Client.kept deeds, l.buffer = b → l ∈ Http1Client.returned deeds) :
    leased b deeds ≤ restored b deeds := by
  have hsubset : (Http1Client.kept deeds).filter (·.buffer = b) ⊆ Http1Client.returned deeds := by
    intro l hl
    obtain ⟨hkept, hb⟩ := List.mem_filter.1 hl
    exact hall l hkept (of_decide_eq_true hb)
  have hle := (List.subperm_of_subset (h.kept_nodup.filter _) hsubset).countP_le (·.buffer = b)
  rw [List.countP_filter] at hle
  simp only [Bool.and_self] at hle
  rw [restored_eq, leased_eq]
  exact hle

end Leases

/-- No more references to a buffer went than were given and taken. -/
def Covered (b : BufferId) (deeds : List Deed) : Prop :=
  spent b deeds + restored b deeds ≤ owned b deeds + leased b deeds

/-- What a buffer is like after what has happened. -/
structure Account (x : Buffer) (b : BufferId) (deeds : List Deed) : Prop where
  balance : x.refs + (spent b deeds + restored b deeds) = owned b deeds + leased b deeds
  /-- It was never made, or it was made and lasts as long as there are references. -/
  stock : made b deeds = [] ∧ owned b deeds = 0 ∧ leased b deeds = 0 ∧ freed b deeds = 0 ∨
    ∃ bytes, made b deeds = [bytes] ∧ freed b deeds = (if x.refs = 0 then 1 else 0) ∧
      (x.refs ≠ 0 → x.bytes = some bytes)

namespace Account

variable {x : Buffer} {b : BufferId} {deeds : List Deed} {d : Deed}

theorem empty (b : BufferId) : Account ⟨0, none⟩ b [] := ⟨rfl, .inl ⟨rfl, rfl, rfl, rfl⟩⟩

/-- What happens to other buffers does not matter. -/
theorem other (h : Account x b deeds) (hd : d.buffer? ≠ some b) : Account x b (d :: deeds) := by
  have hmade : made b (d :: deeds) = made b deeds := by
    refine List.filterMap_cons_none ?_
    cases d <;> simp_all [Deed.made?, Deed.buffer?]
  have howned : owned b (d :: deeds) = owned b deeds := by
    refine List.countP_cons_of_neg ?_
    cases d <;> simp_all [Deed.gives, Deed.buffer?]
  have hspent : spent b (d :: deeds) = spent b deeds := by
    refine List.countP_cons_of_neg ?_
    cases d <;> simp_all [Deed.takes, Deed.buffer?]
  have hleased : leased b (d :: deeds) = leased b deeds := by
    refine List.countP_cons_of_neg ?_
    cases d <;> simp_all [Deed.leases, Deed.buffer?]
  have hrestored : restored b (d :: deeds) = restored b deeds := by
    refine List.countP_cons_of_neg ?_
    cases d <;> simp_all [Deed.restores, Deed.buffer?]
  have hfreed : freed b (d :: deeds) = freed b deeds := by
    refine List.countP_cons_of_neg ?_
    cases d <;> simp_all [Deed.frees, Deed.buffer?]
  refine ⟨?_, ?_⟩
  · rw [howned, hspent, hleased, hrestored]
    exact h.balance
  · rw [hmade, howned, hleased, hfreed]
    exact h.stock

/-- A buffer is made with one reference. -/
theorem make (h : Account x b deeds) (hnew : made b deeds = []) (bytes : Bytes) :
    Account (.new bytes) b (.made b bytes :: deeds) := by
  have hbalance := h.balance
  obtain ⟨-, howned, hleased, hfreed⟩ : made b deeds = [] ∧ owned b deeds = 0 ∧
      leased b deeds = 0 ∧ freed b deeds = 0 := by
    refine h.stock.resolve_right ?_
    rintro ⟨bytes, hmade, -⟩
    rw [hnew] at hmade
    cases hmade
  have howned' : owned b (.made b bytes :: deeds) = owned b deeds + 1 :=
    List.countP_cons_of_pos (decide_eq_true rfl)
  have hmade : made b (.made b bytes :: deeds) = bytes :: made b deeds :=
    List.filterMap_cons_some (if_pos rfl)
  refine ⟨?_, .inr ⟨bytes, hmade.trans (congrArg _ hnew), hfreed, fun _ => rfl⟩⟩
  show 1 + (spent b deeds + restored b deeds) = _ + leased b deeds
  omega

/-- A buffer with references was made. -/
theorem exists_made (h : Account x b deeds) (hrefs : x.refs ≠ 0) :
    ∃ bytes, made b deeds = [bytes] ∧ freed b deeds = 0 ∧ x.bytes = some bytes := by
  have hbalance := h.balance
  rcases h.stock with ⟨-, howned, hleased, -⟩ | ⟨bytes, hmade, hfreed, hbytes⟩
  · omega
  · rw [if_neg hrefs] at hfreed
    exact ⟨bytes, hmade, hfreed, hbytes hrefs⟩

/-- What a reference that is added does to the counts. -/
theorem counts_adds (hd : d.Adds b) (deeds : List Deed) :
    owned b (d :: deeds) + leased b (d :: deeds) = owned b deeds + leased b deeds + 1 ∧
      spent b (d :: deeds) = spent b deeds ∧ restored b (d :: deeds) = restored b deeds ∧
      made b (d :: deeds) = made b deeds ∧ freed b (d :: deeds) = freed b deeds := by
  cases hd with
  | retained =>
    have howned : owned b (.retained b :: deeds) = owned b deeds + 1 :=
      List.countP_cons_of_pos (decide_eq_true rfl)
    refine ⟨?_, rfl, rfl, rfl, rfl⟩
    show _ + leased b deeds = _
    omega
  | @kept l hl =>
    have hleased : leased b (.kept l :: deeds) = leased b deeds + 1 :=
      List.countP_cons_of_pos (decide_eq_true hl)
    refine ⟨?_, rfl, rfl, rfl, rfl⟩
    show owned b deeds + _ = _
    omega

/-- A reference is added where there is one. -/
theorem add (h : Account x b deeds) (hrefs : x.refs ≠ 0) (hd : d.Adds b) :
    Account ⟨x.refs + 1, x.bytes⟩ b (d :: deeds) := by
  obtain ⟨hcame, hspent, hrestored, hmade, hfreed⟩ := counts_adds hd deeds
  have hbalance := h.balance
  obtain ⟨bytes, hmade', hfreed', hbytes⟩ := h.exists_made hrefs
  refine ⟨?_, .inr ⟨bytes, hmade.trans hmade', ?_, fun _ => hbytes⟩⟩
  · show x.refs + 1 + _ = _
    omega
  · rw [if_neg (Nat.succ_ne_zero _)]
    exact hfreed.trans hfreed'

/-- What a reference that goes does to the counts. -/
theorem counts_drops {gone : Bool} (hd : d.Drops b gone) (deeds : List Deed) :
    spent b (d :: deeds) + restored b (d :: deeds) = spent b deeds + restored b deeds + 1 ∧
      owned b (d :: deeds) = owned b deeds ∧ leased b (d :: deeds) = leased b deeds ∧
      made b (d :: deeds) = made b deeds ∧
      freed b (d :: deeds) = freed b deeds + if gone then 1 else 0 := by
  cases hd with
  | released =>
    have hspent : spent b (.released b gone :: deeds) = spent b deeds + 1 :=
      List.countP_cons_of_pos (decide_eq_true rfl)
    have hfreed : Deed.frees b (.released b gone) = gone := by simp [Deed.frees]
    refine ⟨?_, rfl, rfl, rfl, by rw [freed, List.countP_cons, hfreed, freed]⟩
    show _ + restored b deeds = _
    omega
  | consumed =>
    have hspent : spent b (.consumed b gone :: deeds) = spent b deeds + 1 :=
      List.countP_cons_of_pos (decide_eq_true rfl)
    have hfreed : Deed.frees b (.consumed b gone) = gone := by simp [Deed.frees]
    refine ⟨?_, rfl, rfl, rfl, by rw [freed, List.countP_cons, hfreed, freed]⟩
    show _ + restored b deeds = _
    omega
  | @returned l hl =>
    have hrestored : restored b (.returned l gone :: deeds) = restored b deeds + 1 :=
      List.countP_cons_of_pos (decide_eq_true hl)
    have hfreed : Deed.frees b (.returned l gone) = gone := by simp [Deed.frees, hl]
    refine ⟨?_, rfl, rfl, rfl, by rw [freed, List.countP_cons, hfreed, freed]⟩
    show spent b deeds + _ = _
    omega

/-- No reference goes that is not there, as long as no more go than were given and taken. -/
theorem refs_of_drops (h : Account x b deeds) {gone : Bool} (hd : d.Drops b gone)
    (hcovered : Covered b (d :: deeds)) : ∃ n, x.refs = n + 1 := by
  obtain ⟨hgone, howned, hleased, -⟩ := counts_drops hd deeds
  have hbalance := h.balance
  -- Without references as many have gone as were given and taken, and one more now.
  unfold Covered at hcovered
  exact ⟨x.refs - 1, by omega⟩

/-- A reference goes, and the bytes with the last one. -/
theorem drop (h : Account x b deeds) {n : Nat} (hrefs : x.refs = n + 1)
    (hd : d.Drops b (n == 0)) :
    Account ⟨n, if n = 0 then none else x.bytes⟩ b (d :: deeds) := by
  obtain ⟨hgone, howned, hleased, hmade, hfreed⟩ := counts_drops hd deeds
  have hbalance := h.balance
  obtain ⟨bytes, hmade', hfreed', hbytes⟩ := h.exists_made (by omega)
  refine ⟨?_, .inr ⟨bytes, hmade.trans hmade', ?_, fun hn => ?_⟩⟩
  · show n + _ = _
    omega
  · rw [hfreed, hfreed', Nat.zero_add]
    simp only [beq_iff_eq]
  · rw [if_neg hn]
    exact hbytes

end Account

/-- The account of a buffer agrees with the store; one that the store does not know was never
made. -/
structure Ledger (b : BufferId) (s : Store) (deeds : List Deed) : Prop where
  account : Account (s.buffer b) b deeds
  unmade : s.buffers.length ≤ b.index → made b deeds = []

namespace Ledger

variable {s s' : Store} {deeds : List Deed} {d : Deed} {b b' : BufferId}

theorem empty (b : BufferId) : Ledger b {} [] := ⟨Account.empty b, fun _ => rfl⟩

theorem of_buffers (h : Ledger b s deeds) (hs : s'.buffers = s.buffers) : Ledger b s' deeds where
  account := by
    rw [Store.buffer_eq_of_buffers hs]
    exact h.account
  unmade := by
    rw [hs]
    exact h.unmade

/-- A deed that is not about the buffer. -/
theorem other (h : Ledger b s deeds) (hd : d.buffer? ≠ some b)
    (hbuffer : s'.buffer b = s.buffer b) (hlength : s.buffers.length ≤ s'.buffers.length) :
    Ledger b s' (d :: deeds) where
  account := by
    rw [hbuffer]
    exact h.account.other hd
  unmade hb := by
    rw [← h.unmade (Nat.le_trans hlength hb)]
    refine List.filterMap_cons_none ?_
    cases d <;> simp_all [Deed.made?, Deed.buffer?]

/-- A deed that is not about buffers. -/
theorem cons (h : Ledger b s deeds) (hd : d.buffer? = none) : Ledger b s (d :: deeds) :=
  h.other (by rw [hd]; exact nofun) rfl (Nat.le_refl _)

/-- A buffer is made. -/
theorem hold (h : Ledger b s deeds) (bytes : Bytes) :
    Ledger b (s.hold (.new bytes)).1 (.made ⟨s.buffers.length⟩ bytes :: deeds) := by
  have hlength : (s.hold (.new bytes)).1.buffers.length = s.buffers.length + 1 :=
    List.length_append
  have hbuffer := Store.buffer_hold s (.new bytes) b
  by_cases hindex : b.index = s.buffers.length
  · have hb : b = ⟨s.buffers.length⟩ := by cases b; cases hindex; rfl
    rw [if_pos hindex] at hbuffer
    refine ⟨?_, fun hle => ?_⟩
    · rw [hbuffer, ← hb]
      exact h.account.make (h.unmade (Nat.le_of_eq hindex.symm)) bytes
    · omega
  · rw [if_neg hindex] at hbuffer
    refine h.other (fun heq => hindex ?_) hbuffer (by omega)
    cases heq
    rfl

/-- A reference to a buffer is added. -/
theorem retain (h : Ledger b s deeds) (hrefs : (s.buffer b').refs ≠ 0) (hd : d.Adds b') :
    Ledger b (s.retain b').1 (d :: deeds) := by
  by_cases hb : b' = b
  · subst hb
    have hknown := Store.index_lt_of_refs hrefs
    refine ⟨?_, fun hle => ?_⟩
    · rw [Store.retain_of_refs hrefs]
      dsimp only
      rw [Store.buffer_setBuffer hknown, if_pos rfl]
      exact h.account.add hrefs hd
    · rw [Store.retain_length] at hle
      omega
  · refine h.other ?_ (Store.retain_other s (Ne.symm hb))
      (Nat.le_of_eq (Store.retain_length s b').symm)
    cases hd with
    | retained => exact fun heq => hb (Option.some.inj heq)
    | kept hl => exact fun heq => hb (hl.symm.trans (Option.some.inj heq))

/-- A reference to a buffer goes. -/
theorem release (h : Ledger b s deeds) (hd : d.Drops b' (s.release b').2)
    (hcovered : Covered b (d :: deeds)) : Ledger b (s.release b').1 (d :: deeds) := by
  by_cases hb : b' = b
  · subst hb
    obtain ⟨n, hrefs⟩ := h.account.refs_of_drops hd hcovered
    have hknown : b'.index < s.buffers.length := Store.index_lt_of_refs (by omega)
    refine ⟨?_, fun hle => ?_⟩
    · rw [Store.release_of_refs hrefs] at hd ⊢
      dsimp only
      rw [Store.buffer_setBuffer hknown, if_pos rfl]
      exact h.account.drop hrefs hd
    · rw [Store.release_length] at hle
      omega
  · refine h.other ?_ (Store.release_other s (Ne.symm hb))
      (Nat.le_of_eq (Store.release_length s b').symm)
    cases hd with
    | released | consumed => exact fun heq => hb (Option.some.inj heq)
    | returned hl => exact fun heq => hb (hl.symm.trans (Option.some.inj heq))

end Ledger

/-! ## Every step keeps the account -/

namespace History

variable {h : History} {b : BufferId}

theorem ledger_offer (hl : Ledger b h.store h.deeds) (e : ScopeId) (a : Action) :
    Ledger b (h.offer e a).1 ((h.offer e a).2.2 ++ h.deeds) := by
  have hoffered : Ledger b (h.store.offer e a).1 h.deeds :=
    hl.of_buffers (Store.offer_buffers h.store e a)
  unfold offer
  dsimp only
  split
  · exact hoffered.cons rfl
  · exact hoffered

theorem ledger_keep (hl : Ledger b h.store h.deeds) (b' : BufferId) (e : ScopeId) :
    Ledger b (h.keep b' e).1 ((h.keep b' e).2 ++ h.deeds) := by
  unfold keep
  rcases h.store.keepUntilClose_cases b' e with ⟨queue, -, hrefs, hkeep⟩ | ⟨hnone, hsame⟩
  · rw [hkeep]
    have hretained : Ledger b (h.store.retain b').1
        (.kept ⟨b', e, h.store.nextTicket⟩ ::
          .queued e ⟨h.store.nextTicket, .giveBack b'⟩ :: h.deeds) :=
      (hl.cons rfl).retain hrefs (.kept rfl)
    exact hretained.of_buffers (Store.offer_buffers _ e _)
  · simp only [hnone]
    exact hl.of_buffers hsame.buffers

theorem ledger_begin (hl : Ledger b h.store h.deeds) (c : Call)
    (hcovered : Covered b (h.begin c).deeds) :
    Ledger b (h.begin c).store (h.begin c).deeds := by
  cases c with
  | hold bytes => exact hl.hold bytes
  | openScope => exact hl.of_buffers rfl
  | retain b' =>
    by_cases hrefs : (h.store.buffer b').refs = 0
    · simp only [begin, Store.retain_of_freed hrefs]
      exact hl
    · have hretained := hl.retain hrefs .retained
      simp only [begin, Store.retain_of_refs hrefs] at hretained ⊢
      exact hretained
  | release b => exact hl.release .released hcovered
  | keepUntilClose b e => exact ledger_keep hl b e
  | assemble status headers content e =>
    exact (ledger_keep hl content e).release .consumed hcovered
  | onCleanup e a =>
    rcases h.begin_onCleanup_cases e a with hbegin | ⟨hsame, hbegin⟩ <;> rw [hbegin]
    · exact ledger_offer hl e a
    · exact hl.of_buffers hsame.buffers
  | offer e a => exact ledger_offer hl e a
  | perform a => exact hl
  | close e =>
    rcases h.begin_close_cases e with ⟨queue, -, hbegin⟩ | hbegin <;> rw [hbegin]
    · exact hl.of_buffers rfl
    · exact hl

theorem ledger_enter {e : ScopeId} {x : Entry} {rest : List Entry}
    (hl : Ledger b h.store h.deeds) (hcovered : Covered b (h.enter e x rest).deeds) :
    Ledger b (h.enter e x rest).store (h.enter e x rest).deeds := by
  have hnoted : Ledger b (h.store.begin x) (.began e x :: h.deeds) :=
    (hl.cons rfl).of_buffers rfl
  cases hkept : h.keptBy e x with
  | some b =>
    rw [enter_of_kept hkept] at hcovered ⊢
    exact hnoted.release (.returned rfl) hcovered
  | none =>
    rw [enter_of_unkept hkept]
    exact hnoted

theorem ledger_act {behind : Option (ScopeId × List Entry)} {a : Action}
    (hl : Ledger b h.store h.deeds) (hcovered : Covered b (h.act behind a).deeds) :
    Ledger b (h.act behind a).store (h.act behind a).deeds := by
  cases a with
  | done => exact hl
  | fail =>
    cases behind with
    | none => exact hl
    | some b => exact (hl.of_buffers (Store.unmoved_discard b.2 h.store).buffers).cons rfl
  | giveBack b => exact hl.release .released hcovered
  | mark label next => exact hl.of_buffers rfl
  | release b next => exact (hl.release .released hcovered).of_buffers rfl
  | offer e a next => exact (ledger_offer hl e a).of_buffers rfl

/-- A step keeps the accounts if no more references have gone after it than there were. -/
theorem ledger_step (hl : Ledger b h.store h.deeds) (hcovered : Covered b h.step.deeds) :
    Ledger b h.step.store h.step.deeds := by
  unfold step at hcovered ⊢
  split at hcovered
  · split at hcovered
    · exact hl
    · next c calls _ => exact ledger_begin (h := { h with calls := calls }) hl c hcovered
  · exact hl
  · exact ledger_enter hl hcovered
  · exact ledger_act hl hcovered

/-- The holders of a buffer have not released more references than they owned, at any moment
up to the given one. -/
def Fair (calls : List Call) (n : Nat) (b : BufferId) : Prop :=
  ∀ m ≤ n, spent b (after calls m).deeds ≤ owned b (after calls m).deeds

theorem ledger_after (calls : List Call) {n : Nat} (hfair : Fair calls n b) :
    Ledger b (after calls n).store (after calls n).deeds := by
  induction n with
  | zero => exact Ledger.empty b
  | succ n ih =>
    have hl := ih fun m hm => hfair m (Nat.le_succ_of_le hm)
    have hcovered : Covered b (after calls (n + 1)).deeds :=
      Nat.add_le_add (hfair (n + 1) (Nat.le_refl _)) ((leases_after calls (n + 1)).restored_le b)
    rw [after_succ] at hcovered ⊢
    exact ledger_step hl hcovered

/-- A reference that a scope took is given back by the end of the scope, if no action fails. -/
theorem returned_of_ended {calls : List Call} {n : Nat} {l : Lease}
    (hfine : failures (after calls n).deeds = []) (hkept : l ∈ kept (after calls n).deeds)
    (hended : (after calls n).Ended l.scope) : l ∈ returned (after calls n).deeds := by
  have hq := queued_after calls n
  have hl := leases_after calls n
  have hwhole := (hq.whole l.scope hended.1).resolve_left (by rw [hfine]; exact nofun)
  rw [Work.pending_of_ne hended.2, List.append_nil] at hwhole
  refine (hl.returned_iff l).2 ⟨hkept, mem_entriesOn.1 ?_⟩
  have hqueued := mem_entriesOn.2 (hl.entry_mem l hkept)
  rw [hwhole] at hqueued
  exact List.mem_reverse.1 hqueued

/-- As long as no action fails and the holders of a body release no more than they own: while a
live scope keeps it, the body reads as the bytes with which it was made; and once all scopes
that took a reference have ended and all references of holders have been given up, none is
left, and one release freed the body. The moments are those of the calls themselves. -/
theorem body_lifetime (calls : List Call) {n : Nat}
    (hfine : failures (after calls n).deeds = []) (hfair : Fair calls n b) {bytes : Bytes}
    (hmade : .made b bytes ∈ (after calls n).deeds) :
    (∀ l, .kept l ∈ (after calls n).deeds → l.buffer = b →
      (after calls n).store.scope l.scope ≠ .closed →
        ((after calls n).store.buffer b).bytes = some bytes) ∧
      ((∀ l, .kept l ∈ (after calls n).deeds → l.buffer = b → (after calls n).Ended l.scope) →
        spent b (after calls n).deeds = owned b (after calls n).deeds →
          ((after calls n).store.buffer b).refs = 0 ∧ freed b (after calls n).deeds = 1) ∧
      Faithful calls := by
  have hl := leases_after calls n
  have haccount := (ledger_after calls hfair).account
  have hbalance := haccount.balance
  have howned := hfair n (Nat.le_refl _)
  have hmem : bytes ∈ made b (after calls n).deeds :=
    List.mem_filterMap.2 ⟨_, hmade, if_pos rfl⟩
  obtain ⟨bytes', hmade', hfreed, hbytes⟩ := haccount.stock.resolve_left fun hnone => by
    rw [hnone.1] at hmem
    cases hmem
  rw [hmade'] at hmem
  cases List.mem_singleton.1 hmem
  refine ⟨fun l hkept hb hlive => hbytes ?_, fun hall hspent => ?_, faithful calls⟩
  · -- The reference of the live scope has not gone, and the holders' never exceed theirs.
    have hlt := hl.restored_lt (mem_kept.2 hkept) (not_returned_of_live hlive)
    rw [hb] at hlt
    omega
  · -- All that was given and taken has gone, so the balance leaves no reference.
    have hle := hl.leased_le fun l hkept hb =>
      returned_of_ended hfine hkept (hall l (mem_kept.1 hkept) hb)
    have hrefs : ((after calls n).store.buffer b).refs = 0 := by omega
    rw [if_pos hrefs] at hfreed
    exact ⟨hrefs, hfreed⟩

/-- A body of a response that a second scope keeps too, with a reference for an action: it can
be read until the first close, and afterwards, for the second scope, until that ends. -/
theorem body_lifetime_shared :
    let b : BufferId := ⟨0⟩
    let calls : List Call := [.openScope, .openScope, .hold [97, 98], .retain b,
      .onCleanup ⟨0⟩ (.release b .done), .assemble ⟨200, "OK"⟩ .empty b ⟨0⟩,
      .keepUntilClose b ⟨1⟩, .close ⟨0⟩, .close ⟨1⟩]
    ((after calls 13).store.buffer b).bytes = some [97, 98] ∧
      ((after calls 16).store.buffer b).refs = 0 ∧ freed b (after calls 16).deeds = 1 := by
  intro b calls
  have hfair : Fair calls 16 b := by
    unfold Fair
    decide
  have hmade : Deed.made b [97, 98] ∈ (after calls 16).deeds := by decide
  have hbefore : Deed.made b [97, 98] ∈ (after calls 13).deeds := by decide
  have hkept : Deed.kept ⟨b, ⟨1⟩, 2⟩ ∈ (after calls 13).deeds := by decide
  have hlive : (after calls 13).store.scope ⟨1⟩ ≠ .closed := by decide
  have hended : ∀ l ∈ kept (after calls 16).deeds, (after calls 16).Ended l.scope := by decide
  have hfairBefore : Fair calls 13 b := fun m hm => hfair m (Nat.le_trans hm (by decide))
  exact ⟨(body_lifetime calls (by decide) hfairBefore hbefore).1 _ hkept rfl hlive,
    (body_lifetime calls (by decide) hfair hmade).2.1
      (fun l hl _ => hended l (mem_kept.2 hl)) (by decide)⟩

end History

end Http1Client
