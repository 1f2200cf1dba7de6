import Http1Client.Proofs.Lifetime.Store

/-!
# Many handles to one storage

Whoever shares a storage holds a handle to it, and a successful retain makes another handle. A
handle says nothing about how many references there are: any of them can be retained or released
by anyone, more often than it was given out, and after the bytes have gone.

`Came` tells the five things that a call can do, and `Tally` says what the calls so far add up to.
Each call keeps the tally (`Tally.came`), so any run of calls does (`Tally.run`): the count and
the effects cannot drift apart. The release that finds the count at one is the one that frees; from
there on the count is zero for ever, because what adds a reference needs one (`run_of_freed`).
-/

namespace Http1Client

/-! ## Calls and what comes of them -/

/-- A call on one of the handles to a storage, by the number of the handle: they are numbered in
the order in which they were made. -/
inductive Access where
  | retain (handle : Nat)
  | release (handle : Nat)
  deriving DecidableEq, Repr

/-- The handle on which a call is made. -/
def Access.handle : Access → Nat
  | retain i => i
  | release i => i

/-- What came of a call. -/
inductive Effect where
  /-- The retain gave another handle. -/
  | retained
  /-- The retain gave none. -/
  | refused
  /-- The release found references and answered that the storage is not freed. -/
  | released
  /-- The release answered that it has freed the storage. -/
  | freed
  /-- The release found no reference and answered that it has not freed the storage. -/
  | late
  /-- There is no such handle, so no call was made. -/
  | missing
  deriving DecidableEq, Repr

/-- All who share a storage. -/
structure Sharers where
  store : Store
  /-- The handles to the storage, the oldest first. -/
  handles : List BufferId
  deriving DecidableEq, Repr

namespace Sharers

/-- A new storage with one reference and one handle. -/
def start (s : Store) (bytes : Bytes) : Sharers :=
  let (s, b) := s.hold (.new bytes)
  ⟨s, [b]⟩

/-- Retains or releases the storage through one of its handles. -/
def access (h : Sharers) (a : Access) : Sharers × Effect :=
  match h.handles[a.handle]?, a with
  | none, _ => (h, .missing)
  | some b, .retain _ =>
    match h.store.retain b with
    | (s, true) => (⟨s, h.handles ++ [b]⟩, .retained)
    | (s, false) => (⟨s, h.handles⟩, .refused)
  | some b, .release _ =>
    match h.store.release b with
    | (s, true) => (⟨s, h.handles⟩, .freed)
    | (s, false) => (⟨s, h.handles⟩, if (h.store.buffer b).isFreed then .late else .released)

/-- Makes calls in order, and lists what came of each. -/
def run (h : Sharers) : List Access → Sharers × List Effect
  | [] => (h, [])
  | a :: rest =>
    let (next, effect) := h.access a
    let (last, effects) := next.run rest
    (last, effect :: effects)

variable {b : BufferId} {h h' : Sharers}

/-! ## One call -/

/-- What a call on a storage can do. -/
inductive Came (b : BufferId) (h : Sharers) : Access → Effect → Sharers → Prop where
  | missing {a : Access} (ha : h.handles.length ≤ a.handle) : Came b h a .missing h
  | retained {i : Nat} (hi : i < h.handles.length) (hrefs : (h.store.buffer b).refs ≠ 0) :
      Came b h (.retain i) .retained ⟨h.store.setBuffer b
        ⟨(h.store.buffer b).refs + 1, (h.store.buffer b).bytes⟩, h.handles ++ [b]⟩
  | refused {i : Nat} (hi : i < h.handles.length) (hrefs : (h.store.buffer b).refs = 0) :
      Came b h (.retain i) .refused h
  | released {i n : Nat} (hi : i < h.handles.length) (hrefs : (h.store.buffer b).refs = n + 2) :
      Came b h (.release i) .released
        ⟨h.store.setBuffer b ⟨n + 1, (h.store.buffer b).bytes⟩, h.handles⟩
  | freed {i : Nat} (hi : i < h.handles.length) (hrefs : (h.store.buffer b).refs = 1) :
      Came b h (.release i) .freed ⟨h.store.setBuffer b ⟨0, none⟩, h.handles⟩
  | late {i : Nat} (hi : i < h.handles.length) (hrefs : (h.store.buffer b).refs = 0) :
      Came b h (.release i) .late ⟨h.store.warn .releaseOfFreed, h.handles⟩

/-- A call does one of these, through whichever handle it is made. -/
theorem came_access (hall : ∀ other ∈ h.handles, other = b) (a : Access) :
    Came b h a (h.access a).2 (h.access a).1 := by
  by_cases ha : a.handle < h.handles.length
  · have hhandle : h.handles[a.handle]? = some b := by
      rw [List.getElem?_eq_getElem ha, hall _ (List.getElem_mem ha)]
    unfold access
    rw [hhandle]
    cases a with
    | retain i =>
      dsimp only
      by_cases hrefs : (h.store.buffer b).refs = 0
      · rw [Store.retain_of_freed hrefs]
        exact .refused ha hrefs
      · rw [Store.retain_of_refs hrefs]
        exact .retained ha hrefs
    | release i =>
      dsimp only
      match hrefs : (h.store.buffer b).refs with
      | 0 =>
        rw [Store.release_of_freed hrefs, Buffer.isFreed, hrefs]
        exact .late ha hrefs
      | 1 =>
        rw [Store.release_of_refs hrefs]
        exact .freed ha hrefs
      | n + 2 =>
        rw [Store.release_of_refs hrefs, Buffer.isFreed, hrefs]
        exact .released ha hrefs
  · have hhandle : h.handles[a.handle]? = none := List.getElem?_eq_none (Nat.le_of_not_lt ha)
    unfold access
    rw [hhandle]
    exact .missing (Nat.le_of_not_lt ha)

end Sharers

/-! ## What all calls add up to -/

theorem count_concat (effects : List Effect) (effect other : Effect) :
    (effects ++ [effect]).count other = effects.count other + if effect = other then 1 else 0 := by
  rw [List.count_append, List.count_singleton]
  simp only [beq_iff_eq]

/-- How a storage stands to the effects of all calls so far. -/
structure Balanced (bytes : Bytes) (buffer : Buffer) (effects : List Effect) : Prop where
  /-- The first reference and those that were added are there or have been given back. -/
  refs : buffer.refs + (effects.count .released + effects.count .freed) =
    1 + effects.count .retained
  /-- The bytes are the ones of the beginning, as long as there is a reference. -/
  bytes : buffer.bytes = if buffer.refs = 0 then none else some bytes
  /-- The storage has been freed once if the count is zero, and else not at all. -/
  freed : effects.count .freed = if buffer.refs = 0 then 1 else 0

namespace Balanced

variable {bytes : Bytes} {buffer : Buffer} {effects : List Effect}

theorem new (bytes : Bytes) : Balanced bytes (.new bytes) [] := ⟨rfl, rfl, rfl⟩

/-- A call that leaves the storage alone. -/
theorem idle {effect : Effect} (h : Balanced bytes buffer effects) (hretained : effect ≠ .retained)
    (hreleased : effect ≠ .released) (hfreed : effect ≠ .freed) :
    Balanced bytes buffer (effects ++ [effect]) := by
  refine ⟨?_, h.bytes, ?_⟩
  · rw [count_concat, count_concat, count_concat, if_neg hretained, if_neg hreleased,
      if_neg hfreed]
    exact h.refs
  · rw [count_concat, if_neg hfreed]
    exact h.freed

theorem retained (h : Balanced bytes buffer effects) (hrefs : buffer.refs ≠ 0) :
    Balanced bytes ⟨buffer.refs + 1, buffer.bytes⟩ (effects ++ [.retained]) := by
  have hbalance := h.refs
  have hbytes := h.bytes
  have hfreed := h.freed
  rw [if_neg hrefs] at hbytes hfreed
  refine ⟨?_, ?_, ?_⟩
  · simp only [count_concat, reduceCtorEq, if_false, if_true]
    omega
  · rw [if_neg (Nat.succ_ne_zero _)]
    exact hbytes
  · rw [if_neg (Nat.succ_ne_zero _), count_concat, if_neg (by decide)]
    exact hfreed

theorem released {n : Nat} (h : Balanced bytes buffer effects) (hrefs : buffer.refs = n + 2) :
    Balanced bytes ⟨n + 1, buffer.bytes⟩ (effects ++ [.released]) := by
  have hbalance := h.refs
  have hbytes := h.bytes
  have hfreed := h.freed
  rw [hrefs, if_neg (Nat.succ_ne_zero _)] at hbytes hfreed
  refine ⟨?_, ?_, ?_⟩
  · simp only [count_concat, reduceCtorEq, if_false, if_true]
    omega
  · rw [if_neg (Nat.succ_ne_zero _)]
    exact hbytes
  · rw [if_neg (Nat.succ_ne_zero _), count_concat, if_neg (by decide)]
    exact hfreed

theorem freed_last (h : Balanced bytes buffer effects) (hrefs : buffer.refs = 1) :
    Balanced bytes ⟨0, none⟩ (effects ++ [.freed]) := by
  have hbalance := h.refs
  have hfreed := h.freed
  rw [hrefs, if_neg Nat.one_ne_zero] at hfreed
  refine ⟨?_, rfl, ?_⟩
  · simp only [count_concat, reduceCtorEq, if_false, if_true]
    omega
  · rw [count_concat, hfreed]
    rfl

end Balanced

/-- What the effects of all calls so far say about those who share the newest storage of a store.
Nothing else of the store has changed, but for the warnings in its journal. -/
structure Tally (s : Store) (bytes : Bytes) (h : Sharers) (effects : List Effect) : Prop where
  /-- Every retain that gave a handle gave one to the same storage. -/
  handles : h.handles = List.replicate (1 + effects.count .retained) ⟨s.buffers.length⟩
  balanced : Balanced bytes (h.store.buffer ⟨s.buffers.length⟩) effects
  buffers : h.store.buffers = s.buffers ++ [h.store.buffer ⟨s.buffers.length⟩]
  scopes : h.store.scopes = s.scopes
  nextTicket : h.store.nextTicket = s.nextTicket
  /-- Each release that came too late has left a warning. -/
  journal : h.store.journal =
    List.replicate (effects.count .late) (.warned .releaseOfFreed) ++ s.journal

namespace Tally

variable {s : Store} {bytes : Bytes} {h h' : Sharers} {effects : List Effect}

theorem start (s : Store) (bytes : Bytes) : Tally s bytes (.start s bytes) [] := by
  have hbuffer : (Sharers.start s bytes).store.buffer ⟨s.buffers.length⟩ = .new bytes := by
    show (s.hold (.new bytes)).1.buffer ⟨s.buffers.length⟩ = _
    rw [Store.buffer_hold, if_pos rfl]
  refine ⟨rfl, ?_, ?_, rfl, rfl, rfl⟩
  · rw [hbuffer]
    exact .new bytes
  · rw [hbuffer]
    rfl

/-- A call that leaves the storage alone, and perhaps leaves a warning. -/
theorem idle {effect : Effect} (htally : Tally s bytes h effects) (hretained : effect ≠ .retained)
    (hreleased : effect ≠ .released) (hfreed : effect ≠ .freed) (hlate : effect ≠ .late) :
    Tally s bytes h (effects ++ [effect]) where
  handles := by
    rw [count_concat, if_neg hretained]
    exact htally.handles
  balanced := htally.balanced.idle hretained hreleased hfreed
  buffers := htally.buffers
  scopes := htally.scopes
  nextTicket := htally.nextTicket
  journal := by
    rw [count_concat, if_neg hlate]
    exact htally.journal

theorem late (htally : Tally s bytes h effects) :
    Tally s bytes ⟨h.store.warn .releaseOfFreed, h.handles⟩ (effects ++ [.late]) where
  handles := by
    rw [count_concat, if_neg nofun]
    exact htally.handles
  balanced := htally.balanced.idle nofun nofun nofun
  buffers := htally.buffers
  scopes := htally.scopes
  nextTicket := htally.nextTicket
  journal := by
    rw [count_concat, if_pos rfl]
    exact congrArg (List.cons _) htally.journal

/-- A call that changes the storage, and with it perhaps the handles. -/
theorem changed {effect : Effect} {buffer : Buffer} {handles : List BufferId}
    (htally : Tally s bytes h effects) (hbalanced : Balanced bytes buffer (effects ++ [effect]))
    (hhandles : handles =
      List.replicate (1 + (effects ++ [effect]).count .retained) ⟨s.buffers.length⟩)
    (hlate : effect ≠ .late) :
    Tally s bytes ⟨h.store.setBuffer ⟨s.buffers.length⟩ buffer, handles⟩ (effects ++ [effect]) := by
  have hindex : s.buffers.length < h.store.buffers.length := by
    rw [htally.buffers, List.length_append, List.length_singleton]
    exact Nat.lt_succ_self _
  have hbuffer : (h.store.setBuffer ⟨s.buffers.length⟩ buffer).buffer ⟨s.buffers.length⟩ =
      buffer := by
    rw [Store.buffer_setBuffer hindex, if_pos rfl]
  refine ⟨hhandles, ?_, ?_, htally.scopes, htally.nextTicket, ?_⟩
  · rw [hbuffer]
    exact hbalanced
  · rw [hbuffer]
    show h.store.buffers.set s.buffers.length buffer = s.buffers ++ [buffer]
    rw [htally.buffers, List.set_append_right _ _ (Nat.le_refl _), Nat.sub_self,
      List.set_cons_zero]
  · rw [count_concat, if_neg hlate]
    exact htally.journal

/-- Each call keeps the tally. -/
theorem came {a : Access} {effect : Effect} (htally : Tally s bytes h effects)
    (hcame : Sharers.Came ⟨s.buffers.length⟩ h a effect h') :
    Tally s bytes h' (effects ++ [effect]) := by
  have hhandles := htally.handles
  cases hcame with
  | missing _ => exact htally.idle nofun nofun nofun nofun
  | refused _ hrefs => exact htally.idle nofun nofun nofun nofun
  | late _ hrefs => exact htally.late
  | retained _ hrefs =>
    refine htally.changed (htally.balanced.retained hrefs) ?_ nofun
    rw [count_concat, if_pos rfl, hhandles, ← Nat.add_assoc, List.replicate_succ']
  | released _ hrefs =>
    refine htally.changed (htally.balanced.released hrefs) ?_ nofun
    rw [count_concat, if_neg nofun]
    exact hhandles
  | freed _ hrefs =>
    refine htally.changed (htally.balanced.freed_last hrefs) ?_ nofun
    rw [count_concat, if_neg nofun]
    exact hhandles

theorem access (htally : Tally s bytes h effects) (a : Access) :
    Sharers.Came ⟨s.buffers.length⟩ h a (h.access a).2 (h.access a).1 := by
  refine Sharers.came_access (fun other hother => ?_) a
  rw [htally.handles] at hother
  exact List.eq_of_mem_replicate hother

/-- Calls in any number and order keep it. -/
theorem run (htally : Tally s bytes h effects) (calls : List Access) :
    Tally s bytes (h.run calls).1 (effects ++ (h.run calls).2) := by
  induction calls generalizing h effects with
  | nil =>
    show Tally s bytes h (effects ++ [])
    rw [List.append_nil]
    exact htally
  | cons a calls ih =>
    have hnext := ih (htally.came (htally.access a))
    rw [List.append_assoc] at hnext
    exact hnext

end Tally

/-! ## The call that frees, and those after it -/

/-- What comes of a call when the storage is freed and there are so many handles to it. -/
def Access.vain (known : Nat) (a : Access) : Effect :=
  if known ≤ a.handle then .missing
  else
    match a with
    | retain _ => .refused
    | release _ => .late

namespace Sharers

variable {s : Store} {bytes : Bytes} {h : Sharers} {effects : List Effect}

/-- The call that frees is the one that brings the count to zero. -/
theorem access_freed_iff (htally : Tally s bytes h effects) (a : Access) :
    (h.access a).2 = .freed ↔ (h.store.buffer ⟨s.buffers.length⟩).refs ≠ 0 ∧
      ((h.access a).1.store.buffer ⟨s.buffers.length⟩).refs = 0 := by
  have hbefore := htally.balanced.freed
  have hafter := (htally.came (htally.access a)).balanced.freed
  rw [count_concat] at hafter
  by_cases hrefs : (h.store.buffer ⟨s.buffers.length⟩).refs = 0
  · -- It has been freed before, and no second time.
    rw [if_pos hrefs] at hbefore
    have hnot : (h.access a).2 ≠ .freed := by
      intro hfreed
      rw [if_pos hfreed, hbefore] at hafter
      split at hafter <;> cases hafter
    exact iff_of_false hnot fun hboth => hboth.1 hrefs
  · rw [if_neg hrefs] at hbefore
    rw [hbefore, Nat.zero_add] at hafter
    rw [and_iff_right hrefs]
    by_cases hzero : ((h.access a).1.store.buffer ⟨s.buffers.length⟩).refs = 0
    · rw [if_pos hzero] at hafter
      refine iff_of_true ?_ hzero
      by_cases hfreed : (h.access a).2 = .freed
      · exact hfreed
      · rw [if_neg hfreed] at hafter
        cases hafter
    · rw [if_neg hzero] at hafter
      refine iff_of_false (fun hfreed => ?_) hzero
      rw [if_pos hfreed] at hafter
      cases hafter

/-- When the storage is freed a call is in vain. -/
theorem access_of_freed (htally : Tally s bytes h effects)
    (hrefs : (h.store.buffer ⟨s.buffers.length⟩).refs = 0) (a : Access) :
    (h.access a).2 = a.vain h.handles.length ∧ (h.access a).1.handles = h.handles ∧
      { (h.access a).1.store with journal := h.store.journal } = h.store := by
  have hcame := htally.access a
  generalize (h.access a).2 = effect, (h.access a).1 = h' at hcame ⊢
  cases hcame with
  | missing ha => exact ⟨(if_pos ha).symm, rfl, rfl⟩
  | refused hi _ => exact ⟨(if_neg (Nat.not_le_of_lt hi)).symm, rfl, rfl⟩
  | late hi _ => exact ⟨(if_neg (Nat.not_le_of_lt hi)).symm, rfl, rfl⟩
  | retained _ hsome => exact absurd hrefs hsome
  | released _ hsome => rw [hsome] at hrefs; cases hrefs
  | freed _ hsome => rw [hsome] at hrefs; cases hrefs

/-- When the storage is freed all calls are in vain, and nothing changes but for the journal. -/
theorem run_of_freed (htally : Tally s bytes h effects)
    (hrefs : (h.store.buffer ⟨s.buffers.length⟩).refs = 0) (calls : List Access) :
    (h.run calls).2 = calls.map (Access.vain h.handles.length) ∧
      (h.run calls).1.handles = h.handles ∧
      { (h.run calls).1.store with journal := h.store.journal } = h.store := by
  induction calls generalizing h effects with
  | nil => exact ⟨rfl, rfl, rfl⟩
  | cons a calls ih =>
    obtain ⟨heffect, hhandles, hstore⟩ := access_of_freed htally hrefs a
    have hbuffers : (h.access a).1.store.buffers = h.store.buffers :=
      (congrArg Store.buffers hstore :)
    have hnext : ((h.access a).1.store.buffer ⟨s.buffers.length⟩).refs = 0 := by
      rw [Store.buffer_eq_of_buffers hbuffers, hrefs]
    obtain ⟨heffects, hlast, hkept⟩ := ih (htally.came (htally.access a)) hnext
    refine ⟨?_, hlast.trans hhandles, ?_⟩
    · show (h.access a).2 :: ((h.access a).1.run calls).2 = _
      rw [heffect, heffects, hhandles, List.map_cons]
    · show { ((h.access a).1.run calls).1.store with journal := h.store.journal } = h.store
      rw [← hstore, ← hkept]

end Sharers

/-- A storage is shared by any number of handles, and retained and released through any of them
in any order. The count is one more than the retains that gave a handle, less the releases that
found a reference; the bytes are there as long as it is not zero. The release that brings it to
zero, and only that one, answers that it has freed the storage. From there on no retain gives a
handle, no release answers so, and nothing changes. -/
theorem shared_storage (s : Store) (bytes : Bytes) (calls : List Access) :
    let b : BufferId := ⟨s.buffers.length⟩
    let (h, effects) := (Sharers.start s bytes).run calls
    Tally s bytes h effects ∧
      (∀ a, (h.access a).2 = .freed ↔
        (h.store.buffer b).refs ≠ 0 ∧ ((h.access a).1.store.buffer b).refs = 0) ∧
      ((h.store.buffer b).refs = 0 → ∀ later,
        (h.run later).2 = later.map (Access.vain h.handles.length) ∧
          (h.run later).1.handles = h.handles ∧
          { (h.run later).1.store with journal := h.store.journal } = h.store) := by
  have htally := (Tally.start s bytes).run calls
  rw [List.nil_append] at htally
  exact ⟨htally, Sharers.access_freed_iff htally, Sharers.run_of_freed htally⟩

/-- Three handles, of which one is released more often than the others, and all are used after the
bytes have gone. -/
theorem shared_storage_over_released :
    let calls : List Access :=
      [.retain 0, .release 1, .retain 1, .release 1, .release 1, .release 0]
    let h := ((Sharers.start {} [97, 98, 99]).run calls).1
    ((Sharers.start {} [97, 98, 99]).run calls).2 =
        [.retained, .released, .retained, .released, .freed, .late] ∧
      (h.run [.retain 2, .release 0, .retain 3]).2 = [.refused, .late, .missing] ∧
      { (h.run [.retain 2, .release 0, .retain 3]).1.store with journal := h.store.journal } =
        h.store := by
  intro calls h
  have hfreed : (h.store.buffer ⟨0⟩).refs = 0 := by decide
  obtain ⟨heffects, -, hstore⟩ := (shared_storage {} [97, 98, 99] calls).2.2 hfreed
    [.retain 2, .release 0, .retain 3]
  exact ⟨by decide, heffects, hstore⟩

end Http1Client
