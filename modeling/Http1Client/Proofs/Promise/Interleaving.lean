import Http1Client.Promise.EventLoop
import Mathlib.Data.List.Induction

/-!
# Promises under every interleaving

An event loop moves its tasks in any order, and between any two of their steps promises are
polled and dropped. A move changes the slot that it is about and no other (`slots_step`), so a
slot goes through its own moves as if it were alone on the loop (`slots_run`): neither the
failure of another task nor its silence or delay can reach it.

Of one slot, `Stands` lists the four ways in which it can stand after some moves, and a further
move leads from one of them to another (`Stands.move`):

- the task is still at work, and nothing can be heard of it;
- it has finished, and its outcome waits to be asked for;
- it has finished, and the outcome has been heard;
- it has finished, but its promise had been dropped first.

So a promise resolves once if it is polled when its task has finished and before it is dropped
(`Heard`), and otherwise never; and what it resolves to is the outcome of its own task
(`outcomes_run`).
-/

namespace Http1Client

variable {α : Type}

/-- What a promise resolves to if its task finishes in this way. -/
def Finish.outcome : Finish α → Outcome α
  | .report outcome => outcome
  | .silent | .fail => .error .abandoned

/-- What a fulfiller leaves behind for a promise that is awaited. -/
def Finish.left : Finish α → Fulfiller α
  | .report outcome => .reported outcome
  | .silent | .fail => .spent

namespace Move

/-- The slot that a move is about. -/
def slot : Move → Nat
  | .advance i | .poll i | .forget i => i

/-- What a move does in its slot. -/
def act : Move → Slot α → Slot α
  | .advance _ => Slot.advance
  | .poll _ => Slot.poll
  | .forget _ => Slot.forget

end Move

/-- A slot goes through moves of its own. -/
def Slot.run (s : Slot α) (moves : List Move) : Slot α := moves.foldl (fun s m => m.act s) s

namespace EventLoop

/-! ## Slots do not see each other -/

theorem step_eq (l : EventLoop α) (m : Move) : l.step m = ⟨l.slots.modify m.slot m.act⟩ := by
  cases m <;> rfl

/-- A move changes its own slot only. -/
theorem slots_step (l : EventLoop α) (m : Move) (i : Nat) :
    (l.step m).slots[i]? = if m.slot = i then l.slots[i]?.map m.act else l.slots[i]? := by
  rw [step_eq]
  show (l.slots.modify m.slot m.act)[i]? = _
  by_cases h : m.slot = i
  · rw [if_pos h, ← h]
    exact List.getElem?_modify_eq m.act m.slot l.slots
  · rw [if_neg h]
    exact List.getElem?_modify_ne m.act l.slots h

/-- What becomes of a slot is decided by the moves in it. -/
theorem slots_run (l : EventLoop α) (moves : List Move) (i : Nat) :
    (l.run moves).slots[i]? = l.slots[i]?.map (·.run (moves.filter (·.slot = i))) := by
  induction moves generalizing l with
  | nil => exact Option.map_id'.symm
  | cons m moves ih =>
    show ((l.step m).run moves).slots[i]? = _
    rw [ih, slots_step]
    by_cases h : m.slot = i
    · rw [if_pos h, List.filter_cons, if_pos (decide_eq_true h), Option.map_map]
      rfl
    · rw [if_neg h, List.filter_cons, if_neg (by rw [decide_eq_true_eq]; exact h)]

end EventLoop

/-! ## The ways of a slot -/

/-- How many steps the task in a slot has taken. -/
def stepsIn (i : Nat) (moves : List Move) : Nat := moves.count (.advance i)

/-- The promise in a slot is polled when its task has taken all its steps, and has not been
dropped before. -/
def Heard (job : Job α) (i : Nat) (moves : List Move) : Prop :=
  ∃ before later, moves = before ++ Move.poll i :: later ∧
    job.yields < stepsIn i before ∧ Move.forget i ∉ before

section

variable {job : Job α} {i : Nat} {moves : List Move} {s : Slot α} {m : Move}

theorem stepsIn_concat (i : Nat) (moves : List Move) (m : Move) :
    stepsIn i (moves ++ [m]) = stepsIn i moves + if m = .advance i then 1 else 0 := by
  unfold stepsIn
  rw [List.count_append, List.count_singleton]
  simp only [beq_iff_eq]

theorem forget_mem_concat :
    Move.forget i ∈ moves ++ [m] ↔ Move.forget i ∈ moves ∨ Move.forget i = m := by
  rw [List.mem_append, List.mem_singleton]

theorem heard_iff : Heard job i moves ↔ ∃ k, ∃ _ : k < moves.length,
    moves[k]? = some (.poll i) ∧ job.yields < stepsIn i (moves.take k) ∧
      Move.forget i ∉ moves.take k := by
  constructor
  · rintro ⟨before, later, rfl, hfinished, hkept⟩
    have hlength : before.length < (before ++ Move.poll i :: later).length := by
      rw [List.length_append, List.length_cons]
      omega
    refine ⟨before.length, hlength, ?_, ?_⟩
    · rw [List.getElem?_append_right (Nat.le_refl _), Nat.sub_self]
      rfl
    · rw [List.take_left]
      exact ⟨hfinished, hkept⟩
  · rintro ⟨k, hk, hpoll, hfinished, hkept⟩
    refine ⟨moves.take k, moves.drop (k + 1), ?_, hfinished, hkept⟩
    rw [List.getElem?_eq_getElem hk] at hpoll
    rw [← Option.some.inj hpoll, ← List.drop_eq_getElem_cons hk, List.take_append_drop]

/-- Whether an outcome has been heard can be told from the moves. -/
instance (job : Job α) (i : Nat) (moves : List Move) : Decidable (Heard job i moves) :=
  decidable_of_iff _ heard_iff.symm

/-- One more move makes an outcome heard only if it is the poll that comes in time. -/
theorem heard_concat : Heard job i (moves ++ [m]) ↔ Heard job i moves ∨
    Move.poll i = m ∧ job.yields < stepsIn i moves ∧ Move.forget i ∉ moves := by
  constructor
  · rintro ⟨before, later, heq, hfinished, hkept⟩
    rcases List.eq_nil_or_concat later with rfl | ⟨later, last, rfl⟩
    · obtain ⟨rfl, hm⟩ := List.append_inj' heq rfl
      exact .inr ⟨(List.cons.inj hm).1.symm, hfinished, hkept⟩
    · have hlast : moves ++ [m] = (before ++ Move.poll i :: later) ++ [last] := by
        simpa only [List.concat_eq_append, List.append_assoc, List.cons_append] using heq
      obtain ⟨rfl, -⟩ := List.append_inj' hlast rfl
      exact .inl ⟨before, later, rfl, hfinished, hkept⟩
  · rintro (⟨before, later, rfl, hfinished, hkept⟩ | ⟨rfl, hfinished, hkept⟩)
    · exact ⟨before, later ++ [m], by rw [List.append_assoc]; rfl, hfinished, hkept⟩
    · exact ⟨moves, [], rfl, hfinished, hkept⟩

/-- How a slot stands after moves, of which those in other slots do not count. -/
inductive Stands (job : Job α) (i : Nat) (moves : List Move) : Slot α → Prop
  /-- The task has `n` times to give way yet. -/
  | working {n : Nat} {awaited : Bool} (hsteps : stepsIn i moves + n = job.yields)
    (hheard : ¬ Heard job i moves) (hawaited : awaited = true ↔ Move.forget i ∉ moves) :
    Stands job i moves ⟨some ⟨n, job.finish⟩, ⟨.working, awaited⟩, []⟩
  /-- The outcome waits to be heard. -/
  | waiting (hfinished : job.yields < stepsIn i moves) (hheard : ¬ Heard job i moves)
    (hkept : Move.forget i ∉ moves) : Stands job i moves ⟨none, ⟨job.finish.left, true⟩, []⟩
  | heard {f : Fulfiller α} (hfinished : job.yields < stepsIn i moves)
    (hheard : Heard job i moves) : Stands job i moves ⟨none, ⟨f, false⟩, [job.finish.outcome]⟩
  /-- The promise was dropped, and nothing has been heard. -/
  | lost {f : Fulfiller α} (hfinished : job.yields < stepsIn i moves)
    (hheard : ¬ Heard job i moves) (hdropped : Move.forget i ∈ moves) :
    Stands job i moves ⟨none, ⟨f, false⟩, []⟩

namespace Stands

theorem start (job : Job α) (i : Nat) : Stands job i [] (.start job) := by
  have hheard : ¬ Heard job i [] := by
    rintro ⟨before, later, heq, -⟩
    cases before <;> cases heq
  exact .working (Nat.zero_add _) hheard ⟨fun _ => nofun, fun _ => rfl⟩

/-- How a slot stands hangs on three things. -/
theorem congr {moves' : List Move} (h : Stands job i moves s)
    (hsteps : stepsIn i moves' = stepsIn i moves)
    (hforget : Move.forget i ∈ moves' ↔ Move.forget i ∈ moves)
    (hheard : Heard job i moves' ↔ Heard job i moves) : Stands job i moves' s := by
  cases h with
  | working hworking hnot hawaited =>
    exact .working (by rw [hsteps]; exact hworking) (by rw [hheard]; exact hnot)
      (by rw [hforget]; exact hawaited)
  | waiting hfinished hnot hkept =>
    exact .waiting (by rw [hsteps]; exact hfinished) (by rw [hheard]; exact hnot)
      (by rw [hforget]; exact hkept)
  | heard hfinished hyes => exact .heard (by rw [hsteps]; exact hfinished) (hheard.2 hyes)
  | lost hfinished hnot hdropped =>
    exact .lost (by rw [hsteps]; exact hfinished) (by rw [hheard]; exact hnot) (hforget.2 hdropped)

/-- A move in another slot changes nothing. -/
theorem other (h : Stands job i moves s) (hm : m.slot ≠ i) : Stands job i (moves ++ [m]) s := by
  refine h.congr ?_ ?_ ?_
  · rw [stepsIn_concat, if_neg, Nat.add_zero]
    rintro rfl
    exact hm rfl
  · rw [forget_mem_concat, or_iff_left]
    rintro rfl
    exact hm rfl
  · rw [heard_concat, or_iff_left]
    rintro ⟨rfl, -⟩
    exact hm rfl

/-- A step of the task. With the last one it finishes, and its outcome waits for whoever awaits
it. -/
theorem advance (h : Stands job i moves s) :
    Stands job i (moves ++ [.advance i]) s.advance := by
  have hsteps : stepsIn i (moves ++ [.advance i]) = stepsIn i moves + 1 := by
    rw [stepsIn_concat, if_pos rfl]
  have hforget : Move.forget i ∈ moves ++ [.advance i] ↔ Move.forget i ∈ moves :=
    forget_mem_concat.trans (or_iff_left nofun)
  have hheard : Heard job i (moves ++ [.advance i]) ↔ Heard job i moves :=
    heard_concat.trans (or_iff_left fun hpoll => nomatch hpoll.1)
  cases h with
  | @working n awaited hworking hnot hawaited =>
    rw [← hheard] at hnot
    rw [← hforget] at hawaited
    cases n with
    | succ n => exact .working (by omega) hnot hawaited
    | zero =>
      have hfinished : job.yields < stepsIn i (moves ++ [.advance i]) := by omega
      obtain ⟨yields, finish⟩ := job
      cases awaited with
      | true =>
        have hkept := hawaited.1 rfl
        cases finish <;> exact .waiting hfinished hnot hkept
      | false =>
        have hdropped := of_not_not fun hkept => nomatch hawaited.2 hkept
        cases finish <;> exact .lost hfinished hnot hdropped
  | waiting hfinished hnot hkept =>
    exact .waiting (by omega) (by rw [hheard]; exact hnot) (by rw [hforget]; exact hkept)
  | heard hfinished hyes => exact .heard (by omega) (hheard.2 hyes)
  | lost hfinished hnot hdropped =>
    exact .lost (by omega) (by rw [hheard]; exact hnot) (hforget.2 hdropped)

/-- A poll hears an outcome that waits. Any other poll changes nothing. -/
theorem poll (h : Stands job i moves s) : Stands job i (moves ++ [.poll i]) s.poll := by
  have hsteps : stepsIn i (moves ++ [.poll i]) = stepsIn i moves := by
    rw [stepsIn_concat, if_neg nofun, Nat.add_zero]
  have hforget : Move.forget i ∈ moves ++ [.poll i] ↔ Move.forget i ∈ moves :=
    forget_mem_concat.trans (or_iff_left nofun)
  -- Whether this poll is the one that counts is what the cases differ in.
  cases h with
  | @working n awaited hworking hnot hawaited =>
    have hearly : Heard job i (moves ++ [.poll i]) ↔ Heard job i moves :=
      heard_concat.trans (or_iff_left fun hpoll => by omega)
    have hstill := (Stands.working hworking hnot hawaited).congr hsteps hforget hearly
    cases awaited <;> exact hstill
  | waiting hfinished hnot hkept =>
    have hyes : Heard job i (moves ++ [.poll i]) :=
      heard_concat.2 (.inr ⟨rfl, hfinished, hkept⟩)
    obtain ⟨yields, finish⟩ := job
    cases finish <;> exact .heard (hsteps ▸ hfinished) hyes
  | heard hfinished hyes => exact .heard (hsteps ▸ hfinished) (heard_concat.2 (.inl hyes))
  | @lost f hfinished hnot hdropped =>
    have hlate : Heard job i (moves ++ [.poll i]) ↔ Heard job i moves :=
      heard_concat.trans (or_iff_left fun hpoll => hpoll.2.2 hdropped)
    exact (Stands.lost (f := f) hfinished hnot hdropped).congr hsteps hforget hlate

/-- A promise that is dropped is not heard any more. -/
theorem forget (h : Stands job i moves s) : Stands job i (moves ++ [.forget i]) s.forget := by
  have hsteps : stepsIn i (moves ++ [.forget i]) = stepsIn i moves := by
    rw [stepsIn_concat, if_neg nofun, Nat.add_zero]
  have hdropped : Move.forget i ∈ moves ++ [.forget i] := forget_mem_concat.2 (.inr rfl)
  have hheard : Heard job i (moves ++ [.forget i]) ↔ Heard job i moves :=
    heard_concat.trans (or_iff_left fun hpoll => nomatch hpoll.1)
  cases h with
  | working hworking hnot hawaited =>
    exact .working (hsteps ▸ hworking) (by rw [hheard]; exact hnot)
      ⟨nofun, fun hkept => absurd hdropped hkept⟩
  | waiting hfinished hnot hkept =>
    exact .lost (hsteps ▸ hfinished) (by rw [hheard]; exact hnot) hdropped
  | heard hfinished hyes => exact .heard (hsteps ▸ hfinished) (hheard.2 hyes)
  | lost hfinished hnot _ =>
    exact .lost (hsteps ▸ hfinished) (by rw [hheard]; exact hnot) hdropped

/-- A move in the slot leads from one way to another. -/
theorem move (h : Stands job i moves s) (hm : m.slot = i) :
    Stands job i (moves ++ [m]) (m.act s) := by
  cases m with
  | advance j => cases hm; exact h.advance
  | poll j => cases hm; exact h.poll
  | forget j => cases hm; exact h.forget

/-- Where the promise has been dropped, a step of the task shows nowhere. -/
theorem unseen (h : Stands job i moves s) (hdropped : Move.forget i ∈ moves) :
    s.advance.resolved = s.resolved ∧ s.advance.promise.poll.2 = s.promise.poll.2 := by
  cases h with
  | @working n awaited _ _ hawaited =>
    cases awaited with
    | true => exact absurd hdropped (hawaited.1 rfl)
    | false =>
      obtain ⟨yields, finish⟩ := job
      cases n <;> cases finish <;> exact ⟨rfl, rfl⟩
  | waiting _ _ hkept => exact absurd hdropped hkept
  | heard | lost => exact ⟨rfl, rfl⟩

end Stands

end

namespace EventLoop

/-- After any moves every slot stands in one of these ways. -/
theorem stands_run {jobs : List (Job α)} {i : Nat} {job : Job α} (hjob : jobs[i]? = some job)
    (moves : List Move) :
    ∃ s, ((ofJobs jobs).run moves).slots[i]? = some s ∧ Stands job i moves s := by
  induction moves using List.reverseRecOn with
  | nil =>
    refine ⟨.start job, ?_, .start job i⟩
    show (jobs.map Slot.start)[i]? = _
    rw [List.getElem?_map, hjob]
    rfl
  | append_singleton moves m ih =>
    obtain ⟨s, hs, hstands⟩ := ih
    have hrun : (ofJobs jobs).run (moves ++ [m]) = ((ofJobs jobs).run moves).step m := by
      rw [run, List.foldl_append]
      rfl
    rw [hrun, slots_step, hs]
    by_cases hm : m.slot = i
    · rw [if_pos hm]
      exact ⟨m.act s, rfl, hstands.move hm⟩
    · rw [if_neg hm]
      exact ⟨s, rfl, hstands.other hm⟩

/-- What each promise says when it is asked now. -/
def answers (l : EventLoop α) : List (Promise.Answer α) := l.slots.map (·.promise.poll.2)

/-- The task in a slot has reported, or has ended without a report. -/
def Finished (l : EventLoop α) (i : Nat) : Prop := ∃ s, l.slots[i]? = some s ∧ s.job = none

theorem finished_iff {jobs : List (Job α)} {i : Nat} {job : Job α} (hjob : jobs[i]? = some job)
    (moves : List Move) : ((ofJobs jobs).run moves).Finished i ↔ job.yields < stepsIn i moves := by
  obtain ⟨s, hs, hstands⟩ := stands_run hjob moves
  unfold Finished
  rw [hs]
  cases hstands with
  | working hsteps =>
    refine ⟨?_, fun hlt => by omega⟩
    rintro ⟨s, hs, hnone⟩
    cases hs
    cases hnone
  | waiting hfinished | heard hfinished | lost hfinished =>
    exact ⟨fun _ => hfinished, fun _ => ⟨_, rfl, rfl⟩⟩

/-- A change in a slot that shows nowhere there does not show on the loop. -/
theorem map_modify_eq {β : Type} {f : Slot α → β} {g : Slot α → Slot α} {slots : List (Slot α)}
    {i : Nat} (h : ∀ s, slots[i]? = some s → f (g s) = f s) :
    (slots.modify i g).map f = slots.map f := by
  apply List.ext_getElem?
  intro j
  rw [List.getElem?_map, List.getElem?_map]
  by_cases hj : i = j
  · subst hj
    rw [List.getElem?_modify_eq]
    cases hs : slots[i]? with
    | none => rfl
    | some s => exact congrArg some (h s hs)
  · rw [List.getElem?_modify_ne g slots hj]

/-- However the moves of a loop are mixed, a promise resolves exactly if it is polled after its
task has finished and has not been dropped before; it resolves once, and to the outcome of its
own task. Other tasks and the moves in other slots make no difference to its slot. When a task
finishes whose promise has been dropped, no promise says anything else than before. -/
theorem outcomes_run {jobs : List (Job α)} {i : Nat} {job : Job α} (hjob : jobs[i]? = some job)
    (moves : List Move) :
    (Heard job i moves →
      ((ofJobs jobs).run moves).outcomes[i]? = some [job.finish.outcome]) ∧
    (¬ Heard job i moves → ((ofJobs jobs).run moves).outcomes[i]? = some []) ∧
    (((ofJobs jobs).run moves).Finished i ↔ job.yields < stepsIn i moves) ∧
    (∀ (others : List (Job α)) (moves' : List Move), others[i]? = some job →
      moves'.filter (·.slot = i) = moves.filter (·.slot = i) →
        ((ofJobs others).run moves').slots[i]? = ((ofJobs jobs).run moves).slots[i]?) ∧
    (Move.forget i ∈ moves →
      (((ofJobs jobs).run moves).step (.advance i)).outcomes =
          ((ofJobs jobs).run moves).outcomes ∧
        (((ofJobs jobs).run moves).step (.advance i)).answers =
          ((ofJobs jobs).run moves).answers) := by
  obtain ⟨s, hs, hstands⟩ := stands_run hjob moves
  have houtcome : ((ofJobs jobs).run moves).outcomes[i]? = some s.resolved := by
    rw [outcomes, List.getElem?_map, hs]
    rfl
  rw [houtcome]
  refine ⟨?_, ?_, finished_iff hjob moves, ?_, ?_⟩
  · intro hyes
    cases hstands with
    | heard => rfl
    | working _ hnot | waiting _ hnot | lost _ hnot => exact absurd hyes hnot
  · intro hnot
    cases hstands with
    | heard _ hyes => exact absurd hyes hnot
    | working | waiting | lost => rfl
  · intro others moves' hothers hown
    have hstart : (ofJobs others).slots[i]? = (ofJobs jobs).slots[i]? := by
      show (others.map Slot.start)[i]? = (jobs.map Slot.start)[i]?
      rw [List.getElem?_map, List.getElem?_map, hothers, hjob]
    rw [slots_run, slots_run, hstart, hown]
  · intro hdropped
    obtain ⟨hresolved, hanswer⟩ := hstands.unseen hdropped
    constructor
    · apply map_modify_eq
      intro s' hs'
      cases hs.symm.trans hs'
      exact hresolved
    · apply map_modify_eq
      intro s' hs'
      cases hs.symm.trans hs'
      exact hanswer

/-- Of three tasks the second fails and the third finds its promise dropped; the first is polled
too early, and again in time. -/
theorem outcomes_run_crossed :
    let jobs : List (Job Nat) := [⟨1, .report (.ok 7)⟩, ⟨0, .fail⟩, ⟨0, .report (.ok 9)⟩]
    let moves : List Move := [.poll 0, .advance 1, .forget 2, .advance 0, .poll 1, .advance 0,
      .advance 2, .poll 2, .poll 0, .poll 0]
    ((ofJobs jobs).run moves).outcomes[0]? = some [.ok 7] ∧
      ((ofJobs jobs).run moves).outcomes[1]? = some [.error .abandoned] ∧
      ((ofJobs jobs).run moves).outcomes[2]? = some [] := by
  intro jobs moves
  have hreporting : jobs[0]? = some ⟨1, .report (.ok 7)⟩ := rfl
  have hfailing : jobs[1]? = some ⟨0, .fail⟩ := rfl
  have hdropped : jobs[2]? = some ⟨0, .report (.ok 9)⟩ := rfl
  exact ⟨(outcomes_run hreporting moves).1 (by decide),
    (outcomes_run hfailing moves).1 (by decide),
    (outcomes_run hdropped moves).2.1 (by decide)⟩

end EventLoop

end Http1Client
