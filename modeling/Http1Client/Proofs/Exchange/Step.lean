import Http1Client.Exchange.Intake
import Http1Client.Proofs.Response.Receiving

/-!
# Taking in a response step by step

A turn is many passes and then a decision. For proofs it is cut into steps: `step` makes
one pass, or takes the decision after the end of a head. Settling makes steps until one
of them asks for no other (`settle_of_again` and its companions), and `step_induction`
is the induction along the way.

`Leads` is a number of steps, with what is known of the lines that are met on the way,
and `Meets` says that settling meets a line of some length.
-/

namespace Http1Client.Intake

variable {method : Method} {i next rest : Intake} {skipped : Option Nat} {failure : Failure}

/-- One pass, or the decision after the end of a head. -/
def step (method : Method) (i : Intake) : Turn :=
  match Decoder.pass i.phase i.left with
  | .wait =>
    match i.phase with
    | .headersDone => onHead method i.left i.draft
    | .complete => .complete i
    | _ => .hungry i
  | .stop fault _ => .failed fault.toFailure
  | .go next left events =>
    match Draft.collector.deliver i.draft events with
    | (_, some failure) => .failed failure
    | (draft, none) => .again ⟨next, left, draft⟩ none

/-! ## Steps and passes -/

theorem step_of_go {phase : Phase} {left : Bytes} {events : List Event} {draft : Draft}
    (hpass : Decoder.pass i.phase i.left = .go phase left events)
    (hdeliver : Draft.collector.deliver i.draft events = (draft, none)) :
    step method i = .again ⟨phase, left, draft⟩ none := by
  simp only [step, hpass, hdeliver]

theorem step_of_refusal {phase : Phase} {left : Bytes} {events : List Event} {draft : Draft}
    (hpass : Decoder.pass i.phase i.left = .go phase left events)
    (hdeliver : Draft.collector.deliver i.draft events = (draft, some failure)) :
    step method i = .failed failure := by
  simp only [step, hpass, hdeliver]

theorem step_of_stop {fault : Fault} {left : Bytes}
    (hpass : Decoder.pass i.phase i.left = .stop fault left) :
    step method i = .failed fault.toFailure := by
  simp only [step, hpass]

theorem step_headersDone (hphase : i.phase = .headersDone) :
    step method i = onHead method i.left i.draft := by
  simp only [step, hphase, Decoder.pass_headersDone]

theorem step_complete (hphase : i.phase = .complete) : step method i = .complete i := by
  simp only [step, hphase, Decoder.pass_complete]

/-- The head of a final response, of which the framing can be chosen and is accepted. -/
theorem onHead_of_choose {left : Bytes} {draft : Draft} {framing : Framing}
    (hfinal : isInterim draft.code = false)
    (hchoose : Framing.choose method draft.code draft.headers = .ok framing)
    (hcheck : draft.checkFraming framing = none) :
    onHead method left draft =
      .again ⟨(Decoder.frame .headersDone framing).1, left,
        (Draft.collector.deliver draft (Decoder.frame .headersDone framing).2).1⟩ none := by
  simp only [onHead, hfinal, hchoose, hcheck, Bool.false_eq_true, if_false]

theorem onHead_not_hungry {left : Bytes} {draft : Draft} :
    onHead method left draft ≠ .hungry rest := by
  unfold onHead
  split
  · exact nofun
  split
  · exact nofun
  split <;> exact nofun

theorem onHead_not_complete {left : Bytes} {draft : Draft} :
    onHead method left draft ≠ .complete rest := by
  unfold onHead
  split
  · exact nofun
  split
  · exact nofun
  split <;> exact nofun

/-- A step that finds too few bytes changes nothing. -/
theorem step_hungry (h : step method i = .hungry rest) :
    rest = i ∧ Decoder.pass i.phase i.left = .wait ∧ i.phase ≠ .headersDone ∧
      i.phase ≠ .complete := by
  unfold step at h
  split at h
  · next hpass =>
    split at h
    · exact absurd h onHead_not_hungry
    · cases h
    · next hhead hcomplete =>
      cases h
      exact ⟨rfl, hpass, hhead, hcomplete⟩
  · cases h
  · split at h <;> cases h

/-- A step finds the response complete in the phase of that name only. -/
theorem step_complete_iff : step method i = .complete rest ↔ rest = i ∧ i.phase = .complete := by
  constructor
  · intro h
    unfold step at h
    split at h
    · split at h
      · exact absurd h onHead_not_complete
      · next hphase =>
        cases h
        exact ⟨rfl, hphase⟩
      · cases h
    · cases h
    · split at h <;> cases h
  · rintro ⟨rfl, hphase⟩
    exact step_complete hphase

/-- A step that asks for another is a pass, or the decision after a head. -/
theorem step_again (h : step method i = .again next skipped) :
    (∃ events, Decoder.pass i.phase i.left = .go next.phase next.left events ∧
      Draft.collector.deliver i.draft events = (next.draft, none) ∧ skipped = none) ∨
    (i.phase = .headersDone ∧ onHead method i.left i.draft = .again next skipped) := by
  unfold step at h
  split at h
  · split at h
    · next hphase => exact .inr ⟨hphase, h⟩
    · cases h
    · cases h
  · cases h
  · next hpass =>
    split at h
    · cases h
    · next hdeliver =>
      cases h
      exact .inl ⟨_, hpass, hdeliver, rfl⟩

/-- A step fails at a fault, at body bytes that are refused, or at the decision after a
head. -/
theorem step_failed (h : step method i = .failed failure) :
    (∃ fault left, Decoder.pass i.phase i.left = .stop fault left ∧
      failure = fault.toFailure) ∨
    (∃ phase left data tail, Decoder.pass i.phase i.left = .go phase left (.body data :: tail) ∧
      i.draft.accept data = .error failure) ∨
    (i.phase = .headersDone ∧ onHead method i.left i.draft = .failed failure) := by
  unfold step at h
  split at h
  · split at h
    · next hphase => exact .inr (.inr ⟨hphase, h⟩)
    · cases h
    · cases h
  · next hpass =>
    cases h
    exact .inl ⟨_, _, hpass, rfl⟩
  · next hpass =>
    split at h
    · next hdeliver =>
      cases h
      obtain ⟨-, data, tail, rfl, hrefused⟩ := Decoder.deliver_refused hpass hdeliver
      exact .inr (.inl ⟨_, _, data, tail, hpass, hrefused⟩)
    · cases h

/-! ## Settling by steps -/

/-- The equation of `settle`. -/
theorem settle_eq (method : Method) (i : Intake) :
    settle method i =
      match turn method i with
      | .again next skipped =>
        (skipped.toList ++ (settle method next).1, (settle method next).2)
      | .hungry rest => ([], .hungry rest)
      | .complete rest => ([], .complete rest)
      | .failed failure => ([], .failed failure) := by
  rw [settle]
  split
  · next h => rw [h]
  · next h => rw [h]
  · next h => rw [h]
  · next h => rw [h]

/-- A turn that finds nothing to pass over takes the decision of its phase. -/
theorem turn_of_wait (h : Decoder.pass i.phase i.left = .wait) : turn method i = step method i := by
  obtain ⟨phase, left, draft⟩ := i
  simp only [turn, step]
  rw [Decoder.receive_eq]
  simp only [h]
  cases phase <;> rfl

/-- A pass that gets on is the first of its turn. -/
theorem turn_of_go {events : List Event}
    (hpass : Decoder.pass i.phase i.left = .go next.phase next.left events)
    (hdeliver : Draft.collector.deliver i.draft events = (next.draft, none)) :
    turn method i = turn method next := by
  simp only [turn]
  rw [Decoder.receive_eq]
  simp only [hpass, hdeliver]

theorem settle_of_again (h : step method i = .again next skipped) :
    settle method i =
      (skipped.toList ++ (settle method next).1, (settle method next).2) := by
  rcases step_again h with ⟨events, hpass, hdeliver, rfl⟩ | ⟨hphase, -⟩
  · rw [settle_eq, turn_of_go hpass hdeliver, settle_eq method next]
    rfl
  · have hwait : Decoder.pass i.phase i.left = .wait := by
      rw [hphase, Decoder.pass_headersDone]
    rw [settle_eq, turn_of_wait hwait, h]

theorem settle_of_hungry (h : step method i = .hungry rest) :
    settle method i = ([], .hungry i) := by
  obtain ⟨rfl, hwait, -⟩ := step_hungry h
  rw [settle_eq, turn_of_wait hwait, h]

theorem settle_of_complete (h : step method i = .complete rest) :
    settle method i = ([], .complete i) := by
  obtain ⟨rfl, hphase⟩ := step_complete_iff.1 h
  have hwait : Decoder.pass rest.phase rest.left = .wait := by
    rw [hphase, Decoder.pass_complete]
  rw [settle_eq, turn_of_wait hwait, h]

theorem settle_of_failed (h : step method i = .failed failure) :
    settle method i = ([], .failed failure) := by
  have hturn : turn method i = .failed failure := by
    unfold step at h
    split at h
    · next hpass => rw [turn_of_wait hpass]; simp only [step, hpass]; exact h
    · next hpass =>
      cases h
      simp only [turn]
      rw [Decoder.receive_eq]
      simp only [hpass]
    · next hpass =>
      split at h
      · next hdeliver =>
        cases h
        simp only [turn]
        rw [Decoder.receive_eq]
        simp only [hpass, hdeliver]
      · cases h
  rw [settle_eq, hturn]

/-- Settling depends on the first step only. -/
theorem settle_congr {j : Intake} (h : step method i = step method j) :
    settle method i = settle method j := by
  cases hj : step method j with
  | again next skipped => rw [settle_of_again (h.trans hj), settle_of_again hj]
  | hungry rest =>
    obtain ⟨hi, -⟩ := step_hungry (h.trans hj)
    obtain ⟨hj', -⟩ := step_hungry hj
    rw [← hi, hj']
  | complete rest =>
    obtain ⟨hi, -⟩ := step_complete_iff.1 (h.trans hj)
    obtain ⟨hj', -⟩ := step_complete_iff.1 hj
    rw [← hi, hj']
  | failed failure => rw [settle_of_failed (h.trans hj), settle_of_failed hj]

/-! ## Induction along the steps -/

/-- The end of a head and a stretch with nothing to come weigh more than other phases. -/
def stepWeight (phase : Phase) : Nat := phase.weight + weight phase

theorem onHead_again_weight {left : Bytes} {draft : Draft}
    (h : onHead method left draft = .again next skipped) : next.phase.weight = 0 := by
  unfold onHead at h
  split at h
  · cases h; rfl
  split at h
  · cases h
  · split at h
    · cases h
    · cases h
      exact Decoder.frame_weight rfl _

/-- A step never leads to a stretch with nothing to come. -/
theorem step_again_weight (h : step method i = .again next skipped) : next.phase.weight = 0 := by
  rcases step_again h with ⟨events, hpass, -⟩ | ⟨-, hhead⟩
  · exact Decoder.pass_go_weight hpass
  · exact onHead_again_weight hhead

/-- A step uses up bytes, or leaves a phase that weighs more. -/
theorem step_again_decreases (h : step method i = .again next skipped) :
    next.left.length < i.left.length ∨
      next.left.length = i.left.length ∧ stepWeight next.phase < stepWeight i.phase := by
  have hnext := step_again_weight h
  rcases step_again h with ⟨events, hpass, -⟩ | ⟨hphase, hhead⟩
  · rcases Decoder.pass_go_decreases hpass with hlt | ⟨heq, hlt⟩
    · exact .inl hlt
    · refine .inr ⟨heq, ?_⟩
      rcases Decoder.pass_go_stretch hpass heq with hp | hp
      · rw [hp] at hlt ⊢
        exact Nat.lt_of_lt_of_le hlt (Nat.le_add_right _ _)
      · rw [hp] at hlt ⊢
        exact Nat.lt_of_lt_of_le hlt (Nat.le_add_right _ _)
  · obtain ⟨hleft, hne⟩ := onHead_again hhead
    refine .inr ⟨congrArg List.length hleft, ?_⟩
    simp [stepWeight, weight, hnext, hne, hphase]

/-- What holds of an intake whenever it holds of the next one, holds of all. -/
theorem step_induction (method : Method) {motive : Intake → Prop}
    (along : ∀ i, (∀ next skipped, step method i = .again next skipped → motive next) → motive i)
    (i : Intake) : motive i :=
  along i fun next _ _h => step_induction method along next
  termination_by (i.left.length, stepWeight i.phase)
  decreasing_by
    rcases step_again_decreases _h with hlt | ⟨heq, hlt⟩
    · exact Prod.Lex.left _ _ hlt
    · rw [heq]
      exact Prod.Lex.right _ hlt

/-! ## The lines on the way -/

/-- Settling comes to a line with `n` bytes before its end. -/
inductive Meets (method : Method) : Intake → Nat → Prop
  | here {i : Intake} {n : Nat} (hphase : i.phase.readsLine = true)
    (hline : i.left.crlfAt? = some n) : Meets method i n
  | later {i next : Intake} {skipped : Option Nat} {n : Nat}
    (hstep : step method i = .again next skipped) (hnext : Meets method next n) : Meets method i n

theorem step_again_suffix (h : step method i = .again next skipped) : next.left <:+ i.left := by
  rcases step_again h with ⟨events, hpass, -⟩ | ⟨-, hhead⟩
  · exact Decoder.pass_go_suffix hpass
  · have hleft := (onHead_again hhead).1
    exact hleft ▸ List.suffix_rfl

/-- A line that is met lies in the bytes, with its end. -/
theorem Meets.length_le {n : Nat} (h : Meets method i n) : n + 2 ≤ i.left.length := by
  induction h with
  | here _ hline => exact Bytes.crlfAt?_bound hline
  | later hstep _ ih => exact Nat.le_trans ih (step_again_suffix hstep).length_le

/-- Steps from one intake to another, past lines of which the lengths fit. -/
inductive Leads (method : Method) (fits : Nat → Prop) : Intake → Intake → Prop
  | refl (i : Intake) : Leads method fits i i
  | step {i next last : Intake} {skipped : Option Nat}
    (hstep : step method i = .again next skipped)
    (hline : i.phase.readsLine = true → ∀ n, i.left.crlfAt? = some n → fits n)
    (hnext : Leads method fits next last) : Leads method fits i last

namespace Leads

variable {fits : Nat → Prop} {last : Intake}

theorem trans (h : Leads method fits i next) (h' : Leads method fits next last) :
    Leads method fits i last := by
  induction h with
  | refl => exact h'
  | step hstep hline _ ih => exact .step hstep hline (ih h')

/-- What settling comes to is the same from each intake on the way. -/
theorem settle_eq (h : Leads method fits i last) :
    (settle method i).2 = (settle method last).2 := by
  induction h with
  | refl => rfl
  | step hstep _ _ ih => rw [settle_of_again hstep, ih]

/-- A line that is met from the first intake fits, or is met from the last one. -/
theorem meets {n : Nat} (h : Leads method fits i last) (hmeets : Meets method i n) :
    fits n ∨ Meets method last n := by
  induction h with
  | refl => exact .inr hmeets
  | step hstep hline _ ih =>
    cases hmeets with
    | here hphase hn => exact .inl (hline hphase n hn)
    | later hstep' hnext =>
      cases hstep.symm.trans hstep'
      exact ih hnext

end Leads

end Http1Client.Intake
