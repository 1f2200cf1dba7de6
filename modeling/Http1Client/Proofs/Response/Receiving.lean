import Http1Client.Proofs.Response.Decoder

/-!
# How receiving stops

Receiving makes passes until one of them waits, finds a fault or hands over body bytes that
are refused. In the last two cases the bytes before the faulty or refused ones have been used
as if they had come alone (`receive_failed`), so a failure leaves the phase and the
collector's state as they were just before it.
-/

namespace Http1Client.Decoder

variable {σ : Type} {c : Collector σ} {phase next : Phase} {bytes left : Bytes} {s s' : σ}
  {events : List Event} {failure : Failure}

/-- The equation of `receive`, free of what its termination rests on. -/
theorem receive_eq (c : Collector σ) (phase : Phase) (bytes : Bytes) (s : σ) :
    receive c phase bytes s =
      match pass phase bytes with
      | .wait => ⟨phase, bytes, s, none⟩
      | .stop fault left => ⟨phase, left, s, some fault.toFailure⟩
      | .go next left events =>
        match c.deliver s events with
        | (s, some failure) => ⟨phase, left, s, some failure⟩
        | (s, none) => receive c next left s := by
  rw [receive]
  split
  · next h => rw [h]
  · next h => rw [h]
  · next next left events h =>
    rcases hdeliver : c.deliver s events with ⟨s', _ | failure⟩
    · simp only [h, hdeliver]
    · simp only [h, hdeliver]

theorem receive_of_wait (h : pass phase bytes = .wait) :
    receive c phase bytes s = ⟨phase, bytes, s, none⟩ := by
  rw [receive_eq, h]

theorem receive_of_go (h : pass phase bytes = .go next left events)
    (hdeliver : c.deliver s events = (s', none)) :
    receive c phase bytes s = receive c next left s' := by
  rw [receive_eq, h]
  simp only [hdeliver]

/-! ## Refusals -/

/-- Only body bytes are refused, and a pass reports them before anything else. -/
theorem deliver_refused (hpass : pass phase bytes = .go next left events)
    (h : c.deliver s events = (s', some failure)) :
    s' = s ∧ ∃ data tail, events = .body data :: tail ∧ c.accept s data = .error failure := by
  have hbody (data : Bytes) (tail : List Event)
      (htail : ∀ s, ∃ s', c.deliver s tail = (s', none))
      (h : c.deliver s (.body data :: tail) = (s', some failure)) :
      s' = s ∧ c.accept s data = .error failure := by
    rw [Collector.deliver] at h
    split at h
    · next t _ =>
      obtain ⟨t', ht⟩ := htail t
      rw [ht] at h
      cases h
    · next haccept =>
      cases h
      exact ⟨rfl, haccept⟩
  cases goes_of_pass hpass with
  | line hphase _ huse => cases uses_of_useLine hphase huse <;> cases h
  | sizedEnd =>
    obtain ⟨hs, haccept⟩ := hbody _ _ (fun s => ⟨c.note s .complete, rfl⟩) h
    exact ⟨hs, _, _, rfl, haccept⟩
  | chunkEnd => cases h
  | _ =>
    obtain ⟨hs, haccept⟩ := hbody _ _ (fun s => ⟨s, rfl⟩) h
    exact ⟨hs, _, _, rfl, haccept⟩

/-- What every pass keeps, receiving keeps. -/
theorem receive_keeps {motive : Phase → σ → Prop}
    (hkeeps : ∀ {phase next : Phase} {bytes left : Bytes} {s s' : σ} {events : List Event},
      motive phase s → pass phase bytes = .go next left events →
        c.deliver s events = (s', none) → motive next s')
    (h : motive phase s) :
    motive (receive c phase bytes s).phase (receive c phase bytes s).state := by
  fun_induction receive c phase bytes s with
  | case1 => exact h
  | case2 => exact h
  | case3 phase bytes s next left events hpass s' failure hdeliver =>
    obtain ⟨rfl, -⟩ := deliver_refused hpass hdeliver
    exact h
  | case4 phase bytes s next left events hpass s' hdeliver ih => exact ih (hkeeps h hpass hdeliver)

/-! ## Failures -/

/-- Why receiving stops in a phase, at bytes of which some are left: they are faulty, or what
they give of the body is refused. -/
inductive Fails (c : Collector σ) (phase : Phase) (bytes left : Bytes) (s : σ) :
    Failure → Prop
  | fault {fault : Fault} (hstop : pass phase bytes = .stop fault left) :
    Fails c phase bytes left s fault.toFailure
  | refusal {next : Phase} {data : Bytes} {tail : List Event} {failure : Failure}
    (hpass : pass phase bytes = .go next left (.body data :: tail))
    (hrefused : c.accept s data = .error failure) : Fails c phase bytes left s failure

/-- What comes before the failure is used as if it had come alone. -/
theorem receive_failed (hweight : phase.weight = 0)
    (h : (receive c phase bytes s).failure = some failure) :
    ∃ front back, bytes = front ++ back ∧
      receive c phase front s =
        ⟨(receive c phase bytes s).phase, [], (receive c phase bytes s).state, none⟩ ∧
      Fails c (receive c phase bytes s).phase back (receive c phase bytes s).left
        (receive c phase bytes s).state failure := by
  fun_induction receive c phase bytes s with
  | case1 => cases h
  | case2 phase bytes s fault left hpass =>
    cases h
    exact ⟨[], bytes, rfl, receive_of_wait rfl, .fault hpass⟩
  | case3 phase bytes s next left events hpass s' failure' hdeliver =>
    cases h
    obtain ⟨rfl, data, tail, rfl, hrefused⟩ := deliver_refused hpass hdeliver
    exact ⟨[], bytes, rfl, receive_of_wait rfl, .refusal hpass hrefused⟩
  | case4 phase bytes s next left events hpass s' hdeliver ih =>
    obtain ⟨front, back, rfl, hfront, hfails⟩ := ih (pass_go_weight hpass) h
    obtain ⟨used, rfl⟩ := pass_go_suffix hpass
    refine ⟨used ++ front, back, (List.append_assoc ..).symm, ?_, hfails⟩
    -- A body that lasts until the close leaves nothing over that could fail.
    have hphase : phase ≠ .untilClose := by
      rintro rfl
      obtain ⟨rfl, hnil⟩ := untilClose_of_pass_go hpass
      rw [hnil, receive_of_wait rfl] at h
      cases h
    rw [← List.append_assoc] at hpass
    rw [receive_of_go (pass_cut hweight hphase hpass) hdeliver, hfront]

end Http1Client.Decoder
