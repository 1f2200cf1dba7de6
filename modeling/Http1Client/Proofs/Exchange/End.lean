import Http1Client.Proofs.Exchange.RoundTrip

/-!
# Where a response ends

The end of a response that says how long it is does not depend on what follows it.
`settle_cut` takes away the bytes that are left over when a response is complete, and
`settle_append` puts others in their place. Before that end nothing passes for a
response: `atEnd` fails but after a body that lasts until the peer closes, and such a
body is never complete before (`settle_untilClose`).
-/

namespace Http1Client.Intake

variable {method : Method} {i next rest : Intake} {skipped : Option Nat} {more : Bytes}

/-! ## What settling comes to -/

/-- A body that lasts until the peer closes is not complete before. -/
theorem settle_untilClose (hphase : i.phase = .untilClose) :
    (settle method i).2 ≠ .complete rest := by
  induction i using step_induction method with
  | along i ih =>
  cases hstep : step method i with
  | again next skipped =>
    have hnext : next.phase = .untilClose := by
      rcases step_again hstep with ⟨events, hpass, -⟩ | ⟨hhead, -⟩
      · rw [hphase] at hpass
        exact (Decoder.untilClose_of_pass_go hpass).1
      · rw [hphase] at hhead
        cases hhead
    rw [settle_of_again hstep]
    exact ih next skipped hstep hnext
  | hungry => rw [settle_of_hungry hstep]; exact nofun
  | complete =>
    obtain ⟨-, hcomplete⟩ := step_complete_iff.1 hstep
    rw [hphase] at hcomplete
    cases hcomplete
  | failed => rw [settle_of_failed hstep]; exact nofun

/-- What is left over when a response is complete stood at the end of the bytes. -/
theorem settle_complete_suffix (h : (settle method i).2 = .complete rest) :
    rest.left <:+ i.left := by
  induction i using step_induction method with
  | along i ih =>
  cases hstep : step method i with
  | again next skipped =>
    rw [settle_of_again hstep] at h
    exact (ih next skipped hstep h).trans (step_again_suffix hstep)
  | hungry => rw [settle_of_hungry hstep] at h; cases h
  | complete =>
    rw [settle_of_complete hstep] at h
    cases h
    exact List.suffix_rfl
  | failed => rw [settle_of_failed hstep] at h; cases h

/-- Where more bytes are needed the response is not complete. -/
theorem settle_hungry_phase (h : (settle method i).2 = .hungry rest) :
    rest.phase ≠ .complete := by
  induction i using step_induction method with
  | along i ih =>
  cases hstep : step method i with
  | again next skipped =>
    rw [settle_of_again hstep] at h
    exact ih next skipped hstep h
  | hungry =>
    rw [settle_of_hungry hstep] at h
    cases h
    exact (step_hungry hstep).2.2.2
  | complete => rw [settle_of_complete hstep] at h; cases h
  | failed => rw [settle_of_failed hstep] at h; cases h

/-! ## Taking away what is left over -/

/-- The decision after a head does not need the bytes behind it. -/
theorem onHead_cut {left : Bytes} {draft : Draft}
    (h : onHead method (left ++ more) draft = .again (next.append more) skipped) :
    onHead method left draft = .again next skipped := by
  have hleft := (onHead_again h).1
  rw [append_left] at hleft
  obtain ⟨phase, nextLeft, nextDraft⟩ := next
  cases List.append_cancel_right hleft
  unfold onHead at h ⊢
  split at h
  · next hinterim =>
    rw [if_pos hinterim]
    cases h
    rfl
  · next hinterim =>
    rw [if_neg hinterim]
    split at h
    · cases h
    · split at h
      · cases h
      · cases h
        rfl

/-- A step that leaves bytes over does not need them. -/
theorem step_cut (hweight : i.phase.weight = 0) (hphase : i.phase ≠ .untilClose)
    (h : step method (i.append more) = .again (next.append more) skipped) :
    step method i = .again next skipped := by
  rcases step_again h with ⟨events, hpass, hdeliver, rfl⟩ | ⟨hhead, honHead⟩
  · exact step_of_go (Decoder.pass_cut hweight hphase hpass) hdeliver
  · rw [append_phase] at hhead
    rw [step_headersDone hhead]
    exact onHead_cut honHead

/-- The bytes that are left over when a response is complete are not needed for it. -/
theorem settle_cut (hweight : i.phase.weight = 0)
    (h : (settle method (i.append rest.left)).2 = .complete rest) :
    settle method i =
      ((settle method (i.append rest.left)).1, .complete { rest with left := [] }) := by
  -- The induction is along the steps with the bytes that are left over.
  generalize hwhole : i.append rest.left = whole at h ⊢
  induction whole using step_induction method generalizing i with
  | along whole ih =>
  subst hwhole
  cases hstep : step method (i.append rest.left) with
  | again next skipped =>
    rw [settle_of_again hstep] at h ⊢
    obtain ⟨left, hleft⟩ := settle_complete_suffix h
    obtain ⟨next', rfl⟩ : ∃ next' : Intake, next = next'.append rest.left :=
      ⟨⟨next.phase, left, next.draft⟩, by rw [append, hleft]⟩
    have hphase : i.phase ≠ .untilClose := by
      intro hp
      have hnot : (settle method (i.append rest.left)).2 ≠ .complete rest := settle_untilClose hp
      rw [settle_of_again hstep] at hnot
      exact hnot h
    have hcut := step_cut hweight hphase hstep
    rw [settle_of_again hcut, ih _ _ hstep (step_again_weight hcut) rfl h]
  | hungry => rw [settle_of_hungry hstep] at h; cases h
  | complete =>
    rw [settle_of_complete hstep] at h ⊢
    obtain ⟨-, hphase⟩ := step_complete_iff.1 hstep
    have hrest : i.append rest.left = rest := Settled.complete.inj h
    have hnil : i.left = [] := List.append_left_eq_self.1 (congrArg left hrest)
    have hi : i = { rest with left := [] } := by
      obtain ⟨phase, left, draft⟩ := i
      cases hnil
      rw [← hrest]
      rfl
    rw [settle_of_complete (i := i) (step_complete hphase), ← hi]
  | failed => rw [settle_of_failed hstep] at h; cases h

/-! ## The end of a response -/

/-- The end of the stream completes only a body that lasts until then. -/
theorem atEnd_of_incomplete (hcomplete : i.phase ≠ .complete) (hclose : i.phase ≠ .untilClose) :
    i.atEnd = .error .connectionClosed := by
  obtain ⟨phase, left, draft⟩ := i
  cases phase with
  | complete => exact absurd rfl hcomplete
  | untilClose => exact absurd rfl hclose
  | _ => rfl

/-- Reads that stop before the end of a response come to a failure. -/
theorem readAll_cut_off {reads : List Bytes} {tail : Bytes}
    (h : (settle method (i.append (reads.flatten ++ tail))).2 = .complete rest)
    (hlength : rest.left.length < tail.length) :
    ∃ failure, (readAll method none i reads).2 = .done (.error failure) := by
  by_contra hnone
  have hwhole := readAll_eq_whole method none reads i (.inl (not_exists.1 hnone))
  have happ := settle_append method tail (i.append reads.flatten)
  rw [append_append] at happ
  cases hsettle : (settle method (i.append reads.flatten)).2 with
  | failed failure =>
    rw [hsettle] at hwhole
    exact hnone ⟨failure, hwhole⟩
  | complete done =>
    -- What was complete without the tail leaves all of it over.
    rw [happ (.inl (by rw [hsettle]; exact nofun)), hsettle] at h
    cases h
    rw [append_left, List.length_append] at hlength
    omega
  | hungry waiting =>
    rw [happ (.inl (by rw [hsettle]; exact nofun)), hsettle] at h
    have hcomplete := settle_hungry_phase hsettle
    have hclose : waiting.phase ≠ .untilClose := fun hphase =>
      settle_untilClose (i := waiting.append tail) hphase h
    refine hnone ⟨.connectionClosed, ?_⟩
    rw [hwhole, hsettle, conclude, onEnding, atEnd_of_incomplete hcomplete hclose]

/-- A response that is complete before the stream ends has its own end: whatever follows
it is left over, and what stops before it is a failure. -/
theorem settle_complete_end (method : Method) (limit : Nat) {stream : Bytes} {codes : List Nat}
    {rest : Intake}
    (h : settle method ((start limit).append stream) = (codes, .complete rest)) :
    ∃ content, stream = content ++ rest.left ∧
      (∀ later, settle method ((start limit).append (content ++ later)) =
        (codes, .complete { rest with left := later })) ∧
      ∀ front, front <+: content → front ≠ content → ∀ reads : List Bytes, reads.flatten = front →
        ∃ failure, (readAll method none (start limit) reads).2 = .done (.error failure) := by
  obtain ⟨content, hcontent⟩ : ∃ content, content ++ rest.left = stream :=
    settle_complete_suffix (i := (start limit).append stream) (by rw [h])
  subst hcontent
  have hcut : settle method ((start limit).append content) =
      (codes, .complete { rest with left := [] }) := by
    rw [← append_append] at h
    have hcomplete : (settle method (((start limit).append content).append rest.left)).2 =
        .complete rest := by rw [h]
    rw [settle_cut rfl hcomplete, h]
  refine ⟨content, rfl, fun later => ?_, ?_⟩
  · rw [← append_append, settle_append method later _ (.inl (by rw [hcut]; exact nofun)), hcut]
    simp [carryOn, append]
  · rintro front ⟨tail, rfl⟩ hne reads rfl
    have htail : tail ≠ [] := fun hnil => hne (by rw [hnil, List.append_nil])
    have hwhole : (settle method ((start limit).append (reads.flatten ++ tail))).2 =
        .complete { rest with left := [] } := by rw [hcut]
    exact readAll_cut_off hwhole (List.length_pos_iff.2 htail)

/-- Two chunks and a trailer, and the start of something else behind them. -/
theorem settle_complete_end_chunked :
    let r : Reply := ⟨'1', ⟨404, ""⟩, [⟨"Transfer-Encoding", "chunked"⟩],
      .chunked [⟨⟨"2", some "a"⟩, [13, 10]⟩, ⟨⟨"01", none⟩, [48]⟩] ⟨"0", none⟩ [⟨"T", "1"⟩]⟩
    ∃ codes, settle .get ((start 3).append (r.wire ++ [72, 84])) =
        (codes, .complete ⟨.complete, [72, 84], wholeDraft 3 r true⟩) ∧
      ∃ content, r.wire ++ [72, 84] = content ++ [72, 84] ∧
        (∀ later, settle .get ((start 3).append (content ++ later)) =
          (codes, .complete ⟨.complete, later, wholeDraft 3 r true⟩)) ∧
        ∀ front, front <+: content → front ≠ content →
          ∀ reads : List Bytes, reads.flatten = front →
            ∃ failure, (readAll .get none (start 3) reads).2 = .done (.error failure) := by
  intro r
  have hvalid : r.Valid := by decide
  have hlimit : 3 < UInt64.size := by decide
  have hbody : r.transfer.body.length ≤ 3 := by decide
  have hleads := leads_complete .get (by decide) hvalid hlimit hbody nofun [72, 84]
  have hcomplete : step .get ⟨.complete, [72, 84], wholeDraft 3 r true⟩ =
      .complete ⟨.complete, [72, 84], wholeDraft 3 r true⟩ := step_complete rfl
  have hsettle : settle .get ((start 3).append (r.wire ++ [72, 84])) =
      ((settle .get ((start 3).append (r.wire ++ [72, 84]))).1,
        .complete ⟨.complete, [72, 84], wholeDraft 3 r true⟩) := by
    refine Prod.ext rfl ?_
    rw [append, start, List.nil_append, hleads.settle_eq, settle_of_complete hcomplete]
  exact ⟨_, hsettle, settle_complete_end .get 3 hsettle⟩

end Http1Client.Intake
