import Http1Client.Proofs.Exchange.Limit

/-!
# Room for the body

Reading breaks off where there is no room for the body. `overflow?` looks for the place in what
settling leaves, which is enough: in a stretch of declared length what has been collected and
what is still to come are together what was declared (`Reaches.declared_room`). So the place is
behind a head that declares a length for which there is no room and which the limit allows, or
else more has been collected than one piece of memory holds (`room_of_overflow`).

A limit for which there is room keeps reading from breaking off (`overflow?_of_limit`).
-/

namespace Http1Client.Intake

variable {method : Method} {limit : Nat} {i j next : Intake} {skipped : Option Nat}
  {reads : List Bytes} {moments : List Moment}

/-! ## Where reading breaks off -/

theorem overflow?_nil (i : Intake) : overflow? method i [] =
    if (settle method i).2.overflows then some ((settle method i).1.map .skipped) else none := by
  rw [overflow?]
  obtain ⟨codes, settled⟩ := settle method i
  cases settled <;> rfl

theorem overflow?_cons (i : Intake) (data : Bytes) (later : List Bytes) :
    overflow? method i (data :: later) =
      if (settle method i).2.overflows then some ((settle method i).1.map .skipped)
      else
        match (settle method i).2 with
        | .hungry rest => (overflow? method (rest.append data) later).map
          ((settle method i).1.map .skipped ++ .read data :: ·)
        | _ => none := by
  rw [overflow?]
  obtain ⟨codes, settled⟩ := settle method i
  cases settled <;> rfl

/-- Reading begins with the first bytes. -/
theorem overflow?_singleton (limit : Nat) (data : Bytes) :
    overflow? method (start limit) [data] =
      if (settle method ⟨.statusLine, data, .start limit⟩).2.overflows then
        some (.read data :: (settle method ⟨.statusLine, data, .start limit⟩).1.map .skipped)
      else none := by
  have hstart : step method (start limit) = .hungry (start limit) := rfl
  have hroom : (Settled.hungry (start limit)).overflows = false := rfl
  rw [overflow?_cons, settle_of_hungry hstart, hroom]
  simp only [Bool.false_eq_true, if_false, overflow?_nil]
  have hdata : (start limit).append data = ⟨.statusLine, data, .start limit⟩ := rfl
  rw [hdata]
  split <;> rfl

theorem reaches_of_overflows (h : (settle method i).2.overflows = true) :
    ∃ rest, Reaches method i rest ∧ maxPiece < rest.room := by
  cases hsettle : (settle method i).2 with
  | hungry rest =>
    rw [hsettle] at h
    exact ⟨rest, (settle_reaches method i).1 rest (.inl hsettle), of_decide_eq_true h⟩
  | complete rest =>
    rw [hsettle] at h
    exact ⟨rest, (settle_reaches method i).1 rest (.inr hsettle), of_decide_eq_true h⟩
  | failed failure =>
    rw [hsettle] at h
    cases h

/-- Reading that breaks off has come to an intake for which there is no room. -/
theorem reaches_of_overflow (h : overflow? method i reads = some moments) :
    ∃ rest, Reaches method i rest ∧ maxPiece < rest.room := by
  induction reads generalizing i moments with
  | nil =>
    rw [overflow?_nil] at h
    split at h
    · next hover => exact reaches_of_overflows hover
    · cases h
  | cons data later ih =>
    rw [overflow?_cons] at h
    split at h
    · next hover => exact reaches_of_overflows hover
    · cases hsettle : (settle method i).2 with
      | hungry rest =>
        rw [hsettle] at h
        obtain ⟨moments', hlater, -⟩ := Option.map_eq_some_iff.1 h
        obtain ⟨last, hlast, hroom⟩ := ih hlater
        have hrest := (settle_reaches method i).1 rest (.inl hsettle)
        exact ⟨last, (hrest.read data).trans hlast, hroom⟩
      | complete rest =>
        rw [hsettle] at h
        cases h
      | failed failure =>
        rw [hsettle] at h
        cases h

/-! ## The room under a limit -/

theorem within_step (h : i.draft.Within limit) (hstep : step method i = .again next skipped) :
    next.draft.Within limit := by
  rcases step_again hstep with ⟨events, -, hdeliver, -⟩ | ⟨-, hhead⟩
  · have hwithin := h.deliver events
    rw [hdeliver] at hwithin
    exact hwithin
  · unfold onHead at hhead
    split at hhead
    · cases hhead
      exact ⟨h.limit_eq, h.body_le⟩
    split at hhead
    · cases hhead
    split at hhead
    · cases hhead
    · cases hhead
      exact h.deliver _

theorem Reaches.within (h : Reaches method i j) (hi : i.draft.Within limit) :
    j.draft.Within limit := by
  induction h with
  | refl => exact hi
  | read _ data ih => exact ih
  | step _ hstep ih => exact within_step ih hstep

/-- A body needs no more room than the limit allows. -/
theorem Reaches.room_le (h : Reaches method (start limit) j) : j.room ≤ limit := by
  unfold room
  split
  · next n hphase => exact (h.kept kept_start).sized n hphase
  · exact (h.within ⟨rfl, Nat.zero_le _⟩).body_le

theorem limit_of_overflow (h : overflow? method (start limit) reads = some moments) :
    maxPiece < limit := by
  obtain ⟨rest, hrest, hroom⟩ := reaches_of_overflow h
  exact Nat.lt_of_lt_of_le hroom hrest.room_le

theorem overflow?_of_limit (h : limit ≤ maxPiece) (reads : List Bytes) :
    overflow? method (start limit) reads = none := by
  cases hover : overflow? method (start limit) reads with
  | none => rfl
  | some moments => exact absurd (limit_of_overflow hover) (Nat.not_lt.2 h)

/-! ## The length that was declared -/

/-- At the end of a head a length is declared and accepted. -/
structure Declares (method : Method) (i : Intake) (n : Nat) : Prop where
  phase : i.phase = .headersDone
  final : isInterim i.draft.code = false
  choose : Framing.choose method i.draft.code i.draft.headers = .ok (.sized n)
  check : i.draft.checkFraming (.sized n) = none

/-- A stretch of declared length begins behind a head, and what it takes from what is to come
it adds to the draft. -/
theorem sized_step {k : Nat} (h : i.Kept method limit)
    (hstep : step method i = .again next skipped) (hnext : next.phase = .sized k) :
    (∃ n, i.Declares method n ∧ next.room = n) ∨
      (∃ m, i.phase = .sized m) ∧ next.room = i.room := by
  rcases step_again hstep with ⟨events, hpass, hdeliver, -⟩ | ⟨hphase, hhead⟩
  · -- Only one kind of pass stays in the stretch: it moves bytes into the draft.
    obtain ⟨phase, left, draft⟩ := i
    obtain ⟨next, left', draft'⟩ := next
    cases Decoder.goes_of_pass hpass with
    | line hphase _ huse => cases Decoder.uses_of_useLine hphase huse <;> cases hnext
    | @sizedPart n _ _ hn =>
      obtain ⟨-, htail⟩ := Draft.deliver_body_none hdeliver
      cases htail
      refine .inr ⟨⟨n, rfl⟩, ?_⟩
      dsimp only at hn
      simp only [room, List.length_append]
      omega
    | _ => cases hnext
  · unfold onHead at hhead
    split at hhead
    · cases hhead
      cases hnext
    next hfinal =>
    split at hhead
    · cases hhead
    next framing hchoose =>
    split at hhead
    · cases hhead
    next hcheck =>
    cases hhead
    -- A length of zero needs no stretch; before any other one the draft is empty.
    cases framing with
    | sized n =>
      cases n with
      | zero => cases hnext
      | succ n =>
        refine .inl ⟨n + 1, ⟨hphase, Bool.not_eq_true _ ▸ hfinal, hchoose, hcheck⟩, ?_⟩
        have hbody : i.draft.body = [] := h.head (by rw [hphase]; rfl)
        show i.draft.body.length + (n + 1) = n + 1
        rw [hbody, List.length_nil, Nat.zero_add]
    | _ => cases hnext

/-- In a stretch of declared length the room is what was declared. -/
theorem Reaches.declared_room {k : Nat} (h : Reaches method (start limit) j)
    (hphase : j.phase = .sized k) :
    ∃ head, Reaches method (start limit) head ∧ head.Declares method j.room := by
  induction h generalizing k with
  | refl => cases hphase
  | read _ data ih => exact ih hphase
  | step hprev hstep ih =>
    rcases sized_step (hprev.kept kept_start) hstep hphase with ⟨n, hdeclares, hroom⟩ |
      ⟨⟨m, hm⟩, hroom⟩
    · rw [hroom]
      exact ⟨_, hprev, hdeclares⟩
    · rw [hroom]
      exact ih hm

/-- There is no room for a length that was declared and accepted, or for what has been
collected. -/
theorem room_of_overflow (h : overflow? method (start limit) reads = some moments) :
    ∃ j, Reaches method (start limit) j ∧
      ((∃ n, j.Declares method n ∧ maxPiece < n) ∨ maxPiece < j.draft.body.length) := by
  obtain ⟨rest, hrest, hroom⟩ := reaches_of_overflow h
  by_cases hsized : ∃ k, rest.phase = .sized k
  · obtain ⟨k, hphase⟩ := hsized
    obtain ⟨head, hhead, hdeclares⟩ := hrest.declared_room hphase
    exact ⟨head, hhead, .inl ⟨_, hdeclares, hroom⟩⟩
  · refine ⟨rest, hrest, .inr ?_⟩
    unfold room at hroom
    split at hroom
    · next n hphase => exact absurd ⟨n, hphase⟩ hsized
    · exact hroom

/-- Reading breaks off behind a head that declares a length for which there is no room, if the
limit allows it. -/
theorem exists_overflow {h : Head} {n : Nat} (hvalid : h.Valid)
    (hfinal : isInterim h.code = false)
    (hchoose : Framing.choose method h.code h.headers = .ok (.sized n)) (hn : maxPiece < n)
    (hlimit : n ≤ limit) : ∃ moments, overflow? method (start limit) [h.wire] = some moments := by
  have hcheck : (headDraft limit h).checkFraming (.sized n) = none := if_neg (Nat.not_lt.2 hlimit)
  have hfinal' : isInterim (headDraft limit h).code = false := hfinal
  obtain ⟨k, rfl⟩ : ∃ k, n = k + 1 := Nat.exists_eq_add_one_of_ne_zero (Nat.ne_zero_of_lt hn)
  have hleads : Leads method Short ⟨.statusLine, h.wire ++ [], .start limit⟩
      ⟨.sized (k + 1), [], headDraft limit h⟩ :=
    (leads_head_valid limit hvalid []).trans (leads_framing hfinal' hchoose hcheck [])
  have hwaits : step method ⟨.sized (k + 1), [], headDraft limit h⟩ =
      .hungry ⟨.sized (k + 1), [], headDraft limit h⟩ := rfl
  have hover : (settle method ⟨.statusLine, h.wire, .start limit⟩).2.overflows = true := by
    rw [List.append_nil] at hleads
    rw [hleads.settle_eq, settle_of_hungry hwaits]
    exact decide_eq_true (Nat.lt_of_lt_of_eq hn (Nat.zero_add _).symm)
  rw [overflow?_singleton, if_pos hover]
  exact ⟨_, rfl⟩

end Http1Client.Intake
