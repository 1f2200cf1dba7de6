import Http1Client.Proofs.Exchange.Delivery

/-!
# The limit on the body

A draft never holds more than its limit, whatever is done with it and with the decoder that
fills it, in any order (`holds_run`), and bytes that are refused leave it as it was
(`act_failed`).

While a response is read, `Kept` ties the body in the draft to the bytes still to come. So the
two checks agree: a declared length that is accepted is not refused later
(`readAll_declared`), and only a response that may have a body is too large
(`readAll_tooLarge`). For responses that are written by the rules `LimitExact` says what
reading comes to, on both sides of the limit.
-/

namespace Http1Client

namespace Phase

/-- The body has not begun. -/
def inHead : Phase → Bool
  | .statusLine | .headers | .headersDone => true
  | _ => false

/-- A framing other than none has been chosen, and the end has not come. -/
def inBody : Phase → Bool
  | .statusLine | .headers | .headersDone | .complete => false
  | _ => true

end Phase

/-! ## A draft under any operations -/

/-- The body is within the limit. -/
structure Draft.Within (limit : Nat) (d : Draft) : Prop where
  limit_eq : d.limit = limit
  body_le : d.body.length ≤ limit

namespace Draft

variable {limit : Nat} {d d' : Draft} {data : Bytes}

theorem deliver_body_none {tail : List Event}
    (h : collector.deliver d (.body data :: tail) = (d', none)) :
    d.body.length + data.length ≤ d.limit ∧
      collector.deliver { d with body := d.body ++ data } tail = (d', none) := by
  rw [deliver_body] at h
  split at h
  · next haccept =>
    obtain ⟨hlimit, rfl⟩ := accept_eq_ok_iff.1 haccept
    exact ⟨hlimit, h⟩
  · cases h

theorem checkFraming_eq_some {framing : Framing} {failure : Failure}
    (h : d.checkFraming framing = some failure) :
    ∃ n, framing = .sized n ∧ d.limit < n ∧ failure = .tooLarge d.limit := by
  cases framing with
  | sized n =>
    by_cases hover : d.limit < n
    · rw [checkFraming, if_pos hover] at h
      exact ⟨n, rfl, hover, (Option.some.inj h).symm⟩
    · rw [checkFraming, if_neg hover] at h
      cases h
  | _ => cases h

theorem Within.deliver (h : d.Within limit) (events : List Event) :
    (collector.deliver d events).1.Within limit := by
  induction events generalizing d with
  | nil => exact h
  | cons event events ih =>
    cases event with
    | body data =>
      rw [deliver_body]
      split
      · next haccept =>
        obtain ⟨hlimit, rfl⟩ := accept_eq_ok_iff.1 haccept
        refine ih ⟨h.limit_eq, ?_⟩
        rw [List.length_append, ← h.limit_eq]
        exact hlimit
      · exact h
    | _ => exact ih ⟨h.limit_eq, h.body_le⟩

end Draft

namespace Intake

/-- What can be done with a decoder that fills a draft, and with the draft itself. -/
inductive Act where
  | feed (data : Bytes)
  | frame (framing : Framing)
  | finish
  | reset
  /-- The draft is told of an event, whatever the decoder has reported. -/
  | tell (event : Event)
  | check (framing : Framing)
  | discardInterim

/-- Does one thing. -/
def act (i : Intake) : Act → Intake × Option Failure
  | .feed data =>
    let p := Decoder.receive Draft.collector i.phase (i.left ++ data) i.draft
    (⟨p.phase, p.left, p.state⟩, p.failure)
  | .frame framing =>
    let (phase, events) := Decoder.frame i.phase framing
    (⟨phase, i.left, (Draft.collector.deliver i.draft events).1⟩, none)
  | .finish =>
    match Decoder.finish i.phase with
    | .ok (phase, events) => (⟨phase, i.left, (Draft.collector.deliver i.draft events).1⟩, none)
    | .error failure => (i, some failure)
  | .reset => ({ i with phase := .statusLine }, none)
  | .tell event =>
    let (draft, failure) := Draft.collector.deliver i.draft [event]
    ({ i with draft := draft }, failure)
  | .check framing => (i, i.draft.checkFraming framing)
  | .discardInterim => ({ i with draft := i.draft.discardInterim }, none)

/-- Does one thing after another, whether they fail or not. -/
def run (i : Intake) (acts : List Act) : Intake := acts.foldl (fun i a => (i.act a).1) i

/-- The decoder is not in a stretch with nothing to come, and the body is within the limit. -/
structure Holds (limit : Nat) (i : Intake) : Prop where
  weight : i.phase.weight = 0
  within : i.draft.Within limit

variable {method : Method} {limit : Nat} {i j next : Intake} {a : Act} {failure : Failure}

theorem holds_act (h : i.Holds limit) (a : Act) : (i.act a).1.Holds limit := by
  cases a with
  | feed data =>
    -- No pass leaves a stretch with nothing to come, and none takes the body over the limit.
    let motive (phase : Phase) (draft : Draft) : Prop :=
      phase.weight = 0 ∧ draft.Within limit
    have hreceive : motive (i.act (.feed data)).1.phase (i.act (.feed data)).1.draft := by
      refine Decoder.receive_keeps (motive := motive) ?_ ⟨h.weight, h.within⟩
      rintro phase next bytes left draft draft' events ⟨-, hwithin⟩ hpass hdeliver
      have hwithin' := hwithin.deliver events
      rw [hdeliver] at hwithin'
      exact ⟨Decoder.pass_go_weight hpass, hwithin'⟩
    exact ⟨hreceive.1, hreceive.2⟩
  | frame framing => exact ⟨Decoder.frame_weight h.weight framing, h.within.deliver _⟩
  | finish =>
    simp only [act]
    split
    · next hfinish =>
      refine ⟨?_, h.within.deliver _⟩
      unfold Decoder.finish at hfinish
      split at hfinish <;> cases hfinish <;> rfl
    · exact h
  | reset => exact ⟨rfl, h.within⟩
  | tell event => exact ⟨h.weight, h.within.deliver [event]⟩
  | check framing => exact h
  | discardInterim => exact ⟨h.weight, h.within.limit_eq, h.within.body_le⟩

theorem holds_run (h : i.Holds limit) (acts : List Act) : (i.run acts).Holds limit := by
  induction acts generalizing i with
  | nil => exact h
  | cons a acts ih => exact ih (holds_act h a)

theorem holds_start : (start limit).Holds limit := ⟨rfl, rfl, Nat.zero_le _⟩

/-- What fails changes nothing, but for bytes that have been used before those that fail. -/
theorem act_failed (h : i.Holds limit) (hfailed : (i.act a).2 = some failure) :
    (i.act a).1 = i ∨ ∃ data front back, a = .feed data ∧ i.left ++ data = front ++ back ∧
      Decoder.receive Draft.collector i.phase front i.draft =
        ⟨(i.act a).1.phase, [], (i.act a).1.draft, none⟩ ∧
      Decoder.Fails Draft.collector (i.act a).1.phase back (i.act a).1.left (i.act a).1.draft
        failure := by
  cases a with
  | feed data =>
    obtain ⟨front, back, hbytes, hfront, hfails⟩ := Decoder.receive_failed h.weight hfailed
    exact .inr ⟨data, front, back, rfl, hbytes, hfront, hfails⟩
  | finish =>
    simp only [act] at hfailed ⊢
    split at hfailed
    · cases hfailed
    · exact .inl rfl
  | tell event =>
    refine .inl ?_
    cases event with
    | body data =>
      simp only [act, Draft.deliver_body] at hfailed ⊢
      cases haccept : i.draft.accept data with
      | error failure => rfl
      | ok draft => rw [haccept] at hfailed; cases hfailed
    | _ => cases hfailed
  | check framing => exact .inl rfl
  | _ => cases hfailed

/-! ## While a response is read -/

/-- What an intake can come to while a response is read: bytes arrive, and steps are made. -/
inductive Reaches (method : Method) (i : Intake) : Intake → Prop
  | refl : Reaches method i i
  | read {j : Intake} (h : Reaches method i j) (data : Bytes) : Reaches method i (j.append data)
  | step {j next : Intake} {skipped : Option Nat} (h : Reaches method i j)
    (hstep : step method j = .again next skipped) : Reaches method i next

/-- How the draft stands to what is still to come: a body of declared length will be within
the limit when it is all there. -/
structure Kept (method : Method) (limit : Nat) (i : Intake) : Prop where
  limit_eq : i.draft.limit = limit
  head : i.phase.inHead = true → i.draft.body = []
  sized : ∀ n, i.phase = .sized n → i.draft.body.length + n ≤ limit
  bodied : i.phase.inBody = true → Framing.bodiless method i.draft.code = false

theorem kept_start : (start limit).Kept method limit := ⟨rfl, fun _ => rfl, nofun, nofun⟩

theorem Kept.append (h : i.Kept method limit) (data : Bytes) :
    (i.append data).Kept method limit := ⟨h.limit_eq, h.head, h.sized, h.bodied⟩

/-- A pass takes as much from what is to come as it adds to the draft. -/
theorem kept_pass {phase next : Phase} {bytes left : Bytes} {draft draft' : Draft}
    {events : List Event} (h : Kept method limit ⟨phase, bytes, draft⟩)
    (hpass : Decoder.pass phase bytes = .go next left events)
    (hdeliver : Draft.collector.deliver draft events = (draft', none)) :
    Kept method limit ⟨next, left, draft'⟩ := by
  obtain ⟨hlimit, hhead, hsized, hbodied⟩ := h
  cases Decoder.goes_of_pass hpass with
  | line hphase _ huse =>
    cases Decoder.uses_of_useLine hphase huse with
    | blank | headEnd => cases hdeliver; exact ⟨hlimit, fun _ => hhead rfl, nofun, nofun⟩
    | status | header => cases hdeliver; exact ⟨hlimit, fun _ => hhead rfl, nofun, nofun⟩
    | size | lastSize => cases hdeliver; exact ⟨hlimit, nofun, nofun, fun _ => hbodied rfl⟩
    | trailer => cases hdeliver; exact ⟨hlimit, nofun, nofun, fun _ => hbodied rfl⟩
    | trailersEnd => cases hdeliver; exact ⟨hlimit, nofun, nofun, nofun⟩
  | chunkEnd => cases hdeliver; exact ⟨hlimit, nofun, nofun, fun _ => hbodied rfl⟩
  | sizedEnd =>
    obtain ⟨-, htail⟩ := Draft.deliver_body_none hdeliver
    cases htail
    exact ⟨hlimit, nofun, nofun, nofun⟩
  | @sizedPart n bytes _ hn =>
    -- What the draft gets is no longer to come, so the two still fit together.
    obtain ⟨-, htail⟩ := Draft.deliver_body_none hdeliver
    cases htail
    refine ⟨hlimit, nofun, fun k hk => ?_, fun _ => hbodied rfl⟩
    cases hk
    have := hsized n rfl
    rw [List.length_append]
    dsimp only at this
    omega
  | _ =>
    obtain ⟨-, htail⟩ := Draft.deliver_body_none hdeliver
    cases htail
    exact ⟨hlimit, nofun, nofun, fun _ => hbodied rfl⟩

/-- The decision after a head accepts no declared length that is over the limit. -/
theorem kept_onHead {left : Bytes} {draft : Draft} {skipped : Option Nat}
    (hlimit : draft.limit = limit) (hbody : draft.body = [])
    (h : onHead method left draft = .again next skipped) : next.Kept method limit := by
  unfold onHead at h
  split at h
  · cases h
    exact ⟨hlimit, fun _ => hbody, nofun, nofun⟩
  split at h
  · cases h
  next framing hchoose =>
  split at h
  · cases h
  next hcheck =>
  cases h
  -- A response without a body gets the framing `empty` and no other.
  have hbodied : framing ≠ .empty → Framing.bodiless method draft.code = false := by
    intro hne
    by_contra hbodiless
    rw [Framing.choose_bodiless _ (Bool.not_eq_false _ ▸ hbodiless)] at hchoose
    exact hne (Except.ok.inj hchoose).symm
  cases framing with
  | empty => exact ⟨hlimit, nofun, nofun, nofun⟩
  | sized n =>
    cases n with
    | zero => exact ⟨hlimit, nofun, nofun, nofun⟩
    | succ n =>
      refine ⟨hlimit, nofun, fun k hk => ?_, fun _ => hbodied nofun⟩
      cases hk
      -- The check of the declared length counts from nothing, and the draft holds nothing yet.
      show draft.body.length + (n + 1) ≤ limit
      rw [hbody, List.length_nil, Nat.zero_add, ← hlimit]
      by_contra hover
      simp only [Draft.checkFraming, if_pos (Nat.not_le.1 hover)] at hcheck
      cases hcheck
  | chunked => exact ⟨hlimit, nofun, nofun, fun _ => hbodied nofun⟩
  | untilClose => exact ⟨hlimit, nofun, nofun, fun _ => hbodied nofun⟩

theorem kept_step {skipped : Option Nat} (h : i.Kept method limit)
    (hstep : step method i = .again next skipped) : next.Kept method limit := by
  rcases step_again hstep with ⟨events, hpass, hdeliver, -⟩ | ⟨hphase, hhead⟩
  · exact kept_pass h hpass hdeliver
  · exact kept_onHead h.limit_eq (h.head (by rw [hphase]; rfl)) hhead

theorem Reaches.kept (h : Reaches method i j) (hi : i.Kept method limit) :
    j.Kept method limit := by
  induction h with
  | refl => exact hi
  | read _ data ih => exact ih.append data
  | step _ hstep ih => exact kept_step ih hstep

theorem Reaches.trans {k : Intake} (h : Reaches method i j) (h' : Reaches method j k) :
    Reaches method i k := by
  induction h' with
  | refl => exact h
  | read _ data ih => exact .read ih data
  | step _ hstep ih => exact .step ih hstep

/-! ## Where reading is too large -/

/-- Body bytes come in one of three phases, and not more than a declared length has left. -/
theorem goes_body {phase next : Phase} {bytes left data : Bytes} {tail : List Event}
    (h : Decoder.Goes phase bytes next left (.body data :: tail)) :
    phase.inBody = true ∧ ((∃ n, phase = .sized n ∧ data.length ≤ n) ∨
      (∃ n, phase = .chunkData n) ∨ phase = .untilClose) := by
  cases h with
  | line hphase _ huse => cases Decoder.uses_of_useLine hphase huse
  | @sizedEnd n _ _ _ => exact ⟨rfl, .inl ⟨n, rfl, List.length_take_le _ _⟩⟩
  | @sizedPart n _ _ hn => exact ⟨rfl, .inl ⟨n, rfl, Nat.le_of_lt hn⟩⟩
  | untilClose => exact ⟨rfl, .inr (.inr rfl)⟩
  | @chunkDataEnd n => exact ⟨rfl, .inr (.inl ⟨n, rfl⟩)⟩
  | @chunkDataPart n => exact ⟨rfl, .inr (.inl ⟨n, rfl⟩)⟩

/-- Where an intake is too large: at a declared length over the limit, in a chunk, or in a
body that lasts until the close; and the response may have a body. -/
structure TooLarge (method : Method) (limit : Nat) (i : Intake) : Prop where
  failed : step method i = .failed (.tooLarge limit)
  bodied : Framing.bodiless method i.draft.code = false
  place : (i.phase = .headersDone ∧ ∃ n,
      Framing.choose method i.draft.code i.draft.headers = .ok (.sized n) ∧ limit < n) ∨
    (∃ n, i.phase = .chunkData n) ∨ i.phase = .untilClose

theorem tooLarge_of_step {l : Nat} (h : i.Kept method limit)
    (hfailed : step method i = .failed (.tooLarge l)) : l = limit ∧ i.TooLarge method limit := by
  rcases step_failed hfailed with ⟨fault, left, -, hfault⟩ |
    ⟨phase, left, data, tail, hpass, hrefused⟩ | ⟨hphase, hhead⟩
  · cases hfault
  · obtain ⟨hbody, hplace⟩ := goes_body (Decoder.goes_of_pass hpass)
    obtain ⟨hover, hl⟩ := Draft.accept_eq_error hrefused
    rw [h.limit_eq] at hover hl
    cases hl
    refine ⟨rfl, hfailed, h.bodied hbody, ?_⟩
    rcases hplace with ⟨n, hn, hlength⟩ | hplace
    · -- What is to come of a declared length fits, so none of it is refused.
      have := h.sized n hn
      omega
    · exact .inr hplace
  · unfold onHead at hhead
    split at hhead
    · cases hhead
    split at hhead
    · cases hhead
    next framing hchoose =>
    split at hhead
    · next failure hcheck =>
      cases hhead
      obtain ⟨n, rfl, hover, hl⟩ := Draft.checkFraming_eq_some hcheck
      rw [h.limit_eq] at hover hl
      cases hl
      refine ⟨rfl, hfailed, ?_, .inl ⟨hphase, n, hchoose, hover⟩⟩
      exact (Framing.choose_sized_iff.1 hchoose).1.1
    · cases hhead

/-- A settled intake has been reached by steps, or the step that fails has. -/
theorem settle_reaches (method : Method) (i : Intake) :
    (∀ rest, (settle method i).2 = .hungry rest ∨ (settle method i).2 = .complete rest →
        Reaches method i rest) ∧
      ∀ failure, (settle method i).2 = .failed failure →
        ∃ j, Reaches method i j ∧ step method j = .failed failure := by
  induction i using step_induction method with
  | along i ih =>
  cases hstep : step method i with
  | again next skipped =>
    rw [settle_of_again hstep]
    have hfirst : Reaches method i next := .step .refl hstep
    obtain ⟨hrest, hfailed⟩ := ih next skipped hstep
    refine ⟨fun rest h => hfirst.trans (hrest rest h), fun failure h => ?_⟩
    obtain ⟨j, hj, hjfailed⟩ := hfailed failure h
    exact ⟨j, hfirst.trans hj, hjfailed⟩
  | hungry rest =>
    rw [settle_of_hungry hstep]
    refine ⟨fun rest h => ?_, nofun⟩
    rcases h with h | h <;> cases h
    exact .refl
  | complete rest =>
    rw [settle_of_complete hstep]
    refine ⟨fun rest h => ?_, nofun⟩
    rcases h with h | h <;> cases h
    exact .refl
  | failed failure =>
    rw [settle_of_failed hstep]
    refine ⟨fun rest h => ?_, fun failure h => ?_⟩
    · rcases h with h | h <;> cases h
    · cases h
      exact ⟨i, .refl, hstep⟩

theorem toMessage_ne_tooLarge {draft : Draft} {l : Nat} :
    draft.toMessage ≠ .error (.tooLarge l) := by
  unfold Draft.toMessage
  split <;> exact nofun

/-- The end of the stream is no reason to be too large. -/
theorem onEnding_ne_tooLarge {ending : Option Stop} {l : Nat} :
    i.onEnding ending ≠ .done (.error (.tooLarge l)) := by
  intro h
  rcases ending with _ | ⟨trouble⟩ | _
  · have hend : i.atEnd = .error (.tooLarge l) := Wait.done.inj h
    unfold atEnd at hend
    split at hend
    · next hfinish =>
      unfold Decoder.finish at hfinish
      split at hfinish
      · cases hfinish
      · cases hfinish
      · cases hfinish
        cases hend
    · exact toMessage_ne_tooLarge hend
  · have hread : trouble.readFailure = .tooLarge l := Except.error.inj (Wait.done.inj h)
    rcases trouble.readFailure_cases with ⟨_, -, hfailure⟩ | ⟨_, hfailure⟩
    · cases hfailure.symm.trans hread
    · cases hfailure.symm.trans hread
  · cases h

/-- Reading that is too large has come to a step that is. -/
theorem readAll_reaches {ending : Option Stop} {reads : List Bytes} {l : Nat}
    (h : (readAll method ending i reads).2 = .done (.error (.tooLarge l))) :
    ∃ j, Reaches method i j ∧ step method j = .failed (.tooLarge l) := by
  induction reads generalizing i with
  | nil =>
    rw [readAll_nil] at h
    cases hsettle : (settle method i).2 with
    | hungry rest =>
      rw [hsettle] at h
      exact absurd h onEnding_ne_tooLarge
    | complete rest =>
      rw [hsettle] at h
      exact absurd (Wait.done.inj h) toMessage_ne_tooLarge
    | failed failure =>
      rw [hsettle] at h
      cases h
      exact (settle_reaches method i).2 _ hsettle
  | cons data later ih =>
    rw [readAll_cons] at h
    cases hsettle : (settle method i).2 with
    | hungry rest =>
      rw [hsettle] at h
      obtain ⟨j, hj, hfailed⟩ := ih h
      have hread : Reaches method i (rest.append data) :=
        .read ((settle_reaches method i).1 rest (.inl hsettle)) data
      exact ⟨j, hread.trans hj, hfailed⟩
    | complete rest =>
      rw [hsettle] at h
      exact absurd (Wait.done.inj h) toMessage_ne_tooLarge
    | failed failure =>
      rw [hsettle] at h
      cases h
      exact (settle_reaches method i).2 _ hsettle

/-- Whatever bytes are read, reading is too large at such a place only. -/
theorem readAll_tooLarge {ending : Option Stop} {reads : List Bytes} {l : Nat}
    (h : (readAll method ending (start limit) reads).2 = .done (.error (.tooLarge l))) :
    l = limit ∧ ∃ i, Reaches method (start limit) i ∧ i.TooLarge method limit := by
  obtain ⟨i, hi, hfailed⟩ := readAll_reaches h
  obtain ⟨hl, htooLarge⟩ := tooLarge_of_step (hi.kept kept_start) hfailed
  exact ⟨hl, i, hi, htooLarge⟩

/-- Behind a head with a declared length there is nothing but its body and the end. -/
theorem Reaches.declared {n : Nat} (hphase : i.phase = .headersDone)
    (hfinal : isInterim i.draft.code = false)
    (hchoose : Framing.choose method i.draft.code i.draft.headers = .ok (.sized n))
    (hcheck : i.draft.checkFraming (.sized n) = none) (h : Reaches method i j) :
    j.phase = .headersDone ∧ j.draft = i.draft ∨ (∃ k, j.phase = .sized k) ∨
      j.phase = .complete := by
  induction h with
  | refl => exact .inl ⟨hphase, rfl⟩
  | read _ data ih => exact ih
  | @step j next skipped _ hstep ih =>
    -- At the head the decision is the one that was given; a body goes on or ends; the end stays.
    rcases ih with ⟨hj, hdraft⟩ | ⟨k, hk⟩ | hj
    · rw [step_headersDone hj, hdraft, onHead_of_choose hfinal hchoose hcheck] at hstep
      cases hstep
      cases n with
      | zero => exact .inr (.inr rfl)
      | succ n => exact .inr (.inl ⟨n + 1, rfl⟩)
    · rcases step_again hstep with ⟨events, hpass, -⟩ | ⟨hhead, -⟩
      · have hgoes := Decoder.goes_of_pass hpass
        rw [hk] at hgoes
        generalize next.phase = last, next.left = left at hgoes ⊢
        cases hgoes with
        | line hline => cases hline
        | sizedEnd => exact .inr (.inr rfl)
        | sizedPart => exact .inr (.inl ⟨_, rfl⟩)
      · rw [hk] at hhead
        cases hhead
    · rw [step_complete hj] at hstep
      cases hstep

/-- A declared length that is accepted is not refused later. -/
theorem readAll_declared {n l : Nat} (h : i.Kept method limit) (hphase : i.phase = .headersDone)
    (hfinal : isInterim i.draft.code = false)
    (hchoose : Framing.choose method i.draft.code i.draft.headers = .ok (.sized n))
    (hcheck : i.draft.checkFraming (.sized n) = none) (ending : Option Stop)
    (reads : List Bytes) :
    (readAll method ending i reads).2 ≠ .done (.error (.tooLarge l)) := by
  intro hread
  obtain ⟨j, hj, hfailed⟩ := readAll_reaches hread
  have htooLarge := (tooLarge_of_step (hj.kept h) hfailed).2
  rcases hj.declared hphase hfinal hchoose hcheck with ⟨hhead, hdraft⟩ | ⟨k, hk⟩ | hcomplete
  · rw [step_headersDone hhead, hdraft, onHead_of_choose hfinal hchoose hcheck] at hfailed
    cases hfailed
  · rcases htooLarge.place with ⟨hplace, -⟩ | ⟨m, hplace⟩ | hplace
    · rw [hk] at hplace; cases hplace
    · rw [hk] at hplace; cases hplace
    · rw [hk] at hplace; cases hplace
  · rw [step_complete hcomplete] at hfailed
    cases hfailed

/-! ## The limit is exact -/

/-- What a limit on the body does. -/
structure LimitExact (limit : Nat) : Prop where
  /-- Whatever is done, the body is not longer than the limit. -/
  held : ∀ acts, ((start limit).run acts).draft.limit = limit ∧
    ((start limit).run acts).draft.body.length ≤ limit
  /-- What fails changes nothing, but for bytes that have been used before those that fail. So
  a piece of the body that is refused leaves the draft as it was. -/
  refused : ∀ acts a failure, (((start limit).run acts).act a).2 = some failure →
    let i := (start limit).run acts
    (i.act a).1 = i ∨ ∃ data front back, a = .feed data ∧ i.left ++ data = front ++ back ∧
      Decoder.receive Draft.collector i.phase front i.draft =
        ⟨(i.act a).1.phase, [], (i.act a).1.draft, none⟩ ∧
      Decoder.Fails Draft.collector (i.act a).1.phase back (i.act a).1.left (i.act a).1.draft
        failure
  /-- A response that has a body, written by the rules with short size lines, is read in any
  pieces: it is too large if the body is longer than the limit, and the message that is meant
  otherwise. -/
  bodied : ∀ method (r : Rendition), r.Valid → r.payload.ShortSizes →
    Framing.bodiless method r.head.code = false →
    ∀ ending, (r.payload.framing = .untilClose → ending = none) →
    ∀ reads : List Bytes, reads.flatten = r.wire →
      (readAll method ending (start limit) reads).2 =
        .done (if limit < r.payload.body.length then .error (.tooLarge limit) else .ok r.message)
  /-- A response that has no body is the message that its head means, whatever length it
  declares and whatever follows it. -/
  bodiless : ∀ method (h : Head), h.Valid → Framing.bodiless method h.code = true →
    isInterim h.code = false →
    ∀ ending (reads : List Bytes) rest, reads.flatten = h.wire ++ rest →
      (readAll method ending (start limit) reads).2 =
        .done (.ok ⟨h.status, h.headers, .new []⟩)
  /-- When a declared length has been accepted, nothing that is read later is too large. -/
  declared : ∀ method i n, Reaches method (start limit) i → i.phase = .headersDone →
    isInterim i.draft.code = false →
    Framing.choose method i.draft.code i.draft.headers = .ok (.sized n) →
    i.draft.checkFraming (.sized n) = none →
    ∀ ending reads l, (readAll method ending i reads).2 ≠ .done (.error (.tooLarge l))
  /-- Whatever bytes are read, only a response that may have a body is too large: at a declared
  length over the limit, or in a body for which none is declared. -/
  tooLarge : ∀ method ending reads l,
    (readAll method ending (start limit) reads).2 = .done (.error (.tooLarge l)) →
      l = limit ∧ ∃ i, Reaches method (start limit) i ∧ i.TooLarge method limit

/-- Every limit is exact. -/
theorem limit_exact (limit : Nat) : LimitExact limit where
  held acts :=
    have hwithin : ((start limit).run acts).draft.Within limit :=
      (holds_run holds_start acts).within
    ⟨hwithin.limit_eq, hwithin.body_le⟩
  refused acts _ _ hfailed := act_failed (holds_run holds_start acts) hfailed
  bodied _ _ hvalid hsizes hbodied _ hending _ hreads :=
    readAll_rendition hvalid hsizes hbodied limit hending hreads
  bodiless _ _ hvalid hbodiless hfinal ending _ _ hreads :=
    readAll_bodiless hvalid hbodiless hfinal limit ending hreads
  declared _ _ _ hreaches hphase hfinal hchoose hcheck ending reads _ :=
    readAll_declared (hreaches.kept kept_start) hphase hfinal hchoose hcheck ending reads
  tooLarge _ _ _ _ h := readAll_tooLarge h

/-- Three bytes in two chunks, spelled in an unusual way, are too large for two bytes and fit
into three. -/
theorem limit_exact_chunked :
    let r : Rendition := ⟨⟨"0", 299, none, [⟨"transfer-encoding", "gzip,\tCHUNKED "⟩]⟩,
      .chunked [⟨⟨"\t02 ", some "a=\"b\""⟩, [13, 10]⟩, ⟨⟨"1", none⟩, [48]⟩] ⟨"0", none⟩
        [⟨"Digest", ""⟩]⟩
    (r.Valid ∧ r.payload.ShortSizes) ∧
      (readAll .post none (start 2) (r.wire.map fun b => [b])).2 =
        .done (.error (.tooLarge 2)) ∧
      (readAll .post none (start 3) (r.wire.map fun b => [b])).2 = .done (.ok r.message) := by
  intro r
  have hvalid : r.Valid := by decide
  have hsizes : r.payload.ShortSizes := by decide
  have hbytes : (r.wire.map fun b => [b]).flatten = r.wire := by
    rw [← List.flatMap_def, List.flatMap_singleton']
  exact ⟨⟨hvalid, hsizes⟩,
    (limit_exact 2).bodied .post r hvalid hsizes (by decide) none nofun _ hbytes,
    (limit_exact 3).bodied .post r hvalid hsizes (by decide) none nofun _ hbytes⟩

/-- A chunk extension that makes a size line longer than a line may be is not read, though the
body is within the limit. -/
theorem limit_not_exact :
    let r : Rendition := ⟨⟨"1", 200, some "OK", [⟨"Transfer-Encoding", " chunked"⟩]⟩,
      .chunked [⟨⟨"1", some (String.ofList (List.replicate maxLine 'x'))⟩, [97]⟩] ⟨"0", none⟩ []⟩
    r.Valid ∧ Framing.bodiless .get r.head.code = false ∧ r.payload.body.length ≤ 1 ∧
      (readAll .get none (start 1) [r.wire]).2 =
        .done (.error (.malformed "chunk size line too long")) := by
  intro r
  -- The long line is never evaluated: what is needed of it follows from its characters.
  let size : SizeLine := ⟨"1", some (String.ofList (List.replicate maxLine 'x'))⟩
  have htext : size.text.toList = '1' :: ';' :: List.replicate maxLine 'x' := by
    simp [size, SizeLine.text]
  have hsize : size.Spells 1 := by
    refine ⟨by decide, ?_⟩
    rw [htext]
    simp [Request.isLineBreak, List.any_replicate]
  have hlong : maxLine < (Utf8.encode size.text).length := by
    have := Utf8.length_le_encode size.text
    rw [htext] at this
    simp only [List.length_cons, List.length_replicate] at this
    omega
  have hvalid : r.Valid := by
    refine ⟨by decide, ⟨?_, by decide, nofun⟩, by decide⟩
    exact List.forall_mem_singleton.2 ⟨List.cons_ne_nil _ _, hsize⟩
  exact ⟨hvalid, rfl, by decide,
    readAll_long_size hvalid rfl rfl hlong 1 none (List.append_nil r.wire)⟩

end Intake

end Http1Client
