import Http1Client.Proofs.Response.Receiving

/-!
# What a decoder reports, however it is used

A session is a decoder with its buffer under any operations in any order: bytes fed in, a
framing chosen, the end of the stream told, a new start. Failures do not end it. Each call
that feeds bytes may have a listener of its own, which may refuse body bytes as it likes.

What has been reported since the last start is what `Phase.told` says of some `Report`: a
status, fields, pieces of a body, trailers and the end, in this order and up to the phase.
Every pass keeps that (`told_pass`), so every operation does (`told_apply`) and every run
(`told_run`). `Session.Orderly` is what follows for whoever uses a decoder.
-/

namespace Http1Client

/-! ## Sessions -/

/-- Who is told of the events in a call. -/
structure Listener where
  σ : Type
  collector : Collector σ
  state : σ

/-- The collector with a list of the events that it took. -/
def Collector.logged {σ : Type} (c : Collector σ) : Collector (σ × List Event) where
  note s event := (c.note s.1 event, s.2 ++ [event])
  accept s data :=
    match c.accept s.1 data with
    | .ok state => .ok (state, s.2 ++ [.body data])
    | .error failure => .error failure

/-- A decoder in use. -/
structure Session where
  phase : Phase
  /-- Bytes not used so far. -/
  left : Bytes
  /-- The framing chosen since the last start. -/
  framing : Option Framing
  /-- The events since the last start. -/
  log : List Event

/-- What can be done with a decoder. -/
inductive Operation where
  | feed (data : Bytes) (listener : Listener)
  | frame (framing : Framing)
  | finish
  | reset

namespace Session

/-- Before anything is done. -/
def start : Session := ⟨.statusLine, [], none, []⟩

/-- Does one thing. -/
def apply (s : Session) : Operation → Session × Option Failure
  | .feed data l =>
    let p := Decoder.receive l.collector.logged s.phase (s.left ++ data) (l.state, s.log)
    ({ s with phase := p.phase, left := p.left, log := p.state.2 }, p.failure)
  | .frame framing =>
    let (phase, events) := Decoder.frame s.phase framing
    let chosen := if s.phase = .headersDone then some framing else s.framing
    ({ s with phase := phase, framing := chosen, log := s.log ++ events }, none)
  | .finish =>
    match Decoder.finish s.phase with
    | .ok (phase, events) => ({ s with phase := phase, log := s.log ++ events }, none)
    | .error failure => (s, some failure)
  | .reset => ({ s with phase := .statusLine, framing := none, log := [] }, none)

/-- Does one thing after another, whether they fail or not. -/
def run (s : Session) (ops : List Operation) : Session :=
  ops.foldl (fun s op => (s.apply op).1) s

end Session

/-! ## Reports -/

/-- All that is reported of one response. -/
structure Report where
  code : Nat
  reason : String
  headers : List Field
  pieces : List Bytes
  trailers : List Field

namespace Report

/-- The status and the header fields. -/
def head (r : Report) : List Event :=
  .status r.code r.reason :: r.headers.map fun f => .header f.name f.value

/-- The pieces of the body. -/
def body (r : Report) : List Event := r.pieces.map .body

/-- The trailer fields. -/
def tail (r : Report) : List Event := r.trailers.map fun f => .trailer f.name f.value

/-- The whole report, with the end. -/
def events (r : Report) : List Event := r.head ++ r.body ++ r.tail ++ [.complete]

end Report

namespace Phase

/-- The phase belongs to a body in chunks. -/
def inChunks : Phase → Bool
  | .chunkSize | .chunkData _ | .chunkEnd | .trailers => true
  | _ => false

/-- What has been told of a report in a phase. -/
def told (r : Report) : Phase → List Event
  | .statusLine => []
  | .headers | .headersDone => r.head
  | .sized _ | .untilClose | .chunkSize | .chunkData _ | .chunkEnd => r.head ++ r.body
  | .trailers => r.head ++ r.body ++ r.tail
  | .complete => r.events

theorem told_prefix (r : Report) (phase : Phase) : phase.told r <+: r.events := by
  cases phase with
  | statusLine => exact List.nil_prefix
  | headers | headersDone =>
    simp only [told, Report.events, List.append_assoc]
    exact List.prefix_append _ _
  | trailers => exact List.prefix_append _ _
  | complete => exact List.prefix_rfl
  | _ =>
    simp only [told, Report.events]
    rw [List.append_assoc (r.head ++ r.body)]
    exact List.prefix_append _ _

/-- The end is told when the response is complete, and once. -/
theorem count_told (r : Report) (phase : Phase) :
    (phase.told r).count .complete = if phase = .complete then 1 else 0 := by
  have hhead : r.head.count .complete = 0 := by
    simp [Report.head, List.count_eq_zero]
  have hbody : r.body.count .complete = 0 := by
    simp [Report.body, List.count_eq_zero]
  have htail : r.tail.count .complete = 0 := by
    simp [Report.tail, List.count_eq_zero]
  cases phase <;> simp [told, Report.events, List.count_append, hhead, hbody, htail]

end Phase

/-- The log is what the phase tells of some report, which has trailers only if the body is in
chunks. -/
structure Tells (phase : Phase) (framing : Option Framing) (log : List Event) : Prop where
  weight : phase.weight = 0
  chunked : phase.inChunks = true → framing = some .chunked
  report : ∃ r : Report, log = phase.told r ∧ (r.trailers ≠ [] → framing = some .chunked)

/-! ## What a pass keeps -/

namespace Decoder

variable {σ : Type} {c : Collector σ} {phase next : Phase} {bytes left : Bytes}
  {events log : List Event} {framing : Option Framing} {t t' : σ × List Event}

theorem told_use (huse : Uses phase next events) (h : Tells phase framing log) :
    Tells next framing (log ++ events) := by
  obtain ⟨hweight, hchunked, r, rfl, htrailers⟩ := h
  cases huse with
  | blank => exact ⟨rfl, nofun, r, rfl, htrailers⟩
  | status code reason =>
    exact ⟨rfl, nofun, ⟨code, reason, [], [], []⟩, rfl, fun h => absurd rfl h⟩
  | header f =>
    refine ⟨rfl, nofun, { r with headers := r.headers ++ [f] }, ?_, htrailers⟩
    simp [Phase.told, Report.head]
  | headEnd => exact ⟨rfl, nofun, r, List.append_nil _, htrailers⟩
  | size hn => exact ⟨weight_chunkData.2 hn, hchunked, r, List.append_nil _, htrailers⟩
  | lastSize =>
    refine ⟨rfl, hchunked, { r with trailers := [] }, ?_, fun h => absurd rfl h⟩
    simp [Phase.told, Report.head, Report.body, Report.tail]
  | trailer f =>
    refine ⟨rfl, hchunked, { r with trailers := r.trailers ++ [f] }, ?_, fun _ => hchunked rfl⟩
    simp [Phase.told, Report.head, Report.body, Report.tail]
  | trailersEnd => exact ⟨rfl, nofun, r, rfl, htrailers⟩

/-- A piece of the body joins the report. -/
theorem told_piece {r : Report} (data : Bytes) :
    r.head ++ r.body ++ [.body data] =
      { r with pieces := r.pieces ++ [data] }.head ++
        { r with pieces := r.pieces ++ [data] }.body := by
  simp [Report.head, Report.body]

/-- A pass that goes on takes the report on to the next phase. -/
theorem told_pass (hpass : pass phase bytes = .go next left events)
    (h : Tells phase framing log) : Tells next framing (log ++ events) := by
  have hweight := pass_go_weight hpass
  cases goes_of_pass hpass with
  | line hphase _ huse => exact told_use (uses_of_useLine hphase huse) h
  | @sizedEnd n bytes hne hn =>
    obtain ⟨-, -, r, rfl, -⟩ := h
    -- The report goes to its end here, so what it might say of trailers goes.
    refine ⟨rfl, nofun, { r with pieces := r.pieces ++ [bytes.take n], trailers := [] }, ?_,
      fun h => absurd rfl h⟩
    simp [Phase.told, Report.events, Report.head, Report.body, Report.tail]
  | sizedPart hne hn =>
    obtain ⟨-, -, r, rfl, htrailers⟩ := h
    exact ⟨hweight, nofun, _, told_piece _, htrailers⟩
  | untilClose hne =>
    obtain ⟨-, -, r, rfl, htrailers⟩ := h
    exact ⟨hweight, nofun, _, told_piece _, htrailers⟩
  | chunkDataEnd hne hn =>
    obtain ⟨-, hchunked, r, rfl, htrailers⟩ := h
    exact ⟨hweight, hchunked, _, told_piece _, htrailers⟩
  | chunkDataPart hne hn =>
    obtain ⟨-, hchunked, r, rfl, htrailers⟩ := h
    exact ⟨hweight, hchunked, _, told_piece _, htrailers⟩
  | chunkEnd left =>
    obtain ⟨-, hchunked, r, rfl, htrailers⟩ := h
    exact ⟨hweight, hchunked, r, List.append_nil _, htrailers⟩

/-! ## What receiving keeps -/

theorem deliver_logged (c : Collector σ) (t : σ × List Event) (events : List Event) :
    c.deliver t.1 events = ((c.logged.deliver t events).1.1, (c.logged.deliver t events).2) ∧
      ((c.logged.deliver t events).2 = none →
        (c.logged.deliver t events).1.2 = t.2 ++ events) := by
  induction events generalizing t with
  | nil => exact ⟨rfl, fun _ => (List.append_nil _).symm⟩
  | cons event events ih =>
    cases event with
    | body data =>
      cases haccept : c.accept t.1 data with
      | error failure =>
        have hlogged : c.logged.accept t data = .error failure := by
          simp only [Collector.logged, haccept]
        simp [Collector.deliver, haccept, hlogged]
      | ok state =>
        have hlogged : c.logged.accept t data = .ok (state, t.2 ++ [.body data]) := by
          simp only [Collector.logged, haccept]
        obtain ⟨hdeliver, hlog⟩ := ih (state, t.2 ++ [.body data])
        simp only [Collector.deliver, haccept, hlogged]
        refine ⟨hdeliver, fun hnone => ?_⟩
        rw [hlog hnone, List.append_assoc]
        rfl
    | _ =>
      obtain ⟨hdeliver, hlog⟩ := ih (c.logged.note t _)
      refine ⟨hdeliver, fun hnone => (hlog hnone).trans ?_⟩
      exact List.append_assoc ..

/-- The list of events does not change what receiving does. -/
theorem receive_logged (c : Collector σ) (phase : Phase) (bytes : Bytes) (t : σ × List Event) :
    receive c phase bytes t.1 =
      ⟨(receive c.logged phase bytes t).phase, (receive c.logged phase bytes t).left,
        (receive c.logged phase bytes t).state.1, (receive c.logged phase bytes t).failure⟩ := by
  fun_induction receive c.logged phase bytes t with
  | case1 phase bytes t hpass => exact receive_of_wait hpass
  | case2 phase bytes t fault left hpass => rw [receive_eq, hpass]
  | case3 phase bytes t next left events hpass t' failure hdeliver =>
    have hplain := (deliver_logged c t events).1
    rw [hdeliver] at hplain
    rw [receive_eq, hpass]
    simp only [hplain]
  | case4 phase bytes t next left events hpass t' hdeliver ih =>
    have hplain := (deliver_logged c t events).1
    rw [hdeliver] at hplain
    rw [receive_of_go hpass hplain, ih]

/-- Receiving adds events to the report. -/
theorem told_receive (h : Tells phase framing t.2) :
    Tells (receive c.logged phase bytes t).phase framing
        (receive c.logged phase bytes t).state.2 ∧
      t.2 <+: (receive c.logged phase bytes t).state.2 := by
  let motive (phase : Phase) (u : σ × List Event) : Prop :=
    Tells phase framing u.2 ∧ t.2 <+: u.2
  refine receive_keeps (motive := motive) ?_ ⟨h, List.prefix_rfl⟩
  intro phase next bytes left u u' events ⟨htells, hgrows⟩ hpass hdeliver
  have hlog := (deliver_logged c u events).2
  rw [hdeliver] at hlog
  have hlog : u'.2 = u.2 ++ events := hlog rfl
  show Tells next framing u'.2 ∧ t.2 <+: u'.2
  rw [hlog]
  exact ⟨told_pass hpass htells, hgrows.trans (List.prefix_append _ _)⟩

theorem told_frame (h : Tells .headersDone framing log) (chosen : Framing) :
    Tells (frame .headersDone chosen).1 (some chosen) (log ++ (frame .headersDone chosen).2) := by
  obtain ⟨-, -, r, rfl, -⟩ := h
  have hnone : ({ r with pieces := [], trailers := [] } : Report).trailers ≠ [] →
      some chosen = some .chunked := fun h => absurd rfl h
  have hwhole : r.head ++ [.complete] =
      ({ r with pieces := [], trailers := [] } : Report).events := by
    simp [Report.events, Report.head, Report.body, Report.tail]
  have hhead : r.head ++ [] = ({ r with pieces := [], trailers := [] } : Report).head ++
      ({ r with pieces := [], trailers := [] } : Report).body := rfl
  cases chosen with
  | empty => exact ⟨rfl, nofun, _, hwhole, hnone⟩
  | sized n =>
    cases n with
    | zero => exact ⟨rfl, nofun, _, hwhole, hnone⟩
    | succ n => exact ⟨rfl, nofun, _, hhead, hnone⟩
  | chunked => exact ⟨rfl, fun _ => rfl, _, hhead, hnone⟩
  | untilClose => exact ⟨rfl, nofun, _, hhead, hnone⟩

/-- The end of the stream completes a body that lasts until then, and nothing else. -/
theorem told_finish (h : Tells phase framing log) (hfinish : finish phase = .ok (next, events)) :
    Tells next framing (log ++ events) := by
  obtain ⟨hweight, hchunked, r, rfl, htrailers⟩ := h
  cases phase with
  | complete =>
    cases hfinish
    exact ⟨rfl, nofun, r, List.append_nil _, htrailers⟩
  | untilClose =>
    cases hfinish
    refine ⟨rfl, nofun, { r with trailers := [] }, ?_, fun h => absurd rfl h⟩
    simp [Phase.told, Report.events, Report.head, Report.body, Report.tail]
  | _ => cases hfinish

end Decoder

/-! ## What an operation keeps -/

/-- The bytes that an operation brings. -/
def Operation.data : Operation → Bytes
  | .feed data _ => data
  | _ => []

namespace Session

variable {s : Session} {op : Operation}

theorem told_apply (h : Tells s.phase s.framing s.log) (op : Operation) :
    Tells (s.apply op).1.phase (s.apply op).1.framing (s.apply op).1.log := by
  cases op with
  | feed data l => exact (Decoder.told_receive (t := (l.state, s.log)) h).1
  | frame chosen =>
    by_cases hphase : s.phase = .headersDone
    · have hframe := Decoder.told_frame (hphase ▸ h) chosen
      simp only [apply, hphase, if_true]
      exact hframe
    · simp only [apply, Decoder.frame_of_ne hphase, if_neg hphase, List.append_nil]
      exact h
  | finish =>
    simp only [apply]
    split
    · next hfinish => exact Decoder.told_finish h hfinish
    · exact h
  | reset => exact ⟨rfl, nofun, ⟨0, "", [], [], []⟩, rfl, fun h => absurd rfl h⟩

/-- However a decoder is used, its log is what its phase tells of some report. -/
theorem told_run (h : Tells s.phase s.framing s.log) (ops : List Operation) :
    Tells (s.run ops).phase (s.run ops).framing (s.run ops).log := by
  induction ops generalizing s with
  | nil => exact h
  | cons op ops ih => exact ih (told_apply h op)

theorem told_start : Tells start.phase start.framing start.log :=
  ⟨rfl, nofun, ⟨0, "", [], [], []⟩, rfl, fun h => absurd rfl h⟩

/-- An operation other than a new start adds to the log. -/
theorem log_prefix_apply (h : Tells s.phase s.framing s.log) (hop : op ≠ .reset) :
    s.log <+: (s.apply op).1.log := by
  cases op with
  | feed data l => exact (Decoder.told_receive (t := (l.state, s.log)) h).2
  | frame chosen => exact List.prefix_append _ _
  | finish =>
    simp only [apply]
    split
    · exact List.prefix_append _ _
    · exact List.prefix_rfl
  | reset => exact absurd rfl hop

/-- The end is in the log once if the response is complete, and else not. -/
theorem count_log (h : Tells s.phase s.framing s.log) :
    s.log.count .complete = if s.phase = .complete then 1 else 0 := by
  obtain ⟨-, -, r, hlog, -⟩ := h
  rw [hlog, Phase.count_told]

/-- Of a complete response nothing more is reported, and bytes stay where they are. -/
theorem apply_complete (hphase : s.phase = .complete) (hop : op ≠ .reset) :
    s.apply op = ({ s with left := s.left ++ op.data }, none) := by
  obtain ⟨phase, left, framing, log⟩ := s
  cases hphase
  cases op with
  | feed data l =>
    simp only [apply, Operation.data]
    rw [Decoder.receive_of_wait (Decoder.pass_complete _)]
  | frame chosen =>
    have hne : Phase.complete ≠ .headersDone := nofun
    simp only [apply, Decoder.frame_of_ne hne, if_neg hne, Operation.data, List.append_nil]
  | finish => simp only [apply, Decoder.finish, Operation.data, List.append_nil]
  | reset => exact absurd rfl hop

/-! ## Orderly sessions -/

/-- What whoever uses a decoder can rely on. -/
structure Orderly (s : Session) : Prop where
  /-- What has been reported is the beginning of a status, fields, pieces of a body, trailers
  and the end, with trailers only if the body is in chunks. -/
  ordered : ∃ r : Report, s.log <+: r.events ∧ (r.trailers ≠ [] → s.framing = some .chunked)
  /-- The end has been reported once if the response is complete, and else not. -/
  once : s.log.count .complete = if s.phase = .complete then 1 else 0
  /-- Any operation but a new start adds events, and the end exactly if it makes the response
  complete. -/
  ends : ∀ op, op ≠ .reset → ∃ new, (s.apply op).1.log = s.log ++ new ∧
    (.complete ∈ new ↔ s.phase ≠ .complete ∧ (s.apply op).1.phase = .complete)
  /-- When the response is complete nothing but a new start changes anything or fails, and
  bytes are left as they come. -/
  settled : s.phase = .complete → ∀ op, op ≠ .reset →
    s.apply op = ({ s with left := s.left ++ op.data }, none)
  /-- Bytes do what the decoder does with them and the listener. -/
  heard : ∀ data l, let p := Decoder.receive l.collector s.phase (s.left ++ data) l.state
    s.apply (.feed data l) =
      ({ s with phase := p.phase, left := p.left, log := (s.apply (.feed data l)).1.log },
        p.failure)
  /-- Bytes that fail leave the phase and the log as they were before the line that is
  faulty, or the piece that is refused: as the bytes in front of it alone would. -/
  failed : ∀ data l failure, (s.apply (.feed data l)).2 = some failure →
    ∃ front back state, s.left ++ data = front ++ back ∧
      apply { s with left := [] } (.feed front l) =
        ({ (s.apply (.feed data l)).1 with left := [] }, none) ∧
      Decoder.Fails l.collector (s.apply (.feed data l)).1.phase back
        (s.apply (.feed data l)).1.left state failure
  /-- A piece of the body is in order when it is offered, whether it is refused or not. -/
  offered : ∀ bytes next left piece tail,
    Decoder.pass s.phase bytes = .go next left (.body piece :: tail) →
      ∃ r : Report, s.log ++ [.body piece] <+: r.events

theorem fails_of_logged {l : Listener} {phase : Phase} {bytes left : Bytes}
    {t : l.σ × List Event} {failure : Failure}
    (h : Decoder.Fails l.collector.logged phase bytes left t failure) :
    Decoder.Fails l.collector phase bytes left t.1 failure := by
  cases h with
  | fault hstop => exact .fault hstop
  | refusal hpass hrefused =>
    refine .refusal hpass ?_
    simp only [Collector.logged] at hrefused
    split at hrefused
    · cases hrefused
    · next haccept =>
      cases hrefused
      exact haccept

theorem orderly_of_tells (h : Tells s.phase s.framing s.log) : s.Orderly where
  ordered := by
    obtain ⟨-, -, r, hlog, htrailers⟩ := h
    exact ⟨r, hlog ▸ Phase.told_prefix r s.phase, htrailers⟩
  once := count_log h
  ends op hop := by
    obtain ⟨new, hnew⟩ := log_prefix_apply h hop
    refine ⟨new, hnew.symm, ?_⟩
    -- The end is counted before and after.
    have hbefore := count_log h
    have hafter := count_log (told_apply h op)
    rw [← hnew, List.count_append, hbefore] at hafter
    rw [← List.count_pos_iff]
    by_cases hphase : s.phase = .complete
    · rw [if_pos hphase] at hafter
      have hone : (if (s.apply op).1.phase = .complete then 1 else 0) ≤ 1 := by split <;> omega
      constructor
      · omega
      · exact fun hne => absurd hphase hne.1
    · rw [if_neg hphase] at hafter
      constructor
      · intro hpos
        refine ⟨hphase, ?_⟩
        by_contra hne
        rw [if_neg hne] at hafter
        omega
      · rintro ⟨-, hcomplete⟩
        rw [if_pos hcomplete] at hafter
        omega
  settled hphase op hop := apply_complete hphase hop
  heard data l := by
    have hplain := Decoder.receive_logged l.collector s.phase (s.left ++ data) (l.state, s.log)
    simp only [apply, hplain]
  failed data l failure hfailure := by
    obtain ⟨front, back, hbytes, hfront, hfails⟩ := Decoder.receive_failed h.weight hfailure
    refine ⟨front, back, _, hbytes, ?_, fails_of_logged hfails⟩
    simp only [apply, List.nil_append]
    rw [hfront]
  offered bytes next left piece tail hpass := by
    obtain ⟨-, -, r, hlog, -⟩ := Decoder.told_pass hpass h
    refine ⟨r, List.IsPrefix.trans ?_ (Phase.told_prefix r next)⟩
    rw [← hlog]
    exact (List.prefix_append_right_inj _).2 (List.prefix_append [_] tail)

/-- However a decoder is used, and whatever fails on the way, its session is orderly. -/
theorem orderly_run (ops : List Operation) : (start.run ops).Orderly :=
  orderly_of_tells (told_run told_start ops)

end Session

end Http1Client
