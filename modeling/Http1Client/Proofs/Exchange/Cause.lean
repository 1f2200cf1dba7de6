import Http1Client.Proofs.Exchange.Course
import Http1Client.Proofs.Exchange.Limit
import Http1Client.Proofs.Lifetime.Store

/-!
# What a failure tells of its exchange

Whether a request can be sent again depends on how much of it the peer has seen, and all that a
caller has to go by is the failure. The ways in which an exchange ends fall into groups, and
each group belongs to one stretch of it:

- while the connection is opened (`Failure.OfOpening`), nothing of the request is written;
- a write that fails comes before anything is read;
- whatever the bytes of a response come to (`OfBytes`), the whole request has been written, and
  so it has when the limit for the response passes.

One failure is in two groups. TLS fails when it is not negotiated, but also when the peer sends
bytes that TLS refuses, or an alert, in the place of a response (`Refused`): the same failure,
with nothing written or with the whole request.

`Told` says so of a conversation that has ended, with the message it may have come to, and
`hold_told` goes through all the ways in which it can end. A message is lost when it is handed
over, to a scope that is closed by then (`deliver_abandoned_iff`); besides, an exchange that
breaks off leaves its promise to itself, which is told in the same words. What cannot be sent at
all fails the call and no exchange begins (`call_failure`).
-/

namespace Http1Client

/-! ## What moments tell of the request -/

/-- The bytes of the request that the peer took. -/
def Moment.sent? : Moment → Option Bytes
  | .wrote data => some data
  | _ => none

/-- All bytes of the request that the peer took. -/
def sentBytes (moments : List Moment) : Bytes := (moments.filterMap Moment.sent?).flatten

/-- Nothing has been written. -/
def Unsent (moments : List Moment) : Prop := ∀ m ∈ moments, m.sent? = none

/-- A connection has been opened. -/
def Opened (moments : List Moment) : Prop := Moment.moved .connecting .connected ∈ moments

/-- Nothing has been read. -/
def Unread (moments : List Moment) : Prop := ∀ data, Moment.read data ∉ moments

theorem Request.encode_ne_nil (r : Request) : r.encode ≠ [] := by
  simp [encode, head, Bytes.crlf]

namespace Failure

/-- While a connection is opened. -/
inductive OfOpening : Failure → Prop
  | connectFailed (host : String) (port : Nat) (cause : String) :
    OfOpening (.connectFailed host port cause)
  | tlsFailed (cause : String) : OfOpening (.tlsFailed cause)
  | timedOut : OfOpening (.timedOut "connect")

/-- What a failure that is reported tells of the exchange. -/
def Tells (r : Request) (moments : List Moment) : Failure → Prop
  | .invalidRequest _ => False
  | .connectFailed .. => Unsent moments
  | .tlsFailed _ => Unsent moments ∨ sentBytes moments = r.encode
  | .writeFailed _ => Opened moments ∧ Unread moments
  | .timedOut activity =>
    activity = "connect" ∧ Unsent moments ∨ activity = "response" ∧ sentBytes moments = r.encode
  | .malformed _ | .connectionClosed | .tooLarge _ | .abandoned => sentBytes moments = r.encode

end Failure

section Moments

variable {moments later : List Moment}

theorem unsent_append : Unsent (moments ++ later) ↔ Unsent moments ∧ Unsent later :=
  List.forall_mem_append

theorem sentBytes_append (moments later : List Moment) :
    sentBytes (moments ++ later) = sentBytes moments ++ sentBytes later := by
  rw [sentBytes, List.filterMap_append, List.flatten_append]
  rfl

theorem sentBytes_written (bytes : Bytes) :
    sentBytes [.moved .connected .sending, .wrote bytes] = bytes := List.append_nil bytes

theorem Unsent.sentBytes_eq (h : Unsent moments) : sentBytes moments = [] := by
  rw [sentBytes, List.filterMap_eq_nil_iff.2 h]
  rfl

/-- Taking in a response writes nothing. -/
theorem Intaken.unsent (h : Intaken moments) : Unsent moments := by
  intro m hm
  have hintake := h m hm
  cases m <;> first | rfl | cases hintake

theorem unsent_of_unused (h : ∀ m ∈ moments, m.usesConnection = false) : Unsent moments := by
  intro m hm
  have hunused := h m hm
  cases m <;> first | rfl | cases hunused

theorem unread_of_unused (h : ∀ m ∈ moments, m.usesConnection = false) : Unread moments :=
  fun data hmem => nomatch h (.read data) hmem

theorem unread_append : Unread (moments ++ later) ↔ Unread moments ∧ Unread later := by
  simp only [Unread, List.mem_append, not_or, forall_and]

end Moments

/-! ## How reading ends -/

/-- What the bytes of a response can come to: a failure of their own, or a message that holds
one reference to its body. -/
inductive OfBytes : Outcome Message → Prop
  | message {message : Message} (body : Bytes) (h : message.content = .new body) :
    OfBytes (.ok message)
  | malformed (detail : String) : OfBytes (.error (.malformed detail))
  | connectionClosed : OfBytes (.error .connectionClosed)
  | tooLarge (limit : Nat) : OfBytes (.error (.tooLarge limit))

theorem Draft.ofBytes_toMessage (draft : Draft) : OfBytes draft.toMessage := by
  unfold toMessage
  split
  · exact .message draft.body rfl
  · exact .connectionClosed

namespace Intake

variable {method : Method} {i : Intake} {failure : Failure} {reply : Outcome Message}

theorem ofBytes_of_onHead {left : Bytes} {draft : Draft}
    (h : onHead method left draft = .failed failure) : OfBytes (.error failure) := by
  unfold onHead at h
  split at h
  · cases h
  · split at h
    · cases h
      exact .malformed _
    · split at h
      · next hcheck =>
        cases h
        obtain ⟨n, -, -, rfl⟩ := Draft.checkFraming_eq_some hcheck
        exact .tooLarge _
      · cases h

theorem ofBytes_of_step (h : step method i = .failed failure) : OfBytes (.error failure) := by
  -- A fault in the bytes, a body that is refused, or a head that no framing is chosen for.
  rcases step_failed h with ⟨fault, left, -, rfl⟩ |
    ⟨phase, left, data, tail, -, hrefused⟩ | ⟨-, hhead⟩
  · exact .malformed _
  · obtain ⟨-, rfl⟩ := Draft.accept_eq_error hrefused
    exact .tooLarge _
  · exact ofBytes_of_onHead hhead

theorem ofBytes_of_settle (h : (settle method i).2 = .failed failure) :
    OfBytes (.error failure) := by
  obtain ⟨j, -, hfailed⟩ := (settle_reaches method i).2 failure h
  exact ofBytes_of_step hfailed

theorem ofBytes_atEnd (i : Intake) : OfBytes i.atEnd := by
  unfold atEnd
  split
  · next hfinish =>
    unfold Decoder.finish at hfinish
    split at hfinish
    · cases hfinish
    · cases hfinish
    · cases hfinish
      exact .connectionClosed
  · exact Draft.ofBytes_toMessage _

/-- More bytes are needed after those that come, and the end of the stream decides. -/
def Waits (method : Method) (i : Intake) (reads : List Bytes) : Prop :=
  ∃ rest : Intake, ∀ ending, (readAll method ending i reads).2 = rest.onEnding ending

/-- The bytes that come decide what reading comes to, or the end of the stream does. -/
theorem readAll_decided (method : Method) (i : Intake) (reads : List Bytes) :
    (∃ reply, OfBytes reply ∧ ∀ ending, (readAll method ending i reads).2 = .done reply) ∨
      Waits method i reads := by
  unfold Waits
  -- The ending is looked at only when the reads have run out.
  induction reads generalizing i with
  | nil =>
    simp only [readAll_nil]
    cases hsettle : (settle method i).2 with
    | hungry rest => exact .inr ⟨rest, fun _ => rfl⟩
    | complete rest => exact .inl ⟨_, Draft.ofBytes_toMessage rest.draft, fun _ => rfl⟩
    | failed failure => exact .inl ⟨_, ofBytes_of_settle hsettle, fun _ => rfl⟩
  | cons data later ih =>
    simp only [readAll_cons]
    cases hsettle : (settle method i).2 with
    | hungry rest => exact ih (rest.append data)
    | complete rest => exact .inl ⟨_, Draft.ofBytes_toMessage rest.draft, fun _ => rfl⟩
    | failed failure => exact .inl ⟨_, ofBytes_of_settle hsettle, fun _ => rfl⟩

/-- Reading comes to what its bytes come to, or meets bytes that TLS refuses. -/
theorem readAll_ends {ending : Option Stop} {reads : List Bytes}
    (h : (readAll method ending i reads).2 = .done reply) :
    OfBytes reply ∨ ∃ cause, ending = some (.trouble (.corrupt cause)) ∧ Waits method i reads ∧
      reply = .error (.tlsFailed cause) := by
  rcases readAll_decided method i reads with ⟨reply', hbytes, hreply⟩ | hwaits
  · obtain rfl := Wait.done.inj ((hreply ending).symm.trans h)
    exact .inl hbytes
  · obtain ⟨rest, hrest⟩ := hwaits
    have hend := (hrest ending).symm.trans h
    rcases ending with _ | ⟨trouble⟩ | _
    · obtain rfl := Wait.done.inj hend
      exact .inl (ofBytes_atEnd rest)
    · obtain rfl := Wait.done.inj hend
      rcases trouble.readFailure_cases with ⟨cause, rfl, hfailure⟩ | ⟨detail, hfailure⟩
      · exact .inr ⟨cause, rfl, ⟨rest, hrest⟩, congrArg _ hfailure⟩
      · rw [hfailure]
        exact .inl (.malformed detail)
    · cases hend

/-- Bytes that TLS refuses, where more are needed, are the failure of reading. -/
theorem Waits.readAll_refused {reads : List Bytes} (h : Waits method i reads) (cause : String) :
    (readAll method (some (.trouble (.corrupt cause))) i reads).2 =
      .done (.error (.tlsFailed cause)) := by
  obtain ⟨rest, hrest⟩ := h
  exact hrest _

end Intake

/-! ## How a conversation ends -/

/-- A time limit adds one failure to what an operation can come to. -/
theorem Wait.of_within {α : Type} {limit : Option Nat} {activity : String}
    {wait : Wait (Outcome α)} {outcome : Outcome α}
    (h : wait.within limit activity = .done outcome) :
    wait = .done outcome ∨ outcome = .error (.timedOut activity) := by
  cases wait with
  | done result => exact .inl h
  | forever =>
    by_cases hlimit : limit.isSome
    · rw [within, if_pos hlimit] at h
      exact .inr (Wait.done.inj h).symm
    · rw [within, if_neg hlimit] at h
      cases h

namespace Peer

variable {p : Peer} {target : Target} {tls : Bool} {failure : Failure}

theorem tlsFailed_of_negotiate (h : p.negotiate = .done (.error failure)) :
    ∃ cause, failure = .tlsFailed cause := by
  unfold negotiate at h
  split at h
  · cases h
  · cases h
    exact ⟨_, rfl⟩
  · cases h

theorem tlsFailed_of_secure (h : p.secure target tls = .done (.error failure)) :
    ∃ cause, failure = .tlsFailed cause := by
  unfold secure at h
  split at h
  · cases h
  · split at h
    · cases h; exact ⟨_, rfl⟩
    · split at h
      · cases h; exact ⟨_, rfl⟩
      · exact tlsFailed_of_negotiate h

/-- Opening fails in no other way, with a time limit or without. -/
theorem ofOpening_of_within {limit : Option Nat}
    (h : (p.openTo target tls).result.within limit "connect" = .done (.error failure)) :
    failure.OfOpening := by
  rcases Wait.of_within h with hopen | htimedOut
  · unfold openTo at hopen
    dsimp only at hopen
    split at hopen
    · cases hopen
      exact .connectFailed _ _ _
    · cases hopen
    · obtain ⟨cause, rfl⟩ := tlsFailed_of_secure hopen
      exact .tlsFailed cause
  · cases htimedOut
    exact .timedOut

theorem endingOver_corrupt_iff {secure : Bool} {cause : String} :
    p.endingOver secure = some (.trouble (.corrupt cause)) ↔
      secure = true ∧ p.ending = some (.trouble (.corrupt cause)) := by
  unfold endingOver
  cases secure with
  | true => simp
  | false =>
    rcases p.ending with _ | ⟨trouble⟩ | _
    · simp
    · cases trouble <;> simp [Stop.plain]
    · simp [Stop.plain]

/-- A write that nothing stops takes all bytes. -/
theorem taken_eq_of_write {bytes taken : Bytes} (h : p.write bytes = (taken, none)) :
    taken = bytes := by
  unfold write at h
  split at h
  · split at h <;> cases h
    rfl
  · cases h
    rfl

end Peer

namespace Conversation

/-- TLS refuses what the peer sends where more bytes of a response are needed. It was negotiated
before, and the request was taken; the farewell is not waited for in vain either. -/
structure Refused (config : Config) (r : Request) (p : Peer) (cause : String) : Prop where
  opened : (p.openTo r.target true).result = .done (.ok ())
  written : (p.write r.encode).2 = none
  secure : r.target.secure = true
  room : Intake.overflow? r.method (.start config.maxContentLength) p.reads = none
  waits : Intake.Waits r.method (.start config.maxContentLength) p.reads
  refused : p.ending = some (.trouble (.corrupt cause))
  unlingered : p.lingers r.target.secure = false

/-- How a conversation has ended, and what its moments tell of the request then. -/
inductive Told (config : Config) (r : Request) (p : Peer) (moments : List Moment) :
    Outcome Message → Prop
  | unopened {failure : Failure} (h : failure.OfOpening) (hunsent : Unsent moments) :
    Told config r p moments (.error failure)
  | unwritten (cause : String) (hopened : Opened moments) (hunread : Unread moments) :
    Told config r p moments (.error (.writeFailed cause))
  | answered {reply : Outcome Message} (h : OfBytes reply)
    (hsent : sentBytes moments = r.encode) : Told config r p moments reply
  | unanswered (hsent : sentBytes moments = r.encode) :
    Told config r p moments (.error (.timedOut "response"))
  | refused {cause : String} (h : Refused config r p cause)
    (hsent : sentBytes moments = r.encode) : Told config r p moments (.error (.tlsFailed cause))

variable {config : Config} {r : Request} {peer : Peer} {reply : Outcome Message}
  {moments later : List Moment} {cause : String}

/-- What is told stays true when nothing more is written or read. -/
theorem Told.append (h : Told config r peer moments reply) (hunsent : Unsent later)
    (hunread : Unread later) : Told config r peer (moments ++ later) reply := by
  have hsame (hsent : sentBytes moments = r.encode) : sentBytes (moments ++ later) = r.encode := by
    rw [sentBytes_append, hunsent.sentBytes_eq, List.append_nil, hsent]
  cases h with
  | unopened hfailure h => exact .unopened hfailure (unsent_append.2 ⟨h, hunsent⟩)
  | unwritten cause hopened h =>
    exact .unwritten cause (List.mem_append_left _ hopened) (unread_append.2 ⟨h, hunread⟩)
  | answered hbytes hsent => exact .answered hbytes (hsame hsent)
  | unanswered hsent => exact .unanswered (hsame hsent)
  | refused h hsent => exact .refused h (hsame hsent)

/-- What a failure tells of the exchange is so. -/
theorem Told.tells {failure : Failure} (h : Told config r peer moments (.error failure)) :
    failure.Tells r moments := by
  cases h with
  | unopened hfailure hunsent =>
    cases hfailure with
    | connectFailed host port cause => exact hunsent
    | tlsFailed cause => exact .inl hunsent
    | timedOut => exact .inl ⟨rfl, hunsent⟩
  | unwritten cause hopened hunread => exact ⟨hopened, hunread⟩
  | answered hbytes hsent => cases hbytes <;> exact hsent
  | unanswered hsent => exact .inr ⟨rfl, hsent⟩
  | refused _ hsent => exact .inr hsent

/-- The failure of TLS with something written is the one of a response that TLS refuses. -/
theorem Told.refused_of_sent (h : Told config r peer moments (.error (.tlsFailed cause)))
    (hsent : ¬ Unsent moments) : Refused config r peer cause := by
  cases h with
  | unopened _ hunsent => exact absurd hunsent hsent
  | answered hbytes => cases hbytes
  | refused hrefused => exact hrefused

/-! ## The bytes on the way -/

/-- Before a connection is open nothing is written and nothing read. -/
theorem unsent_attempts (tried : List Endpoint) :
    Unsent (attempts tried) ∧ Unread (attempts tried) :=
  ⟨unsent_of_unused (unused_attempts tried), unread_of_unused (unused_attempts tried)⟩

/-- Neither is anything when the connection opens. -/
theorem unsent_opened (tried : List Endpoint) :
    Unsent (opened tried) ∧ Unread (opened tried) := by
  obtain ⟨hunsent, hunread⟩ := unsent_attempts tried
  have hunused : ∀ m ∈ [Moment.moved .connecting .connected], m.usesConnection = false :=
    List.forall_mem_singleton.2 rfl
  exact ⟨unsent_append.2 ⟨hunsent, unsent_of_unused hunused⟩,
    unread_append.2 ⟨hunread, unread_of_unused hunused⟩⟩

theorem unsent_shutDown : Unsent [.shutDown] ∧ Unread [.shutDown] :=
  ⟨List.forall_mem_singleton.2 rfl, fun _ hmem => nomatch List.mem_singleton.1 hmem⟩

/-- A request that is taken is written whole, and nothing else is. -/
theorem sentBytes_send (hwrite : (peer.write r.encode).2 = none) :
    sentBytes (send config r peer).moments = r.encode := by
  obtain ⟨waiting, result, hreceive, hintaken⟩ := exists_receive config r peer
  have hunsent : Unsent (.moved .sending .awaitingResponse :: waiting) :=
    List.forall_mem_cons.2 ⟨rfl, hintaken.unsent⟩
  have htaken : peer.write r.encode = (r.encode, none) :=
    Prod.ext (Peer.taken_eq_of_write (Prod.ext rfl hwrite)) hwrite
  unfold send
  rw [htaken]
  dsimp only [after]
  rw [hreceive, sentBytes_append, hunsent.sentBytes_eq, List.append_nil, sentBytes_written]

/-- The shutdown writes nothing of the request. -/
theorem sentBytes_shutDown (c : Conversation) (lingers : Bool) :
    sentBytes (c.shutDown lingers).moments = sentBytes c.moments := by
  unfold shutDown
  split
  · split
    · rfl
    · show sentBytes (c.moments ++ [.shutDown]) = _
      rw [sentBytes_append, unsent_shutDown.1.sentBytes_eq, List.append_nil]
  · rfl
  · rfl

/-- A conversation writes the whole request, if that is taken, and nothing else. -/
theorem sentBytes_hold (hopen : (peer.openTo r.target true).result = .done (.ok ()))
    (hwrite : (peer.write r.encode).2 = none) :
    sentBytes (hold config r peer).moments = r.encode := by
  rw [hold_of_opened hopen]
  show sentBytes (_ ++ (shutDown _ _).moments) = r.encode
  rw [sentBytes_append, (unsent_opened _).1.sentBytes_eq, sentBytes_shutDown,
    sentBytes_send hwrite, List.nil_append]

/-! ## The ways in which a conversation ends -/

theorem Result.ofWait_done_iff {wait : Wait (Outcome Message)} :
    Result.ofWait wait = .done reply ↔ wait = .done reply := by
  cases wait <;> simp [ofWait]

/-- What is received comes of bytes, or of their absence. -/
theorem receive_ends (h : (receive config r peer).result = .done reply) :
    OfBytes reply ∨ reply = .error (.timedOut "response") ∨
      ∃ cause, reply = .error (.tlsFailed cause) ∧ r.target.secure = true ∧
        peer.ending = some (.trouble (.corrupt cause)) ∧
        Intake.overflow? r.method (.start config.maxContentLength) peer.reads = none ∧
        Intake.Waits r.method (.start config.maxContentLength) peer.reads := by
  cases hover : Intake.overflow? r.method (.start config.maxContentLength) peer.reads with
  | some moments =>
    rw [receive_of_overflow hover] at h
    cases h
  | none =>
    rw [receive_of_room hover, Result.ofWait_done_iff] at h
    rcases Wait.of_within h with hread | htimedOut
    · rcases Intake.readAll_ends hread with hbytes | ⟨cause, hending, hwaits, hreply⟩
      · exact .inl hbytes
      · obtain ⟨hsecure, hrefused⟩ := Peer.endingOver_corrupt_iff.1 hending
        exact .inr (.inr ⟨cause, hreply, hsecure, hrefused, rfl, hwaits⟩)
    · exact .inr (.inl htimedOut)

/-- Whatever ends a conversation tells of it what is so. -/
theorem hold_told (h : (hold config r peer).result = .done reply) :
    Told config r peer (hold config r peer).moments reply := by
  rcases opening_cases config r peer with hopen | ⟨failure, hopen⟩ | hopen
  · rw [hold_of_waiting hopen] at h
    cases h
  · rw [hold_of_refused hopen] at h ⊢
    cases h
    exact .unopened (Peer.ofOpening_of_within hopen) (unsent_attempts _).1
  · rw [hold_result_shut hopen] at h
    obtain ⟨hdone, hlingers⟩ := Result.shut_done_iff.1 h
    cases hwrite : (peer.write r.encode).2 with
    | some stop =>
      cases stop with
      | silence => cases (send_of_silence hwrite).symm.trans hdone
      | trouble t =>
        -- The write fails, and the connection is shut down.
        rw [hold_of_opened hopen, hlingers, shutDown_of_done hdone]
        cases (send_of_trouble hwrite).symm.trans hdone
        simp only [send, hwrite]
        have hunread : Unread ([.moved .connected .sending, .wrote (peer.write r.encode).1] ++
            [.shutDown]) := by
          intro data hmem
          simp at hmem
        have hopened : Moment.moved .connecting .connected ∈
            opened (peer.openTo r.target true).tried :=
          List.mem_append_right _ (List.mem_singleton_self _)
        exact .unwritten t.message (List.mem_append_left _ hopened)
          (unread_append.2 ⟨(unsent_opened _).2, hunread⟩)
    | none =>
      have hsent : sentBytes (hold config r peer).moments = r.encode :=
        sentBytes_hold hopen hwrite
      rw [send_of_written hwrite] at hdone
      rcases receive_ends hdone with hbytes | rfl |
        ⟨cause, rfl, hsecure, hrefused, hroom, hwaits⟩
      · exact .answered hbytes hsent
      · exact .unanswered hsent
      · exact .refused ⟨hopen, hwrite, hsecure, hroom, hwaits, hrefused, hlingers⟩ hsent

/-- A response that TLS refuses is a failure of TLS. -/
theorem Refused.hold_result (h : Refused config r peer cause) :
    (hold config r peer).result = .done (.error (.tlsFailed cause)) := by
  have hending : peer.endingOver r.target.secure = some (.trouble (.corrupt cause)) :=
    Peer.endingOver_corrupt_iff.2 ⟨h.secure, h.refused⟩
  rw [Conversation.hold_result h.opened h.unlingered, send_of_written h.written,
    receive_of_room h.room, hending, h.waits.readAll_refused]
  rfl

end Conversation

/-! ## What becomes of a message -/

namespace Store

variable {s : Store} {m : Message} {body : Bytes} {e : ScopeId}

/-- A message that is not handed over is lost. -/
theorem deliver_error {failure : Failure} (h : (s.deliver m e).2 = .error failure) :
    failure = .abandoned := by
  unfold deliver assemble at h
  dsimp only at h
  split at h
  · cases h
  · exact (Except.error.inj h).symm

/-- A message is lost to a scope that is closed, and to no other. -/
theorem deliver_abandoned_iff (hcontent : m.content = .new body) :
    (s.deliver m e).2 = .error .abandoned ↔ s.scope e = .closed := by
  let held := (s.hold m.content).1
  let content : BufferId := ⟨s.buffers.length⟩
  have hscope : held.scope e = s.scope e := scope_eq_of_scopes rfl e
  have hrefs : (held.buffer content).refs ≠ 0 := by
    show ((s.hold m.content).1.buffer content).refs ≠ 0
    rw [buffer_hold, if_pos rfl, hcontent]
    exact Nat.one_ne_zero
  have hdeliver : (s.deliver m e).2 =
      if (held.keepUntilClose content e).2 then .ok ⟨m.status, m.headers,
        MediaType.ofField (m.headers.get? "Content-Type"), content⟩ else .error .abandoned := rfl
  rw [hdeliver]
  cases hheld : held.scope e with
  | live queue =>
    rw [keepUntilClose_of_live hheld hrefs, if_pos rfl, ← hscope, hheld]
    exact ⟨nofun, nofun⟩
  | closed =>
    rcases keepUntilClose_cases held content e with ⟨queue, hlive, -⟩ | ⟨hkeep, -⟩
    · rw [hheld] at hlive
      cases hlive
    · rw [hkeep, ← hscope, hheld]
      exact ⟨fun _ => rfl, fun _ => rfl⟩

end Store

/-! ## Failures of a whole call -/

namespace Client

variable {config : Config} {r : Request} {peer : Peer} {scope : ScopeId} {store : Store}
  {outcome : Outcome Received} {failure : Failure}

theorem resolved_of_ended {reply : Outcome Message}
    (h : (Conversation.hold config r peer).result = .done reply) :
    (perform config r peer scope store .new).promise.poll.2 =
      .resolved (Conversation.handOver reply scope store).2 := by
  unfold perform
  rw [Conversation.conclude_promise h]
  rfl

theorem pending_of_forever (h : (Conversation.hold config r peer).result = .forever) :
    (perform config r peer scope store .new).promise.poll.2 = .pending := by
  unfold perform
  rw [Conversation.conclude_of_forever h]
  rfl

theorem abandoned_of_broken (h : (Conversation.hold config r peer).result = .broken) :
    (perform config r peer scope store .new).promise.poll.2 = .resolved (.error .abandoned) := by
  unfold perform
  rw [Conversation.conclude_of_broken h]
  rfl

/-- A promise that nobody has touched resolves to what the conversation comes to, after that has
been handed over, or is left to itself. -/
theorem ended_of_resolved
    (h : (perform config r peer scope store .new).promise.poll.2 = .resolved outcome) :
    (∃ reply, (Conversation.hold config r peer).result = .done reply ∧
        (Conversation.handOver reply scope store).2 = outcome) ∨
      Conversation.Outgrown config r peer ∧ outcome = .error .abandoned := by
  cases hresult : (Conversation.hold config r peer).result with
  | forever =>
    rw [pending_of_forever hresult] at h
    cases h
  | done reply =>
    rw [resolved_of_ended hresult] at h
    exact .inl ⟨reply, rfl, Promise.Answer.resolved.inj h⟩
  | broken =>
    rw [abandoned_of_broken hresult] at h
    cases h
    exact .inr ⟨Conversation.hold_broken_iff.1 hresult, rfl⟩

/-- The moments of an exchange tell what those of its conversation tell. -/
theorem told_of_ended {reply : Outcome Message}
    (h : (Conversation.hold config r peer).result = .done reply) :
    Conversation.Told config r peer (perform config r peer scope store .new).moments reply := by
  obtain ⟨late, hmoments, -, -, hunused⟩ := Conversation.conclude_of_done h scope store .new
  unfold perform
  rw [hmoments]
  exact (Conversation.hold_told h).append (unsent_of_unused hunused) (unread_of_unused hunused)

/-- An exchange that breaks off has written the whole request. -/
theorem sentBytes_of_outgrown (h : Conversation.Outgrown config r peer) :
    sentBytes (perform config r peer scope store .new).moments = r.encode := by
  unfold perform
  rw [Conversation.conclude_of_broken (Conversation.hold_broken_iff.2 h)]
  exact Conversation.sentBytes_hold h.opened h.written

/-- A message is lost exactly if there is one and its scope is closed; the same is told of an
exchange that breaks off. -/
theorem abandoned_iff :
    (perform config r peer scope store .new).promise.poll.2 = .resolved (.error .abandoned) ↔
      ((∃ message, (Conversation.hold config r peer).result = .done (.ok message)) ∧
        store.scope scope = .closed) ∨ Conversation.Outgrown config r peer := by
  constructor
  · intro h
    rcases ended_of_resolved h with ⟨reply, hended, hover⟩ | ⟨houtgrown, -⟩
    · refine .inl ?_
      cases Conversation.hold_told hended with
      | unopened hfailure => cases hover; cases hfailure
      | unwritten => cases hover
      | unanswered => cases hover
      | refused => cases hover
      | answered hbytes =>
        cases hbytes with
        | message body hcontent =>
          exact ⟨⟨_, hended⟩, (Store.deliver_abandoned_iff hcontent).1 hover⟩
        | _ => cases hover
    · exact .inr houtgrown
  · rintro (⟨⟨message, hended⟩, hclosed⟩ | houtgrown)
    · rw [resolved_of_ended hended]
      cases Conversation.hold_told hended with
      | answered hbytes =>
        cases hbytes with
        | message body hcontent =>
          exact congrArg _ ((Store.deliver_abandoned_iff hcontent).2 hclosed)
    · exact abandoned_of_broken (Conversation.hold_broken_iff.2 houtgrown)

/-- A failure that is reported tells what is so. -/
theorem tells_of_resolved
    (h : (perform config r peer scope store .new).promise.poll.2 = .resolved (.error failure)) :
    failure.Tells r (perform config r peer scope store .new).moments := by
  rcases ended_of_resolved h with ⟨reply, hended, hover⟩ | ⟨houtgrown, houtcome⟩
  · have htold : Conversation.Told config r peer
        (perform config r peer scope store .new).moments reply := told_of_ended hended
    cases reply with
    | error cause =>
      cases hover
      exact htold.tells
    | ok message =>
      obtain rfl := Store.deliver_error hover
      cases htold with
      | answered _ hsent => exact hsent
  · cases houtcome
    exact sentBytes_of_outgrown houtgrown

/-- TLS fails after something was written exactly if it refuses the response. -/
theorem refused_iff {cause : String} :
    (perform config r peer scope store .new).promise.poll.2 =
          .resolved (.error (.tlsFailed cause)) ∧
        ¬ Unsent (perform config r peer scope store .new).moments ↔
      Conversation.Refused config r peer cause := by
  constructor
  · rintro ⟨h, hsent⟩
    rcases ended_of_resolved h with ⟨reply, hended, hover⟩ | ⟨-, houtcome⟩
    · cases reply with
      | ok message => cases Store.deliver_error hover
      | error failure =>
        cases hover
        exact (told_of_ended hended).refused_of_sent hsent
    · cases houtcome
  · intro h
    refine ⟨resolved_of_ended h.hold_result, fun hunsent => ?_⟩
    -- A request is never empty, and this one has been written.
    obtain ⟨late, hmoments, -⟩ := Conversation.conclude_of_done h.hold_result scope store .new
    have hsent : sentBytes (Conversation.hold config r peer).moments = r.encode :=
      Conversation.sentBytes_hold h.opened h.written
    unfold perform at hunsent
    rw [hmoments] at hunsent
    rw [(unsent_append.1 hunsent).1.sentBytes_eq] at hsent
    exact r.encode_ne_nil hsent.symm

theorem request_of_prepare {configure : RequestSpec → RequestSpec}
    (h : prepare (configure {}) config = .ok r) : request config configure = .ok r := by
  unfold request
  rw [h]

/-- Either a call has nothing to send, which it says itself, and no exchange begins; or its
promise tells, by the failure that it resolves with, how much of the request the peer has seen.
Only a failure of TLS leaves that open, and it comes with the whole request written exactly if
TLS refuses the response. -/
theorem call_failure (config : Config) (configure : RequestSpec → RequestSpec) (peer : Peer)
    (scope : ScopeId) (store : Store) :
    match request config configure with
    | .error failure => failure.kind = .invalidRequest
    | .ok r =>
      let exchange := perform config r peer scope store .new
      let answer := exchange.promise.poll.2
      (∀ failure, answer = .resolved (.error failure) → failure.Tells r exchange.moments) ∧
      (∀ cause, answer = .resolved (.error (.tlsFailed cause)) ∧ ¬ Unsent exchange.moments ↔
        Conversation.Refused config r peer cause) ∧
      (answer = .resolved (.error .abandoned) ↔
        ((∃ message, (Conversation.hold config r peer).result = .done (.ok message)) ∧
          store.scope scope = .closed) ∨ Conversation.Outgrown config r peer) := by
  unfold request
  split
  · next hprepare =>
    split at hprepare
    · cases hprepare
    · cases hprepare
      rfl
  · exact ⟨fun _ => tells_of_resolved, fun _ => refused_iff, abandoned_iff⟩

/-- A peer that negotiates TLS, takes the request and then asks for a certificate. -/
def alerting : Peer :=
  ⟨.ok [.ipv4 ⟨0x7f000001⟩], [], none, [],
    some (.trouble (.corrupt "received fatal alert: CertificateRequired")), {}⟩

/-- A request to be greeted over TLS. -/
def secretRequest : Request :=
  ⟨.get, ⟨"https".toList, [], [], some (.ipv4 ⟨0x7f000001⟩), none, .segments [[]], none, none⟩, "/",
    ⟨[⟨"Host", "127.0.0.1"⟩, ⟨"Connection", "close"⟩]⟩, [], ⟨"127.0.0.1", 443, true⟩⟩

theorem verified_secret (_ : secretRequest.target.secure = true) :
    ServerName.valid secretRequest.target.host = true := by decide

theorem refused_alerting : Conversation.Refused {} secretRequest alerting
    "received fatal alert: CertificateRequired" where
  opened := Peer.openTo_ok rfl rfl verified_secret rfl
  written := rfl
  secure := rfl
  room := Intake.overflow?_of_limit (by decide) _
  waits := by
    have hreads : alerting.reads = [] := rfl
    have hstart : Intake.step .get (.start 10485760) = .hungry (.start 10485760) := rfl
    refine ⟨.start 10485760, fun ending => ?_⟩
    rw [hreads, Intake.readAll_nil]
    exact congrArg (fun settled => Intake.conclude ending settled.2)
      (Intake.settle_of_hungry hstart)
  refused := rfl
  unlingered := rfl

/-- TLS fails with the whole request written; and an exchange that breaks off is abandoned, with
its scope open and no complete response. -/
theorem call_failure_late :
    (∃ r, request {} (fun spec => { spec with url := some "https://127.0.0.1/" }) = .ok r ∧
      let exchange := perform {} r alerting ⟨0⟩ { scopes := [.live []] } .new
      exchange.promise.poll.2 =
          .resolved (.error (.tlsFailed "received fatal alert: CertificateRequired")) ∧
        sentBytes exchange.moments = r.encode ∧ r.encode ≠ []) ∧
      ∃ r, request boundless (fun spec => { spec with url := some "http://127.0.0.1/" }) = .ok r ∧
        let peer := Peer.sender boundlessHead.wire
        let store : Store := { scopes := [.live []] }
        (perform boundless r peer ⟨0⟩ store .new).promise.poll.2 =
            .resolved (.error .abandoned) ∧
          store.scope ⟨0⟩ = .live [] ∧
          ∀ message, (Conversation.hold boundless r peer).result ≠ .done (.ok message) := by
  constructor
  · have hrequest : request {} (fun spec => { spec with url := some "https://127.0.0.1/" }) =
        .ok secretRequest := by decide
    obtain ⟨hresolved, hsent⟩ := (@refused_iff {} secretRequest alerting ⟨0⟩
      { scopes := [.live []] } _).2 refused_alerting
    exact ⟨secretRequest, hrequest, hresolved, (tells_of_resolved hresolved).resolve_left hsent,
      secretRequest.encode_ne_nil⟩
  · have hrequest : request boundless (fun spec => { spec with url := some "http://127.0.0.1/" }) =
        .ok greetingRequest :=
      request_of_prepare ((prepare_config rfl _).trans prepare_greeting)
    have hbroken := Conversation.hold_broken_iff.2 outgrown_boundless
    exact ⟨greetingRequest, hrequest, abandoned_of_broken hbroken, rfl, fun message hdone =>
      nomatch hbroken.symm.trans hdone⟩

end Client

end Http1Client
