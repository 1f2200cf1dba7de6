import Http1Client.Proofs.Exchange.Cause

/-!
# When the peer falls silent

An exchange waits for its peer in four places: for a connection, for the request to be taken,
for the response, and over TLS for the farewell to be taken. `Stalls` says of a peer in which of
the first three its silence is met, `Lingers` that it is met in the last one. Either that decides
what becomes of a conversation, or no time limit has to do with it (`send_ends`).

Two of the waits have a time limit. If both limits are set, silence in these places is a failure
that says so, and it is the only cause of such a failure (`silence_ends`). The other two have no
limit: a peer that stops taking the request, or does not take the farewell, holds the exchange
for ever, whatever the limits. Without silence before the end the limits make no difference
(`hold_patient`).
-/

namespace Http1Client

/-- No time limit is what failed. -/
def Untimed {α : Type} (outcome : Outcome α) : Prop :=
  ∀ activity, outcome ≠ .error (.timedOut activity)

theorem OfBytes.untimed {reply : Outcome Message} (h : OfBytes reply) : Untimed reply := by
  cases h <;> exact nofun

/-! ## While a response is read -/

namespace Intake

variable {method : Method} {i : Intake}

/-- Reading goes on for ever exactly at the silence behind bytes that do not decide. -/
theorem readAll_forever_iff {ending : Option Stop} {reads : List Bytes} :
    (readAll method ending i reads).2 = .forever ↔
      ending = some .silence ∧ Waits method i reads := by
  constructor
  · intro h
    rcases readAll_decided method i reads with ⟨reply, -, hreply⟩ | ⟨rest, hrest⟩
    · rw [hreply] at h
      cases h
    · refine ⟨?_, rest, hrest⟩
      rw [hrest] at h
      rcases ending with _ | ⟨trouble⟩ | _
      · cases h
      · cases h
      · rfl
  · rintro ⟨rfl, rest, hrest⟩
    rw [hrest]
    rfl

/-- Whatever reading comes to, no time limit is its cause. -/
theorem untimed_readAll {ending : Option Stop} {reads : List Bytes} {reply : Outcome Message}
    (h : (readAll method ending i reads).2 = .done reply) : Untimed reply := by
  rcases readAll_ends h with hbytes | ⟨cause, -, -, rfl⟩
  · exact hbytes.untimed
  · exact nofun

end Intake

/-! ## While a connection is opened and a request is written -/

namespace Peer

variable {p : Peer} {target : Target} {tls : Bool} {failure : Failure} {bytes : Bytes}

theorem untimed_openTo (h : (p.openTo target tls).result = .done (.error failure)) :
    Untimed (.error failure : Outcome Message) := by
  unfold openTo at h
  dsimp only at h
  split at h
  · cases h
    exact nofun
  · cases h
  · obtain ⟨cause, rfl⟩ := tlsFailed_of_secure h
    exact nofun

/-- A connection is waited for without end if a connect is, or the negotiation after it. -/
theorem openTo_forever_iff : (p.openTo target tls).result = .forever ↔
    (p.dial target.host target.port).stop = some .silence ∨
      (p.dial target.host target.port).stop = none ∧ p.secure target tls = .forever := by
  unfold openTo
  dsimp only
  cases (p.dial target.host target.port).stop with
  | none => simp
  | some stop => cases stop <;> simp

theorem endingOver_silence_iff {secure : Bool} :
    p.endingOver secure = some .silence ↔ p.ending = some .silence := by
  unfold endingOver
  cases secure with
  | true => rfl
  | false =>
    rcases p.ending with _ | ⟨trouble⟩ | _
    · simp
    · cases trouble <;> simp [Stop.plain]
    · simp [Stop.plain]

/-- A write is stopped by silence where the peer takes no more than a part. -/
theorem write_silence_iff : (p.write bytes).2 = some .silence ↔
    ∃ n, p.capacity = some (n, .silence) ∧ n < bytes.length := by
  unfold write
  rcases p.capacity with _ | ⟨n, stop⟩
  · simp
  · dsimp only
    split
    · next hn => simp [hn]
    · next hn =>
      simp only [reduceCtorEq, Option.some.injEq, Prod.mk.injEq, false_iff, not_exists, not_and]
      rintro m ⟨rfl, -⟩
      exact hn

end Peer

/-! ## The four places -/

/-- Where an exchange meets the silence of its peer, before the end. -/
inductive Stalls (r : Request) (p : Peer) (limit : Nat) : Stage → Prop
  /-- No answer to a connect. -/
  | dialling (hdial : (p.dial r.target.host r.target.port).stop = some .silence) :
    Stalls r p limit .connecting
  /-- A connection, and no answer to the negotiation. -/
  | securing (hdial : (p.dial r.target.host r.target.port).stop = none)
    (hsecure : p.secure r.target true = .forever) : Stalls r p limit .connecting
  /-- An open connection, over which a part of the request is taken and no more. -/
  | sending {n : Nat} (hopen : (p.openTo r.target true).result = .done (.ok ()))
    (hcapacity : p.capacity = some (n, .silence)) (hn : n < r.encode.length) :
    Stalls r p limit .sending
  /-- The whole request is taken, and behind bytes that do not decide there are no more. -/
  | awaiting (hopen : (p.openTo r.target true).result = .done (.ok ()))
    (hwrite : (p.write r.encode).2 = none)
    (hroom : Intake.overflow? r.method (.start limit) p.reads = none)
    (hending : p.ending = some .silence)
    (hwaits : Intake.Waits r.method (.start limit) p.reads) : Stalls r p limit .awaitingResponse

/-- Where an exchange meets it at the end: over TLS the farewell is not taken, and nothing has kept
the exchange from coming to it. -/
structure Lingers (config : Config) (r : Request) (p : Peer) : Prop where
  opened : (p.openTo r.target true).result = .done (.ok ())
  secure : r.target.secure = true
  farewell : p.tls.farewell = some .silence
  sent : ¬ Stalls r p config.maxContentLength .sending
  room : ¬ Conversation.Outgrown config r p

theorem Peer.lingers_iff {p : Peer} {secure : Bool} :
    p.lingers secure = true ↔ secure = true ∧ p.tls.farewell = some .silence := by
  rw [lingers, Bool.and_eq_true, beq_iff_eq]

theorem stalls_connecting_iff {r : Request} {p : Peer} {limit : Nat} :
    Stalls r p limit .connecting ↔ (p.openTo r.target true).result = .forever := by
  rw [Peer.openTo_forever_iff]
  constructor
  · intro h
    cases h with
    | dialling hdial => exact .inl hdial
    | securing hdial hsecure => exact .inr ⟨hdial, hsecure⟩
  · rintro (hdial | ⟨hdial, hsecure⟩)
    · exact .dialling hdial
    · exact .securing hdial hsecure

/-! ## The time limits -/

/-- The configuration without time limits. -/
def Config.patient (config : Config) : Config :=
  { config with connectTimeout := none, readTimeout := none }

theorem Wait.within_of_set {α : Type} {limit : Option Nat} (h : limit.isSome = true)
    (activity : String) :
    (Wait.forever.within limit activity : Wait (Outcome α)) = .done (.error (.timedOut activity)) :=
  if_pos h

/-- A time limit makes no difference to what does not last for ever. -/
theorem Wait.within_of_ne_forever {α : Type} {wait : Wait (Outcome α)} (h : wait ≠ .forever)
    (limit : Option Nat) (activity : String) : wait.within limit activity = wait := by
  cases wait with
  | done outcome => rfl
  | forever => exact absurd rfl h

/-! ## What a conversation comes to -/

namespace Conversation

variable {config : Config} {r : Request} {p : Peer}

/-- What silence in a stage comes to: a failure that says so, where a time limit is set for it. -/
def silenced (config : Config) : Stage → Result
  | .connecting => .ofWait (Wait.forever.within config.connectTimeout "connect")
  | .awaitingResponse => .ofWait (Wait.forever.within config.readTimeout "response")
  | _ => .forever

/-- Over an open connection a conversation meets silence in one of two places, or comes to
something without a time limit, or breaks off. -/
theorem send_ends (config : Config) (hopen : (p.openTo r.target true).result = .done (.ok ())) :
    (Stalls r p config.maxContentLength .sending ∧ (send config r p).result = .forever) ∨
      (Stalls r p config.maxContentLength .awaitingResponse ∧
        (send config r p).result = silenced config .awaitingResponse) ∨
      (∃ reply, Untimed reply ∧ (send config r p).result = .done reply) ∨
      Outgrown config r p ∧ (send config r p).result = .broken := by
  cases hwrite : (p.write r.encode).2 with
  | some stop =>
    cases stop with
    | trouble t =>
      have huntimed : Untimed (.error (.writeFailed t.message) : Outcome Message) := nofun
      exact .inr (.inr (.inl ⟨_, huntimed, send_of_trouble hwrite⟩))
    | silence =>
      obtain ⟨n, hcapacity, hn⟩ := Peer.write_silence_iff.1 hwrite
      exact .inl ⟨.sending hopen hcapacity hn, send_of_silence hwrite⟩
  | none =>
    rw [send_of_written hwrite]
    cases hover : Intake.overflow? r.method (.start config.maxContentLength) p.reads with
    | some moments =>
      exact .inr (.inr (.inr ⟨⟨hopen, hwrite, moments, hover⟩, receive_of_overflow hover⟩))
    | none =>
      rw [receive_of_room hover]
      cases hread : (Intake.readAll r.method (p.endingOver r.target.secure)
          (.start config.maxContentLength) p.reads).2 with
      | done reply => exact .inr (.inr (.inl ⟨reply, Intake.untimed_readAll hread, rfl⟩))
      | forever =>
        obtain ⟨hending, hwaits⟩ := Intake.readAll_forever_iff.1 hread
        have hsilence := Peer.endingOver_silence_iff.1 hending
        exact .inr (.inl ⟨.awaiting hopen hwrite hover hsilence hwaits, rfl⟩)

theorem hold_of_connecting (h : Stalls r p config.maxContentLength .connecting) :
    (hold config r p).result = silenced config .connecting := by
  have hopen := stalls_connecting_iff.1 h
  unfold hold silenced
  simp only [hopen]
  cases config.connectTimeout <;> rfl

theorem send_of_sending (h : Stalls r p config.maxContentLength .sending) :
    (p.openTo r.target true).result = .done (.ok ()) ∧
      (send config r p).result = .forever := by
  cases h with
  | sending hopen hcapacity hn =>
    exact ⟨hopen, send_of_silence (Peer.write_silence_iff.2 ⟨_, hcapacity, hn⟩)⟩

theorem send_of_awaiting (h : Stalls r p config.maxContentLength .awaitingResponse) :
    (p.openTo r.target true).result = .done (.ok ()) ∧
      (send config r p).result = silenced config .awaitingResponse := by
  cases h with
  | awaiting hopen hwrite hroom hending hwaits =>
    refine ⟨hopen, ?_⟩
    rw [send_of_written hwrite, receive_of_room hroom,
      Intake.readAll_forever_iff.2 ⟨Peer.endingOver_silence_iff.2 hending, hwaits⟩]
    rfl

/-- A conversation that lingers over its end waits for ever. -/
theorem hold_of_lingers (h : Lingers config r p) (hread : config.readTimeout.isSome = true) :
    (hold config r p).result = .forever := by
  have hlingers := Peer.lingers_iff.2 ⟨h.secure, h.farewell⟩
  rw [hold_result_shut h.opened, hlingers]
  rcases send_ends config h.opened with ⟨hstalls, -⟩ | ⟨-, hresult⟩ | ⟨reply, -, hresult⟩ |
    ⟨houtgrown, -⟩
  · exact absurd hstalls h.sent
  · rw [hresult, silenced, Wait.within_of_set hread]
    rfl
  · rw [hresult]
    rfl
  · exact absurd houtgrown h.room

/-- A conversation meets silence in one of the four places, or comes to something without a time
limit, or breaks off. -/
theorem hold_ends (config : Config) (r : Request) (p : Peer) :
    (Stalls r p config.maxContentLength .connecting ∧
        (hold config r p).result = silenced config .connecting) ∨
      (Stalls r p config.maxContentLength .sending ∧ (hold config r p).result = .forever) ∨
      (Stalls r p config.maxContentLength .awaitingResponse ∧
        (hold config r p).result =
          (silenced config .awaitingResponse).shut (p.lingers r.target.secure)) ∨
      (Lingers config r p ∧ (hold config r p).result = .forever) ∨
      (∃ reply, Untimed reply ∧ (hold config r p).result = .done reply) ∨
      (hold config r p).result = .broken := by
  -- Each wait is come to only behind the one before it, so there is one stage at most.
  cases hopen : (p.openTo r.target true).result with
  | forever =>
    have hstalls : Stalls r p config.maxContentLength .connecting := stalls_connecting_iff.2 hopen
    exact .inl ⟨hstalls, hold_of_connecting hstalls⟩
  | done opened =>
  cases opened with
  | error failure =>
    have hfailed : (p.openTo r.target true).result.within config.connectTimeout "connect" =
        .done (.error failure) := by
      rw [hopen]
      rfl
    have hrefused : (hold config r p).result = .done (.error failure) := by
      rw [hold_of_refused hfailed]
    exact .inr (.inr (.inr (.inr (.inl ⟨_, Peer.untimed_openTo hopen, hrefused⟩))))
  | ok =>
    rw [hold_result_shut hopen]
    rcases send_ends config hopen with ⟨hstalls, hresult⟩ | ⟨hstalls, hresult⟩ |
      ⟨reply, huntimed, hresult⟩ | ⟨-, hresult⟩
    · exact .inr (.inl ⟨hstalls, by rw [hresult]; rfl⟩)
    · exact .inr (.inr (.inl ⟨hstalls, by rw [hresult]⟩))
    · rw [hresult]
      cases hlingers : p.lingers r.target.secure with
      | false => exact .inr (.inr (.inr (.inr (.inl ⟨reply, huntimed, rfl⟩))))
      | true =>
        obtain ⟨hsecure, hfarewell⟩ := Peer.lingers_iff.1 hlingers
        refine .inr (.inr (.inr (.inl ⟨⟨hopen, hsecure, hfarewell, ?_, ?_⟩, rfl⟩)))
        · intro hstalls
          cases hresult.symm.trans (send_of_sending hstalls).2
        · intro houtgrown
          cases hresult.symm.trans (send_of_outgrown houtgrown)
    · exact .inr (.inr (.inr (.inr (.inr (by rw [hresult]; rfl)))))

end Conversation

/-! ## With and without time limits -/

namespace Conversation

variable {config : Config} {r : Request} {p : Peer}

theorem silenced_connecting (h : config.connectTimeout.isSome = true) :
    silenced config .connecting = .done (.error (.timedOut "connect")) :=
  congrArg Result.ofWait (Wait.within_of_set h "connect")

theorem silenced_awaiting (h : config.readTimeout.isSome = true) :
    silenced config .awaitingResponse = .done (.error (.timedOut "response")) :=
  congrArg Result.ofWait (Wait.within_of_set h "response")

theorem receive_patient (hopen : (p.openTo r.target true).result = .done (.ok ()))
    (hwrite : (p.write r.encode).2 = none)
    (hquiet : ¬ Stalls r p config.maxContentLength .awaitingResponse) :
    receive config r p = receive config.patient r p := by
  have hlimit : config.patient.maxContentLength = config.maxContentLength := rfl
  unfold receive
  rw [hlimit]
  cases hover : Intake.overflow? r.method (.start config.maxContentLength) p.reads with
  | some moments => simp only [hover]
  | none =>
    simp only [hover]
    have hread : (Intake.readAll r.method (p.endingOver r.target.secure)
        (.start config.maxContentLength) p.reads).2 ≠ .forever := by
      intro h
      obtain ⟨hending, hwaits⟩ := Intake.readAll_forever_iff.1 h
      exact hquiet (.awaiting hopen hwrite hover (Peer.endingOver_silence_iff.1 hending) hwaits)
    rw [Wait.within_of_ne_forever hread, Wait.within_of_ne_forever hread]

theorem send_patient (hopen : (p.openTo r.target true).result = .done (.ok ()))
    (hquiet : ¬ Stalls r p config.maxContentLength .awaitingResponse) :
    send config r p = send config.patient r p := by
  unfold send
  cases hwrite : p.write r.encode with
  | mk taken stop =>
  cases stop with
  | some stop => cases stop <;> rfl
  | none =>
    have hwritten : (p.write r.encode).2 = none := congrArg Prod.snd hwrite
    exact congrArg (after _) (receive_patient hopen hwritten hquiet)

/-- Against a peer that is not silent a conversation goes as it goes without time limits. -/
theorem hold_patient (hquiet : ∀ stage, ¬ Stalls r p config.maxContentLength stage) :
    hold config r p = hold config.patient r p := by
  have hopen : (p.openTo r.target true).result ≠ .forever :=
    fun h => hquiet .connecting (stalls_connecting_iff.2 h)
  unfold hold
  dsimp only
  rw [Wait.within_of_ne_forever hopen, Wait.within_of_ne_forever hopen]
  cases hopened : (p.openTo r.target true).result with
  | forever => rfl
  | done opened =>
    cases opened with
    | error failure => rfl
    | ok =>
      dsimp only
      rw [send_patient hopened (hquiet .awaitingResponse)]

end Conversation

namespace Client

variable {config : Config} {r : Request} {p : Peer} {scope : ScopeId} {store : Store}

theorem pending_iff : (perform config r p scope store .new).promise.poll.2 = .pending ↔
    (Conversation.hold config r p).result = .forever := by
  cases hresult : (Conversation.hold config r p).result with
  | forever => exact iff_of_true (pending_of_forever hresult) rfl
  | done reply =>
    rw [resolved_of_ended hresult]
    exact iff_of_false nofun nofun
  | broken =>
    rw [abandoned_of_broken hresult]
    exact iff_of_false nofun nofun

/-- Silence in the place of a response is none in the request, and there is room. -/
theorem lingers_of_awaiting (hstalls : Stalls r p config.maxContentLength .awaitingResponse)
    (hlingers : p.lingers r.target.secure = true) : Lingers config r p := by
  obtain ⟨hsecure, hfarewell⟩ := Peer.lingers_iff.1 hlingers
  cases hstalls with
  | awaiting hopen hwrite hroom =>
    refine ⟨hopen, hsecure, hfarewell, fun hsending => ?_, fun houtgrown => ?_⟩
    · cases hsending with
      | sending _ hcapacity hn =>
        cases hwrite.symm.trans (Peer.write_silence_iff.2 ⟨_, hcapacity, hn⟩)
    · obtain ⟨moments, hover⟩ := houtgrown.overflow
      cases hroom.symm.trans hover

/-- With both time limits a conversation is held only while its request is written or when its
connection is shut down. -/
theorem hold_forever_iff (hconnect : config.connectTimeout.isSome = true)
    (hread : config.readTimeout.isSome = true) : (Conversation.hold config r p).result = .forever ↔
      Stalls r p config.maxContentLength .sending ∨ Lingers config r p := by
  constructor
  · intro hforever
    rcases Conversation.hold_ends config r p with ⟨-, hresult⟩ | ⟨hstalls, -⟩ |
      ⟨hstalls, hresult⟩ | ⟨hlingers, -⟩ | ⟨reply, -, hresult⟩ | hresult
    · rw [hforever, Conversation.silenced_connecting hconnect] at hresult
      cases hresult
    · exact .inl hstalls
    · rw [hforever, Conversation.silenced_awaiting hread] at hresult
      cases hlingers : p.lingers r.target.secure with
      | true => exact .inr (lingers_of_awaiting hstalls hlingers)
      | false =>
        rw [hlingers] at hresult
        cases hresult
    · exact .inr hlingers
    · cases hforever.symm.trans hresult
    · cases hforever.symm.trans hresult
  · rintro (hstalls | hlingers)
    · obtain ⟨hopen, hresult⟩ := Conversation.send_of_sending hstalls
      rw [Conversation.hold_result_shut hopen, hresult]
      rfl
    · exact Conversation.hold_of_lingers hlingers hread

/-- The failure of a time limit has silence for its cause, in a place that has one. -/
theorem stalls_of_timedOut {activity : String}
    (h : (perform config r p scope store .new).promise.poll.2 =
      .resolved (.error (.timedOut activity))) :
    Stalls r p config.maxContentLength .connecting ∨
      Stalls r p config.maxContentLength .awaitingResponse := by
  rcases ended_of_resolved h with ⟨reply, hended, hover⟩ | ⟨-, houtcome⟩
  · have hreply : reply = .error (.timedOut activity) := by
      cases reply with
      | error cause =>
        cases hover
        rfl
      | ok message => cases Store.deliver_error hover
    rcases Conversation.hold_ends config r p with ⟨hstalls, -⟩ | ⟨-, hresult⟩ |
      ⟨hstalls, -⟩ | ⟨-, hresult⟩ | ⟨_, huntimed, hresult⟩ | hresult
    · exact .inl hstalls
    · cases hended.symm.trans hresult
    · exact .inr hstalls
    · cases hended.symm.trans hresult
    · cases hended.symm.trans hresult
      exact absurd hreply (huntimed activity)
    · cases hended.symm.trans hresult
  · cases houtcome

/-- If both time limits are set, an exchange is held by its peer exactly if the peer stops
taking the request before all of it is written, or at the end does not take the farewell of TLS.
Any other silence that prevents a response ends it with the failure of a time limit, and nothing
else ends it so. Without any silence before the end it goes as it goes without time limits. -/
theorem silence_ends (hconnect : config.connectTimeout.isSome = true)
    (hread : config.readTimeout.isSome = true) (r : Request) (p : Peer) (scope : ScopeId)
    (store : Store) :
    let answer := (perform config r p scope store .new).promise.poll.2
    let limit := config.maxContentLength
    (answer = .pending ↔ Stalls r p limit .sending ∨ Lingers config r p) ∧
      (¬ Stalls r p limit .sending → ¬ Lingers config r p →
        ∃ outcome, answer = .resolved outcome) ∧
      (Stalls r p limit .connecting → answer = .resolved (.error (.timedOut "connect"))) ∧
      (Stalls r p limit .awaitingResponse → ¬ Lingers config r p →
        answer = .resolved (.error (.timedOut "response"))) ∧
      (∀ activity, answer = .resolved (.error (.timedOut activity)) →
        Stalls r p limit .connecting ∨ Stalls r p limit .awaitingResponse) ∧
      ((∀ stage, ¬ Stalls r p limit stage) → ∀ promise,
        perform config r p scope store promise =
          perform config.patient r p scope store promise) := by
  intro answer limit
  have hforever : (Conversation.hold config r p).result = .forever ↔
      Stalls r p limit .sending ∨ Lingers config r p := hold_forever_iff hconnect hread
  refine ⟨pending_iff.trans hforever, ?_, ?_, ?_, fun _ => stalls_of_timedOut, ?_⟩
  · intro hsent hlingers
    cases hresult : (Conversation.hold config r p).result with
    | forever => exact absurd (hforever.1 hresult) (not_or.2 ⟨hsent, hlingers⟩)
    | done reply => exact ⟨_, resolved_of_ended hresult⟩
    | broken => exact ⟨_, abandoned_of_broken hresult⟩
  · intro hstalls
    have hresult := Conversation.hold_of_connecting hstalls
    exact resolved_of_ended (hresult.trans (Conversation.silenced_connecting hconnect))
  · intro hstalls hunlingered
    obtain ⟨hopen, hresult⟩ := Conversation.send_of_awaiting hstalls
    have hlingers : p.lingers r.target.secure = false :=
      Bool.eq_false_iff.2 fun h => hunlingered (lingers_of_awaiting hstalls h)
    have hended : (Conversation.hold config r p).result =
        .done (.error (.timedOut "response")) := by
      rw [Conversation.hold_result hopen hlingers, hresult, Conversation.silenced_awaiting hread]
    exact resolved_of_ended hended
  · intro hquiet promise
    unfold perform
    rw [Conversation.hold_patient hquiet]

/-- Both time limits. -/
def hurried : Config := { connectTimeout := some 1000, readTimeout := some 1000 }

/-- A peer that takes the whole request and falls silent in the middle of the status line. -/
theorem silence_ends_status_line :
    let peer : Peer := ⟨.ok [.ipv4 ⟨0x7f000001⟩], [], none, [[72, 84]], some .silence, {}⟩
    hurried.connectTimeout.isSome = true ∧ hurried.readTimeout.isSome = true ∧
      (perform hurried greetingRequest peer ⟨0⟩ { scopes := [.live []] } .new).promise.poll.2 =
        .resolved (.error (.timedOut "response")) := by
  intro peer
  have hreads : peer.reads = [[72, 84]] := Peer.reads_of_part rfl (by decide) (by decide)
  have hstart : Intake.step .get (.start hurried.maxContentLength) =
      .hungry (.start hurried.maxContentLength) := rfl
  have hstatus : Intake.step .get ((Intake.start hurried.maxContentLength).append [72, 84]) =
      .hungry ((Intake.start hurried.maxContentLength).append [72, 84]) := rfl
  have hwaits : Intake.Waits .get (.start hurried.maxContentLength) peer.reads := by
    refine ⟨(Intake.start hurried.maxContentLength).append [72, 84], fun ending => ?_⟩
    rw [hreads, Intake.readAll_cons, Intake.settle_of_hungry hstart]
    dsimp only
    rw [Intake.readAll_nil, Intake.settle_of_hungry hstatus]
    rfl
  have hstalls : Stalls greetingRequest peer hurried.maxContentLength .awaitingResponse :=
    .awaiting (Peer.openTo_ok rfl rfl (by decide) rfl) rfl
      (Intake.overflow?_of_limit (by decide) _) rfl hwaits
  have hunlingered : ¬ Lingers hurried greetingRequest peer := fun h => nomatch h.secure
  obtain ⟨-, -, -, hanswer, -⟩ :=
    @silence_ends hurried rfl rfl greetingRequest peer ⟨0⟩ { scopes := [.live []] }
  exact ⟨rfl, rfl, hanswer hstalls hunlingered⟩

/-- A peer that takes five bytes of the request and no more holds the exchange in spite of both
time limits. If the system gives up on the peer, that is a failure of the write. And a peer that
has answered and does not take the farewell holds the exchange too. -/
theorem silence_holds_write :
    let silent : Peer := ⟨.ok [.ipv4 ⟨0x7f000001⟩], [], some (5, .silence), [], none, {}⟩
    let lost : Peer :=
      ⟨.ok [.ipv4 ⟨0x7f000001⟩], [], some (5, .trouble .timedOut), [], none, {}⟩
    let rude : Peer := { Peer.sender greeting.wire with tls := { farewell := some .silence } }
    hurried.connectTimeout.isSome = true ∧ hurried.readTimeout.isSome = true ∧
      (perform hurried greetingRequest silent ⟨0⟩ { scopes := [.live []] } .new).promise.poll.2 =
        .pending ∧
      (perform hurried greetingRequest lost ⟨0⟩ { scopes := [.live []] } .new).promise.poll.2 =
        .resolved (.error (.writeFailed "Connection timed out (os error 110)")) ∧
      (perform hurried secretRequest rude ⟨0⟩ { scopes := [.live []] } .new).promise.poll.2 =
        .pending := by
  intro silent lost rude
  have hlength : 5 < greetingRequest.encode.length := by decide
  have hstalls : Stalls greetingRequest silent hurried.maxContentLength .sending :=
    .sending (Peer.openTo_ok rfl rfl (by decide) rfl) rfl hlength
  have hwrite : (lost.write greetingRequest.encode).2 = some (.trouble .timedOut) := by decide
  have hlost : (Conversation.hold hurried greetingRequest lost).result =
      .done (.error (.writeFailed "Connection timed out (os error 110)")) :=
    (Conversation.hold_result (Peer.openTo_ok rfl rfl (by decide) rfl) rfl).trans
      (Conversation.send_of_trouble hwrite)
  have hlingers : Lingers hurried secretRequest rude := by
    refine ⟨Peer.openTo_ok rfl rfl verified_secret rfl, rfl, rfl, fun h => ?_, fun h => ?_⟩
    · cases h with
      | sending _ hcapacity => cases hcapacity
    · obtain ⟨moments, hover⟩ := h.overflow
      exact absurd (Intake.limit_of_overflow hover) (by decide)
  exact ⟨rfl, rfl, pending_iff.2 ((hold_forever_iff rfl rfl).2 (.inl hstalls)),
    resolved_of_ended hlost, pending_iff.2 ((hold_forever_iff rfl rfl).2 (.inr hlingers))⟩

end Client

end Http1Client
