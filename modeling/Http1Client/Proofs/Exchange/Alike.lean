import Http1Client.Proofs.Exchange.Cause

/-!
# Requests that a peer cannot tell apart

A method goes out as a text and comes back as a constructor: the request is written with the
text, and whether its response has a body depends on the constructor. Two methods with the same
text are prepared and written alike (`prepare_method`, `encode_method`). What is made of the
answer depends on the method through `Framing.choose` alone (`readAll_method`), and that is the
same for two methods unless one of them, and only one, is `head` (`choose_method_iff`).

A method can be given as a text of its own, so `other "HEAD"` goes out as `head` does, and comes
back as a method of which the response has a body. `same_text` says that nothing else goes
wrong, and that this does: there is a peer that is told apart from itself, over TLS or not,
wherever there can be a connection at all.
-/

namespace Http1Client

/-! ## The way out -/

/-- The request with another method. -/
def Request.withMethod (r : Request) (method : Method) : Request := { r with method := method }

theorem methodAllowed_eq_isToken (method : Method) :
    Request.methodAllowed method = isToken method.text.toList := by
  cases method with
  | other text => rfl
  | _ => decide

/-- Methods of one text are prepared alike. -/
theorem prepare_method {method method' : Method} (htext : method.text = method'.text)
    (spec : RequestSpec) (config : Config) :
    prepare { spec with method := method' } config =
      (prepare { spec with method := method } config).map (·.withMethod method') := by
  have hallowed : Request.methodAllowed method = Request.methodAllowed method' := by
    rw [methodAllowed_eq_isToken, methodAllowed_eq_isToken, htext]
  -- The two differ in the first check at most, and go through the others in step.
  unfold prepare
  dsimp only
  rw [hallowed, htext]
  split
  · rfl
  split
  · rfl
  split
  · rfl
  split
  · rfl
  split
  · rfl
  split <;> rfl

/-- A request that has been prepared has the method that was asked for. -/
theorem method_of_prepare {spec : RequestSpec} {config : Config} {r : Request}
    (h : prepare spec config = .ok r) : r.method = spec.method := by
  -- Prepared with its own method in place of its own, a request comes out with just that.
  have hsame := prepare_method (rfl : spec.method.text = spec.method.text) spec config
  have hspec : prepare { spec with method := spec.method } config = .ok r := h
  rw [hspec] at hsame
  exact congrArg Request.method (Except.ok.inj hsame)

/-- Methods of one text are written alike. -/
theorem encode_method {method : Method} {r : Request} (htext : r.method.text = method.text) :
    (r.withMethod method).encode = r.encode := by
  have hline : (r.withMethod method).requestLine = r.requestLine := by
    unfold Request.requestLine
    rw [htext]
    rfl
  unfold Request.encode Request.head
  rw [hline]
  rfl

/-! ## The choice of a framing -/

namespace Framing

variable {method method' : Method} {code : Nat} {headers : Headers}

/-- A response has no body for its code, or because nothing but a head was asked for. -/
theorem bodiless_eq (method : Method) (code : Nat) :
    bodiless method code = (method == .head || bodiless .get code) := by
  have hget : (Method.get == .head) = false := by decide
  simp only [bodiless, hget, Bool.false_or, Bool.or_assoc]

/-- Where there may be a body, a framing is chosen that has one. -/
theorem choose_ne_empty (h : bodiless method code = false) :
    choose method code headers ≠ .ok .empty := by
  intro hempty
  unfold choose at hempty
  simp only [h, Bool.false_eq_true, if_false] at hempty
  split at hempty
  · split at hempty <;> cases hempty
  · split at hempty <;> cases hempty

theorem choose_congr (h : method = .head ↔ method' = .head) :
    choose method code headers = choose method' code headers := by
  have hhead : (method == .head) = (method' == .head) := by
    rw [Bool.eq_iff_iff, beq_iff_eq, beq_iff_eq]
    exact h
  unfold choose
  rw [bodiless_eq method, bodiless_eq method', hhead]

/-- Of two methods of which one is `head`, the other one gets a body with every code that allows
one. -/
theorem choose_head_ne (hother : method ≠ .head) (hbody : bodiless .get code = false) :
    choose .head code headers ≠ choose method code headers := by
  have hbodied : bodiless method code = false := by
    rw [bodiless_eq, hbody, Bool.or_false, beq_eq_false_iff_ne]
    exact hother
  rw [choose_bodiless headers (by rfl : bodiless .head code = true)]
  exact (choose_ne_empty hbodied).symm

/-- The framing is chosen alike unless one of the methods is `head` and the code allows a
body. -/
theorem choose_method_iff :
    choose method code headers = choose method' code headers ↔
      (method = .head ↔ method' = .head) ∨ bodiless .get code = true := by
  constructor
  · intro heq
    rw [or_iff_not_imp_right, Bool.not_eq_true]
    intro hbody
    constructor
    · rintro rfl
      by_contra hother
      exact choose_head_ne hother hbody heq
    · rintro rfl
      by_contra hother
      exact choose_head_ne hother hbody heq.symm
  · rintro (h | hbody)
    · exact choose_congr h
    · have hbodiless (m : Method) : bodiless m code = true := by
        rw [bodiless_eq, hbody, Bool.or_true]
      rw [choose_bodiless headers (hbodiless method), choose_bodiless headers (hbodiless method')]

end Framing

/-! ## The way back -/

namespace Intake

variable {method method' : Method}

/-- The method is used for nothing but the choice of the framing. -/
theorem step_congr (h : method = .head ↔ method' = .head) (i : Intake) :
    step method i = step method' i := by
  have hhead (left : Bytes) (draft : Draft) :
      onHead method left draft = onHead method' left draft := by
    unfold onHead
    rw [Framing.choose_congr h]
  unfold step
  simp only [hhead]

theorem settle_method (h : method = .head ↔ method' = .head) (i : Intake) :
    settle method i = settle method' i := by
  induction i using step_induction method with
  | along i ih =>
  cases hstep : step method i with
  | again next skipped =>
    rw [settle_of_again hstep, settle_of_again ((step_congr h i).symm.trans hstep),
      ih next skipped hstep]
  | hungry rest =>
    rw [settle_of_hungry hstep, settle_of_hungry ((step_congr h i).symm.trans hstep)]
  | complete rest =>
    rw [settle_of_complete hstep, settle_of_complete ((step_congr h i).symm.trans hstep)]
  | failed failure =>
    rw [settle_of_failed hstep, settle_of_failed ((step_congr h i).symm.trans hstep)]

theorem readAll_method (h : method = .head ↔ method' = .head) (ending : Option Stop) (i : Intake)
    (reads : List Bytes) : readAll method ending i reads = readAll method' ending i reads := by
  induction reads generalizing i with
  | nil =>
    rw [readAll, readAll, settle_method h]
    obtain ⟨codes, settled⟩ := settle method' i
    cases settled <;> rfl
  | cons data later ih =>
    rw [readAll, readAll, settle_method h]
    obtain ⟨codes, settled⟩ := settle method' i
    cases settled with
    | hungry rest =>
      dsimp only
      rw [ih (rest.append data)]
    | complete rest => rfl
    | failed failure => rfl

theorem overflow?_method (h : method = .head ↔ method' = .head) (i : Intake)
    (reads : List Bytes) : overflow? method i reads = overflow? method' i reads := by
  induction reads generalizing i with
  | nil => rw [overflow?_nil, overflow?_nil, settle_method h]
  | cons data later ih =>
    rw [overflow?_cons, overflow?_cons, settle_method h]
    simp only [ih]

end Intake

/-- Requests with one text for their methods have one course, against every peer. -/
theorem Client.perform_method {r : Request} {method : Method} (htext : r.method.text = method.text)
    (h : r.method = .head ↔ method = .head) (config : Config) (peer : Peer) (scope : ScopeId)
    (store : Store) (promise : Promise Received) :
    perform config (r.withMethod method) peer scope store promise =
      perform config r peer scope store promise := by
  have hreceive : Conversation.receive config (r.withMethod method) peer =
      Conversation.receive config r peer := by
    unfold Conversation.receive
    dsimp only
    rw [Intake.overflow?_method h, Intake.readAll_method h]
    rfl
  have hsend : Conversation.send config (r.withMethod method) peer =
      Conversation.send config r peer := by
    unfold Conversation.send
    rw [encode_method htext, hreceive]
  unfold perform Conversation.hold
  rw [hsend]
  rfl

/-! ## A peer that is told apart -/

/-- The head of a response to HEAD that says how its body would have come. -/
def bareHead : Head := ⟨"1", 200, some "OK", [⟨"Transfer-Encoding", "chunked"⟩]⟩

theorem bareHead_valid : bareHead.Valid := by decide

namespace Intake

variable {method : Method} {reads : List Bytes}

/-- It is the whole response to HEAD. -/
theorem readAll_bareHead_head (limit : Nat) (hreads : reads.flatten = bareHead.wire) :
    (readAll .head none (start limit) reads).2 =
      .done (.ok ⟨bareHead.status, bareHead.headers, .new []⟩) := by
  rw [← List.append_nil bareHead.wire] at hreads
  exact readAll_bodiless bareHead_valid rfl rfl limit none hreads

/-- To any other method it is the beginning of a response. -/
theorem leads_bareHead (hother : method ≠ .head) (limit : Nat) :
    Leads method Short ⟨.statusLine, bareHead.wire, .start limit⟩
      ⟨.chunkSize, [], headDraft limit bareHead⟩ := by
  have hget : Framing.choose .get bareHead.code bareHead.headers = .ok .chunked := by
    decide
  have hneither : method = .head ↔ Method.get = .head := iff_of_false hother (by decide)
  have hchoose : Framing.choose method (headDraft limit bareHead).code
      (headDraft limit bareHead).headers = .ok .chunked :=
    (Framing.choose_congr hneither).trans hget
  have hleads : Leads method Short ⟨.statusLine, bareHead.wire ++ [], .start limit⟩
      ⟨.chunkSize, [], headDraft limit bareHead⟩ :=
    (leads_head_valid limit bareHead_valid []).trans (leads_framing rfl hchoose rfl [])
  rwa [List.append_nil] at hleads

theorem step_chunkSize_nil (draft : Draft) :
    step method ⟨.chunkSize, [], draft⟩ = .hungry ⟨.chunkSize, [], draft⟩ := rfl

/-- So it is a response that is cut off. -/
theorem readAll_bareHead (hother : method ≠ .head) (limit : Nat)
    (hreads : reads.flatten = bareHead.wire) :
    (readAll method none (start limit) reads).2 = .done (.error .connectionClosed) := by
  -- Behind the head there are no bytes, so no line either.
  have hlast : ¬ Meets method ⟨.chunkSize, [], headDraft limit bareHead⟩ maxLine :=
    fun hmeets => Nat.not_succ_le_zero _ hmeets.length_le
  rw [readAll_eq_conclude (leads_bareHead hother limit) hlast hreads,
    settle_of_hungry (step_chunkSize_nil _)]
  rfl

/-- There is room for no body. -/
theorem overflow?_bareHead (method : Method) (limit : Nat) :
    overflow? method (start limit) [bareHead.wire] = none := by
  have hover : (settle method ⟨.statusLine, bareHead.wire, .start limit⟩).2.overflows = false := by
    by_cases hhead : method = .head
    · subst hhead
      have hleads : Leads .head Short ⟨.statusLine, bareHead.wire ++ [], .start limit⟩ _ :=
        (leads_head_valid limit bareHead_valid []).trans
          (leads_framing rfl (Framing.choose_bodiless _ rfl) rfl [])
      rw [List.append_nil] at hleads
      rw [hleads.settle_eq, settle_of_complete (step_complete rfl)]
      rfl
    · rw [(leads_bareHead hhead limit).settle_eq, settle_of_hungry (step_chunkSize_nil _)]
      rfl
  rw [overflow?_singleton, hover]
  rfl

end Intake

namespace Client

/-- What is read from the sender of a bare head is handed over. -/
theorem resolved_bareHead {config : Config} {r : Request} {reply : Outcome Message}
    (hname : r.target.secure = true → ServerName.valid r.target.host = true)
    (hread : (Intake.readAll r.method none (.start config.maxContentLength)
      (Peer.sender bareHead.wire).reads).2 = .done reply) (scope : ScopeId) (store : Store) :
    (perform config r (Peer.sender bareHead.wire) scope store .new).promise.poll.2 =
      .resolved (Conversation.handOver reply scope store).2 := by
  have hreads : (Peer.sender bareHead.wire).reads = [bareHead.wire] :=
    Peer.reads_of_part rfl (by decide) (by decide)
  have hroom : Intake.overflow? r.method (.start config.maxContentLength)
      (Peer.sender bareHead.wire).reads = none :=
    hreads ▸ Intake.overflow?_bareHead r.method config.maxContentLength
  refine resolved_of_ended ?_
  rw [Conversation.hold_sender _ hname, Conversation.receive_of_room hroom,
    Peer.endingOver_sender, hread]
  rfl

variable {r r' : Request}

/-- HEAD is answered with a message, whatever becomes of it. -/
theorem bareHead_answers (hname : r.target.secure = true → ServerName.valid r.target.host = true)
    (hhead : r.method = .head) (config : Config) (scope : ScopeId) (store : Store) :
    (perform config r (Peer.sender bareHead.wire) scope store .new).promise.poll.2 =
      .resolved (store.deliver ⟨bareHead.status, bareHead.headers, .new []⟩ scope).2 := by
  have hread := Intake.readAll_bareHead_head config.maxContentLength
    (Peer.flatten_reads_sender bareHead.wire)
  rw [← hhead] at hread
  exact resolved_bareHead hname hread scope store

theorem bareHead_fails (hname : r.target.secure = true → ServerName.valid r.target.host = true)
    (hother : r.method ≠ .head) (config : Config) (scope : ScopeId) (store : Store) :
    (perform config r (Peer.sender bareHead.wire) scope store .new).promise.poll.2 =
      .resolved (.error .connectionClosed) :=
  resolved_bareHead hname (Intake.readAll_bareHead hother _
    (Peer.flatten_reads_sender bareHead.wire)) scope store

/-- A bare head tells HEAD from all other methods. -/
theorem bareHead_tells (hname : r.target.secure = true → ServerName.valid r.target.host = true)
    (hname' : r'.target.secure = true → ServerName.valid r'.target.host = true)
    (hhead : r.method = .head) (hother : r'.method ≠ .head) (config : Config) (scope : ScopeId)
    (store : Store) :
    (perform config r (Peer.sender bareHead.wire) scope store .new).promise.poll.2 ≠
      (perform config r' (Peer.sender bareHead.wire) scope store .new).promise.poll.2 := by
  rw [bareHead_answers hname hhead, bareHead_fails hname' hother]
  intro hresolved
  cases Store.deliver_error (Promise.Answer.resolved.inj hresolved)

/-- A target that has to be secure and cannot be verified gets no connection, so that it does not
matter with which method it would have been asked. -/
theorem perform_unverified {method : Method} {config : Config} {peer : Peer} {scope : ScopeId}
    {store : Store} {promise : Promise Received} (hsecure : r.target.secure = true)
    (hname : ServerName.valid r.target.host = false) :
    perform config (r.withMethod method) peer scope store promise =
      perform config r peer scope store promise := by
  have htarget : (r.withMethod method).target = r.target := rfl
  have hhold : Conversation.hold config (r.withMethod method) peer =
      Conversation.hold config r peer := by
    rcases Conversation.opening_cases config r peer with hopen | ⟨failure, hopen⟩ | hopen
    · rw [Conversation.hold_of_waiting hopen]
      exact Conversation.hold_of_waiting hopen
    · rw [Conversation.hold_of_refused hopen]
      exact Conversation.hold_of_refused hopen
    · exact absurd hopen (Peer.openTo_unverified hsecure hname)
  unfold perform
  rw [hhold]

/-- Methods of one text make one request: it is prepared and written alike, and the framing of
its response is chosen alike, unless one of the methods is `head` and the other is not. Then all
exchanges go alike too; and else some peer is told apart from itself, unless no exchange gets as
far as a connection, for want of a name that TLS could verify. -/
theorem same_text {method method' : Method} (htext : method.text = method'.text)
    (spec : RequestSpec) (config : Config) :
    prepare { spec with method := method' } config =
        (prepare { spec with method := method } config).map (·.withMethod method') ∧
      (∀ code headers, Framing.choose method code headers = Framing.choose method' code headers ↔
        (method = .head ↔ method' = .head) ∨ Framing.bodiless .get code = true) ∧
      ∀ r, prepare { spec with method := method } config = .ok r →
        (r.withMethod method').encode = r.encode ∧
        ((method = .head ↔ method' = .head) → ∀ peer scope store promise,
          perform config (r.withMethod method') peer scope store promise =
            perform config r peer scope store promise) ∧
        (¬ (method = .head ↔ method' = .head) →
          ((∃ peer, ∀ scope store,
              (perform config (r.withMethod method') peer scope store .new).promise.poll.2 ≠
                (perform config r peer scope store .new).promise.poll.2) ↔
            (r.target.secure = true → ServerName.valid r.target.host = true))) := by
  refine ⟨prepare_method htext spec config, fun _ _ => Framing.choose_method_iff, ?_⟩
  intro r hprepare
  obtain rfl : r.method = method := method_of_prepare hprepare
  refine ⟨encode_method htext, fun h peer scope store promise => perform_method htext h .., ?_⟩
  intro hapart
  constructor
  · rintro ⟨peer, hdiffer⟩ hsecure
    by_contra hname
    refine hdiffer ⟨0⟩ {} ?_
    rw [perform_unverified hsecure (Bool.eq_false_iff.2 hname)]
  · -- Whichever of the two is `head`, a bare head completes its exchange and not the other one.
    intro hname
    have hname' : (r.withMethod method').target.secure = true →
        ServerName.valid (r.withMethod method').target.host = true := hname
    refine ⟨Peer.sender bareHead.wire, fun scope store => ?_⟩
    by_cases hhead : r.method = .head
    · have hother : (r.withMethod method').method ≠ .head :=
        fun h => hapart (iff_of_true hhead h)
      exact (bareHead_tells hname hname' hhead hother config scope store).symm
    · have hhead' : (r.withMethod method').method = .head := by
        by_contra hother
        exact hapart (iff_of_false hhead hother)
      exact bareHead_tells hname' hname hhead' hhead config scope store

/-- GET in two ways makes no difference. -/
theorem same_text_get :
    ∃ r, prepare ⟨.get, some "http://127.0.0.1/", .empty, none⟩ {} = .ok r ∧
      prepare ⟨.other "GET", some "http://127.0.0.1/", .empty, none⟩ {} =
        .ok (r.withMethod (.other "GET")) ∧
      (r.withMethod (.other "GET")).encode = r.encode ∧
      ∀ peer scope store promise,
        perform {} (r.withMethod (.other "GET")) peer scope store promise =
          perform {} r peer scope store promise := by
  have htext : Method.get.text = (Method.other "GET").text := rfl
  obtain ⟨hprepare', -, hall⟩ :=
    same_text htext ⟨.get, some "http://127.0.0.1/", .empty, none⟩ {}
  obtain ⟨hencode, halike, -⟩ := hall _ prepare_greeting
  rw [prepare_greeting] at hprepare'
  exact ⟨_, prepare_greeting, hprepare', hencode, halike (iff_of_false (by decide) (by decide))⟩

/-- HEAD in two ways: one request, and one peer, for which one exchange completes and the other
fails. -/
theorem same_text_head :
    ∃ r r', prepare ⟨.head, some "http://127.0.0.1/", .empty, none⟩ {} = .ok r ∧
      prepare ⟨.other "HEAD", some "http://127.0.0.1/", .empty, none⟩ {} = .ok r' ∧
      r'.encode = r.encode ∧
      Framing.choose r.method 200 .empty ≠ Framing.choose r'.method 200 .empty ∧
      ∃ peer, (∃ received, (perform {} r peer ⟨0⟩ { scopes := [.live []] } .new).promise.poll.2 =
          .resolved (.ok received)) ∧
        (perform {} r' peer ⟨0⟩ { scopes := [.live []] } .new).promise.poll.2 =
          .resolved (.error .connectionClosed) := by
  have htext : Method.head.text = (Method.other "HEAD").text := rfl
  let r : Request := greetingRequest.withMethod .head
  have hprepare : prepare ⟨.head, some "http://127.0.0.1/", .empty, none⟩ {} = .ok r := by
    decide
  have hprepare' := prepare_method htext ⟨.head, some "http://127.0.0.1/", .empty, none⟩ {}
  rw [hprepare] at hprepare'
  have hother : Method.other "HEAD" ≠ .head := nofun
  refine ⟨r, r.withMethod (.other "HEAD"), hprepare, hprepare', encode_method htext,
    Framing.choose_head_ne hother rfl, Peer.sender bareHead.wire, ?_, ?_⟩
  · exact ⟨_, bareHead_answers (by decide) rfl {} ⟨0⟩ { scopes := [.live []] }⟩
  · exact bareHead_fails (by decide) hother {} ⟨0⟩ _

end Client

end Http1Client
