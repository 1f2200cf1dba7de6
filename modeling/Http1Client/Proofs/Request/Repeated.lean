import Http1Client.Proofs.Request.Completed

/-!
# A request that is prepared again

Completing leaves nothing to complete: the fields that were provided are there to be found, the
one Connection and the one Content-Length are what they would be set to, and no Transfer-Encoding
is left to take away. So completing again changes no field and moves none
(`completeHeaders_completed`), whatever the caller gave.

Of all that is checked only the fields are not what they were before. The caller's were in order,
and of those that were added only the user agent can be out of order; so a request can be prepared
again exactly if the user agent that it takes is on one line (`prepare_completed_iff`).
-/

namespace Http1Client

namespace Request

variable {config : Config} {host : String} {bodyLength : Nat} {h : Headers}

/-! ## Completing what is complete -/

theorem contains_host : (completeHeaders config host bodyLength h).contains "Host" = true := by
  rw [Headers.contains_iff_fieldsOf, fieldsOf_host]
  by_cases hgiven : h.contains "Host" = true
  · rw [if_pos hgiven]
    exact Headers.contains_iff_fieldsOf.1 hgiven
  · rw [if_neg hgiven]
    exact List.cons_ne_nil _ _

theorem contains_userAgent {agent : String} (hagent : config.userAgent = some agent) :
    (completeHeaders config host bodyLength h).contains "User-Agent" = true := by
  rw [Headers.contains_iff_fieldsOf, fieldsOf_userAgent]
  by_cases hgiven : h.contains "User-Agent" = true
  · rw [if_pos hgiven]
    exact Headers.contains_iff_fieldsOf.1 hgiven
  · rw [if_neg hgiven, hagent]
    exact List.cons_ne_nil _ _

/-- Nothing is provided for names that are there. -/
theorem provided_of_contains (hhost : h.contains "Host" = true)
    (hagent : ∀ agent, config.userAgent = some agent → h.contains "User-Agent" = true) :
    provided config host h = h := by
  have hprovide : h.provide "Host" host = h := if_pos hhost
  unfold provided
  cases hconfig : config.userAgent with
  | none => exact hprovide
  | some agent =>
    show (h.provide "Host" host).provide "User-Agent" agent = h
    rw [hprovide]
    exact if_pos (hagent agent hconfig)

/-- Completed fields are complete: all of them stay, in their order and their casing. -/
theorem completeHeaders_completed :
    completeHeaders config host bodyLength (completeHeaders config host bodyLength h) =
      completeHeaders config host bodyLength h := by
  have hlength : (completeHeaders config host bodyLength h).fieldsOf "Content-Length" = _ :=
    fieldsOf_contentLength
  rw [completeHeaders_eq config host bodyLength (completeHeaders config host bodyLength h),
    provided_of_contains contains_host fun _ => contains_userAgent,
    Headers.set_of_only fieldsOf_connection, Headers.without_of_absent fieldsOf_transferEncoding]
  by_cases hbody : bodyLength = 0
  · rw [if_pos hbody]
    rw [if_pos hbody] at hlength
    exact Headers.without_of_absent hlength
  · rw [if_neg hbody]
    rw [if_neg hbody] at hlength
    exact Headers.set_of_only hlength

end Request

/-! ## Preparing with other fields -/

variable {spec : RequestSpec} {config : Config} {r : Request} {site : Url.Host}

/-- What was prepared with some fields is prepared with others if these are in order, and differs
in its fields only. -/
theorem prepare_headers (h : prepare spec config = .ok r) (hsite : r.url.host = some site)
    {k : Headers} (hfields : ∀ f ∈ k.fields, Request.fieldAllowed f = true) :
    prepare { spec with headers := k } config = .ok { r with
      headers := Request.completeHeaders config (Request.hostField site r.url.port)
        r.body.length k } := by
  unfold prepare at h ⊢
  split at h
  · cases h
  next text htext =>
  split at h
  · cases h
  next url hurl =>
  split at h
  · cases h
  next secure hsecure =>
  split at h
  · cases h
  next hmethod =>
  split at h
  · cases h
  split at h
  · cases h
  next host hhost =>
  cases h
  have hfind : k.fields.find? (!Request.fieldAllowed ·) = none := by
    rw [List.find?_eq_none]
    intro f hf
    rw [hfields f hf]
    exact Bool.false_ne_true
  obtain rfl : host = site := Option.some.inj ((Request.host_of_host? hhost).symm.trans hsite)
  simp only [htext, hurl, hsecure, hhost, hfind, if_neg hmethod]

/-- What is prepared has no field that is out of order. -/
theorem fieldAllowed_of_prepare {f : Field} (h : prepare spec config = .ok r)
    (hf : f ∈ spec.headers.fields) : Request.fieldAllowed f = true := by
  obtain ⟨site, hprepared⟩ := prepare_ok h
  exact hprepared.fields f hf

/-- A request is prepared again, with the fields that it was given, exactly if the user agent
that it takes from the configuration is on one line. -/
theorem prepare_completed_iff (h : prepare spec config = .ok r) :
    prepare { spec with headers := r.headers } config = .ok r ↔ AgentUnbroken spec config := by
  obtain ⟨site, hprepared⟩ := prepare_ok h
  rw [← fieldsAllowed_iff hprepared]
  constructor
  · intro hagain f hf
    exact fieldAllowed_of_prepare hagain hf
  · intro hfields
    have hsame : Request.completeHeaders config (Request.hostField site r.url.port)
        r.body.length r.headers = r.headers := by
      rw [hprepared.headers]
      exact Request.completeHeaders_completed
    rw [prepare_headers h hprepared.urlHost hfields, hsame]

/-- Preparing is idempotent: with a user agent on one line, whatever could be prepared is, with
the fields that it was given, prepared again, and to the same request. -/
theorem prepare_idempotent (h : prepare spec config = .ok r)
    (hagent : ∀ agent, config.userAgent = some agent →
      agent.toList.any Request.isLineBreak = false) :
    prepare { spec with headers := r.headers } config = .ok r := by
  rw [prepare_completed_iff h]
  intro agent hconfig _
  exact hagent agent hconfig

/-- Fields that were added twice and in several casings, two that are provided, and a body. -/
theorem prepare_idempotent_casings :
    let headers : Headers := ⟨[⟨"X", "1"⟩, ⟨"CONNECTION", "keep-alive"⟩, ⟨"content-length", "9"⟩,
      ⟨"x", "2"⟩, ⟨"connection", "b"⟩, ⟨"transfer-encoding", "chunked"⟩]⟩
    let spec : RequestSpec := ⟨.post, some "http://h:81/", headers, some [1, 2, 3]⟩
    let config : Config := { userAgent := some "t" }
    ∃ r, prepare spec config = .ok r ∧ r.headers = ⟨[⟨"X", "1"⟩, ⟨"Connection", "close"⟩,
        ⟨"Content-Length", "3"⟩, ⟨"x", "2"⟩, ⟨"Host", "h:81"⟩, ⟨"User-Agent", "t"⟩]⟩ ∧
      prepare { spec with headers := r.headers } config = .ok r := by
  intro headers spec config
  let url : Url := ⟨"http".toList, [], [], some (.name ['h']), some 81, .segments [[]], none, none⟩
  let r : Request := ⟨.post, url, "/", ⟨[⟨"X", "1"⟩, ⟨"Connection", "close"⟩,
    ⟨"Content-Length", "3"⟩, ⟨"x", "2"⟩, ⟨"Host", "h:81"⟩, ⟨"User-Agent", "t"⟩]⟩, [1, 2, 3],
    ⟨"h", 81, false⟩⟩
  have hprepare : prepare spec config = .ok r := by decide
  refine ⟨r, hprepare, rfl, prepare_idempotent hprepare ?_⟩
  intro agent hconfig
  cases hconfig
  decide

end Http1Client
