import Http1Client.Proofs.Headers
import Http1Client.Proofs.Request.Head
import Http1Client.Proofs.Url.Visible

/-!
# No text breaks out of its line

A request that has been prepared takes its texts from the caller, from the URL, from
constants and from the configuration (`mem_completeHeaders`). The caller's are checked,
the URL's are visible characters of ASCII, and the user agent of the configuration is
taken as it is. So the lines of the head are the ones that are meant exactly if that one
text has no line break, or is not used (`prepare_unbroken_iff`).
-/

namespace Http1Client

namespace Headers

/-- The fields with one for a name that has none. -/
def provide (h : Headers) (name value : String) : Headers :=
  if h.contains name then h else h.set name value

variable {h : Headers} {name other value : String} {f : Field}

/-- A field is provided behind all others. -/
theorem fields_provide : (h.provide name value).fields =
    h.fields ++ if h.contains name then [] else [⟨name, value⟩] := by
  unfold provide
  by_cases hname : h.contains name = true
  · rw [if_pos hname, if_pos hname, List.append_nil]
  · rw [if_neg hname, if_neg hname, fields_set_of_absent (Bool.eq_false_iff.2 hname)]

theorem mem_provide : f ∈ (h.provide name value).fields ↔
    f ∈ h.fields ∨ h.contains name = false ∧ f = ⟨name, value⟩ := by
  rw [fields_provide, List.mem_append]
  by_cases hname : h.contains name = true
  · simp [hname]
  · simp [hname]

theorem contains_provide_of_ne (hne : Text.sameFolded name other = false) :
    (h.provide name value).contains other = h.contains other := by
  unfold provide
  split
  · rfl
  · exact contains_set_of_ne hne

end Headers

namespace Request

/-! ## Where the fields come from -/

/-- The caller's fields with Host and User-Agent. -/
def provided (config : Config) (host : String) (h : Headers) : Headers :=
  match config.userAgent with
  | none => h.provide "Host" host
  | some agent => (h.provide "Host" host).provide "User-Agent" agent

/-- The Host that is provided if the caller gave none. -/
def addedHost (host : String) (h : Headers) : List Field :=
  if h.contains "Host" then [] else [⟨"Host", host⟩]

/-- The User-Agent that is provided if the caller gave none and one is configured. -/
def addedAgent (config : Config) (h : Headers) : List Field :=
  if h.contains "User-Agent" then []
  else config.userAgent.toList.map fun agent => ⟨"User-Agent", agent⟩

theorem fields_provided (config : Config) (host : String) (h : Headers) :
    (provided config host h).fields = h.fields ++ (addedHost host h ++ addedAgent config h) := by
  unfold provided addedHost addedAgent
  cases config.userAgent with
  | none => simp [Headers.fields_provide]
  | some agent =>
    have hne : Text.sameFolded "Host" "User-Agent" = false := by decide
    simp [Headers.fields_provide, Headers.contains_provide_of_ne hne]

theorem mem_provided {config : Config} {host : String} {h : Headers} {f : Field} :
    f ∈ (provided config host h).fields ↔
      f ∈ h.fields ∨ (h.contains "Host" = false ∧ f = ⟨"Host", host⟩) ∨
        ∃ agent, config.userAgent = some agent ∧ h.contains "User-Agent" = false ∧
          f = ⟨"User-Agent", agent⟩ := by
  unfold provided
  cases config.userAgent with
  | none => simp [Headers.mem_provide]
  | some agent =>
    have hne : Text.sameFolded "Host" "User-Agent" = false := by decide
    rw [Headers.mem_provide, Headers.mem_provide, Headers.contains_provide_of_ne hne]
    simp [or_assoc]

/-- Completing sets and removes the fields that concern the connection. -/
theorem completeHeaders_eq (config : Config) (host : String) (bodyLength : Nat) (h : Headers) :
    completeHeaders config host bodyLength h =
      if bodyLength = 0 then
        (((provided config host h).set "Connection" "close").without
          "Transfer-Encoding").without "Content-Length"
      else
        (((provided config host h).set "Connection" "close").without
          "Transfer-Encoding").set "Content-Length" (String.ofList (Text.decimal bodyLength)) := by
  unfold completeHeaders provided
  cases config.userAgent <;> rfl

/-- What stays of provided fields when the fields that concern the connection are set. -/
def Kept (f : Field) : Prop :=
  f.named "Connection" = false ∧ f.named "Transfer-Encoding" = false ∧
    f.named "Content-Length" = false

/-- Each field of a prepared request is one that the caller gave and that was kept, or one
that was provided, or one of those that concern the connection. -/
theorem mem_completeHeaders {config : Config} {host : String} {bodyLength : Nat} {h : Headers}
    {f : Field} : f ∈ (completeHeaders config host bodyLength h).fields ↔
      f = ⟨"Connection", "close"⟩ ∨
        (bodyLength ≠ 0 ∧ f = ⟨"Content-Length", String.ofList (Text.decimal bodyLength)⟩) ∨
        (f ∈ (provided config host h).fields ∧ Kept f) := by
  have hcoding : Field.named ⟨"Connection", "close"⟩ "Transfer-Encoding" = false := by decide
  have hlength : Field.named ⟨"Connection", "close"⟩ "Content-Length" = false := by decide
  rw [completeHeaders_eq]
  by_cases hn : bodyLength = 0
  · rw [if_pos hn, Headers.mem_without, Headers.mem_without, Headers.mem_set]
    constructor
    · rintro ⟨⟨rfl | ⟨hf, h1⟩, h2⟩, h3⟩
      · exact .inl rfl
      · exact .inr (.inr ⟨hf, h1, h2, h3⟩)
    · rintro (rfl | ⟨hpos, -⟩ | ⟨hf, h1, h2, h3⟩)
      · exact ⟨⟨.inl rfl, hcoding⟩, hlength⟩
      · exact absurd hn hpos
      · exact ⟨⟨.inr ⟨hf, h1⟩, h2⟩, h3⟩
  · rw [if_neg hn, Headers.mem_set, Headers.mem_without, Headers.mem_set]
    constructor
    · rintro (hf | ⟨⟨rfl | ⟨hf, h1⟩, h2⟩, h3⟩)
      · exact .inr (.inl ⟨hn, hf⟩)
      · exact .inl rfl
      · exact .inr (.inr ⟨hf, h1, h2, h3⟩)
    · rintro (rfl | ⟨-, hf⟩ | ⟨hf, h1, h2, h3⟩)
      · exact .inr ⟨⟨.inl rfl, hcoding⟩, hlength⟩
      · exact .inl hf
      · exact .inr ⟨⟨.inr ⟨hf, h1⟩, h2⟩, h3⟩

/-! ## Texts without line breaks -/

theorem isLineBreak_iff {c : Char} : isLineBreak c = true ↔ c = '\r' ∨ c = '\n' := by
  simp only [isLineBreak, Bool.or_eq_true, beq_iff_eq]

/-- A class of characters without CR and LF keeps a text on its line. -/
theorem unbroken_of_forall {s : List Char} {p : Char → Prop} (hcr : ¬ p '\r') (hlf : ¬ p '\n')
    (h : ∀ c ∈ s, p c) : s.any isLineBreak = false := by
  rw [List.any_eq_false]
  intro c hc hbreak
  rcases isLineBreak_iff.1 hbreak with rfl | rfl
  · exact hcr (h _ hc)
  · exact hlf (h _ hc)

theorem unbroken_of_visible {s : List Char} (h : ∀ c ∈ s, Url.Visible c) :
    s.any isLineBreak = false := unbroken_of_forall (by decide) (by decide) h

theorem unbroken_of_isToken {s : List Char} (h : isToken s = true) : s.any isLineBreak = false :=
  unbroken_of_forall (by decide) (by decide) (isToken_iff.1 h).2

theorem fieldAllowed_iff {f : Field} : fieldAllowed f = true ↔
    isToken f.name.toList = true ∧ f.value.toList.any isLineBreak = false := by
  simp only [fieldAllowed, Bool.and_eq_true, Bool.not_eq_true']

theorem unbroken_fieldText {f : Field} (h : fieldAllowed f = true) :
    (Utf8.encode (fieldText f)).Unbroken := by
  obtain ⟨hname, hvalue⟩ := fieldAllowed_iff.1 h
  have hmark : ": ".toList.any isLineBreak = false := by decide
  refine Bytes.unbroken_encode ?_
  simp only [fieldText, String.toList_append, List.any_append, Bool.or_eq_false_iff]
  exact ⟨⟨unbroken_of_isToken hname, hmark⟩, hvalue⟩

theorem unbroken_methodText {m : Method} (h : methodAllowed m = true) :
    m.text.toList.any isLineBreak = false := by
  cases m with
  | other text => exact unbroken_of_isToken h
  | _ => decide

theorem unbroken_requestText {r : Request} (hmethod : methodAllowed r.method = true)
    (hpath : ∀ c ∈ r.path.toList, Url.Visible c) : (Utf8.encode r.requestText).Unbroken := by
  have hspace : " ".toList.any isLineBreak = false := by decide
  have hversion : " HTTP/1.1".toList.any isLineBreak = false := by decide
  refine Bytes.unbroken_encode ?_
  simp only [requestText, String.toList_append, List.any_append, Bool.or_eq_false_iff]
  exact ⟨⟨⟨unbroken_methodText hmethod, hspace⟩, unbroken_of_visible hpath⟩, hversion⟩

end Request

/-! ## Preparing -/

/-- What `prepare` has found in order, and what it gives. -/
structure Prepared (spec : RequestSpec) (config : Config) (r : Request) (host : Url.Host) :
    Prop where
  given : ∃ text, spec.url = some text ∧ Url.parse text = .ok r.url
  known : Url.isSpecial r.url.scheme = true
  urlHost : r.url.host = some host
  path : r.path = String.ofList r.url.target
  method : Request.methodAllowed r.method = true
  fields : ∀ f ∈ spec.headers.fields, Request.fieldAllowed f = true
  headers : r.headers = Request.completeHeaders config (Request.hostField host r.url.port)
    r.body.length spec.headers
  body : r.body = spec.body.getD []
  security : Request.security? r.url = some r.target.secure
  dialled : r.target.host = String.ofList host.dialled
  port : r.target.port = r.url.port.getD (defaultPort r.target.secure)

theorem Prepared.url {spec : RequestSpec} {config : Config} {r : Request} {host : Url.Host}
    (h : Prepared spec config r host) : ∃ text, Url.parse text = .ok r.url := by
  obtain ⟨text, -, hurl⟩ := h.given
  exact ⟨text, hurl⟩

theorem isSpecial_of_security? {u : Url} {secure : Bool} (h : Request.security? u = some secure) :
    Url.isSpecial u.scheme = true := by
  unfold Request.security? at h
  split at h
  · next hscheme =>
    rw [eq_of_beq hscheme]
    decide
  split at h
  · next hscheme =>
    rw [eq_of_beq hscheme]
    decide
  · cases h

/-- The host that is checked is the one in the URL. -/
theorem Request.host_of_host? {u : Url} {host : Url.Host} (h : Request.host? u = some host) :
    u.host = some host := (Option.filter_eq_some_iff.1 h).1

theorem prepare_ok {spec : RequestSpec} {config : Config} {r : Request}
    (h : prepare spec config = .ok r) : ∃ host, Prepared spec config r host := by
  unfold prepare at h
  split at h
  · cases h
  next text htext =>
  split at h
  · cases h
  next url hurl =>
  split at h
  · cases h
  next secure hsecure =>
  split at h
  · cases h
  next hmethod =>
  split at h
  · cases h
  next hfields =>
  split at h
  · cases h
  next host hhost =>
  cases h
  refine ⟨host, ⟨text, htext, hurl⟩, isSpecial_of_security? hsecure, Request.host_of_host? hhost,
    rfl, ?_, ?_, rfl, rfl, hsecure, rfl, rfl⟩
  · simpa using hmethod
  · intro f hf
    have := List.find?_eq_none.1 hfields f hf
    simpa using this

/-- The user agent of the configuration, if the request takes it, has no line break. -/
def AgentUnbroken (spec : RequestSpec) (config : Config) : Prop :=
  ∀ agent, config.userAgent = some agent → spec.headers.contains "User-Agent" = false →
    agent.toList.any Request.isLineBreak = false

theorem fieldAllowed_host {spec : RequestSpec} {config : Config} {r : Request} {host : Url.Host}
    (h : Prepared spec config r host) :
    Request.fieldAllowed ⟨"Host", Request.hostField host r.url.port⟩ = true := by
  obtain ⟨text, hurl⟩ := h.url
  have hname : isToken "Host".toList = true := by decide
  refine Request.fieldAllowed_iff.2 ⟨hname, Request.unbroken_of_visible fun c hc => ?_⟩
  simp only [Request.hostField, String.toList_ofList, List.mem_append] at hc
  rcases hc with hc | hc
  · exact (Url.parse_visible hurl h.known).2 host h.urlHost c hc
  · cases hport : r.url.port with
    | none =>
      rw [hport] at hc
      cases hc
    | some port =>
      rw [hport] at hc
      rcases List.mem_cons.1 hc with rfl | hc
      · decide
      · exact Url.visible_decimal hc

/-- The fields of a prepared request can be written on lines of their own exactly if the
user agent that it takes can. -/
theorem fieldsAllowed_iff {spec : RequestSpec} {config : Config} {r : Request} {host : Url.Host}
    (h : Prepared spec config r host) :
    (∀ f ∈ r.headers.fields, Request.fieldAllowed f = true) ↔ AgentUnbroken spec config := by
  rw [h.headers]
  constructor
  · intro hall agent hagent habsent
    have hmem : ⟨"User-Agent", agent⟩ ∈ (Request.completeHeaders config
        (Request.hostField host r.url.port) r.body.length spec.headers).fields := by
      refine Request.mem_completeHeaders.2 (.inr (.inr ⟨?_, ?_⟩))
      · exact Request.mem_provided.2 (.inr (.inr ⟨agent, hagent, habsent, rfl⟩))
      · have hconnection : Text.sameFolded "User-Agent" "Connection" = false := by decide
        have hcoding : Text.sameFolded "User-Agent" "Transfer-Encoding" = false := by decide
        have hlength : Text.sameFolded "User-Agent" "Content-Length" = false := by decide
        exact ⟨hconnection, hcoding, hlength⟩
    exact (Request.fieldAllowed_iff.1 (hall _ hmem)).2
  · intro hagent f hf
    rcases Request.mem_completeHeaders.1 hf with rfl | ⟨-, rfl⟩ | ⟨hf, -⟩
    · decide
    · have hname : isToken "Content-Length".toList = true := by decide
      refine Request.fieldAllowed_iff.2 ⟨hname, Request.unbroken_of_visible fun c hc => ?_⟩
      rw [String.toList_ofList] at hc
      exact Url.visible_decimal hc
    · rcases Request.mem_provided.1 hf with hf | ⟨-, rfl⟩ | ⟨agent, hsome, habsent, rfl⟩
      · exact h.fields f hf
      · exact fieldAllowed_host h
      · have hname : isToken "User-Agent".toList = true := by decide
        exact Request.fieldAllowed_iff.2 ⟨hname, hagent agent hsome habsent⟩

/-- Of a prepared request each field has a token for its name and no line break in its
value, and its bytes are taken apart into the lines that are meant and the body, exactly if
the user agent that it takes from the configuration has no line break. -/
theorem prepare_unbroken_iff {spec : RequestSpec} {config : Config} {r : Request}
    (h : prepare spec config = .ok r) :
    (∀ f ∈ r.headers.fields, Request.fieldAllowed f = true) ∧
        (∀ l ∈ r.headLines, l.Unbroken) ∧ r.encode.cutHead = some (r.headLines, r.body) ↔
      AgentUnbroken spec config := by
  obtain ⟨host, hprepared⟩ := prepare_ok h
  rw [← fieldsAllowed_iff hprepared]
  constructor
  · exact And.left
  · intro hall
    obtain ⟨text, hurl⟩ := hprepared.url
    have hpath : ∀ c ∈ r.path.toList, Url.Visible c := by
      rw [hprepared.path, String.toList_ofList]
      exact (Url.parse_visible hurl hprepared.known).1
    have hlines : ∀ l ∈ r.headLines, l.Unbroken := by
      intro l hl
      rcases List.mem_cons.1 hl with rfl | hl
      · exact Request.unbroken_requestText hprepared.method hpath
      · obtain ⟨f, hf, rfl⟩ := List.mem_map.1 hl
        exact Request.unbroken_fieldText (hall f hf)
    exact ⟨hall, hlines, Request.cutHead_encode hlines⟩

/-- A method of one's own, an address, a path and a query to be encoded, a body, and a user
agent on one line. -/
theorem prepare_unbroken_iff_agent :
    ∃ r, prepare ⟨.other "PURGE", some "http://[::1]:8080/a b?q=ü#f", ⟨[⟨"X-A", "1"⟩]⟩,
          some [13, 10]⟩ { userAgent := some "tool/1" } = .ok r ∧
      (∀ f ∈ r.headers.fields, Request.fieldAllowed f = true) ∧
      (∀ l ∈ r.headLines, l.Unbroken) ∧ r.encode.cutHead = some (r.headLines, r.body) := by
  let url : Url := ⟨"http".toList, [], [], some (.ipv6 ⟨[0, 0, 0, 0, 0, 0, 0, 1], rfl⟩), some 8080,
    .segments ["a%20b".toList], some "q=%C3%BC".toList, some "f".toList⟩
  let r : Request := ⟨.other "PURGE", url, "/a%20b?q=%C3%BC",
    ⟨[⟨"X-A", "1"⟩, ⟨"Host", "[::1]:8080"⟩, ⟨"User-Agent", "tool/1"⟩, ⟨"Connection", "close"⟩,
      ⟨"Content-Length", "2"⟩]⟩, [13, 10], ⟨"::1", 8080, false⟩⟩
  have hprepare : prepare ⟨.other "PURGE", some "http://[::1]:8080/a b?q=ü#f", ⟨[⟨"X-A", "1"⟩]⟩,
      some [13, 10]⟩ { userAgent := some "tool/1" } = .ok r := by decide
  refine ⟨r, hprepare, (prepare_unbroken_iff hprepare).2 ?_⟩
  intro agent hagent _
  cases hagent
  decide

/-- A user agent with a line break is written as it is: the head has a line that stands for
no field of the request. -/
theorem prepare_broken_agent :
    ∃ r, prepare ⟨.get, some "http://h/", .empty, none⟩ { userAgent := some "a\r\nX: 1" } = .ok r ∧
      ¬ (∀ f ∈ r.headers.fields, Request.fieldAllowed f = true) ∧
      r.encode.cutHead = some (["GET / HTTP/1.1", "Host: h", "User-Agent: a", "X: 1",
        "Connection: close"].map Utf8.encode, []) := by
  let url : Url := ⟨"http".toList, [], [], some (.name ['h']), none, .segments [[]], none, none⟩
  let r : Request := ⟨.get, url, "/", ⟨[⟨"Host", "h"⟩, ⟨"User-Agent", "a\r\nX: 1"⟩,
    ⟨"Connection", "close"⟩]⟩, [], ⟨"h", 80, false⟩⟩
  have hprepare : prepare ⟨.get, some "http://h/", .empty, none⟩
      { userAgent := some "a\r\nX: 1" } = .ok r := by decide
  have hbytes : r.encode = (["GET / HTTP/1.1", "Host: h", "User-Agent: a", "X: 1",
      "Connection: close"].map Utf8.encode).flatMap (· ++ Bytes.crlf) ++ (Bytes.crlf ++ []) := by
    decide
  refine ⟨r, hprepare, by decide, ?_⟩
  rw [hbytes]
  exact Bytes.cutHead_lines (by decide) []

end Http1Client
