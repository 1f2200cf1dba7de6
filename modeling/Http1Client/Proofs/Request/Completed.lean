import Http1Client.Proofs.Request.Prepared

/-!
# What completing makes of the caller's fields

Whatever fields a caller gives, a prepared request has one Connection, no Transfer-Encoding and
the Content-Length of its body; it has the Host and the User-Agent that the caller gave, or the
ones that were provided; and all other fields are the caller's. `completed_of_prepare` says this
by the fields of each name, and by the order of all that the caller keeps.

Each of the edits concerns one name, so what is selected by other names passes through it
unchanged (`filter_completeHeaders`).
-/

namespace Http1Client

namespace Request

variable {config : Config} {host : String} {bodyLength : Nat} {h : Headers} {p : Field → Bool}

/-! ## Through the edits -/

/-- Fields that do not concern the connection are the caller's and those provided. -/
theorem filter_completeHeaders (hconnection : ∀ f, f.named "Connection" = true → p f = false)
    (hcoding : ∀ f, f.named "Transfer-Encoding" = true → p f = false)
    (hlength : ∀ f, f.named "Content-Length" = true → p f = false) :
    (completeHeaders config host bodyLength h).fields.filter p =
      h.fields.filter p ++ ((addedHost host h).filter p ++ (addedAgent config h).filter p) := by
  rw [completeHeaders_eq, ← List.filter_append, ← List.filter_append, ← fields_provided]
  split
  · rw [Headers.filter_without hlength, Headers.filter_without hcoding,
      Headers.filter_set hconnection]
  · rw [Headers.filter_set hlength, Headers.filter_without hcoding, Headers.filter_set hconnection]

theorem fieldsOf_connection :
    (completeHeaders config host bodyLength h).fieldsOf "Connection" =
      [⟨"Connection", "close"⟩] := by
  have hcoding : ∀ f : Field, f.named "Transfer-Encoding" = true → f.named "Connection" = false :=
    fun _ => Field.not_named_of_ne (by decide)
  have hlength : ∀ f : Field, f.named "Content-Length" = true → f.named "Connection" = false :=
    fun _ => Field.not_named_of_ne (by decide)
  rw [completeHeaders_eq, Headers.fieldsOf]
  split
  · rw [Headers.filter_without hlength, Headers.filter_without hcoding]
    exact Headers.fieldsOf_set
  · rw [Headers.filter_set hlength, Headers.filter_without hcoding]
    exact Headers.fieldsOf_set

theorem fieldsOf_transferEncoding :
    (completeHeaders config host bodyLength h).fieldsOf "Transfer-Encoding" = [] := by
  have hlength : ∀ f : Field, f.named "Content-Length" = true →
      f.named "Transfer-Encoding" = false := fun _ => Field.not_named_of_ne (by decide)
  rw [completeHeaders_eq, Headers.fieldsOf]
  split
  · rw [Headers.filter_without hlength]
    exact Headers.fieldsOf_without
  · rw [Headers.filter_set hlength]
    exact Headers.fieldsOf_without

theorem fieldsOf_contentLength :
    (completeHeaders config host bodyLength h).fieldsOf "Content-Length" =
      if bodyLength = 0 then []
      else [⟨"Content-Length", String.ofList (Text.decimal bodyLength)⟩] := by
  rw [completeHeaders_eq]
  split
  · exact Headers.fieldsOf_without
  · exact Headers.fieldsOf_set

/-! ## What is provided -/

theorem name_of_mem_addedHost {f : Field} (hf : f ∈ addedHost host h) : f.name = "Host" := by
  unfold addedHost at hf
  split at hf
  · cases hf
  · rw [List.mem_singleton.1 hf]

theorem name_of_mem_addedAgent {f : Field} (hf : f ∈ addedAgent config h) :
    f.name = "User-Agent" := by
  unfold addedAgent at hf
  split at hf
  · cases hf
  · obtain ⟨agent, -, rfl⟩ := List.mem_map.1 hf
    rfl

/-! ## Names that do not concern the connection -/

/-- Fields of a name are those that the caller gave and those that are provided. -/
theorem fieldsOf_completeHeaders {name : String}
    (hconnection : Text.sameFolded "Connection" name = false)
    (hcoding : Text.sameFolded "Transfer-Encoding" name = false)
    (hlength : Text.sameFolded "Content-Length" name = false) :
    (completeHeaders config host bodyLength h).fieldsOf name = h.fieldsOf name ++
      ((addedHost host h).filter (·.named name) ++ (addedAgent config h).filter (·.named name)) :=
  filter_completeHeaders (fun _ => Field.not_named_of_ne hconnection)
    (fun _ => Field.not_named_of_ne hcoding) fun _ => Field.not_named_of_ne hlength

/-- What is provided for an absent name stands in place of the caller's fields. -/
theorem fieldsOf_append_of_absent {name : String} {fields : List Field} :
    (h.fieldsOf name ++ if h.contains name then [] else fields) =
      if h.contains name then h.fieldsOf name else fields := by
  split
  · exact List.append_nil _
  · next habsent =>
    rw [Headers.contains_eq_false_iff.1 (Bool.eq_false_iff.2 habsent), List.nil_append]

theorem fieldsOf_host : (completeHeaders config host bodyLength h).fieldsOf "Host" =
    if h.contains "Host" then h.fieldsOf "Host" else [⟨"Host", host⟩] := by
  have hhost : (addedHost host h).filter (·.named "Host") = addedHost host h :=
    List.filter_eq_self.2 fun f hf => name_of_mem_addedHost hf ▸ f.named_self
  have hagent : (addedAgent config h).filter (·.named "Host") = [] := by
    have hne : Text.sameFolded "User-Agent" "Host" = false := by decide
    refine List.filter_eq_nil_iff.2 fun f hf => Bool.eq_false_iff.1 ?_
    exact Field.not_named_of_ne hne (name_of_mem_addedAgent hf ▸ f.named_self)
  rw [fieldsOf_completeHeaders (by decide) (by decide) (by decide), hhost, hagent,
    List.append_nil]
  exact fieldsOf_append_of_absent

theorem fieldsOf_userAgent : (completeHeaders config host bodyLength h).fieldsOf "User-Agent" =
    if h.contains "User-Agent" then h.fieldsOf "User-Agent"
    else config.userAgent.toList.map fun agent => ⟨"User-Agent", agent⟩ := by
  have hhost : (addedHost host h).filter (·.named "User-Agent") = [] := by
    have hne : Text.sameFolded "Host" "User-Agent" = false := by decide
    refine List.filter_eq_nil_iff.2 fun f hf => Bool.eq_false_iff.1 ?_
    exact Field.not_named_of_ne hne (name_of_mem_addedHost hf ▸ f.named_self)
  have hagent : (addedAgent config h).filter (·.named "User-Agent") = addedAgent config h :=
    List.filter_eq_self.2 fun f hf => name_of_mem_addedAgent hf ▸ f.named_self
  rw [fieldsOf_completeHeaders (by decide) (by decide) (by decide), hhost, hagent,
    List.nil_append]
  exact fieldsOf_append_of_absent

/-- The names of the fields on which completing decides. -/
def decidedNames : List String :=
  ["Host", "User-Agent", "Connection", "Transfer-Encoding", "Content-Length"]

/-- The field is of another name, and so the caller's own affair. -/
def isOwn (f : Field) : Bool := !decidedNames.any f.named

theorem isOwn_of_named {f : Field} {name : String} (hname : name ∈ decidedNames)
    (hf : f.named name = true) : isOwn f = false := by
  rw [isOwn, List.any_eq_true.2 ⟨name, hname, hf⟩, Bool.not_true]

theorem filter_isOwn :
    (completeHeaders config host bodyLength h).fields.filter isOwn = h.fields.filter isOwn := by
  have hhost : (addedHost host h).filter isOwn = [] :=
    List.filter_eq_nil_iff.2 fun f hf => Bool.eq_false_iff.1
      (isOwn_of_named (by decide) (name_of_mem_addedHost hf ▸ f.named_self))
  have hagent : (addedAgent config h).filter isOwn = [] :=
    List.filter_eq_nil_iff.2 fun f hf => Bool.eq_false_iff.1
      (isOwn_of_named (by decide) (name_of_mem_addedAgent hf ▸ f.named_self))
  rw [filter_completeHeaders (fun _ => isOwn_of_named (by decide))
    (fun _ => isOwn_of_named (by decide)) (fun _ => isOwn_of_named (by decide)), hhost, hagent,
    List.append_nil, List.append_nil]

instance (f : Field) : Decidable (Kept f) := inferInstanceAs (Decidable (_ ∧ _ ∧ _))

/-- All that does not concern the connection is in the caller's order, and what is provided
stands behind it. -/
theorem filter_kept :
    ((completeHeaders config host bodyLength h).fields.filter fun f => Kept f) =
      (h.fields.filter fun f => Kept f) ++ (addedHost host h ++ addedAgent config h) := by
  have hhost : ((addedHost host h).filter fun f => Kept f) = addedHost host h := by
    refine List.filter_eq_self.2 fun f hf => decide_eq_true ?_
    rw [Kept, Field.named, Field.named, Field.named, name_of_mem_addedHost hf]
    decide
  have hagent : ((addedAgent config h).filter fun f => Kept f) = addedAgent config h := by
    refine List.filter_eq_self.2 fun f hf => decide_eq_true ?_
    rw [Kept, Field.named, Field.named, Field.named, name_of_mem_addedAgent hf]
    decide
  rw [filter_completeHeaders, hhost, hagent]
  · exact fun f hf => decide_eq_false fun hkept => Bool.eq_false_iff.1 hkept.1 hf
  · exact fun f hf => decide_eq_false fun hkept => Bool.eq_false_iff.1 hkept.2.1 hf
  · exact fun f hf => decide_eq_false fun hkept => Bool.eq_false_iff.1 hkept.2.2 hf

/-! ## The whole -/

/-- What a request to a host carries whose fields were completed. -/
structure Completed (spec : RequestSpec) (config : Config) (site : Url.Host) (r : Request) : Prop
    where
  /-- The connection is for one exchange. -/
  connection : r.headers.fieldsOf "Connection" = [⟨"Connection", "close"⟩]
  /-- The body is sent whole. -/
  coding : r.headers.fieldsOf "Transfer-Encoding" = []
  /-- The length is that of the body, and there is none without a body. -/
  length : r.headers.fieldsOf "Content-Length" =
    if r.body = [] then []
    else [⟨"Content-Length", String.ofList (Text.decimal r.body.length)⟩]
  /-- The caller's Host fields, or the one of the URL. -/
  host : r.headers.fieldsOf "Host" =
    if spec.headers.contains "Host" then spec.headers.fieldsOf "Host"
    else [⟨"Host", hostField site r.url.port⟩]
  /-- The caller's User-Agent fields, or the one that is configured. -/
  agent : r.headers.fieldsOf "User-Agent" =
    if spec.headers.contains "User-Agent" then spec.headers.fieldsOf "User-Agent"
    else config.userAgent.toList.map fun agent => ⟨"User-Agent", agent⟩
  /-- Fields of other names are the caller's. -/
  own : r.headers.fields.filter isOwn = spec.headers.fields.filter isOwn
  /-- All that does not concern the connection is in the caller's order, and what was provided
  stands behind it. -/
  order : (r.headers.fields.filter fun f => Kept f) =
    (spec.headers.fields.filter fun f => Kept f) ++
      (addedHost (hostField site r.url.port) spec.headers ++ addedAgent config spec.headers)

end Request

/-- A prepared request has the body of the spec, and its fields are the caller's, whatever they
are, completed. -/
theorem completed_of_prepare {spec : RequestSpec} {config : Config} {r : Request}
    (h : prepare spec config = .ok r) :
    r.body = spec.body.getD [] ∧
      ∃ site, r.url.host = some site ∧ Request.Completed spec config site r := by
  obtain ⟨site, hprepared⟩ := prepare_ok h
  have hheaders := hprepared.headers
  refine ⟨hprepared.body, site, hprepared.urlHost, ?_⟩
  constructor
  case connection => rw [hheaders, Request.fieldsOf_connection]
  case coding => rw [hheaders, Request.fieldsOf_transferEncoding]
  case length =>
    rw [hheaders, Request.fieldsOf_contentLength]
    exact if_congr List.length_eq_zero_iff rfl rfl
  case host => rw [hheaders, Request.fieldsOf_host]
  case agent => rw [hheaders, Request.fieldsOf_userAgent]
  case own => rw [hheaders, Request.filter_isOwn]
  case order => rw [hheaders, Request.filter_kept]

/-- Fields that were added, set and removed in several casings, with a second Connection and
lengths that are not those of the body. -/
theorem completed_of_prepare_casings :
    let headers := ((((((((Headers.empty.add "X" "1").add "CONNECTION" "keep-alive").add
      "content-length" "9").add "user-agent" "a").add "x" "2").add "connection" "b").add
      "Content-LENGTH" "7").add "transfer-encoding" "chunked").without "y"
    let spec : RequestSpec := ⟨.post, some "http://h:81/", headers, some [1, 2, 3]⟩
    let config : Config := { userAgent := some "t" }
    ∃ r, prepare spec config = .ok r ∧ r.headers = ⟨[⟨"X", "1"⟩, ⟨"Connection", "close"⟩,
        ⟨"Content-Length", "3"⟩, ⟨"user-agent", "a"⟩, ⟨"x", "2"⟩, ⟨"Host", "h:81"⟩]⟩ ∧
      ∃ site, r.url.host = some site ∧ Request.Completed spec config site r := by
  intro headers spec config
  let url : Url := ⟨"http".toList, [], [], some (.name ['h']), some 81, .segments [[]], none, none⟩
  let r : Request := ⟨.post, url, "/", ⟨[⟨"X", "1"⟩, ⟨"Connection", "close"⟩,
    ⟨"Content-Length", "3"⟩, ⟨"user-agent", "a"⟩, ⟨"x", "2"⟩, ⟨"Host", "h:81"⟩]⟩, [1, 2, 3],
    ⟨"h", 81, false⟩⟩
  have hprepare : prepare spec config = .ok r := by decide
  exact ⟨r, hprepare, rfl, (completed_of_prepare hprepare).2⟩

end Http1Client
