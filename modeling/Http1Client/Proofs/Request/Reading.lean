import Http1Client.Proofs.Request.Prepared

/-!
# What the other end reads

`Incoming.read?` is how a server takes a request off a stream. The first line is a method, a
target and the version with a space between them; the lines up to the first empty one are
names and values around `: `; and as many bytes as Content-Length says are the body. From a
prepared request, whatever follows it, that is the method, the path, the fields and the body
of the request, and what follows is left (`Incoming.read?_encode`). So two requests that are the
same in their bytes are the same in all of these.
-/

namespace Http1Client

/-- A request as the other end reads it. -/
structure Incoming where
  method : String
  target : String
  headers : Headers
  body : Bytes
  deriving DecidableEq

namespace Incoming

/-! ## Reading -/

/-- The text before the first `: ` and the text after it. -/
def cutAtColon : List Char → Option (List Char × List Char)
  | ':' :: ' ' :: rest => some ([], rest)
  | c :: rest => (cutAtColon rest).map fun (name, value) => (c :: name, value)
  | [] => none

/-- A header field from its line. -/
def field? (line : Bytes) : Option Field := do
  let text ← Utf8.decode? line
  let (name, value) ← cutAtColon text.toList
  some ⟨String.ofList name, String.ofList value⟩

/-- Method and target from the first line. -/
def request? (line : Bytes) : Option (String × String) := do
  let text ← Utf8.decode? line
  let (method, rest) := Text.cutAt ' ' text.toList
  let (target, version) := Text.cutAt ' ' (← rest)
  if version = some "HTTP/1.1".toList then some (String.ofList method, String.ofList target)
  else none

/-- The length of the body: none is said if there is no body. Two values, or one that is not
digits, say no length at all. -/
def length? (h : Headers) : Option Nat :=
  match h.getAll "Content-Length" with
  | [] => some 0
  | [value] =>
    if value.toList.all (Text.isDigit 10) then some (Text.digitsValue 10 value.toList) else none
  | _ => none

/-- Takes a request off the front of the bytes: the request and the bytes left. -/
def read? (bytes : Bytes) : Option (Incoming × Bytes) := do
  let (lines, rest) ← bytes.cutHead
  let (method, target) ← request? (← lines.head?)
  let fields ← lines.tail.mapM field?
  let length ← length? ⟨fields⟩
  if rest.length < length then none
  else some (⟨method, target, ⟨fields⟩, rest.take length⟩, rest.drop length)

/-! ## Lines that were written -/

theorem cutAtColon_append {name : List Char} (h : ':' ∉ name) (value : List Char) :
    cutAtColon (name ++ ':' :: ' ' :: value) = some (name, value) := by
  induction name with
  | nil => rfl
  | cons c name ih =>
    obtain ⟨hc, hname⟩ := not_or.1 (mt List.mem_cons.2 h)
    rw [List.cons_append, cutAtColon, ih hname]
    · rfl
    · exact fun _ heq _ => hc heq.symm

theorem field?_encode {f : Field} (h : isToken f.name.toList = true) :
    field? (Utf8.encode (Request.fieldText f)) = some f := by
  have htext : (Request.fieldText f).toList = f.name.toList ++ ':' :: ' ' :: f.value.toList := by
    simp [Request.fieldText]
  simp only [field?, Utf8.decode?_encode, htext, cutAtColon_append (not_mem_of_isToken h rfl),
    Option.bind_eq_bind, Option.bind_some, String.ofList_toList]

theorem space_not_mem_method {m : Method} (h : Request.methodAllowed m = true) :
    ' ' ∉ m.text.toList := by
  cases m with
  | other text => exact not_mem_of_isToken h rfl
  | _ => decide

theorem request?_encode {r : Request} (hmethod : ' ' ∉ r.method.text.toList)
    (hpath : ' ' ∉ r.path.toList) :
    request? (Utf8.encode r.requestText) = some (r.method.text, r.path) := by
  have htext : r.requestText.toList =
      r.method.text.toList ++ ' ' :: (r.path.toList ++ ' ' :: "HTTP/1.1".toList) := by
    simp [Request.requestText]
  simp only [request?, Utf8.decode?_encode, htext, Text.cutAt_append hmethod,
    Text.cutAt_append hpath, Option.bind_eq_bind, Option.bind_some, if_true, String.ofList_toList]

theorem mapM_field?_encode {fields : List Field}
    (h : ∀ f ∈ fields, isToken f.name.toList = true) :
    (fields.map fun f => Utf8.encode (Request.fieldText f)).mapM field? = some fields := by
  induction fields with
  | nil => rfl
  | cons f fields ih =>
    rw [List.map_cons, List.mapM_cons, field?_encode (h f List.mem_cons_self),
      ih fun g hg => h g (List.mem_cons_of_mem _ hg)]
    rfl

/-! ## The length of the body -/

theorem length?_completeHeaders (config : Config) (host : String) (n : Nat) (h : Headers) :
    length? (Request.completeHeaders config host n h) = some n := by
  -- Whatever lengths the caller gave, in any casing, are gone or replaced by the one.
  unfold Request.completeHeaders
  dsimp only
  split
  · next hn =>
    unfold length?
    rw [Headers.getAll_without, hn]
  · have hdigits : (Text.decimal n).all (Text.isDigit 10) = true :=
      List.all_eq_true.2 fun c hc => Text.isDigit_decimal hc
    unfold length?
    rw [Headers.getAll_set]
    dsimp only
    rw [String.toList_ofList, if_pos hdigits, Text.digitsValue_decimal]

end Incoming

/-! ## Prepared requests -/

namespace Prepared

variable {spec : RequestSpec} {config : Config} {r : Request} {host : Url.Host}

theorem path_visible (h : Prepared spec config r host) : ∀ c ∈ r.path.toList, Url.Visible c := by
  obtain ⟨text, hurl⟩ := h.url
  rw [h.path, String.toList_ofList]
  exact (Url.parse_visible hurl h.known).1

theorem space_not_mem_path (h : Prepared spec config r host) : ' ' ∉ r.path.toList :=
  fun hmem => absurd (h.path_visible ' ' hmem) (by decide)

/-- The lines of the head keep to themselves if the user agent does. -/
theorem unbroken_headLines (h : Prepared spec config r host)
    (hagent : AgentUnbroken spec config) : ∀ l ∈ r.headLines, l.Unbroken := by
  intro l hl
  rcases List.mem_cons.1 hl with rfl | hl
  · exact Request.unbroken_requestText h.method h.path_visible
  · obtain ⟨f, hf, rfl⟩ := List.mem_map.1 hl
    exact Request.unbroken_fieldText ((fieldsAllowed_iff h).2 hagent f hf)

end Prepared

/-- A prepared request is read off the front of its bytes as what it is. -/
theorem Incoming.read?_encode {spec : RequestSpec} {config : Config} {r : Request}
    (h : prepare spec config = .ok r) (hagent : AgentUnbroken spec config) (later : Bytes) :
    read? (r.encode ++ later) = some (⟨r.method.text, r.path, r.headers, r.body⟩, later) := by
  obtain ⟨host, hprepared⟩ := prepare_ok h
  -- No line of the head is empty or ends early, so the head is cut where it was put together.
  have hlines := hprepared.unbroken_headLines hagent
  have hhead : (r.encode ++ later).cutHead = some (r.headLines, r.body ++ later) := by
    rw [Request.encode_eq_lines, List.append_assoc, List.append_assoc]
    exact Bytes.cutHead_lines
      (fun l hl => ⟨Request.ne_nil_of_mem_headLines hl, (hlines l hl).1⟩) _
  have hrequest := request?_encode (space_not_mem_method hprepared.method)
    hprepared.space_not_mem_path
  have hfields := mapM_field?_encode fun f hf =>
    (Request.fieldAllowed_iff.1 ((fieldsAllowed_iff hprepared).2 hagent f hf)).1
  have hlength : length? r.headers = some r.body.length := by
    rw [hprepared.headers]
    exact length?_completeHeaders ..
  have hbody : ¬ (r.body ++ later).length < r.body.length := by
    rw [List.length_append]
    omega
  simp only [read?, hhead, Request.headLines, List.head?_cons, List.tail_cons, hrequest, hfields,
    hlength, if_neg hbody, List.take_left, List.drop_left, Option.bind_eq_bind, Option.bind_some]

/-- The bytes of a prepared request, whatever follows them, say where they end and are read as
its method, path, fields and body, so that no other request has the same bytes. -/
theorem encode_self_delimiting {spec : RequestSpec} {config : Config} {r : Request}
    (h : prepare spec config = .ok r) (hagent : AgentUnbroken spec config) :
    (∀ later, Incoming.read? (r.encode ++ later) =
      some (⟨r.method.text, r.path, r.headers, r.body⟩, later)) ∧
    ∀ spec' config' r', prepare spec' config' = .ok r' → AgentUnbroken spec' config' →
      r'.encode = r.encode →
        r'.method.text = r.method.text ∧ r'.path = r.path ∧ r'.headers = r.headers ∧
          r'.body = r.body := by
  refine ⟨Incoming.read?_encode h hagent, fun spec' config' r' h' hagent' hbytes => ?_⟩
  -- The same bytes cannot be read in two ways.
  have hread := Incoming.read?_encode h hagent []
  rw [← hbytes, Incoming.read?_encode h' hagent' []] at hread
  simp only [Option.some.injEq, Prod.mk.injEq, Incoming.mk.injEq, and_true] at hread
  exact hread

/-- Lengths given by the caller, a value with the mark in it, a body that looks like a
request, and an empty line behind it. -/
theorem encode_self_delimiting_lookalike :
    let body := Utf8.encode "\r\n\r\nGET / HTTP/1.1\r\n\r\n"
    let spec : RequestSpec := ⟨.post, some "http://h/a?b",
      ⟨[⟨"content-LENGTH", "99"⟩, ⟨"X", ": x: y"⟩, ⟨"Content-Length", "7"⟩]⟩, some body⟩
    let config : Config := { userAgent := some "t" }
    ∃ r, prepare spec config = .ok r ∧ AgentUnbroken spec config ∧
      Incoming.read? (r.encode ++ Bytes.crlf) = some (⟨"POST", "/a?b",
        ⟨[⟨"Content-Length", "22"⟩, ⟨"X", ": x: y"⟩, ⟨"Host", "h"⟩, ⟨"User-Agent", "t"⟩,
          ⟨"Connection", "close"⟩]⟩, body⟩, Bytes.crlf) := by
  intro body spec config
  let url : Url := ⟨"http".toList, [], [], some (.name ['h']), none, .segments [['a']],
    some ['b'], none⟩
  let r : Request := ⟨.post, url, "/a?b",
    ⟨[⟨"Content-Length", "22"⟩, ⟨"X", ": x: y"⟩, ⟨"Host", "h"⟩, ⟨"User-Agent", "t"⟩,
      ⟨"Connection", "close"⟩]⟩, body, ⟨"h", 80, false⟩⟩
  have hprepare : prepare spec config = .ok r := by decide
  have hagent : AgentUnbroken spec config := by
    intro agent hsome _
    cases hsome
    decide
  exact ⟨r, hprepare, hagent, (encode_self_delimiting hprepare hagent).1 Bytes.crlf⟩

end Http1Client
