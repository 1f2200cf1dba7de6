import Http1Client.Proofs.Response.Forms
import Http1Client.Proofs.Response.Numbers
import Http1Client.Proofs.Response.Reply

/-!
# Responses in any valid spelling

A reply is written in one way, but the grammar of messages leaves choices to whoever writes
one: the version, a status line without a reason, blanks around values, spaces and tabs around
numbers, several fields for one length, other codings in front of chunks. A rendition is a
response with all these choices made, and what it means is read off it: `Head.status`,
`FieldLine.field`, `Payload.body`.

A head is readable if its lines can be taken, which is a little more than to be valid: a line
may be as long as a line can be, and a CR or an LF may stand in it alone. Each line of a
readable head is used for what it means (`onStatusLine_readable` and its companions), as are
the size lines of a valid rendition, and the framing that is chosen is the one that was used
(`choose_declared`). A reply is a valid rendition (`Reply.rendition_valid`).
-/

namespace Http1Client

/-! ## Spellings -/

/-- A field line. Blanks around the value belong to the spelling. -/
structure FieldLine where
  name : String
  value : String

namespace FieldLine

/-- The line without its end. -/
def text (l : FieldLine) : String := l.name ++ ":" ++ l.value

/-- The line with its end. -/
def wire (l : FieldLine) : Bytes := Request.line l.text

/-- The field that is meant. -/
def field (l : FieldLine) : Field := ⟨l.name, String.ofList (Text.trim l.value.toList)⟩

/-- A name that is a token, on a line that can be taken. -/
@[mk_iff]
structure Readable (l : FieldLine) : Prop where
  token : isToken l.name.toList = true
  line : OneLine l.text

/-- A name that is a token, on a line that is short enough. -/
@[mk_iff]
structure Valid (l : FieldLine) : Prop where
  token : isToken l.name.toList = true
  line : ShortLine l.text

theorem Valid.readable {l : FieldLine} (h : l.Valid) : l.Readable := ⟨h.token, h.line.oneLine⟩

end FieldLine

/-- A response up to the blank line after its fields. -/
structure Head where
  /-- What follows `HTTP/1.` in the version. -/
  version : String
  code : Nat
  /-- What follows the space after the code, if there is one. -/
  reason : Option String
  fields : List FieldLine

namespace Head

/-- The status line without its end. -/
def text (h : Head) : String :=
  "HTTP/1." ++ h.version ++ " " ++ String.ofList (Text.decimal h.code) ++
    (h.reason.map (" " ++ ·)).getD ""

/-- The status line, the field lines and the blank line after them. -/
def wire (h : Head) : Bytes :=
  Request.line h.text ++ (h.fields.flatMap FieldLine.wire ++ Bytes.crlf)

/-- The status that is meant. -/
def status (h : Head) : Status :=
  ⟨h.code, String.ofList (Text.trim (h.reason.getD "").toList)⟩

/-- The fields that are meant. -/
def headers (h : Head) : Headers := ⟨h.fields.map FieldLine.field⟩

/-- How many bytes the lines have before their ends, the blank line included. -/
def lengths (h : Head) : List Nat :=
  (Utf8.encode h.text).length :: h.fields.map (fun l => (Utf8.encode l.text).length) ++ [0]

/-- A code of three digits, and lines that can be taken. -/
@[mk_iff]
structure Readable (h : Head) : Prop where
  version : ' ' ∉ h.version.toList
  code : 100 ≤ h.code ∧ h.code ≤ 999
  line : OneLine h.text
  fields : ∀ l ∈ h.fields, l.Readable

/-- A code of three digits, and lines that are short enough. -/
@[mk_iff]
structure Valid (h : Head) : Prop where
  version : ' ' ∉ h.version.toList
  code : 100 ≤ h.code ∧ h.code ≤ 999
  line : ShortLine h.text
  fields : ∀ l ∈ h.fields, l.Valid

theorem Valid.readable {h : Head} (hvalid : h.Valid) : h.Readable :=
  ⟨hvalid.version, hvalid.code, hvalid.line.oneLine, fun l hl => (hvalid.fields l hl).readable⟩

theorem forall_lengths {h : Head} {fits : Nat → Prop} : (∀ n ∈ h.lengths, fits n) ↔
    fits (Utf8.encode h.text).length ∧ (∀ l ∈ h.fields, fits (Utf8.encode l.text).length) ∧
      fits 0 := by
  simp [lengths, or_imp, forall_and]

/-- The lines of a valid head are shorter than a line may be. -/
theorem Valid.short {h : Head} (hvalid : h.Valid) : ∀ n ∈ h.lengths, n < maxLine :=
  forall_lengths.2 ⟨hvalid.line.short, fun l hl => (hvalid.fields l hl).line.short,
    shortLine_empty.short⟩

end Head

/-- The size line is spelled as the number, before the semicolon if there is one. -/
@[mk_iff]
structure SizeLine.Spells (l : SizeLine) (size : Nat) : Prop where
  size : Text.Spelled 16 l.digits.toList size
  plain : l.text.toList.any Request.isLineBreak = false

/-- A body as it is sent after the head. -/
inductive Payload where
  | sized (body : Bytes)
  /-- The chunks, the size line of the last one, which has no data, and the trailers. -/
  | chunked (chunks : List Chunk) (last : SizeLine) (trailers : List FieldLine)
  | untilClose (body : Bytes)

namespace Payload

/-- The body that is sent. -/
def body : Payload → Bytes
  | .sized body => body
  | .chunked chunks _ _ => chunks.flatMap (·.data)
  | .untilClose body => body

/-- The fields after the body. -/
def trailers : Payload → List Field
  | .chunked _ _ trailers => trailers.map FieldLine.field
  | _ => []

/-- The bytes after the head. -/
def wire : Payload → Bytes
  | .sized body => body
  | .chunked chunks last trailers =>
    chunks.flatMap Chunk.wire ++
      (Request.line last.text ++ (trailers.flatMap FieldLine.wire ++ Bytes.crlf))
  | .untilClose body => body

/-- The framing that is used. -/
def framing : Payload → Framing
  | .sized body => .sized body.length
  | .chunked _ _ _ => .chunked
  | .untilClose _ => .untilClose

/-- Chunks have data, sizes are spelled by the grammar, and trailers are valid. -/
def Fits : Payload → Prop
  | .chunked chunks last trailers =>
    (∀ c ∈ chunks, c.data ≠ [] ∧ c.size.Spells c.data.length) ∧ last.Spells 0 ∧
      ∀ l ∈ trailers, l.Valid
  | _ => True

/-- The lines before the chunks are shorter than a line may be. -/
def ShortSizes : Payload → Prop
  | .chunked chunks last _ =>
    (∀ c ∈ chunks, (Utf8.encode c.size.text).length < maxLine) ∧
      (Utf8.encode last.text).length < maxLine
  | _ => True

/-- The fields say how the body is delimited: every length declared is that of the body,
unless there is a transfer coding, of which the last is `chunked` exactly for chunks. -/
def Declared (headers : Headers) : Payload → Prop
  | .sized body =>
    headers.getAll "Transfer-Encoding" = [] ∧ headers.getAll "Content-Length" ≠ [] ∧
      ∀ m ∈ Framing.lengthMembers headers, Text.Spelled 10 m body.length
  | .chunked _ _ _ =>
    ∃ coding ∈ (headers.getAll "Transfer-Encoding").getLast?,
      Text.lower (Framing.lastMember coding) = "chunked".toList
  | .untilClose _ =>
    (∃ coding ∈ (headers.getAll "Transfer-Encoding").getLast?,
      Text.lower (Framing.lastMember coding) ≠ "chunked".toList) ∨
    headers.getAll "Transfer-Encoding" = [] ∧ headers.getAll "Content-Length" = []

end Payload

/-- A response with its spelling. -/
structure Rendition where
  head : Head
  payload : Payload

namespace Rendition

/-- The bytes of a response. -/
def wire (r : Rendition) : Bytes := r.head.wire ++ r.payload.wire

/-- The message that is meant: trailers are fields after the header fields. -/
def message (r : Rendition) : Message :=
  ⟨r.head.status, ⟨r.head.headers.fields ++ r.payload.trailers⟩, .new r.payload.body⟩

/-- A response written by the rules. -/
@[mk_iff]
structure Valid (r : Rendition) : Prop where
  head : r.head.Valid
  payload : r.payload.Fits
  declared : r.payload.Declared r.head.headers

end Rendition

/-! The rules can be checked. -/

instance (l : FieldLine) : Decidable l.Readable := decidable_of_iff _ l.readable_iff.symm

instance (h : Head) : Decidable h.Readable := decidable_of_iff _ h.readable_iff.symm

instance (l : FieldLine) : Decidable l.Valid := decidable_of_iff _ l.valid_iff.symm

instance (h : Head) : Decidable h.Valid := decidable_of_iff _ h.valid_iff.symm

instance (l : SizeLine) (size : Nat) : Decidable (l.Spells size) :=
  decidable_of_iff _ (l.spells_iff size).symm

instance (p : Payload) : Decidable p.Fits :=
  match p with
  | .sized _ => .isTrue trivial
  | .chunked _ _ _ => inferInstanceAs (Decidable (_ ∧ _ ∧ _))
  | .untilClose _ => .isTrue trivial

instance (p : Payload) : Decidable p.ShortSizes :=
  match p with
  | .sized _ => .isTrue trivial
  | .chunked _ _ _ => inferInstanceAs (Decidable (_ ∧ _))
  | .untilClose _ => .isTrue trivial

instance (headers : Headers) (p : Payload) : Decidable (p.Declared headers) :=
  match p with
  | .sized _ => inferInstanceAs (Decidable (_ ∧ _ ∧ _))
  | .chunked _ _ _ => inferInstanceAs (Decidable (∃ coding ∈ _, _))
  | .untilClose _ => inferInstanceAs (Decidable ((∃ coding ∈ _, _) ∨ _))

instance (r : Rendition) : Decidable r.Valid := decidable_of_iff _ r.valid_iff.symm

/-! ## Lines -/

theorem SizeLine.Spells.line {l : SizeLine} {size : Nat} (h : l.Spells size)
    (hshort : (Utf8.encode l.text).length < maxLine) : ShortLine l.text := ⟨h.plain, hshort⟩

namespace Decoder

/-- A status line says its code and its reason without the blanks around it. -/
theorem saysStatus_readable {h : Head} (hreadable : h.Readable) :
    SaysStatus h.text.toList h.code (Text.trim (h.reason.getD "").toList) := by
  have hversion : ' ' ∉ versionMark ++ h.version.toList := by
    intro hmem
    rcases List.mem_append.1 hmem with hmem | hmem
    · exact absurd hmem (by decide)
    · exact hreadable.version hmem
  have hmark : versionMark <+: versionMark ++ h.version.toList := List.prefix_append _ _
  have hcode := Text.threeDigits_decimal hreadable.code
  have htext : h.text.toList = (versionMark ++ h.version.toList) ++
      ' ' :: (Text.decimal h.code ++ ((h.reason.map (" " ++ ·)).getD "").toList) := by
    simp [Head.text, versionMark]
  rw [htext]
  -- The code ends at a space or with the line; in the second case there is no reason.
  cases h.reason with
  | none =>
    have hline := SaysStatus.bare hmark hversion hcode
    rw [← List.append_nil (Text.decimal h.code)] at hline
    exact hline
  | some reason =>
    have hline := SaysStatus.reason hmark hversion hcode reason.toList
    simpa using hline

/-- It is used for what it says. -/
theorem onStatusLine_readable {h : Head} (hreadable : h.Readable) :
    onStatusLine h.text.toList = .ok (.headers, [.status h.status.code h.status.reason]) :=
  (Says.status (saysStatus_readable hreadable)).use

/-- A field line says its name and its value without the blanks around it. -/
theorem saysField_readable {l : FieldLine} (h : l.Readable) :
    SaysField l.text.toList l.name.toList (Text.trim l.value.toList) := by
  have htext : l.text.toList = l.name.toList ++ ':' :: l.value.toList := by
    simp [FieldLine.text]
  rw [htext]
  exact .mk h.token l.value.toList

/-- A header line is used for its field. -/
theorem onHeaderLine_readable {l : FieldLine} (h : l.Readable) :
    onHeaderLine l.text.toList = .ok (.headers, [.header l.field.name l.field.value]) := by
  have hsaid := Says.header (saysField_readable h)
  rw [String.ofList_toList] at hsaid
  exact hsaid.use

/-- A trailer line is used for its field. -/
theorem onTrailerLine_readable {l : FieldLine} (h : l.Readable) :
    onTrailerLine l.text.toList = .ok (.trailers, [.trailer l.field.name l.field.value]) := by
  have hsaid := Says.trailer (saysField_readable h)
  rw [String.ofList_toList] at hsaid
  exact hsaid.use

/-- A size line is used for its number, whatever follows the semicolon. -/
theorem onSizeLine_spells {l : SizeLine} {size : Nat} (h : l.Spells size) :
    onSizeLine l.text.toList = .ok (if size = 0 then .trailers else .chunkData size, []) := by
  refine onSizeLine_of_reads ?_
  -- Digits, spaces and tabs are no semicolon, so the line is cut behind all of them.
  have hmark : ';' ∉ l.digits.toList := by
    intro hmem
    rcases Text.cases_of_mem_spelled h.size hmem with (hspace | htab) | hdigit
    · cases hspace
    · cases htab
    · exact absurd hdigit (by decide)
  have hcut : (Text.cutAt ';' l.text.toList).1 = l.digits.toList := by
    unfold SizeLine.text
    cases l.extension with
    | none => rw [Text.cutAt_of_not_mem hmark]
    | some extension =>
      have htext : (l.digits ++ ";" ++ extension).toList =
          l.digits.toList ++ ';' :: extension.toList := by simp
      simp only [htext, Text.cutAt_append hmark]
  rw [hcut]
  exact ((Text.spelled_iff (Nat.le_refl _)).1 h.size).1

end Decoder

/-! ## The framing -/

namespace Framing

/-- The framing that is declared is chosen. -/
theorem choose_declared {method : Method} {code : Nat} {headers : Headers} {p : Payload}
    (hbody : bodiless method code = false) (h : p.Declared headers) :
    choose method code headers = .ok p.framing := by
  cases p with
  | sized body =>
    obtain ⟨hcoding, hvalues, hmembers⟩ := h
    exact choose_sized_iff.2 ⟨⟨hbody, hcoding, hvalues⟩, fun m hm =>
      ((Text.spelled_iff (by omega)).1 (hmembers m hm)).1⟩
  | chunked chunks last trailers =>
    obtain ⟨coding, hcoding, hlast⟩ := h
    unfold choose
    rw [hbody, hcoding]
    dsimp only
    rw [hlast]
    rfl
  | untilClose body =>
    rcases h with ⟨coding, hcoding, hlast⟩ | ⟨hcoding, hvalues⟩
    · unfold choose
      rw [hbody, hcoding]
      simp only [beq_iff_eq, if_neg hlast, Bool.false_eq_true, if_false]
      rfl
    · rw [choose_eq_agreedLength hbody hcoding, hvalues]
      rfl

/-- A value that is a length has one member, which is the length. -/
theorem members_decimal (n : Nat) : members [String.ofList (Text.decimal n)] =
    [(String.ofList (Text.decimal n), Text.decimal n)] := by
  have hcomma : ',' ∉ Text.decimal n :=
    Text.not_mem_of_isDigit (fun _ hc => Text.isDigit_decimal hc) (by decide)
  simp [members, Text.split_of_not_mem hcomma]

theorem choose_bodiless {method : Method} {code : Nat} (headers : Headers)
    (h : bodiless method code = true) : choose method code headers = .ok .empty := if_pos h

end Framing

/-! ## Replies -/

/-- The field on its line, with a space before the value. -/
def FieldLine.ofField (f : Field) : FieldLine := ⟨f.name, " " ++ f.value⟩

/-- The body as it is sent. -/
def Transfer.payload : Transfer → Payload
  | .sized body => .sized body
  | .chunked chunks last trailers => .chunked chunks last (trailers.map .ofField)
  | .untilClose body => .untilClose body

/-- The reply as it is written. -/
def Reply.rendition (r : Reply) : Rendition :=
  ⟨⟨String.ofList [r.minor], r.status.code, some r.status.reason, r.headers.map .ofField⟩,
    r.transfer.payload⟩

namespace FieldLine

theorem ofField_text (f : Field) : (ofField f).text = f.name ++ ": " ++ f.value :=
  String.toList_injective (by simp [text, ofField])

theorem ofField_valid {f : Field} (h : FieldFits f) : (ofField f).Valid :=
  ⟨h.token, (ofField_text f).symm ▸ h.line⟩

theorem ofField_field {f : Field} (h : FieldFits f) : (ofField f).field = f := by
  have hvalue : (" " ++ f.value).toList = ' ' :: f.value.toList := by simp
  rw [ofField, field, hvalue, Text.trim_space, h.trimmed, String.ofList_toList]

theorem flatMap_ofField (fields : List Field) :
    (fields.map ofField).flatMap wire = fields.flatMap Request.fieldLine := by
  have hwire : wire ∘ ofField = Request.fieldLine := by
    funext f
    rw [Function.comp_apply, wire, ofField_text, Request.fieldLine]
  rw [List.flatMap_map, ← hwire]
  rfl

theorem map_ofField {fields : List Field} (h : ∀ f ∈ fields, FieldFits f) :
    (fields.map ofField).map field = fields := by
  rw [List.map_map]
  exact (List.map_congr_left fun f hf => ofField_field (h f hf)).trans (List.map_id' fields)

end FieldLine

theorem SizeFits.spells {l : SizeLine} {size : Nat} (h : SizeFits l size)
    (hsize : size < UInt64.size) : l.Spells size := by
  refine ⟨⟨[], l.digits.toList, [], by simp, nofun, h.nonempty, ?_, h.value, hsize⟩, h.line.plain⟩
  exact List.all_eq_true.1 h.digits

namespace Reply

/-- A body is not shorter than one of its chunks. -/
theorem length_chunk_le {chunks : List Chunk} {c : Chunk} (hc : c ∈ chunks) :
    c.data.length ≤ (chunks.flatMap (·.data)).length := by
  obtain ⟨before, after, rfl⟩ := List.append_of_mem hc
  simp only [List.flatMap_append, List.flatMap_cons, List.length_append]
  omega

variable {r : Reply}

theorem rendition_text (r : Reply) : r.rendition.head.text = r.statusText :=
  String.toList_injective (by simp [Head.text, rendition, statusText])

theorem rendition_status (h : r.Valid) : r.rendition.head.status = r.status := by
  show (⟨r.status.code, String.ofList (Text.trim r.status.reason.toList)⟩ : Status) = r.status
  rw [h.trimmed, String.ofList_toList]

theorem rendition_headers (h : r.Valid) : r.rendition.head.headers = ⟨r.headers⟩ :=
  congrArg Headers.mk (FieldLine.map_ofField h.fields)

theorem rendition_valid (h : r.Valid) (hbody : r.transfer.body.length < UInt64.size) :
    r.rendition.Valid where
  head :=
    { version := by
        intro hmem
        have hspace : ' ' = r.minor := by simpa [rendition] using hmem
        have := h.minor
        rw [← hspace] at this
        cases this
      code := ⟨by have := h.final; show 100 ≤ r.status.code; omega, h.final.2⟩
      line := (rendition_text r).symm ▸ h.line
      fields := List.forall_mem_map.2 fun f hf => FieldLine.ofField_valid (h.fields f hf) }
  payload := by
    have hfits := h.transfer
    show r.transfer.payload.Fits
    cases htransfer : r.transfer with
    | chunked chunks last trailers =>
      rw [htransfer] at hfits hbody
      obtain ⟨hchunks, hlast, htrailers⟩ := hfits
      refine ⟨fun c hc => ⟨(hchunks c hc).1, (hchunks c hc).2.spells ?_⟩, hlast.spells (by decide),
        List.forall_mem_map.2 fun f hf => FieldLine.ofField_valid (htrailers f hf)⟩
      exact Nat.lt_of_le_of_lt (length_chunk_le hc) hbody
    | _ => trivial
  declared := by
    have hdeclared := h.declared
    rw [rendition_headers h]
    show r.transfer.payload.Declared ⟨r.headers⟩
    cases htransfer : r.transfer with
    | sized body =>
      rw [htransfer] at hdeclared hbody
      obtain ⟨hcoding, hlength⟩ := hdeclared
      refine ⟨hcoding, by rw [hlength]; exact nofun, ?_⟩
      rw [Framing.lengthMembers, hlength, Framing.members_decimal]
      exact List.forall_mem_singleton.2 (Text.spelled_decimal hbody)
    | chunked chunks last trailers =>
      rw [htransfer] at hdeclared
      exact ⟨"chunked", by rw [hdeclared.1]; rfl, by decide⟩
    | untilClose body =>
      rw [htransfer] at hdeclared
      exact .inr hdeclared

/-- A reply to a method that allows one has a body. -/
theorem rendition_bodied (h : r.Valid) {method : Method} (hmethod : method ≠ .head) :
    Framing.bodiless method r.rendition.head.code = false := by
  show Framing.bodiless method r.status.code = false
  have hfinal := h.final
  obtain ⟨h204, h304⟩ := h.bodied
  simp only [Framing.bodiless, Bool.or_eq_false_iff, Bool.and_eq_false_iff, beq_eq_false_iff_ne,
    decide_eq_false_iff_not]
  exact ⟨⟨⟨hmethod, .inr (by omega)⟩, h204⟩, h304⟩

theorem rendition_shortSizes (h : r.Valid) : r.rendition.payload.ShortSizes := by
  have hfits := h.transfer
  show r.transfer.payload.ShortSizes
  cases htransfer : r.transfer with
  | chunked chunks last trailers =>
    rw [htransfer] at hfits
    exact ⟨fun c hc => (hfits.1 c hc).2.line.short, hfits.2.1.line.short⟩
  | _ => trivial

theorem rendition_wire (r : Reply) : r.rendition.wire = r.wire := by
  have hhead : r.rendition.head.wire = r.head := by
    rw [Head.wire, rendition_text]
    simp only [rendition, FieldLine.flatMap_ofField, head]
  rw [Rendition.wire, hhead, wire]
  refine congrArg (r.head ++ ·) ?_
  show r.transfer.payload.wire = r.transfer.wire
  cases r.transfer with
  | chunked chunks last trailers =>
    simp only [Transfer.payload, Payload.wire, Transfer.wire, FieldLine.flatMap_ofField]
  | _ => rfl

theorem rendition_trailers (h : r.Valid) : r.rendition.payload.trailers = r.transfer.trailers := by
  have hfits := h.transfer
  show r.transfer.payload.trailers = r.transfer.trailers
  cases htransfer : r.transfer with
  | chunked chunks last trailers =>
    rw [htransfer] at hfits
    exact FieldLine.map_ofField hfits.2.2
  | _ => rfl

theorem rendition_body (r : Reply) : r.rendition.payload.body = r.transfer.body := by
  show r.transfer.payload.body = r.transfer.body
  cases r.transfer <;> rfl

theorem rendition_framing (r : Reply) : r.rendition.payload.framing = r.transfer.framing := by
  show r.transfer.payload.framing = r.transfer.framing
  cases r.transfer <;> rfl

end Reply

end Http1Client
