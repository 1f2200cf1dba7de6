import Http1Client.Proofs.Exchange.Limit
import Http1Client.Proofs.Request.Prepared

/-!
# Where the fields of a message come from

Every field that is delivered stands on a line of the stream, as a header or as a trailer
(`spelled_step`, `spelled_settle`): its name is a token, and its value is what follows the colon,
without the blanks at both ends. Interim responses leave no fields behind.

A line ends at CR LF only. So a CR or an LF alone can stand in a value, where a request is not
allowed to have one, and it is the only thing that a request would not be allowed
(`delivered_fields`).
-/

namespace Http1Client

/-! ## Fields among events -/

/-- The field that is reported. -/
def Event.field? : Event → Option Field
  | .header name value | .trailer name value => some ⟨name, value⟩
  | _ => none

/-- Events add their fields to those of a draft. -/
theorem Draft.fields_deliver {d d' : Draft} {events : List Event}
    (h : collector.deliver d events = (d', none)) :
    d'.headers.fields = d.headers.fields ++ events.filterMap Event.field? := by
  induction events generalizing d with
  | nil =>
    cases h
    exact (List.append_nil _).symm
  | cons event events ih =>
    -- A field joins those of the draft before the events after it are delivered.
    have hfield (name value : String) (h : collector.deliver
        { d with headers := d.headers.add name value } events = (d', none)) :
        d'.headers.fields =
          d.headers.fields ++ (⟨name, value⟩ :: events.filterMap Event.field?) := by
      rw [ih h, Headers.add, List.append_assoc]
      rfl
    have hother (e : Draft) (he : e.headers = d.headers)
        (h : collector.deliver e events = (d', none)) :
        d'.headers.fields = d.headers.fields ++ events.filterMap Event.field? := by
      rw [ih h, he]
    cases event with
    | body data => exact hother { d with body := d.body ++ data } rfl (deliver_body_none h).2
    | header name value => exact hfield name value h
    | trailer name value => exact hfield name value h
    | status code reason => exact hother { d with status := some ⟨code, reason⟩ } rfl h
    | complete => exact hother { d with complete := true } rfl h

namespace Decoder

/-- What says a field is spelled as a field line. -/
theorem exists_of_saysField {s : String} {name value : List Char}
    (h : SaysField s.toList name value) :
    ∃ l : FieldLine, s = l.text ∧ isToken l.name.toList = true ∧
      l.field = ⟨String.ofList name, String.ofList value⟩ := by
  generalize htext : s.toList = text at h
  obtain ⟨htoken, rest⟩ := h
  refine ⟨⟨String.ofList name, String.ofList rest⟩, String.toList_injective ?_, ?_, ?_⟩
  · rw [htext]
    simp [FieldLine.text]
  · rw [String.toList_ofList]
    exact htoken
  · rw [FieldLine.field, String.toList_ofList]

/-- A line gives no field, or the field that is spelled on it. -/
theorem fields_of_useLine {phase next : Phase} {s : String} {events : List Event}
    (hphase : phase.readsLine = true) (h : phase.useLine s.toList = .ok (next, events)) :
    events.filterMap Event.field? = [] ∨ ∃ l : FieldLine, l.text = s ∧
      isToken l.name.toList = true ∧ events.filterMap Event.field? = [l.field] := by
  have hfield {name value : List Char} (hread : SaysField s.toList name value) :
      ∃ l : FieldLine, l.text = s ∧ isToken l.name.toList = true ∧
        [⟨String.ofList name, String.ofList value⟩] = [l.field] := by
    obtain ⟨l, rfl, htoken, hl⟩ := exists_of_saysField hread
    exact ⟨l, rfl, htoken, by rw [hl]⟩
  cases uses_of_useLine hphase h with
  | header _ =>
    rcases says_of_useLine rfl h with rfl | ⟨_, htold, -, hevents⟩
    · cases h
    · rw [hevents]
      cases htold with
      | header hread => exact .inr (hfield hread)
  | trailer _ =>
    rcases says_of_useLine rfl h with rfl | ⟨_, htold, -, hevents⟩
    · cases h
    · rw [hevents]
      cases htold with
      | trailer hread => exact .inr (hfield hread)
  | _ => exact .inl rfl

/-- A pass reports no field, or the field of the line that it uses up. -/
theorem goes_fields {phase next : Phase} {bytes left : Bytes} {events : List Event}
    (h : Goes phase bytes next left events) :
    events.filterMap Event.field? = [] ∨ ∃ l : FieldLine, l.Readable ∧ bytes = l.wire ++ left ∧
      events.filterMap Event.field? = [l.field] := by
  cases h with
  | line hphase hcut huse =>
    obtain ⟨s, rfl, hline, hbytes⟩ := exists_of_takeLine hcut
    rcases fields_of_useLine hphase huse with hnone | ⟨l, rfl, htoken, hfield⟩
    · exact .inl hnone
    · refine .inr ⟨l, ⟨htoken, hline⟩, ?_, hfield⟩
      rw [FieldLine.wire, Request.line, List.append_assoc]
      exact hbytes
  | _ => exact .inl rfl

end Decoder

namespace Intake

variable {method : Method} {stream : Bytes} {i next : Intake} {lines : List FieldLine}

/-- The fields of the draft are those of lines in the stream, of which the end is left. -/
structure Spelled (stream : Bytes) (i : Intake) (lines : List FieldLine) : Prop where
  fields : i.draft.headers.fields = lines.map FieldLine.field
  written : ∀ l ∈ lines, l.Readable ∧ l.wire <:+: stream
  left : i.left <:+ stream

theorem spelled_start (limit : Nat) (stream : Bytes) :
    ((start limit).append stream).Spelled stream [] := ⟨rfl, nofun, List.suffix_rfl⟩

/-- The choice of a framing adds no fields. -/
theorem headers_frame (draft : Draft) (framing : Framing) :
    (Draft.collector.deliver draft (Decoder.frame .headersDone framing).2).1.headers =
      draft.headers := by
  cases framing with
  | sized n => cases n <;> rfl
  | _ => rfl

theorem spelled_step {skipped : Option Nat} (h : i.Spelled stream lines)
    (hstep : step method i = .again next skipped) : ∃ lines, next.Spelled stream lines := by
  obtain ⟨hfields, hwritten, hleft⟩ := h
  have hnext : next.left <:+ stream := (step_again_suffix hstep).trans hleft
  rcases step_again hstep with ⟨events, hpass, hdeliver, -⟩ | ⟨-, hhead⟩
  · have hdraft := Draft.fields_deliver hdeliver
    rcases Decoder.goes_fields (Decoder.goes_of_pass hpass) with
      hnone | ⟨l, hreadable, hbytes, hfield⟩
    · rw [hnone, List.append_nil, hfields] at hdraft
      exact ⟨lines, hdraft, hwritten, hnext⟩
    · rw [hfield, hfields] at hdraft
      have hwire : l.wire <:+: stream :=
        (hbytes ▸ List.prefix_append l.wire next.left).isInfix.trans hleft.isInfix
      refine ⟨lines ++ [l], by rw [List.map_append]; exact hdraft, ?_, hnext⟩
      exact List.forall_mem_append.2 ⟨hwritten, List.forall_mem_singleton.2 ⟨hreadable, hwire⟩⟩
  · unfold onHead at hhead
    split at hhead
    · -- The fields of an interim response are forgotten.
      cases hhead
      exact ⟨[], rfl, nofun, hnext⟩
    · split at hhead
      · cases hhead
      · next framing _ =>
        split at hhead
        · cases hhead
        · cases hhead
          refine ⟨lines, ?_, hwritten, hnext⟩
          exact (congrArg Headers.fields (headers_frame i.draft framing)).trans hfields

/-- Where settling comes to more bytes or to the end, the fields are still those of lines. -/
theorem spelled_settle (h : i.Spelled stream lines) {rest : Intake}
    (hsettle : (settle method i).2 = .hungry rest ∨ (settle method i).2 = .complete rest) :
    ∃ lines, rest.Spelled stream lines := by
  induction i using step_induction method generalizing lines with
  | along i ih =>
  cases hstep : step method i with
  | again next skipped =>
    rw [settle_of_again hstep] at hsettle
    obtain ⟨lines', hnext⟩ := spelled_step h hstep
    exact ih next skipped hstep hnext hsettle
  | hungry rest' =>
    rw [settle_of_hungry hstep] at hsettle
    rcases hsettle with hsettle | hsettle <;> cases hsettle
    exact ⟨lines, h⟩
  | complete rest' =>
    rw [settle_of_complete hstep] at hsettle
    rcases hsettle with hsettle | hsettle <;> cases hsettle
    exact ⟨lines, h⟩
  | failed failure =>
    rw [settle_of_failed hstep] at hsettle
    rcases hsettle with hsettle | hsettle <;> cases hsettle

theorem headers_of_toMessage {draft : Draft} {m : Message} (h : draft.toMessage = .ok m) :
    m.headers = draft.headers := by
  unfold Draft.toMessage at h
  split at h
  · cases h
    rfl
  · cases h

/-- A message has the fields of the draft at which reading has ended. -/
theorem headers_of_conclude {ending : Option Stop} {settled : Settled} {m : Message}
    (h : conclude ending settled = .done (.ok m)) :
    ∃ rest : Intake, (settled = .hungry rest ∨ settled = .complete rest) ∧
      m.headers = rest.draft.headers := by
  cases settled with
  | hungry rest =>
    refine ⟨rest, .inl rfl, ?_⟩
    rcases ending with _ | _ | _
    · have hend : rest.atEnd = .ok m := Wait.done.inj h
      unfold atEnd at hend
      split at hend
      · cases hend
      · next hfinish =>
        rw [headers_of_toMessage hend]
        unfold Decoder.finish at hfinish
        split at hfinish <;> cases hfinish <;> rfl
    · cases h
    · cases h
  | complete rest => exact ⟨rest, .inr rfl, headers_of_toMessage (Wait.done.inj h)⟩
  | failed failure => cases h

theorem delivered_fields {ending : Option Stop} {limit : Nat} {reads : List Bytes} {m : Message}
    (h : (readAll method ending (start limit) reads).2 = .done (.ok m)) :
    ∃ lines : List FieldLine, m.headers.fields = lines.map FieldLine.field ∧
      (∀ l ∈ lines, l.Readable ∧ l.wire <:+: reads.flatten) ∧
      ((∀ f ∈ m.headers.fields, Request.fieldAllowed f = true) ↔
        ∀ l ∈ lines, l.field.value.toList.any Request.isLineBreak = false) := by
  have hwhole := readAll_eq_whole method ending reads (start limit)
    (.inl fun failure hfailed => by rw [h] at hfailed; cases hfailed)
  obtain ⟨rest, hsettle, hheaders⟩ := headers_of_conclude (hwhole.symm.trans h)
  obtain ⟨lines, hfields, hwritten, -⟩ := spelled_settle (spelled_start limit _) hsettle
  rw [← hheaders] at hfields
  refine ⟨lines, hfields, hwritten, ?_⟩
  rw [hfields, List.forall_mem_map]
  apply forall₂_congr
  intro l hl
  rw [Request.fieldAllowed_iff]
  exact and_iff_right (hwritten l hl).1.token

/-- A header and a trailer, with blanks around their values and inside. -/
theorem delivered_fields_chunked :
    let r : Rendition := ⟨⟨"1", 200, some "OK", [⟨"Transfer-Encoding", "\tchunked"⟩]⟩,
      .chunked [⟨⟨"1", none⟩, [97]⟩] ⟨"0", none⟩ [⟨"Digest", " a \t b "⟩]⟩
    (readAll .get none (start 1) (r.wire.map fun b => [b])).2 = .done (.ok r.message) ∧
      ∃ lines : List FieldLine, r.message.headers.fields = lines.map FieldLine.field ∧
        (∀ l ∈ lines, l.Readable ∧ l.wire <:+: (r.wire.map fun b => [b]).flatten) ∧
        ((∀ f ∈ r.message.headers.fields, Request.fieldAllowed f = true) ↔
          ∀ l ∈ lines, l.field.value.toList.any Request.isLineBreak = false) := by
  intro r
  have hvalid : r.Valid := by decide
  have hsizes : r.payload.ShortSizes := by decide
  have hbytes : (r.wire.map fun b => [b]).flatten = r.wire := by
    rw [← List.flatMap_def, List.flatMap_singleton']
  have hread : (readAll .get none (start 1) (r.wire.map fun b => [b])).2 = .done (.ok r.message) :=
    readAll_rendition hvalid hsizes rfl 1 nofun hbytes
  exact ⟨hread, delivered_fields hread⟩

/-- An LF alone is no end of line, and is delivered inside a value. -/
theorem delivered_fields_broken :
    let h : Head := ⟨"1", 200, some "OK", [⟨"X", " a\nb"⟩, ⟨"Content-Length", " 0"⟩]⟩
    (readAll .get none (start 0) [h.wire]).2 = .done (.ok ⟨h.status, h.headers, .new []⟩) ∧
      ¬ ∀ f ∈ h.headers.fields, Request.fieldAllowed f = true := by
  intro h
  have hreadable : h.Readable := by decide
  have hshort : ∀ n ∈ h.lengths, n < maxLine := by decide
  have hchoose : Framing.choose .get (headDraft 0 h).code (headDraft 0 h).headers =
      .ok (.sized 0) := by decide
  have hleads : Leads .get Short ⟨.statusLine, h.wire ++ [], .start 0⟩ _ :=
    (leads_head 0 hreadable hshort []).trans (leads_framing rfl hchoose rfl [])
  have hreads : [h.wire].flatten = h.wire ++ [] := List.flatten_cons
  have hread : (readAll .get none (start 0) [h.wire]).2 = _ :=
    readAll_of_complete hleads hreads none
  exact ⟨hread, by decide⟩

end Intake

end Http1Client
