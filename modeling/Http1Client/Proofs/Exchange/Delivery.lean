import Http1Client.Proofs.Exchange.Cuts
import Http1Client.Proofs.Response.Rendition

/-!
# A response is delivered

From the start an intake is led through the bytes of a valid rendition, a line or a stretch
of body at a time (`leads_head`, `leads_framing`, `leads_payload`). Nothing here looks at the
bytes behind a response that says where it ends, and every line is shorter than `maxLine`, so
the pieces in which the bytes arrive do not matter either (`readAll_eq_conclude`).

A body within the limit leads to the message that is meant. Any other body overruns the limit
on the way (`Overruns`): at its declared length, or at the chunk or the piece that is too
much. `readAll_rendition` says which of the two it is.
-/

namespace Http1Client.Intake

variable {method : Method} {i : Intake} {limit : Nat}

/-- Lines short enough to be read in pieces. -/
def Short (n : Nat) : Prop := n < maxLine

theorem short_zero : Short 0 := Nat.zero_lt_succ 8191

/-- The way goes to a declared length or to body bytes over the limit. -/
def Overruns (method : Method) (limit : Nat) (i : Intake) : Prop :=
  ∃ last, Leads method Short i last ∧ last.phase.readsLine = false ∧
    step method last = .failed (.tooLarge limit)

theorem Overruns.of_leads {next : Intake} (h : Leads method Short i next)
    (hnext : Overruns method limit next) : Overruns method limit i := by
  obtain ⟨last, hlast, hfailed⟩ := hnext
  exact ⟨last, h.trans hlast, hfailed⟩

/-! ## Lines -/

section Lines

variable {fits : Nat → Prop}

/-- A line that is written is used up, with what its phase makes of it. -/
theorem leads_line {phase next : Phase} {text : String} {draft draft' : Draft}
    {events : List Event} (hphase : phase.readsLine = true) (hline : OneLine text)
    (hfits : fits (Utf8.encode text).length)
    (huse : phase.useLine text.toList = .ok (next, events))
    (hdeliver : Draft.collector.deliver draft events = (draft', none)) (rest : Bytes) :
    Leads method fits ⟨phase, Request.line text ++ rest, draft⟩ ⟨next, rest, draft'⟩ := by
  have hbytes : Request.line text ++ rest = Utf8.encode text ++ (Bytes.crlf ++ rest) := by
    rw [Request.line, List.append_assoc]
  rw [hbytes]
  have hcut : takeLine phase.lineKind (Utf8.encode text ++ (Bytes.crlf ++ rest)) =
      .line text.toList rest := hline.takeLine rest
  have hpass := Decoder.pass_of_goes (.line hphase hcut huse)
  refine .step (step_of_go hpass hdeliver) (fun _ n hn => ?_) (.refl _)
  rw [hline.crlfAt?] at hn
  cases hn
  exact hfits

/-- Field lines are used up one by one, and the draft takes note of the fields. -/
theorem leads_fields {phase : Phase} (hphase : phase = .headers ∨ phase = .trailers)
    {lines : List FieldLine} (hlines : ∀ l ∈ lines, l.Readable)
    (hfits : ∀ l ∈ lines, fits (Utf8.encode l.text).length) (draft : Draft) (rest : Bytes) :
    Leads method fits ⟨phase, lines.flatMap FieldLine.wire ++ rest, draft⟩
      ⟨phase, rest,
        { draft with headers := ⟨draft.headers.fields ++ lines.map FieldLine.field⟩ }⟩ := by
  -- Each field joins the draft, so the induction is for all drafts.
  induction lines generalizing draft with
  | nil =>
    rw [List.map_nil, List.append_nil]
    exact .refl _
  | cons l lines ih =>
    have hl := hlines l List.mem_cons_self
    have hlength := hfits l List.mem_cons_self
    have hrest := ih (fun k hk => hlines k (List.mem_cons_of_mem _ hk))
      (fun k hk => hfits k (List.mem_cons_of_mem _ hk))
      { draft with headers := draft.headers.add l.field.name l.field.value }
    have hfirst : Leads method fits
        ⟨phase, l.wire ++ (lines.flatMap FieldLine.wire ++ rest), draft⟩
        ⟨phase, lines.flatMap FieldLine.wire ++ rest,
          { draft with headers := draft.headers.add l.field.name l.field.value }⟩ := by
      rcases hphase with rfl | rfl
      · have huse : Phase.headers.useLine _ = _ := Decoder.onHeaderLine_readable hl
        exact leads_line rfl hl.line hlength huse rfl _
      · have huse : Phase.trailers.useLine _ = _ := Decoder.onTrailerLine_readable hl
        exact leads_line rfl hl.line hlength huse rfl _
    rw [List.flatMap_cons, List.append_assoc]
    simpa only [Headers.add, List.append_assoc, List.cons_append, List.nil_append,
      List.map_cons] using hfirst.trans hrest

/-- The blank line that ends a block of fields. -/
theorem leads_blank {phase next : Phase} {draft draft' : Draft} {events : List Event}
    (hphase : phase.readsLine = true) (hfits : fits 0)
    (huse : phase.useLine [] = .ok (next, events))
    (hdeliver : Draft.collector.deliver draft events = (draft', none)) (rest : Bytes) :
    Leads method fits ⟨phase, Bytes.crlf ++ rest, draft⟩ ⟨next, rest, draft'⟩ :=
  show Leads method fits ⟨phase, Request.line "" ++ rest, draft⟩ ⟨next, rest, draft'⟩ from
    leads_line hphase shortLine_empty.oneLine hfits huse hdeliver rest

end Lines

/-- The line before the data of a chunk, or before the trailers. -/
theorem leads_size {l : SizeLine} {size : Nat} (h : l.Spells size)
    (hshort : (Utf8.encode l.text).length < maxLine) (draft : Draft) (rest : Bytes) :
    Leads method Short ⟨.chunkSize, Request.line l.text ++ rest, draft⟩
      ⟨if size = 0 then .trailers else .chunkData size, rest, draft⟩ :=
  have huse : Phase.chunkSize.useLine _ = _ := Decoder.onSizeLine_spells h
  leads_line rfl (h.line hshort).oneLine hshort huse rfl rest

/-! ## The head -/

/-- What a draft holds after a head. -/
def headDraft (limit : Nat) (h : Head) : Draft := ⟨limit, some h.status, h.headers, [], false⟩

/-- The status line, the header fields and the blank line. -/
theorem leads_head {fits : Nat → Prop} (limit : Nat) {h : Head} (hreadable : h.Readable)
    (hfits : ∀ n ∈ h.lengths, fits n) (rest : Bytes) :
    Leads method fits ⟨.statusLine, h.wire ++ rest, .start limit⟩
      ⟨.headersDone, rest, headDraft limit h⟩ := by
  obtain ⟨hline, hlines, hend⟩ := Head.forall_lengths.1 hfits
  have hstatus : Leads method fits
      ⟨.statusLine, Request.line h.text ++
        (h.fields.flatMap FieldLine.wire ++ (Bytes.crlf ++ rest)), .start limit⟩
      ⟨.headers, h.fields.flatMap FieldLine.wire ++ (Bytes.crlf ++ rest),
        ⟨limit, some h.status, .empty, [], false⟩⟩ := by
    have huse : Phase.statusLine.useLine _ = _ := Decoder.onStatusLine_readable hreadable
    exact leads_line rfl hreadable.line hline huse rfl _
  have hfields : Leads method fits
      ⟨.headers, h.fields.flatMap FieldLine.wire ++ (Bytes.crlf ++ rest),
        ⟨limit, some h.status, .empty, [], false⟩⟩
      ⟨.headers, Bytes.crlf ++ rest, headDraft limit h⟩ :=
    leads_fields (.inl rfl) hreadable.fields hlines _ _
  have hblank : Leads method fits ⟨.headers, Bytes.crlf ++ rest, headDraft limit h⟩
      ⟨.headersDone, rest, headDraft limit h⟩ := leads_blank rfl hend rfl rfl rest
  rw [Head.wire, List.append_assoc, List.append_assoc]
  exact (hstatus.trans hfields).trans hblank

/-- The lines of a valid head are short. -/
theorem leads_head_valid (limit : Nat) {h : Head} (hvalid : h.Valid) (rest : Bytes) :
    Leads method Short ⟨.statusLine, h.wire ++ rest, .start limit⟩
      ⟨.headersDone, rest, headDraft limit h⟩ :=
  leads_head limit hvalid.readable hvalid.short rest

/-- The decision after the head of a final response. -/
theorem leads_framing {draft : Draft} {framing : Framing}
    (hfinal : isInterim draft.code = false)
    (hchoose : Framing.choose method draft.code draft.headers = .ok framing)
    (hcheck : draft.checkFraming framing = none) (rest : Bytes) :
    Leads method Short ⟨.headersDone, rest, draft⟩
      ⟨(Decoder.frame .headersDone framing).1, rest,
        (Draft.collector.deliver draft (Decoder.frame .headersDone framing).2).1⟩ := by
  have hstep : step method ⟨.headersDone, rest, draft⟩ =
      .again ⟨(Decoder.frame .headersDone framing).1, rest,
        (Draft.collector.deliver draft (Decoder.frame .headersDone framing).2).1⟩ none := by
    rw [step_headersDone rfl, onHead_of_choose hfinal hchoose hcheck]
  exact .step hstep nofun (.refl _)

/-- A declared length over the limit ends the way. -/
theorem overruns_framing {draft : Draft} {n : Nat} (hfinal : isInterim draft.code = false)
    (hchoose : Framing.choose method draft.code draft.headers = .ok (.sized n))
    (hlimit : draft.limit < n) (rest : Bytes) :
    Overruns method draft.limit ⟨.headersDone, rest, draft⟩ := by
  refine ⟨_, .refl _, rfl, ?_⟩
  have hcheck : draft.checkFraming (.sized n) = some (.tooLarge draft.limit) := if_pos hlimit
  rw [step_headersDone rfl]
  simp only [onHead, hfinal, hchoose, hcheck, Bool.false_eq_true, if_false]

/-! ## The body -/

/-- A pass that does not read a line is a step on the way. -/
theorem leads_pass {phase next : Phase} {bytes left : Bytes} {draft draft' : Draft}
    {events : List Event} (hphase : phase.readsLine = false)
    (hgoes : Decoder.Goes phase bytes next left events)
    (hdeliver : Draft.collector.deliver draft events = (draft', none)) :
    Leads method Short ⟨phase, bytes, draft⟩ ⟨next, left, draft'⟩ := by
  refine .step (step_of_go (Decoder.pass_of_goes hgoes) hdeliver) (fun hline => ?_) (.refl _)
  rw [hphase] at hline
  cases hline

/-- Body bytes within the limit join the draft. -/
theorem deliver_within {draft : Draft} {data : Bytes}
    (h : draft.body.length + data.length ≤ draft.limit) (tail : List Event) :
    Draft.collector.deliver draft (.body data :: tail) =
      Draft.collector.deliver { draft with body := draft.body ++ data } tail := by
  rw [Draft.deliver_body, Draft.accept_eq_ok_iff.2 ⟨h, rfl⟩]

/-- Body bytes over the limit end the way. -/
theorem overruns_pass {phase next : Phase} {bytes left data : Bytes} {draft : Draft}
    {tail : List Event} (hphase : phase.readsLine = false)
    (hgoes : Decoder.Goes phase bytes next left (.body data :: tail))
    (hlimit : draft.limit < draft.body.length + data.length) :
    Overruns method draft.limit ⟨phase, bytes, draft⟩ := by
  have hrefused : draft.accept data = .error (.tooLarge draft.limit) := if_pos hlimit
  have hdeliver : Draft.collector.deliver draft (.body data :: tail) =
      (draft, some (.tooLarge draft.limit)) := by
    rw [Draft.deliver_body, hrefused]
  exact ⟨_, .refl _, hphase, step_of_refusal (Decoder.pass_of_goes hgoes) hdeliver⟩

/-- A body of known length. -/
theorem leads_sized {body : Bytes} {draft : Draft} (hne : body ≠ [])
    (hlimit : draft.body.length + body.length ≤ draft.limit) (rest : Bytes) :
    Leads method Short ⟨.sized body.length, body ++ rest, draft⟩
      ⟨.complete, rest, { draft with body := draft.body ++ body, complete := true }⟩ := by
  have hgoes := Decoder.Goes.sizedEnd (List.append_ne_nil_of_left_ne_nil hne rest)
    (show body.length ≤ (body ++ rest).length by rw [List.length_append]; omega)
  rw [List.take_left, List.drop_left] at hgoes
  exact leads_pass rfl hgoes (deliver_within hlimit [.complete])

/-- The data of a chunk is there with what follows it. -/
theorem goes_chunkData {data : Bytes} (hne : data ≠ []) (rest : Bytes) :
    Decoder.Goes (.chunkData data.length) (data ++ rest) .chunkEnd rest [.body data] := by
  have hgoes := Decoder.Goes.chunkDataEnd (List.append_ne_nil_of_left_ne_nil hne rest)
    (show data.length ≤ (data ++ rest).length by rw [List.length_append]; omega)
  rwa [List.take_left, List.drop_left] at hgoes

/-- The size line of a chunk leads to its data. -/
theorem leads_chunkSize {c : Chunk} (hne : c.data ≠ []) (hsize : c.size.Spells c.data.length)
    (hshort : (Utf8.encode c.size.text).length < maxLine) (draft : Draft) (rest : Bytes) :
    Leads method Short ⟨.chunkSize, c.wire ++ rest, draft⟩
      ⟨.chunkData c.data.length, c.data ++ (Bytes.crlf ++ rest), draft⟩ := by
  have hpos : c.data.length ≠ 0 := fun h => hne (List.length_eq_zero_iff.1 h)
  have hline : Leads method Short
      ⟨.chunkSize, Request.line c.size.text ++ (c.data ++ (Bytes.crlf ++ rest)), draft⟩
      ⟨if c.data.length = 0 then .trailers else .chunkData c.data.length,
        c.data ++ (Bytes.crlf ++ rest), draft⟩ := leads_size hsize hshort draft _
  rw [if_neg hpos] at hline
  simpa only [Chunk.wire, List.append_assoc] using hline

/-- A chunk: its size line, its data and the line end after them. -/
theorem leads_chunk {c : Chunk} {draft : Draft} (hne : c.data ≠ [])
    (hsize : c.size.Spells c.data.length)
    (hshort : (Utf8.encode c.size.text).length < maxLine)
    (hlimit : draft.body.length + c.data.length ≤ draft.limit) (rest : Bytes) :
    Leads method Short ⟨.chunkSize, c.wire ++ rest, draft⟩
      ⟨.chunkSize, rest, { draft with body := draft.body ++ c.data }⟩ :=
  ((leads_chunkSize hne hsize hshort draft rest).trans
    (leads_pass rfl (goes_chunkData hne _) (deliver_within hlimit []))).trans
    (leads_pass rfl (.chunkEnd rest) rfl)

/-- What chunks have to keep to so that they can be read in pieces. -/
def ChunkFits (c : Chunk) : Prop :=
  c.data ≠ [] ∧ c.size.Spells c.data.length ∧ (Utf8.encode c.size.text).length < maxLine

theorem leads_chunks {chunks : List Chunk} (hchunks : ∀ c ∈ chunks, ChunkFits c) (draft : Draft)
    (hlimit : draft.body.length + (chunks.flatMap (·.data)).length ≤ draft.limit)
    (rest : Bytes) :
    Leads method Short ⟨.chunkSize, chunks.flatMap Chunk.wire ++ rest, draft⟩
      ⟨.chunkSize, rest, { draft with body := draft.body ++ chunks.flatMap (·.data) }⟩ := by
  -- The draft grows with every chunk, so the induction is for all drafts.
  induction chunks generalizing draft with
  | nil =>
    simp only [List.flatMap_nil, List.nil_append, List.append_nil]
    exact .refl _
  | cons c chunks ih =>
    obtain ⟨hne, hsize, hshort⟩ := hchunks c List.mem_cons_self
    rw [List.flatMap_cons, List.length_append] at hlimit
    have hlimit' : (draft.body ++ c.data).length + (chunks.flatMap (·.data)).length ≤
        draft.limit := by
      rw [List.length_append]
      omega
    have hfirst : Leads method Short
        ⟨.chunkSize, c.wire ++ (chunks.flatMap Chunk.wire ++ rest), draft⟩
        ⟨.chunkSize, chunks.flatMap Chunk.wire ++ rest,
          { draft with body := draft.body ++ c.data }⟩ :=
      leads_chunk hne hsize hshort (by omega) _
    have hrest := ih (fun d hd => hchunks d (List.mem_cons_of_mem _ hd))
      { draft with body := draft.body ++ c.data } hlimit'
    simp only [List.flatMap_cons, List.append_assoc] at hrest ⊢
    exact hfirst.trans hrest

/-- Chunks that are too much together go over the limit at one of them. -/
theorem overruns_chunks {chunks : List Chunk} (hchunks : ∀ c ∈ chunks, ChunkFits c)
    {draft : Draft} (hbody : draft.body.length ≤ draft.limit)
    (hlimit : draft.limit < draft.body.length + (chunks.flatMap (·.data)).length)
    (rest : Bytes) :
    Overruns method draft.limit ⟨.chunkSize, chunks.flatMap Chunk.wire ++ rest, draft⟩ := by
  -- Chunks that fit lead on to the first one that does not.
  induction chunks generalizing draft with
  | nil =>
    rw [List.flatMap_nil, List.length_nil] at hlimit
    omega
  | cons c chunks ih =>
    obtain ⟨hne, hsize, hshort⟩ := hchunks c List.mem_cons_self
    rw [List.flatMap_cons, List.length_append] at hlimit
    rw [List.flatMap_cons, List.append_assoc]
    by_cases hfirst : draft.body.length + c.data.length ≤ draft.limit
    · refine .of_leads (leads_chunk hne hsize hshort hfirst _) ?_
      refine ih (fun d hd => hchunks d (List.mem_cons_of_mem _ hd)) ?_ ?_
      · show (draft.body ++ c.data).length ≤ draft.limit
        rw [List.length_append]
        exact hfirst
      · show draft.limit < (draft.body ++ c.data).length + _
        rw [List.length_append]
        omega
    · -- Its data is there as a whole, and is refused as a whole.
      refine .of_leads (leads_chunkSize hne hsize hshort draft _) ?_
      exact overruns_pass rfl (goes_chunkData hne _) (Nat.not_le.1 hfirst)

/-- The last size line, the trailers and the blank line after them. -/
theorem leads_trailers {last : SizeLine} (hlast : last.Spells 0)
    (hshort : (Utf8.encode last.text).length < maxLine) {trailers : List FieldLine}
    (htrailers : ∀ l ∈ trailers, l.Valid) (draft : Draft) (rest : Bytes) :
    Leads method Short ⟨.chunkSize, Request.line last.text ++
        (trailers.flatMap FieldLine.wire ++ (Bytes.crlf ++ rest)), draft⟩
      ⟨.complete, rest,
        { draft with
          headers := ⟨draft.headers.fields ++ trailers.map FieldLine.field⟩
          complete := true }⟩ := by
  have hlines : Leads method Short ⟨.chunkSize, Request.line last.text ++
      (trailers.flatMap FieldLine.wire ++ (Bytes.crlf ++ rest)), draft⟩
      ⟨.trailers, Bytes.crlf ++ rest,
        { draft with headers := ⟨draft.headers.fields ++ trailers.map FieldLine.field⟩ }⟩ :=
    (leads_size hlast hshort draft _).trans (leads_fields (.inr rfl)
      (fun l hl => (htrailers l hl).readable) (fun l hl => (htrailers l hl).line.short) draft _)
  exact hlines.trans (leads_blank rfl short_zero rfl rfl rest)

/-- A body that lasts until the peer closes is taken as it is. -/
theorem leads_untilClose {body : Bytes} {draft : Draft}
    (hlimit : draft.body.length + body.length ≤ draft.limit) :
    Leads method Short ⟨.untilClose, body, draft⟩
      ⟨.untilClose, [], { draft with body := draft.body ++ body }⟩ := by
  by_cases hne : body = []
  · subst hne
    rw [List.append_nil]
    exact .refl _
  · exact leads_pass rfl (.untilClose hne) (deliver_within hlimit [])

/-- What has to be known of chunks to read them. -/
theorem chunkFits_of_fits {chunks : List Chunk} {last : SizeLine} {trailers : List FieldLine}
    (h : (Payload.chunked chunks last trailers).Fits)
    (hsizes : (Payload.chunked chunks last trailers).ShortSizes) :
    ∀ c ∈ chunks, ChunkFits c := fun c hc =>
  ⟨(h.1 c hc).1, (h.1 c hc).2, hsizes.1 c hc⟩

/-- A body that says where it ends, within the limit, leads there, whatever follows it. -/
theorem leads_payload {p : Payload} (h : p.Fits) (hsizes : p.ShortSizes)
    (hclose : p.framing ≠ .untilClose) {draft : Draft}
    (hlimit : draft.body.length + p.body.length ≤ draft.limit) (rest : Bytes) :
    Leads method Short
      ⟨(Decoder.frame .headersDone p.framing).1, p.wire ++ rest,
        (Draft.collector.deliver draft (Decoder.frame .headersDone p.framing).2).1⟩
      ⟨.complete, rest,
        { draft with
          headers := ⟨draft.headers.fields ++ p.trailers⟩
          body := draft.body ++ p.body
          complete := true }⟩ := by
  cases p with
  | sized body =>
    simp only [Payload.trailers, Payload.body, List.append_nil]
    cases body with
    | nil =>
      rw [List.append_nil]
      exact .refl _
    | cons b body => exact leads_sized (List.cons_ne_nil b body) hlimit rest
  | chunked chunks last trailers =>
    simp only [Payload.wire, List.append_assoc]
    exact (leads_chunks (chunkFits_of_fits h hsizes) draft hlimit _).trans
      (leads_trailers h.2.1 hsizes.2 h.2.2 _ rest)
  | untilClose body => exact absurd rfl hclose

/-- A body over the limit that was not declared goes over the limit on the way. -/
theorem overruns_payload {p : Payload} (h : p.Fits) (hsizes : p.ShortSizes)
    (hsized : ∀ n, p.framing ≠ .sized n) {draft : Draft}
    (hbody : draft.body.length ≤ draft.limit)
    (hlimit : draft.limit < draft.body.length + p.body.length) (rest : Bytes) :
    Overruns method draft.limit
      ⟨(Decoder.frame .headersDone p.framing).1, p.wire ++ rest,
        (Draft.collector.deliver draft (Decoder.frame .headersDone p.framing).2).1⟩ := by
  cases p with
  | sized body => exact absurd rfl (hsized body.length)
  | chunked chunks last trailers =>
    simp only [Payload.wire, List.append_assoc]
    exact overruns_chunks (chunkFits_of_fits h hsizes) hbody hlimit _
  | untilClose body =>
    -- Nothing tells the body from what follows it, which only makes it longer.
    have hover : draft.limit < draft.body.length + (body ++ rest).length := by
      rw [List.length_append, ← Nat.add_assoc]
      exact Nat.lt_of_lt_of_le hlimit (Nat.le_add_right _ _)
    have hbytes : body ++ rest ≠ [] := by
      intro hnil
      rw [hnil, List.length_nil] at hover
      omega
    exact overruns_pass rfl (.untilClose hbytes) hover

/-! ## The whole response -/

/-- What a draft holds after a whole response. -/
def draftOf (limit : Nat) (r : Rendition) (complete : Bool) : Draft :=
  ⟨limit, some r.head.status, ⟨r.head.headers.fields ++ r.payload.trailers⟩, r.payload.body,
    complete⟩

variable {r : Rendition}

/-- The code of a response that has a body announces no other response. -/
theorem isInterim_of_bodied {code : Nat} (h : Framing.bodiless method code = false) :
    isInterim code = false := by
  simp only [Framing.bodiless, Bool.or_eq_false_iff] at h
  simp only [isInterim, h.1.1.2, Bool.false_and]

/-- From the start to the first byte of the body. -/
theorem leads_body (h : r.Valid) (hbodied : Framing.bodiless method r.head.code = false)
    (hcheck : (headDraft limit r.head).checkFraming r.payload.framing = none) (rest : Bytes) :
    Leads method Short ⟨.statusLine, r.wire ++ rest, .start limit⟩
      ⟨(Decoder.frame .headersDone r.payload.framing).1, r.payload.wire ++ rest,
        (Draft.collector.deliver (headDraft limit r.head)
          (Decoder.frame .headersDone r.payload.framing).2).1⟩ := by
  have hfinal : isInterim (headDraft limit r.head).code = false := isInterim_of_bodied hbodied
  have hchoose : Framing.choose method (headDraft limit r.head).code
      (headDraft limit r.head).headers = .ok r.payload.framing :=
    Framing.choose_declared hbodied h.declared
  rw [Rendition.wire, List.append_assoc]
  exact (leads_head_valid limit h.head _).trans (leads_framing hfinal hchoose hcheck _)

/-- A body within the limit passes the check of its declared length. -/
theorem checkFraming_payload {p : Payload} {draft : Draft} (h : p.body.length ≤ draft.limit) :
    draft.checkFraming p.framing = none := by
  cases p with
  | sized body => exact if_neg (Nat.not_lt.2 h)
  | chunked => rfl
  | untilClose => rfl

theorem checkFraming_of_not_sized {draft : Draft} {framing : Framing}
    (h : ∀ n, framing ≠ .sized n) : draft.checkFraming framing = none := by
  cases framing with
  | sized n => exact absurd rfl (h n)
  | _ => rfl

theorem length_of_framing {p : Payload} {n : Nat} (h : p.framing = .sized n) :
    p.body.length = n := by
  cases p with
  | sized body =>
    cases h
    rfl
  | _ => cases h

theorem headDraft_length (limit : Nat) (h : Head) (n : Nat) :
    (headDraft limit h).body.length + n = n := Nat.zero_add n

/-- A response that says where it ends, with a body within the limit, leads there. -/
theorem leads_rendition (h : r.Valid) (hsizes : r.payload.ShortSizes)
    (hbodied : Framing.bodiless method r.head.code = false)
    (hlimit : r.payload.body.length ≤ limit) (hclose : r.payload.framing ≠ .untilClose)
    (rest : Bytes) :
    Leads method Short ⟨.statusLine, r.wire ++ rest, .start limit⟩
      ⟨.complete, rest, draftOf limit r true⟩ := by
  refine (leads_body h hbodied (checkFraming_payload hlimit) rest).trans ?_
  refine leads_payload h.payload hsizes hclose ?_ rest
  rw [headDraft_length]
  exact hlimit

/-- A response that lasts until the peer closes, with a body within the limit, leads to its
last byte. -/
theorem leads_last (h : r.Valid) (hbodied : Framing.bodiless method r.head.code = false)
    (hlimit : r.payload.body.length ≤ limit) (hclose : r.payload.framing = .untilClose) :
    Leads method Short ⟨.statusLine, r.wire, .start limit⟩
      ⟨.untilClose, [], draftOf limit r false⟩ := by
  have hbody := leads_body h hbodied (checkFraming_payload hlimit) []
  rw [List.append_nil, List.append_nil] at hbody
  refine hbody.trans ?_
  cases hpayload : r.payload with
  | sized body => rw [hpayload] at hclose; cases hclose
  | chunked chunks last trailers => rw [hpayload] at hclose; cases hclose
  | untilClose body =>
    rw [hpayload] at hlimit
    have hbody : (headDraft limit r.head).body.length + body.length ≤
        (headDraft limit r.head).limit := by
      rw [headDraft_length]
      exact hlimit
    simp only [draftOf, hpayload, Payload.trailers, List.append_nil]
    exact leads_untilClose hbody

/-- A response with a body over the limit goes over the limit. -/
theorem overruns_rendition (h : r.Valid) (hsizes : r.payload.ShortSizes)
    (hbodied : Framing.bodiless method r.head.code = false)
    (hlimit : limit < r.payload.body.length) (rest : Bytes) :
    Overruns method limit ⟨.statusLine, r.wire ++ rest, .start limit⟩ := by
  by_cases hsized : ∃ n, r.payload.framing = .sized n
  · -- The declared length is the body's, and the check refuses it.
    obtain ⟨n, hn⟩ := hsized
    have hchoose := Framing.choose_declared hbodied h.declared
    rw [hn] at hchoose
    rw [Rendition.wire, List.append_assoc]
    have hover : (headDraft limit r.head).limit < n := length_of_framing hn ▸ hlimit
    have hfinal : isInterim (headDraft limit r.head).code = false := isInterim_of_bodied hbodied
    exact .of_leads (leads_head_valid limit h.head _) (overruns_framing hfinal hchoose hover _)
  · have hsized : ∀ n, r.payload.framing ≠ .sized n := fun n hn => hsized ⟨n, hn⟩
    refine .of_leads (leads_body h hbodied (checkFraming_of_not_sized hsized) rest) ?_
    refine overruns_payload h.payload hsizes hsized (Nat.zero_le _) ?_ rest
    rw [headDraft_length]
    exact hlimit

/-! ## Reading -/

/-- An intake that does not expect a line and from which no step goes on meets no line. -/
theorem not_meets_of_rest {n : Nat} (hline : i.phase.readsLine = false)
    (hrest : ∀ next skipped, step method i ≠ .again next skipped) : ¬ Meets method i n := by
  intro hmeets
  cases hmeets with
  | here hphase _ =>
    rw [hline] at hphase
    cases hphase
  | later hstep _ => exact hrest _ _ hstep

/-- Pieces of a stream that leads to an intake come to what that intake comes to. -/
theorem readAll_eq_conclude {last : Intake} {reads : List Bytes} {stream : Bytes}
    (h : Leads method Short ⟨.statusLine, stream, .start limit⟩ last)
    (hlast : ¬ Meets method last maxLine) (hreads : reads.flatten = stream)
    (ending : Option Stop) :
    (readAll method ending (start limit) reads).2 = conclude ending (settle method last).2 := by
  have hstart : (start limit).append reads.flatten = ⟨.statusLine, stream, .start limit⟩ := by
    rw [hreads, append, start, List.nil_append]
  have hmeets : ¬ Meets method ((start limit).append reads.flatten) maxLine := by
    rw [hstart]
    intro hmeets
    rcases h.meets hmeets with hshort | hmeets
    · exact Nat.lt_irrefl _ hshort
    · exact hlast hmeets
  rw [readAll_eq_whole method ending reads (start limit) (.inr hmeets), hstart, h.settle_eq]

/-- A stream that leads to the end of a response is read as what the draft has then. -/
theorem readAll_of_complete {rest : Bytes} {draft : Draft} {reads : List Bytes} {stream : Bytes}
    (h : Leads method Short ⟨.statusLine, stream, .start limit⟩ ⟨.complete, rest, draft⟩)
    (hreads : reads.flatten = stream) (ending : Option Stop) :
    (readAll method ending (start limit) reads).2 = .done draft.toMessage := by
  have hcomplete : step method ⟨.complete, rest, draft⟩ = .complete ⟨.complete, rest, draft⟩ :=
    step_complete rfl
  have hlast : ¬ Meets method ⟨.complete, rest, draft⟩ maxLine :=
    not_meets_of_rest rfl fun next skipped hstep => by rw [hcomplete] at hstep; cases hstep
  rw [readAll_eq_conclude h hlast hreads, settle_of_complete hcomplete]
  rfl

/-- A stream that goes over the limit is too large. -/
theorem readAll_of_overruns {reads : List Bytes} {stream : Bytes}
    (h : Overruns method limit ⟨.statusLine, stream, .start limit⟩)
    (hreads : reads.flatten = stream) (ending : Option Stop) :
    (readAll method ending (start limit) reads).2 = .done (.error (.tooLarge limit)) := by
  obtain ⟨last, hleads, hline, hfailed⟩ := h
  have hlast : ¬ Meets method last maxLine :=
    not_meets_of_rest hline fun next skipped hstep => by rw [hfailed] at hstep; cases hstep
  rw [readAll_eq_conclude hleads hlast hreads, settle_of_failed hfailed]
  rfl

/-- Reading the bytes of a valid response that has a body, in any pieces, gives the message
that is meant, or is too large if the body is longer than the limit. -/
theorem readAll_rendition (h : r.Valid) (hsizes : r.payload.ShortSizes)
    (hbodied : Framing.bodiless method r.head.code = false) (limit : Nat)
    {ending : Option Stop} (hending : r.payload.framing = .untilClose → ending = none)
    {reads : List Bytes} (hreads : reads.flatten = r.wire) :
    (readAll method ending (start limit) reads).2 =
      .done (if limit < r.payload.body.length then .error (.tooLarge limit)
        else .ok r.message) := by
  rw [← List.append_nil r.wire] at hreads
  by_cases hlimit : limit < r.payload.body.length
  · rw [if_pos hlimit]
    exact readAll_of_overruns (overruns_rendition h hsizes hbodied hlimit []) hreads ending
  rw [if_neg hlimit]
  have hwithin := Nat.not_lt.1 hlimit
  by_cases hclose : r.payload.framing = .untilClose
  · have hhungry : step method ⟨.untilClose, [], draftOf limit r false⟩ =
        .hungry ⟨.untilClose, [], draftOf limit r false⟩ := rfl
    have hlast : ¬ Meets method ⟨.untilClose, [], draftOf limit r false⟩ maxLine :=
      not_meets_of_rest rfl fun next skipped hstep => by rw [hhungry] at hstep; cases hstep
    rw [List.append_nil] at hreads
    rw [readAll_eq_conclude (leads_last h hbodied hwithin hclose) hlast hreads,
      settle_of_hungry hhungry, hending hclose]
    rfl
  · rw [readAll_of_complete (leads_rendition h hsizes hbodied hwithin hclose []) hreads ending]
    rfl

/-- A line that is longer than a line may be ends the way, in any pieces. -/
theorem step_long_line {phase : Phase} {text : String} (hphase : phase.readsLine = true)
    (hcr : '\r' ∉ text.toList) (hlong : maxLine < (Utf8.encode text).length) (rest : Bytes)
    (draft : Draft) :
    step method ⟨phase, Request.line text ++ rest, draft⟩ =
        .failed (Fault.toFailure (.lineTooLong phase.lineKind)) ∧
      ¬ Meets method ⟨phase, Request.line text ++ rest, draft⟩ maxLine := by
  rw [Request.line, List.append_assoc]
  have hfailed : step method ⟨phase, Utf8.encode text ++ (Bytes.crlf ++ rest), draft⟩ =
      .failed (Fault.toFailure (.lineTooLong phase.lineKind)) :=
    step_of_stop (Decoder.pass_of_stops (.badLine hphase (takeLine_long hcr hlong rest)))
  refine ⟨hfailed, fun hmeets => ?_⟩
  cases hmeets with
  | here _ hline =>
    rw [Bytes.crlfAt?_line (Utf8.cr_not_mem_encode hcr)] at hline
    rw [Option.some.inj hline] at hlong
    exact Nat.lt_irrefl _ hlong
  | later hstep _ =>
    rw [hfailed] at hstep
    cases hstep

/-- A response in chunks, of which the first has a size line that is longer than a line may
be, fails at that line, in any pieces and whatever the limit. -/
theorem readAll_long_size {c : Chunk} {chunks : List Chunk} {last : SizeLine}
    {trailers : List FieldLine} (h : r.Valid)
    (hbodied : Framing.bodiless method r.head.code = false)
    (hpayload : r.payload = .chunked (c :: chunks) last trailers)
    (hlong : maxLine < (Utf8.encode c.size.text).length) (limit : Nat) (ending : Option Stop)
    {reads : List Bytes} (hreads : reads.flatten = r.wire) :
    (readAll method ending (start limit) reads).2 =
      .done (.error (Fault.toFailure (.lineTooLong .chunkSize))) := by
  have hfits := h.payload
  have hcheck : (headDraft limit r.head).checkFraming r.payload.framing = none := by
    rw [hpayload]
    rfl
  have hbody := leads_body h hbodied hcheck []
  rw [hpayload] at hfits hbody
  have hcr := cr_not_mem_of_plain (hfits.1 c List.mem_cons_self).2.plain
  obtain ⟨rest, hwire⟩ : ∃ rest, (Payload.chunked (c :: chunks) last trailers).wire ++ [] =
      Request.line c.size.text ++ rest := by
    simp only [Payload.wire, List.flatMap_cons, Chunk.wire, List.append_assoc]
    exact ⟨_, rfl⟩
  rw [hwire, List.append_nil] at hbody
  have hleads : Leads method Short ⟨.statusLine, r.wire, .start limit⟩
      ⟨.chunkSize, Request.line c.size.text ++ rest, headDraft limit r.head⟩ := hbody
  have hphase : Phase.chunkSize.readsLine = true := rfl
  obtain ⟨hfailed, hlast⟩ := step_long_line hphase hcr hlong rest (headDraft limit r.head)
  rw [readAll_eq_conclude hleads hlast hreads, settle_of_failed hfailed]
  rfl

/-- Reading a valid head of a final response that has no body gives the message, whatever
length the head declares and whatever follows it. -/
theorem readAll_bodiless {h : Head} (hvalid : h.Valid)
    (hbodiless : Framing.bodiless method h.code = true) (hfinal : isInterim h.code = false)
    (limit : Nat) (ending : Option Stop) {reads : List Bytes} {rest : Bytes}
    (hreads : reads.flatten = h.wire ++ rest) :
    (readAll method ending (start limit) reads).2 =
      .done (.ok ⟨h.status, h.headers, .new []⟩) := by
  have hchoose : Framing.choose method (headDraft limit h).code (headDraft limit h).headers =
      .ok .empty := Framing.choose_bodiless _ hbodiless
  have hfinal : isInterim (headDraft limit h).code = false := hfinal
  have hleads := (leads_head_valid limit hvalid rest).trans (leads_framing hfinal hchoose rfl rest)
  rw [readAll_of_complete hleads hreads ending]
  rfl

end Http1Client.Intake
