import Http1Client.Proofs.Exchange.End
import Http1Client.Proofs.Exchange.Interim
import Http1Client.Proofs.Exchange.Meaning

/-!
# What is accepted was written

A response that is accepted stands in the stream. Before it there are blank lines and interim
responses, which are over when the head of a final response begins; behind the head there is a
payload that is delimited in the way the head says; and the message is the one that they mean
(`written_of_accepted`). This is the converse of `readAll_rendition`, for all that the lines allow
for, be it valid or not.

An intake that ends in a message gets there by steps (`Ends.next`). So what is left at each phase is
told by what is left at the next one: the fields of a block line by line (`Ends.fields`), the chunks
one by one (`Ends.chunks`), and what comes before the head piece by piece (`Ends.opens`). What is
known to lead somewhere is followed forward (`Ends.along`).
-/

namespace Http1Client

namespace Payload

/-- Chunks have data, the sizes before them read as its length, and trailers can be read. -/
def Readable : Payload → Prop
  | .chunked chunks last trailers =>
    (∀ c ∈ chunks, c.data ≠ [] ∧ c.size.Names c.data.length) ∧ last.Names 0 ∧
      ∀ l ∈ trailers, l.Readable
  | _ => True

end Payload

/-- The payload is delimited by the framing, with those bytes behind it. Without a body there is
nothing of it in the stream. -/
def Framing.Delimits : Framing → Payload → Bytes → Prop
  | .empty, p, _ => p = .sized []
  | .untilClose, p, rest => p.framing = .untilClose ∧ rest = []
  | framing, p, _ => p.framing = framing

namespace Intake

variable {method : Method} {ending : Option Stop} {m : Message} {limit : Nat}

/-! ## Intakes that end in a message -/

/-- With nothing more to arrive, settling comes to the message. -/
def Ends (method : Method) (ending : Option Stop) (m : Message) (i : Intake) : Prop :=
  conclude ending (settle method i).2 = .done (.ok m)

namespace Ends

variable {i : Intake} {phase : Phase} {bytes : Bytes} {draft : Draft}

/-- What is known to lead on leads to the same message. -/
theorem along {fits : Nat → Prop} {last : Intake} (h : Ends method ending m i)
    (hleads : Leads method fits i last) : Ends method ending m last := by
  unfold Ends at h ⊢
  rw [← hleads.settle_eq]
  exact h

/-- An intake ends at once if it is complete or lasts until the peer closes, and else there is a
step to the next one. -/
theorem cases (h : Ends method ending m i) :
    (∃ next skipped, step method i = .again next skipped ∧ Ends method ending m next) ∨
      (i.phase = .complete ∧ i.draft.toMessage = .ok m) ∨
      (i.phase = .untilClose ∧ i.left = [] ∧
        { i.draft with complete := true }.toMessage = .ok m) := by
  unfold Ends at h
  cases hstep : step method i with
  | again next skipped =>
    rw [settle_of_again hstep] at h
    exact .inl ⟨next, skipped, rfl, h⟩
  | hungry rest =>
    obtain ⟨rfl, hwait, -, hcomplete⟩ := step_hungry hstep
    rw [settle_of_hungry hstep] at h
    rcases ending with _ | _ | _
    · have hend : rest.atEnd = .ok m := Wait.done.inj h
      by_cases hclose : rest.phase = .untilClose
      · refine .inr (.inr ⟨hclose, ?_, ?_⟩)
        · by_contra hne
          rw [hclose, Decoder.pass_of_goes (.untilClose hne)] at hwait
          cases hwait
        · rw [atEnd, hclose] at hend
          exact hend
      · rw [atEnd_of_incomplete hcomplete hclose] at hend
        cases hend
    · cases h
    · cases h
  | complete rest =>
    obtain ⟨rfl, hphase⟩ := step_complete_iff.1 hstep
    rw [settle_of_complete hstep] at h
    exact .inr (.inl ⟨hphase, Wait.done.inj h⟩)
  | failed failure =>
    rw [settle_of_failed hstep] at h
    cases h

/-- In a phase before the end of a response there is a step. -/
theorem next (h : Ends method ending m i) (hcomplete : i.phase ≠ .complete)
    (hclose : i.phase ≠ .untilClose) :
    ∃ next skipped, step method i = .again next skipped ∧ Ends method ending m next := by
  rcases h.cases with hnext | ⟨hphase, -⟩ | ⟨hphase, -⟩
  · exact hnext
  · exact absurd hphase hcomplete
  · exact absurd hphase hclose

/-- Between the lines of a head and in a body the step is a pass. -/
theorem pass (h : Ends method ending m ⟨phase, bytes, draft⟩) (hhead : phase ≠ .headersDone)
    (hcomplete : phase ≠ .complete) (hclose : phase ≠ .untilClose) :
    ∃ next left events draft', Decoder.Goes phase bytes next left events ∧
      Draft.collector.deliver draft events = (draft', none) ∧
      Ends method ending m ⟨next, left, draft'⟩ := by
  obtain ⟨next, skipped, hstep, hnext⟩ := h.next hcomplete hclose
  rcases step_again hstep with ⟨events, hpass, hdeliver, -⟩ | ⟨hphase, -⟩
  · exact ⟨next.phase, next.left, events, next.draft, Decoder.goes_of_pass hpass, hdeliver, hnext⟩
  · exact absurd hphase hhead

/-- What is to come cannot come out of nothing. -/
theorem not_ends_nil (hhead : phase ≠ .headersDone) (hcomplete : phase ≠ .complete)
    (hclose : phase ≠ .untilClose) : ¬ Ends method ending m ⟨phase, [], draft⟩ := by
  intro h
  obtain ⟨next, left, events, draft', hgoes, -⟩ := h.pass hhead hcomplete hclose
  have hwait : Decoder.pass phase [] = .wait := rfl
  rw [Decoder.pass_of_goes hgoes] at hwait
  cases hwait

/-- Where a line is expected there is one, and it is used. -/
theorem line (h : Ends method ending m ⟨phase, bytes, draft⟩) (hphase : phase.readsLine = true) :
    ∃ s left next events draft', OneLine s ∧ bytes = Request.line s ++ left ∧
      phase.useLine s.toList = .ok (next, events) ∧
      Draft.collector.deliver draft events = (draft', none) ∧
      Ends method ending m ⟨next, left, draft'⟩ := by
  have hne {other : Phase} (hother : other.readsLine = false) : phase ≠ other := by
    rintro rfl
    rw [hphase] at hother
    cases hother
  obtain ⟨next, left, events, draft', hgoes, hdeliver, hnext⟩ :=
    h.pass (hne rfl) (hne rfl) (hne rfl)
  cases hgoes with
  | line _ hcut huse =>
    obtain ⟨s, rfl, hline, hbytes⟩ := exists_of_takeLine hcut
    refine ⟨s, left, next, events, draft', hline, ?_, huse, hdeliver, hnext⟩
    rw [Request.line, List.append_assoc]
    exact hbytes
  | _ => cases hphase

/-! ## Blocks of fields -/

/-- A line of a block is blank, or its field joins the draft. -/
theorem of_useLine {next : Phase} {events : List Event} {s : String} {draft' : Draft}
    (hphase : phase = .headers ∨ phase = .trailers)
    (huse : phase.useLine s.toList = .ok (next, events))
    (hdeliver : Draft.collector.deliver draft events = (draft', none)) :
    s = "" ∨ ∃ l : FieldLine, s = l.text ∧ isToken l.name.toList = true ∧ next = phase ∧
      draft' = { draft with headers := draft.headers.add l.field.name l.field.value } := by
  rcases hphase with rfl | rfl
  · rcases Decoder.of_onHeaderLine huse with ⟨hblank, -⟩ | ⟨l, htext, htoken, hnext, rfl⟩
    · exact .inl hblank
    · cases hdeliver
      exact .inr ⟨l, htext, htoken, hnext, rfl⟩
  · rcases Decoder.of_onTrailerLine huse with ⟨hblank, -⟩ | ⟨l, htext, htoken, hnext, rfl⟩
    · exact .inl hblank
    · cases hdeliver
      exact .inr ⟨l, htext, htoken, hnext, rfl⟩

theorem length_line (s : String) (left : Bytes) :
    left.length < (Request.line s ++ left).length := by
  rw [Request.line, List.length_append, List.length_append]
  show left.length < (Utf8.encode s).length + 2 + left.length
  omega

/-- A block of fields is written up to the blank line after them. -/
theorem fields (h : Ends method ending m ⟨phase, bytes, draft⟩)
    (hphase : phase = .headers ∨ phase = .trailers) :
    ∃ (lines : List FieldLine) (tail : Bytes), (∀ l ∈ lines, l.Readable) ∧
      bytes = lines.flatMap FieldLine.wire ++ (Bytes.crlf ++ tail) ∧
      Ends method ending m ⟨phase, Bytes.crlf ++ tail,
        { draft with headers := ⟨draft.headers.fields ++ lines.map FieldLine.field⟩ }⟩ := by
  -- Each line takes bytes away, and its field joins the draft.
  induction hlength : bytes.length using Nat.strong_induction_on generalizing bytes draft with
  | _ n ih =>
  have hreads : phase.readsLine = true := by
    rcases hphase with rfl | rfl <;> rfl
  obtain ⟨s, left, next, events, draft', hline, rfl, huse, hdeliver, hnext⟩ := h.line hreads
  rcases of_useLine hphase huse hdeliver with rfl | ⟨l, rfl, htoken, rfl, rfl⟩
  · refine ⟨[], left, nofun, rfl, ?_⟩
    rw [List.map_nil, List.append_nil]
    exact h
  · obtain ⟨lines, tail, hlines, rfl, hend⟩ :=
      ih left.length (hlength ▸ length_line l.text left) hnext rfl
    refine ⟨l :: lines, tail, List.forall_mem_cons.2 ⟨⟨htoken, hline⟩, hlines⟩, ?_, ?_⟩
    · rw [List.flatMap_cons, List.append_assoc]
      rfl
    · simpa only [Headers.add, List.append_assoc, List.cons_append, List.nil_append,
        List.map_cons] using hend

/-! ## Bodies -/

/-- Body bytes that are accepted join the draft, and then the events after them are delivered. -/
theorem body_of_deliver {data : Bytes} {events : List Event} {draft' : Draft}
    (h : Draft.collector.deliver draft (.body data :: events) = (draft', none)) :
    Draft.collector.deliver { draft with body := draft.body ++ data } events = (draft', none) :=
  (Draft.deliver_body_none h).2

/-- A body of known length is there as a whole. -/
theorem sized {n : Nat} (h : Ends method ending m ⟨.sized n, bytes, draft⟩) :
    ∃ body rest, body.length = n ∧ bytes = body ++ rest ∧
      Ends method ending m
        ⟨.complete, rest, { draft with body := draft.body ++ body, complete := true }⟩ := by
  obtain ⟨next, left, events, draft', hgoes, hdeliver, hnext⟩ := h.pass nofun nofun nofun
  cases hgoes with
  | line hphase _ _ => cases hphase
  | sizedEnd hne hn =>
    cases body_of_deliver hdeliver
    exact ⟨bytes.take n, bytes.drop n, List.length_take_of_le hn,
      (List.take_append_drop n bytes).symm, hnext⟩
  | sizedPart hne hn => exact absurd hnext (not_ends_nil nofun nofun nofun)

/-- The data of a chunk is there as a whole, with the end of line behind it. -/
theorem chunkData {n : Nat} (h : Ends method ending m ⟨.chunkData n, bytes, draft⟩) :
    ∃ data rest, data.length = n ∧ bytes = data ++ (Bytes.crlf ++ rest) ∧
      Ends method ending m ⟨.chunkSize, rest, { draft with body := draft.body ++ data }⟩ := by
  obtain ⟨next, left, events, draft', hgoes, hdeliver, hnext⟩ := h.pass nofun nofun nofun
  cases hgoes with
  | line hphase _ _ => cases hphase
  | chunkDataEnd hne hn =>
    cases body_of_deliver hdeliver
    obtain ⟨next, left, events, draft', hgoes, hdeliver, hnext⟩ := hnext.pass nofun nofun nofun
    generalize hrest : bytes.drop n = rest at hgoes
    cases hgoes with
    | line hphase _ _ => cases hphase
    | chunkEnd left =>
      cases hdeliver
      refine ⟨bytes.take n, left, List.length_take_of_le hn, ?_, hnext⟩
      rw [← hrest, List.take_append_drop]
  | chunkDataPart hne hn => exact absurd hnext (not_ends_nil nofun nofun nofun)

/-- Chunks are written up to the end of the trailers. -/
theorem chunked (h : Ends method ending m ⟨.chunkSize, bytes, draft⟩) :
    ∃ chunks last trailers rest, (Payload.chunked chunks last trailers).Readable ∧
      bytes = (Payload.chunked chunks last trailers).wire ++ rest ∧
      Ends method ending m ⟨.complete, rest,
        { draft with
          headers := ⟨draft.headers.fields ++ trailers.map FieldLine.field⟩
          body := draft.body ++ chunks.flatMap (·.data)
          complete := true }⟩ := by
  -- Each chunk takes bytes away, and its data joins the draft.
  induction hlength : bytes.length using Nat.strong_induction_on generalizing bytes draft with
  | _ n ih =>
  obtain ⟨s, left, next, events, draft', hline, rfl, huse, hdeliver, hnext⟩ := h.line rfl
  obtain ⟨l, size, rfl, hreads, rfl, rfl⟩ := Decoder.of_onSizeLine huse
  cases hdeliver
  by_cases hsize : size = 0
  · subst hsize
    obtain ⟨trailers, rest, htrailers, rfl, hend⟩ := hnext.fields (.inr rfl)
    refine ⟨[], l, trailers, rest, ⟨nofun, ⟨hreads, hline⟩, htrailers⟩, ?_, ?_⟩
    · simp only [Payload.wire, List.flatMap_nil, List.nil_append, List.append_assoc]
    · have hblank : Leads method (fun _ => True) ⟨.trailers, Bytes.crlf ++ rest,
          { draft with headers := ⟨draft.headers.fields ++ trailers.map FieldLine.field⟩ }⟩ _ :=
        leads_blank rfl trivial rfl rfl rest
      rw [List.flatMap_nil, List.append_nil]
      exact hend.along hblank
  · rw [if_neg hsize] at hnext
    obtain ⟨data, rest, rfl, rfl, hafter⟩ := hnext.chunkData
    have hdata : data ≠ [] := fun hnil => hsize (List.length_eq_zero_iff.2 hnil)
    have hshorter : rest.length < n := by
      rw [← hlength, Request.line]
      simp only [List.length_append]
      show rest.length < (Utf8.encode l.text).length + 2 + (data.length + (2 + rest.length))
      omega
    obtain ⟨chunks, last, trailers, rest', ⟨hchunks, hlast, htrailers⟩, rfl, hend⟩ :=
      ih rest.length hshorter hafter rfl
    refine ⟨⟨l, data⟩ :: chunks, last, trailers, rest', ?_, ?_, ?_⟩
    · exact ⟨List.forall_mem_cons.2 ⟨⟨hdata, hreads, hline⟩, hchunks⟩, hlast, htrailers⟩
    · simp only [Payload.wire, List.flatMap_cons, Chunk.wire, List.append_assoc]
    · simpa only [List.flatMap_cons, List.append_assoc] using hend

/-- A body that lasts until the peer closes is all that is left. -/
theorem untilClose (h : Ends method ending m ⟨.untilClose, bytes, draft⟩) :
    { draft with body := draft.body ++ bytes, complete := true }.toMessage = .ok m := by
  have hlast {draft : Draft} (h : Ends method ending m ⟨.untilClose, [], draft⟩) :
      { draft with complete := true }.toMessage = .ok m := by
    rcases h.cases with ⟨next, skipped, hstep, -⟩ | ⟨hphase, -⟩ | ⟨-, -, hmessage⟩
    · cases hstep
    · cases hphase
    · exact hmessage
  by_cases hbytes : bytes = []
  · subst hbytes
    rw [List.append_nil]
    exact hlast h
  · rcases h.cases with ⟨⟨phase, left, draft'⟩, skipped, hstep, hnext⟩ | ⟨hphase, -⟩ | ⟨-, hnil, -⟩
    · rcases step_again hstep with ⟨events, hpass, hdeliver, -⟩ | ⟨hphase, -⟩
      · dsimp only at hpass
        rw [Decoder.pass_of_goes (.untilClose hbytes)] at hpass
        cases hpass
        cases body_of_deliver hdeliver
        exact hlast hnext
      · cases hphase
    · cases hphase
    · exact absurd hnil hbytes

theorem complete {rest : Bytes} (h : Ends method ending m ⟨.complete, rest, draft⟩) :
    draft.toMessage = .ok m := by
  rcases h.cases with ⟨next, skipped, hstep, -⟩ | ⟨-, hmessage⟩ | ⟨hphase, -⟩
  · rw [step_complete rfl] at hstep
    cases hstep
  · exact hmessage
  · cases hphase

/-! ## The payload -/

/-- Behind the decision how the body is delimited there is a payload that is delimited so. -/
theorem payload {framing : Framing} {tail : Bytes}
    (h : Ends method ending m ⟨(Decoder.frame .headersDone framing).1, tail,
      (Draft.collector.deliver draft (Decoder.frame .headersDone framing).2).1⟩) :
    ∃ p rest, tail = p.wire ++ rest ∧ p.Readable ∧ framing.Delimits p rest ∧
      { draft with
        headers := ⟨draft.headers.fields ++ p.trailers⟩
        body := draft.body ++ p.body
        complete := true }.toMessage = .ok m := by
  -- A payload without trailers adds no fields.
  have hplain {body : Bytes}
      (hmessage : { draft with body := draft.body ++ body, complete := true }.toMessage = .ok m) :
      { draft with
        headers := ⟨draft.headers.fields ++ []⟩
        body := draft.body ++ body
        complete := true }.toMessage = .ok m := by
    rw [List.append_nil]
    exact hmessage
  have hbare (hmessage : { draft with complete := true }.toMessage = .ok m) :
      { draft with body := draft.body ++ [], complete := true }.toMessage = .ok m := by
    rw [List.append_nil]
    exact hmessage
  cases framing with
  | empty => exact ⟨.sized [], tail, rfl, trivial, rfl, hplain (hbare (complete h))⟩
  | sized n =>
    cases n with
    | zero => exact ⟨.sized [], tail, rfl, trivial, rfl, hplain (hbare (complete h))⟩
    | succ n =>
      obtain ⟨body, rest, hlength, rfl, hend⟩ := sized h
      exact ⟨.sized body, rest, rfl, trivial, congrArg Framing.sized hlength,
        hplain (complete hend)⟩
  | chunked =>
    obtain ⟨chunks, last, trailers, rest, hreadable, rfl, hend⟩ := chunked h
    exact ⟨.chunked chunks last trailers, rest, rfl, hreadable, rfl, complete hend⟩
  | untilClose =>
    exact ⟨.untilClose tail, [], (List.append_nil tail).symm, trivial, ⟨rfl, rfl⟩,
      hplain (untilClose h)⟩

/-! ## The head -/

/-- After the head of a final response the framing is chosen. -/
theorem framing {tail : Bytes} (h : Ends method ending m ⟨.headersDone, tail, draft⟩)
    (hfinal : isInterim draft.code = false) :
    ∃ framing, Framing.choose method draft.code draft.headers = .ok framing ∧
      Ends method ending m ⟨(Decoder.frame .headersDone framing).1, tail,
        (Draft.collector.deliver draft (Decoder.frame .headersDone framing).2).1⟩ := by
  obtain ⟨next, skipped, hstep, hnext⟩ := h.next nofun nofun
  rw [step_headersDone rfl] at hstep
  unfold onHead at hstep
  dsimp only at hstep
  rw [hfinal] at hstep
  split at hstep
  · next hinterim => cases hinterim
  split at hstep
  · cases hstep
  next framing hchoose =>
  split at hstep
  · cases hstep
  cases hstep
  exact ⟨framing, hchoose, hnext⟩

end Ends

/-- The stream begins with blank lines and interim responses, and after them with the head of a
final response. -/
structure Opens (stream : Bytes) (before : List Interlude) (h : Head) (tail : Bytes) : Prop where
  bytes : stream = before.flatMap Interlude.wire ++ (h.wire ++ tail)
  interludes : ∀ p ∈ before, p.Valid
  head : h.Readable
  final : isInterim h.code = false

/-- The head of a final response with nothing before it. -/
theorem Opens.nil {h : Head} (hreadable : h.Readable) (hfinal : isInterim h.code = false)
    (tail : Bytes) : Opens (h.wire ++ tail) [] h tail := by
  refine ⟨?_, nofun, hreadable, hfinal⟩
  rw [List.flatMap_nil, List.nil_append]

/-- One more interlude. -/
theorem Opens.cons {stream tail : Bytes} {before : List Interlude} {h : Head} {p : Interlude}
    (hopens : Opens stream before h tail) (hp : p.Valid) :
    Opens (p.wire ++ stream) (p :: before) h tail := by
  refine ⟨?_, List.forall_mem_cons.2 ⟨hp, hopens.interludes⟩, hopens.head, hopens.final⟩
  rw [List.flatMap_cons, List.append_assoc, ← hopens.bytes]

namespace Ends

variable {bytes : Bytes}

/-- A status line that is used is the beginning of a head. -/
theorem head {h : Head} {left : Bytes}
    (hends : Ends method ending m ⟨.headers, left, ⟨limit, some h.status, .empty, [], false⟩⟩)
    (hversion : ' ' ∉ h.version.toList) (hcode : 100 ≤ h.code ∧ h.code ≤ 999)
    (hline : OneLine h.text) :
    ∃ (whole : Head) (tail : Bytes), whole.Readable ∧
      Request.line h.text ++ left = whole.wire ++ tail := by
  obtain ⟨lines, tail, hlines, rfl, -⟩ := hends.fields (.inl rfl)
  refine ⟨{ h with fields := lines }, tail, ⟨hversion, hcode, hline, hlines⟩, ?_⟩
  simp only [Head.wire, List.append_assoc]
  rfl

theorem length_head (h : Head) (tail : Bytes) : tail.length < (h.wire ++ tail).length := by
  rw [Head.wire, List.append_assoc]
  refine Nat.lt_of_le_of_lt ?_ (length_line _ _)
  rw [List.length_append]
  exact Nat.le_add_left _ _

/-- A stream that is accepted opens with the head of a final response. -/
theorem opens (h : Ends method ending m ⟨.statusLine, bytes, .start limit⟩) :
    ∃ before final tail, Opens bytes before final tail := by
  -- Each interlude takes bytes away and leaves the draft as it was.
  induction hlength : bytes.length using Nat.strong_induction_on generalizing bytes with
  | _ n ih =>
  obtain ⟨s, left, next, events, draft', hline, rfl, huse, hdeliver, hnext⟩ := h.line rfl
  rcases Decoder.of_onStatusLine huse with
    ⟨rfl, rfl, rfl⟩ | ⟨start, rfl, hversion, hcode, -, rfl, rfl⟩
  · cases hdeliver
    have hshorter := hlength ▸ length_line "" left
    obtain ⟨before, final, tail, hopens⟩ := ih left.length hshorter hnext rfl
    exact ⟨.blank :: before, final, tail, hopens.cons (p := .blank) trivial⟩
  · cases hdeliver
    obtain ⟨whole, tail, hreadable, hbytes⟩ := hnext.head hversion hcode hline
    rw [hbytes] at h hlength ⊢
    by_cases hinterim : isInterim whole.code = true
    · have hpassed : Interlude.Valid (.head whole) := ⟨hreadable, hinterim⟩
      have hafter := h.along (leads_interlude limit hpassed tail)
      have hshorter : tail.length < n := by
        rw [← hlength]
        exact length_head whole tail
      obtain ⟨before, final, tail', hopens⟩ := ih tail.length hshorter hafter rfl
      have hmore := hopens.cons hpassed
      exact ⟨.head whole :: before, final, tail', hmore⟩
    · exact ⟨[], whole, tail, .nil hreadable (Bool.eq_false_iff.2 hinterim) tail⟩

end Ends

/-- The payload stands behind the head, delimited as the head says for the method. -/
structure Carries (method : Method) (h : Head) (tail : Bytes) (p : Payload) : Prop where
  readable : p.Readable
  delimited : ∃ framing rest, Framing.choose method h.code h.headers = .ok framing ∧
    framing.Delimits p rest ∧ tail = p.wire ++ rest

/-- Whatever opens the stream, the message is what the head and the payload behind it mean. -/
theorem Ends.carries {stream tail : Bytes} {before : List Interlude} {h : Head}
    (hends : Ends method ending m ⟨.statusLine, stream, .start limit⟩)
    (hopens : Opens stream before h tail) :
    ∃ p, Carries method h tail p ∧ m = Rendition.message ⟨h, p⟩ := by
  rw [hopens.bytes] at hends
  have hhead := hends.along (leads_interludes limit hopens.interludes _)
  have hdone := hhead.along (leads_head limit hopens.head (fun _ _ => trivial) tail)
  obtain ⟨framing, hchoose, hframed⟩ := hdone.framing hopens.final
  obtain ⟨p, rest, hbytes, hreadable, hdelimited, hmessage⟩ := hframed.payload
  exact ⟨p, ⟨hreadable, framing, rest, hchoose, hdelimited, hbytes⟩, (Except.ok.inj hmessage).symm⟩

/-- A response that is accepted was written: the stream opens with the head of a final response,
and whatever head that is, the message is what it and the payload behind it mean. -/
theorem written_of_accepted {reads : List Bytes}
    (h : (readAll method ending (start limit) reads).2 = .done (.ok m)) :
    (∃ before final tail, Opens reads.flatten before final tail) ∧
      ∀ before final tail, Opens reads.flatten before final tail →
        ∃ p, Carries method final tail p ∧ m = Rendition.message ⟨final, p⟩ := by
  have hwhole := readAll_eq_whole method ending reads (start limit)
    (.inl fun failure hfailed => by rw [h] at hfailed; cases hfailed)
  have hends : Ends method ending m ⟨.statusLine, reads.flatten, .start limit⟩ :=
    hwhole.symm.trans h
  exact ⟨hends.opens, fun before final tail hopens => hends.carries hopens⟩

end Intake

end Http1Client
