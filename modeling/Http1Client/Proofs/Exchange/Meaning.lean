import Http1Client.Proofs.Exchange.Fields

/-!
# What a line must have said

A line that is used is spelled as a part of a response. What a status line gives is the status of a
head that is spelled on it (`of_onStatusLine`), what a header or a trailer line gives is the field
of a field line (`of_onHeaderLine`, `of_onTrailerLine`), and a size line reads as the size that it
gives (`of_onSizeLine`). These are the converses of what is said of readable lines. Blank lines
stand by themselves.

A size may be spelled in more ways than a peer may use, with a plus sign or with blanks of any kind
around the digits; `SizeLine.Names` allows for these.
-/

namespace Http1Client

/-- The size line reads as the number, before the semicolon if there is one. -/
@[mk_iff]
structure SizeLine.Names (l : SizeLine) (size : Nat) : Prop where
  size : Text.Reads 16 l.digits.toList size
  line : OneLine l.text

namespace Decoder

variable {s : String} {next : Phase} {events : List Event}

/-! ## What is spelled on a line -/

/-- What says a status is spelled as the first line of a head. -/
theorem exists_of_saysStatus {n : Nat} {reason : List Char} (h : SaysStatus s.toList n reason) :
    ∃ head : Head, s = head.text ∧ ' ' ∉ head.version.toList ∧
      (100 ≤ head.code ∧ head.code ≤ 999) ∧ head.fields = [] ∧
      head.status = ⟨n, String.ofList reason⟩ := by
  have hminor {minor : List Char} (hversion : ' ' ∉ versionMark ++ minor) :
      ' ' ∉ (String.ofList minor).toList := by
    rw [String.toList_ofList]
    exact fun hmem => hversion (List.mem_append_right _ hmem)
  generalize htext : s.toList = text at h
  cases h with
  | bare hmark hversion hcode =>
    obtain ⟨minor, rfl⟩ := hmark
    refine ⟨⟨String.ofList minor, n, none, []⟩, String.toList_injective ?_, hminor hversion,
      hcode.range, rfl, rfl⟩
    rw [htext, hcode.eq_decimal]
    simp [Head.text, versionMark]
  | reason hmark hversion hcode rest =>
    obtain ⟨minor, rfl⟩ := hmark
    refine ⟨⟨String.ofList minor, n, some (String.ofList rest), []⟩, String.toList_injective ?_,
      hminor hversion, hcode.range, rfl, ?_⟩
    · rw [htext, hcode.eq_decimal]
      simp [Head.text, versionMark]
    · simp [Head.status]

/-- A status line gives the status that is spelled on it, or it is blank. -/
theorem of_onStatusLine (h : onStatusLine s.toList = .ok (next, events)) :
    s = "" ∧ next = .statusLine ∧ events = [] ∨
      ∃ head : Head, s = head.text ∧ ' ' ∉ head.version.toList ∧
        (100 ≤ head.code ∧ head.code ≤ 999) ∧ head.fields = [] ∧
        next = .headers ∧ events = [.status head.status.code head.status.reason] := by
  have huse : Phase.statusLine.useLine s.toList = .ok (next, events) := h
  rcases says_of_useLine rfl huse with rfl | ⟨_, htold, rfl, rfl⟩
  · cases h
    exact .inl ⟨rfl, rfl, rfl⟩
  · cases htold with
    | status hread =>
      obtain ⟨head, htext, hversion, hcode, hfields, hstatus⟩ := exists_of_saysStatus hread
      exact .inr ⟨head, htext, hversion, hcode, hfields, rfl, by rw [hstatus]⟩

/-- A header line gives the field that is spelled on it, or it is blank. -/
theorem of_onHeaderLine (h : onHeaderLine s.toList = .ok (next, events)) :
    s = "" ∧ next = .headersDone ∧ events = [] ∨
      ∃ l : FieldLine, s = l.text ∧ isToken l.name.toList = true ∧
        next = .headers ∧ events = [.header l.field.name l.field.value] := by
  have huse : Phase.headers.useLine s.toList = .ok (next, events) := h
  rcases says_of_useLine rfl huse with rfl | ⟨_, htold, rfl, rfl⟩
  · cases h
    exact .inl ⟨rfl, rfl, rfl⟩
  · cases htold with
    | header hread =>
      obtain ⟨l, htext, htoken, hfield⟩ := exists_of_saysField hread
      exact .inr ⟨l, htext, htoken, rfl, by rw [hfield]⟩

/-- So does a trailer line. -/
theorem of_onTrailerLine (h : onTrailerLine s.toList = .ok (next, events)) :
    s = "" ∧ next = .complete ∧ events = [.complete] ∨
      ∃ l : FieldLine, s = l.text ∧ isToken l.name.toList = true ∧
        next = .trailers ∧ events = [.trailer l.field.name l.field.value] := by
  have huse : Phase.trailers.useLine s.toList = .ok (next, events) := h
  rcases says_of_useLine rfl huse with rfl | ⟨_, htold, rfl, rfl⟩
  · cases h
    exact .inl ⟨rfl, rfl, rfl⟩
  · cases htold with
    | trailer hread =>
      obtain ⟨l, htext, htoken, hfield⟩ := exists_of_saysField hread
      exact .inr ⟨l, htext, htoken, rfl, by rw [hfield]⟩

/-- A size line reads as the size that it gives. -/
theorem of_onSizeLine (h : onSizeLine s.toList = .ok (next, events)) :
    ∃ (l : SizeLine) (n : Nat), s = l.text ∧ Text.Reads 16 l.digits.toList n ∧
      next = (if n = 0 then .trailers else .chunkData n) ∧ events = [] := by
  have hline : ∃ l : SizeLine, s = l.text ∧ (Text.cutAt ';' s.toList).1 = l.digits.toList := by
    generalize hcut : Text.cutAt ';' s.toList = pieces
    obtain ⟨front, rest⟩ := pieces
    cases rest with
    | none =>
      rw [← Text.eq_of_cutAt_none hcut]
      exact ⟨⟨s, none⟩, rfl, rfl⟩
    | some rest =>
      refine ⟨⟨String.ofList front, some (String.ofList rest)⟩, String.toList_injective ?_, ?_⟩
      · rw [Text.eq_of_cutAt hcut]
        simp [SizeLine.text]
      · exact String.toList_ofList.symm
  obtain ⟨l, htext, hdigits⟩ := hline
  by_cases hreads : ∃ n, Text.Reads 16 (Text.cutAt ';' s.toList).1 n
  · obtain ⟨n, hn⟩ := hreads
    rw [onSizeLine_of_reads hn] at h
    cases h
    exact ⟨l, n, htext, hdigits ▸ hn, rfl, rfl⟩
  · obtain ⟨fault, hfault⟩ := onSizeLine_error fun n hn => hreads ⟨n, hn⟩
    rw [hfault] at h
    cases h

end Decoder

end Http1Client
