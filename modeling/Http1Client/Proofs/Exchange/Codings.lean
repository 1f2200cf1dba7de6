import Http1Client.Proofs.Exchange.Delivery
import Http1Client.Proofs.Headers

/-!
# Transfer codings

The values of Transfer-Encoding are one list, over however many fields it is spread, and a
body that has gone through the coding `chunked` last comes in chunks. Members of a list may be
empty, and whoever reads the list should pass over them. The choice of a framing does not: it
goes by the very last member (`choose_of_codings`), so a list that ends in a comma after
`chunked` is taken for one without chunks.

Nothing fails then. The size lines and the line ends between the chunks are read as part of a
body that lasts until the peer closes (`readAll_taken`), and `transfer_codings` says for which
lists.
-/

namespace Http1Client

/-! ## The list -/

namespace Framing

variable {method : Method} {code : Nat} {headers : Headers}

/-- The members of the list that the values of Transfer-Encoding make, empty ones too, without
the blanks around them and in small letters. -/
def codings (headers : Headers) : List (List Char) :=
  (Text.split ',' (",".intercalate (headers.getAll "Transfer-Encoding")).toList).map fun m =>
    Text.lower (Text.trim m)

/-- The coding of bodies that come in chunks. -/
def chunkedCoding : List Char := "chunked".toList

/-- The last member that is not empty is `chunked`. -/
def EndsChunked (headers : Headers) : Prop :=
  ((codings headers).filter fun m => !m.isEmpty).getLast? = some chunkedCoding

instance : Decidable (EndsChunked headers) :=
  inferInstanceAs (Decidable (_ = some chunkedCoding))

/-- A field that is there has a last value. -/
theorem exists_last_value {name : String} (h : headers.contains name = true) :
    ∃ front coding, headers.getAll name = front ++ [coding] := by
  obtain ⟨f, hf, hnamed⟩ := Headers.contains_iff.1 h
  have hne : headers.getAll name ≠ [] :=
    List.ne_nil_of_mem (List.mem_map_of_mem (List.mem_filter.2 ⟨hf, hnamed⟩))
  obtain ⟨front, hfront⟩ := List.getLast?_eq_some_iff.1 (List.getLast?_eq_some_getLast hne)
  exact ⟨front, _, hfront⟩

/-- The last value ends the list, and its last member is the last of all. -/
theorem getLast?_codings {front : List String} {coding : String}
    (h : headers.getAll "Transfer-Encoding" = front ++ [coding]) :
    (codings headers).getLast? = some (Text.lower (lastMember coding)) := by
  have hvalues : (front ++ [coding]).map String.toList ≠ [] := by simp
  -- Joined with commas and split at commas, the values give their members one after another.
  have hsplit : Text.split ',' (",".intercalate (front ++ [coding])).toList =
      ((front ++ [coding]).map String.toList).flatMap (Text.split ',') := by
    rw [String.toList_intercalate]
    exact Text.split_intercalate hvalues
  have hlast : Text.split ',' coding.toList ≠ [] := List.splitOnP_ne_nil _ _
  rw [codings, h, hsplit, List.map_append, List.flatMap_append, List.map_append,
    List.map_singleton, List.flatMap_singleton, List.getLast?_append, List.getLast?_map,
    List.getLast?_eq_some_getLast hlast, lastMember, List.getLastD_eq_getLast?,
    List.getLast?_eq_some_getLast hlast]
  rfl

/-- The framing goes by the last member, be it empty or not. -/
theorem choose_of_codings (hbody : bodiless method code = false)
    (hcoding : headers.contains "Transfer-Encoding" = true) :
    choose method code headers = .ok
      (if (codings headers).getLast? = some chunkedCoding then .chunked else .untilClose) := by
  obtain ⟨front, coding, hvalues⟩ := exists_last_value hcoding
  have hmember : (Text.lower (lastMember coding) == "chunked".toList) = true ↔
      some (Text.lower (lastMember coding)) = some chunkedCoding :=
    beq_iff_eq.trans (Option.some_inj).symm
  rw [choose, hbody, hvalues, List.getLast?_concat, getLast?_codings hvalues]
  exact congrArg Except.ok (if_congr hmember rfl rfl)

theorem choose_eq_chunked_iff (hbody : bodiless method code = false)
    (hcoding : headers.contains "Transfer-Encoding" = true) :
    choose method code headers = .ok .chunked ↔
      (codings headers).getLast? = some chunkedCoding := by
  rw [choose_of_codings hbody hcoding, Except.ok.injEq]
  split
  · next hlast => exact iff_of_true rfl hlast
  · next hlast => exact iff_of_false nofun hlast

/-- A list of which the last member is not empty ends in chunks if that member says so. -/
theorem endsChunked_iff {last : List Char} (h : (codings headers).getLast? = some last)
    (hlast : last ≠ []) : EndsChunked headers ↔ last = chunkedCoding := by
  obtain ⟨front, hcodings⟩ := List.getLast?_eq_some_iff.1 h
  have hkept : [last].filter (fun m => !m.isEmpty) = [last] := by
    simpa only [List.filter_eq_self, List.forall_mem_singleton, Bool.not_eq_true',
      List.isEmpty_eq_false_iff] using hlast
  rw [EndsChunked, hcodings, List.filter_append, hkept, List.getLast?_concat, Option.some.injEq]

/-- The choice is right unless an empty member stands behind a last coding `chunked`. -/
theorem choose_right_iff (hbody : bodiless method code = false)
    (hcoding : headers.contains "Transfer-Encoding" = true) :
    (choose method code headers = .ok .chunked ↔ EndsChunked headers) ↔
      ¬ (EndsChunked headers ∧ (codings headers).getLast? = some []) := by
  obtain ⟨front, coding, hvalues⟩ := exists_last_value hcoding
  rw [choose_eq_chunked_iff hbody hcoding, getLast?_codings hvalues]
  -- An empty last member hides whatever stands before it; any other one is the last for both.
  by_cases hnil : Text.lower (lastMember coding) = []
  · have hother : ¬ some ([] : List Char) = some chunkedCoding := by decide
    rw [hnil, iff_false_left hother, and_iff_left rfl]
  · rw [endsChunked_iff (getLast?_codings hvalues) hnil, Option.some.injEq, Option.some.injEq]
    exact iff_of_true Iff.rfl fun h => hnil h.2

end Framing

/-! ## What is made of chunks -/

namespace Payload

variable {headers : Headers} {p : Payload}

/-- What a payload in chunks is taken for: itself after the coding `chunked`, and else one body
until the peer closes. -/
def taken (headers : Headers) (p : Payload) : Payload :=
  if (Framing.codings headers).getLast? = some Framing.chunkedCoding then p
  else .untilClose p.wire

theorem wire_taken : (p.taken headers).wire = p.wire := by
  unfold taken
  split <;> rfl

theorem fits_taken (h : p.Fits) : (p.taken headers).Fits := by
  unfold taken
  split
  · exact h
  · trivial

theorem shortSizes_taken (h : p.ShortSizes) : (p.taken headers).ShortSizes := by
  unfold taken
  split
  · exact h
  · trivial

variable {chunks : List Chunk} {last : SizeLine} {trailers : List FieldLine}

/-- The fields declare what chunks are taken for. -/
theorem declared_taken (hcoding : headers.contains "Transfer-Encoding" = true) :
    ((chunked chunks last trailers).taken headers).Declared headers := by
  obtain ⟨front, coding, hvalues⟩ := Framing.exists_last_value hcoding
  have hlast : coding ∈ (headers.getAll "Transfer-Encoding").getLast? := by
    rw [hvalues, List.getLast?_concat]
    rfl
  have hcodings := Framing.getLast?_codings hvalues
  unfold taken
  split
  · next hchunked => exact ⟨coding, hlast, Option.some.inj (hcodings.symm.trans hchunked)⟩
  · next hother =>
    exact .inl ⟨coding, hlast, fun hchunked => hother (hcodings.trans (congrArg some hchunked))⟩

/-- Chunks take more bytes than the body they carry. -/
theorem length_body_lt (chunks : List Chunk) (last : SizeLine) (trailers : List FieldLine) :
    (chunked chunks last trailers).body.length < (chunked chunks last trailers).wire.length := by
  have hchunks : (chunks.flatMap (·.data)).length ≤ (chunks.flatMap Chunk.wire).length := by
    induction chunks with
    | nil => exact Nat.le_refl 0
    | cons c chunks ih =>
      simp only [List.flatMap_cons, List.length_append, Chunk.wire]
      omega
  have hend : 0 < Bytes.crlf.length := Nat.zero_lt_succ 1
  simp only [body, wire, List.length_append]
  omega

/-- The body that is delivered is the one that was sent only if the chunks are seen. -/
theorem body_taken_iff : ((chunked chunks last trailers).taken headers).body =
      (chunked chunks last trailers).body ↔
    (Framing.codings headers).getLast? = some Framing.chunkedCoding := by
  unfold taken
  split
  · next hchunked => exact iff_of_true rfl hchunked
  · next hother =>
    refine iff_of_false (fun hbody => ?_) hother
    have hlength := length_body_lt chunks last trailers
    rw [← hbody] at hlength
    exact Nat.lt_irrefl _ hlength

end Payload

namespace Intake

open Framing

variable {method : Method} {code : Nat} {headers : Headers}

/-- A response in chunks is read as what they are taken for. -/
theorem readAll_taken {h : Head} {chunks : List Chunk} {last : SizeLine}
    {trailers : List FieldLine} (hvalid : h.Valid) (hbody : bodiless method h.code = false)
    (hcoding : h.headers.contains "Transfer-Encoding" = true)
    (hfits : (Payload.chunked chunks last trailers).Fits)
    (hsizes : (Payload.chunked chunks last trailers).ShortSizes) (limit : Nat)
    {reads : List Bytes}
    (hreads : reads.flatten = h.wire ++ (Payload.chunked chunks last trailers).wire) :
    (readAll method none (start limit) reads).2 =
      let taken := (Payload.chunked chunks last trailers).taken h.headers
      .done (if limit < taken.body.length then .error (.tooLarge limit)
        else .ok (Rendition.message ⟨h, taken⟩)) := by
  have hwhole : Rendition.Valid ⟨h, (Payload.chunked chunks last trailers).taken h.headers⟩ :=
    ⟨hvalid, Payload.fits_taken hfits, Payload.declared_taken hcoding⟩
  refine readAll_rendition hwhole (Payload.shortSizes_taken hsizes) hbody limit (fun _ => rfl) ?_
  rw [Rendition.wire, Payload.wire_taken]
  exact hreads

/-- After a head with transfer codings a body comes in chunks exactly if the very last member of
their list is `chunked`, and that is the last one that is not empty unless an empty member stands
behind it. A body in chunks is delivered as it was sent exactly if they are chosen, and else with
the size lines and all that is between and behind the chunks. -/
theorem transfer_codings (hbody : bodiless method code = false)
    (hcoding : headers.contains "Transfer-Encoding" = true) :
    choose method code headers = .ok
        (if (codings headers).getLast? = some chunkedCoding then .chunked else .untilClose) ∧
      ((choose method code headers = .ok .chunked ↔ EndsChunked headers) ↔
        ¬ (EndsChunked headers ∧ (codings headers).getLast? = some [])) ∧
      ∀ (h : Head) (chunks : List Chunk) (last : SizeLine) (trailers : List FieldLine)
        (limit : Nat) (reads : List Bytes), h.Valid → h.code = code → h.headers = headers →
        let sent := Payload.chunked chunks last trailers
        let taken := sent.taken headers
        sent.Fits → sent.ShortSizes → reads.flatten = h.wire ++ sent.wire →
        (readAll method none (start limit) reads).2 =
            .done (if limit < taken.body.length then .error (.tooLarge limit)
              else .ok (Rendition.message ⟨h, taken⟩)) ∧
          (taken.body = sent.body ↔ choose method code headers = .ok .chunked) := by
  refine ⟨choose_of_codings hbody hcoding, choose_right_iff hbody hcoding, ?_⟩
  rintro h chunks last trailers limit reads hvalid rfl rfl sent taken hfits hsizes hreads
  refine ⟨readAll_taken hvalid hbody hcoding hfits hsizes limit hreads, ?_⟩
  rw [choose_eq_chunked_iff hbody hcoding]
  exact Payload.body_taken_iff

/-- A list on two lines, with empty members before the last one. -/
theorem transfer_codings_two_lines :
    let h : Head := ⟨"1", 200, some "OK",
      [⟨"Transfer-Encoding", "gzip,"⟩, ⟨"transfer-encoding", " , Chunked"⟩]⟩
    let sent := Payload.chunked [⟨⟨"3", none⟩, [97, 98, 99]⟩] ⟨"0", none⟩ []
    choose .get 200 h.headers = .ok .chunked ∧ EndsChunked h.headers ∧
      (readAll .get none (start 3) [h.wire ++ sent.wire]).2 =
        .done (.ok (Rendition.message ⟨h, sent⟩)) := by
  intro h sent
  have hlast : (codings h.headers).getLast? = some chunkedCoding := by decide
  have htaken : sent.taken h.headers = sent := if_pos hlast
  obtain ⟨hchoose, hright, hread⟩ :=
    @transfer_codings .get 200 h.headers (by decide) (by decide)
  rw [if_pos hlast] at hchoose
  have hother : ¬ (EndsChunked h.headers ∧ (codings h.headers).getLast? = some []) := by
    decide
  obtain ⟨hmessage, -⟩ := hread h _ _ _ 3 [h.wire ++ sent.wire] (by decide) rfl rfl
    (by decide) (by decide) (List.append_nil _)
  refine ⟨hchoose, (hright.2 hother).1 hchoose, hmessage.trans ?_⟩
  rw [htaken]
  rfl

/-- A comma behind the last coding hides it, and the size lines are delivered in the body. -/
theorem transfer_codings_comma :
    let h : Head := ⟨"1", 200, some "OK", [⟨"Transfer-Encoding", "chunked,"⟩]⟩
    let sent := Payload.chunked [⟨⟨"3", none⟩, [97, 98, 99]⟩] ⟨"0", none⟩ []
    bodiless .get 200 = false ∧ EndsChunked h.headers ∧
      choose .get 200 h.headers = .ok .untilClose ∧
      (readAll .get none (start 100) [h.wire ++ sent.wire]).2 =
        .done (.ok ⟨h.status, h.headers, .new sent.wire⟩) ∧
      sent.wire ≠ sent.body := by
  intro h sent
  have hlast : (codings h.headers).getLast? ≠ some chunkedCoding := by decide
  have htaken : sent.taken h.headers = .untilClose sent.wire := if_neg hlast
  have hread : (readAll .get none (start 100) [h.wire ++ sent.wire]).2 = _ :=
    readAll_taken (by decide) (by decide) (by decide) (by decide)
      (by decide) 100 (List.append_nil _)
  refine ⟨by decide, by decide, by decide, hread.trans ?_, ?_⟩
  · rw [htaken]
    rfl
  · exact ne_of_apply_ne List.length (by decide)

end Intake

end Http1Client
