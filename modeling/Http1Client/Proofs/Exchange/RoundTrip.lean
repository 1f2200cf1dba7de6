import Http1Client.Proofs.Exchange.Delivery

/-!
# A response is read as it was written

A valid reply is a valid rendition, so an intake is led through its bytes to the message that
was meant, whatever follows a reply that says where it ends (`leads_complete`,
`leads_waiting`), and the pieces in which the bytes arrive do not matter (`readAll_wire`).
-/

namespace Http1Client.Intake

variable (method : Method) {limit : Nat}

/-! ## The whole reply -/

/-- What a draft holds after all of a reply. -/
def wholeDraft (limit : Nat) (r : Reply) (complete : Bool) : Draft :=
  ⟨limit, some r.status, ⟨r.headers ++ r.transfer.trailers⟩, r.transfer.body, complete⟩

theorem draftOf_rendition (limit : Nat) {r : Reply} (h : r.Valid) (complete : Bool) :
    draftOf limit r.rendition complete = wholeDraft limit r complete := by
  rw [draftOf, Reply.rendition_status h, Reply.rendition_headers h, Reply.rendition_trailers h,
    r.rendition_body]
  rfl

/-- A reply that says where it ends leads there, whatever follows it. -/
theorem leads_complete (hmethod : method ≠ .head) {r : Reply} (h : r.Valid)
    (hlimit : limit < UInt64.size) (hbody : r.transfer.body.length ≤ limit)
    (hclose : r.transfer.framing ≠ .untilClose) (rest : Bytes) :
    Leads method Short ⟨.statusLine, r.wire ++ rest, .start limit⟩
      ⟨.complete, rest, wholeDraft limit r true⟩ := by
  rw [← r.rendition_wire, ← draftOf_rendition limit h true]
  refine leads_rendition (Reply.rendition_valid h ?_) (Reply.rendition_shortSizes h)
    (Reply.rendition_bodied h hmethod) ?_ ?_ rest
  · exact Nat.lt_of_le_of_lt hbody hlimit
  · rw [r.rendition_body]
    exact hbody
  · rw [r.rendition_framing]
    exact hclose

/-- A reply that lasts until the peer closes leads to its last byte. -/
theorem leads_waiting (hmethod : method ≠ .head) {r : Reply} (h : r.Valid)
    (hlimit : limit < UInt64.size) (hbody : r.transfer.body.length ≤ limit)
    (hclose : r.transfer.framing = .untilClose) :
    Leads method Short ⟨.statusLine, r.wire, .start limit⟩
      ⟨.untilClose, [], wholeDraft limit r false⟩ := by
  rw [← r.rendition_wire, ← draftOf_rendition limit h false]
  refine leads_last (Reply.rendition_valid h ?_) (Reply.rendition_bodied h hmethod) ?_ ?_
  · exact Nat.lt_of_le_of_lt hbody hlimit
  · rw [r.rendition_body]
    exact hbody
  · rw [r.rendition_framing]
    exact hclose

/-- Pieces of a stream that leads to an intake with nothing left come to what that intake
comes to. -/
theorem readAll_of_leads {last : Intake} {reads : List Bytes} {stream : Bytes}
    (h : Leads method Short ⟨.statusLine, stream, .start limit⟩ last) (hlast : last.left = [])
    (hreads : reads.flatten = stream) (ending : Option Stop) :
    (readAll method ending (start limit) reads).2 = conclude ending (settle method last).2 := by
  refine readAll_eq_conclude h (fun hmeets => ?_) hreads ending
  have := hmeets.length_le
  rw [hlast] at this
  cases this

/-- Reading the bytes of a valid reply, in any pieces, gives the message that was meant.
Limits are numbers of 64 bits. -/
theorem readAll_wire (hmethod : method ≠ .head) {r : Reply} (h : r.Valid)
    (hlimit : limit < UInt64.size) (hbody : r.transfer.body.length ≤ limit) {ending : Option Stop}
    (hending : r.transfer.framing = .untilClose → ending = none) {reads : List Bytes}
    (hreads : reads.flatten = r.wire) :
    (readAll method ending (start limit) reads).2 = .done (.ok r.message) := by
  by_cases hclose : r.transfer.framing = .untilClose
  · have hleads := leads_waiting method hmethod h hlimit hbody hclose
    have hhungry : step method ⟨.untilClose, [], wholeDraft limit r false⟩ =
        .hungry ⟨.untilClose, [], wholeDraft limit r false⟩ := rfl
    rw [readAll_of_leads method hleads rfl hreads, settle_of_hungry hhungry, hending hclose]
    rfl
  · have hleads := leads_complete method hmethod h hlimit hbody hclose []
    rw [List.append_nil] at hleads
    have hcomplete : step method ⟨.complete, [], wholeDraft limit r true⟩ =
        .complete ⟨.complete, [], wholeDraft limit r true⟩ := step_complete rfl
    rw [readAll_of_leads method hleads rfl hreads, settle_of_complete hcomplete]
    rfl

/-- Two chunks with their sizes spelled at length, an extension and a trailer, a byte at a
time; the body is as long as the limit. -/
theorem readAll_wire_chunked :
    let r : Reply := ⟨'1', ⟨200, "OK"⟩, [⟨"transfer-encoding", "chunked"⟩, ⟨"X-Name", "é: b"⟩],
      .chunked [⟨⟨"00A", some "n=v"⟩, [0, 13, 10, 13, 10, 255, 48, 13, 10, 1]⟩, ⟨⟨"1", none⟩, [7]⟩]
        ⟨"000", some ""⟩ [⟨"Digest", "x"⟩]⟩
    r.Valid ∧
      (readAll .post none (start 11) (r.wire.map fun b => [b])).2 = .done (.ok r.message) := by
  intro r
  have hvalid : r.Valid := by decide
  have hbytes : (r.wire.map fun b => [b]).flatten = r.wire := by
    rw [← List.flatMap_def, List.flatMap_singleton']
  exact ⟨hvalid, readAll_wire .post (by decide) hvalid (by decide) (by decide) nofun hbytes⟩

end Http1Client.Intake
