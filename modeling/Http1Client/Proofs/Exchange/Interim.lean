import Http1Client.Proofs.Exchange.Delivery

/-!
# Interim responses leave no trace

A peer may send blank lines and interim responses before the response that counts. Settling
goes through each of them and comes back to where it started: before a status line, with the
draft of the beginning (`leads_interlude`). So nothing that an interim response says, of
lengths, of codings or of anything else, has a part in what is read after it, be that valid or
not (`readAll_interludes`). What remains is that the codes passed over are noted.
-/

namespace Http1Client

/-- What may come before the response that counts. -/
inductive Interlude where
  | blank
  /-- An interim response, which ends with its head. -/
  | head (h : Head)

namespace Interlude

/-- The bytes of an interlude. -/
def wire : Interlude → Bytes
  | .blank => Bytes.crlf
  | .head h => h.wire

/-- The head can be read, and its code announces another response. -/
def Valid : Interlude → Prop
  | .blank => True
  | .head h => h.Readable ∧ Intake.isInterim h.code = true

instance (p : Interlude) : Decidable p.Valid :=
  match p with
  | .blank => .isTrue trivial
  | .head _ => inferInstanceAs (Decidable (_ ∧ _))

end Interlude

namespace Intake

variable {method : Method} {i last : Intake} {fits : Nat → Prop}

/-! ## Back to the start -/

/-- Of an interim response that is discarded the draft keeps nothing. -/
theorem headDraft_discardInterim (limit : Nat) (h : Head) :
    (headDraft limit h).discardInterim = .start limit := rfl

/-- The decision after the head of an interim response. -/
theorem step_interim (limit : Nat) {h : Head} (hinterim : isInterim h.code = true)
    (rest : Bytes) :
    step method ⟨.headersDone, rest, headDraft limit h⟩ =
      .again ⟨.statusLine, rest, .start limit⟩ (some h.code) := by
  have hcode : (headDraft limit h).code = h.code := rfl
  rw [step_headersDone rfl]
  simp only [onHead, hcode, hinterim, if_true, headDraft_discardInterim]

/-- An interlude is used up, and the draft is as before. Its lines may be as long as lines can
be, since all of it is there. -/
theorem leads_interlude (limit : Nat) {p : Interlude} (hvalid : p.Valid) (rest : Bytes) :
    Leads method (fun _ => True) ⟨.statusLine, p.wire ++ rest, .start limit⟩
      ⟨.statusLine, rest, .start limit⟩ := by
  cases p with
  | blank => exact leads_blank rfl trivial rfl rfl rest
  | head h =>
    obtain ⟨hreadable, hinterim⟩ := hvalid
    exact (leads_head limit hreadable (fun _ _ => trivial) rest).trans
      (.step (step_interim limit hinterim rest) nofun (.refl _))

theorem leads_interludes (limit : Nat) {pieces : List Interlude} (hvalid : ∀ p ∈ pieces, p.Valid)
    (rest : Bytes) :
    Leads method (fun _ => True)
      ⟨.statusLine, pieces.flatMap Interlude.wire ++ rest, .start limit⟩
      ⟨.statusLine, rest, .start limit⟩ := by
  induction pieces with
  | nil => exact .refl _
  | cons p pieces ih =>
    rw [List.flatMap_cons, List.append_assoc]
    exact (leads_interlude limit (hvalid p List.mem_cons_self) _).trans
      (ih fun q hq => hvalid q (List.mem_cons_of_mem _ hq))

/-! ## Reading goes on from there -/

/-- Settling from an intake on the way differs in the codes passed over before it only. -/
theorem Leads.settle_append (h : Leads method fits i last) :
    ∃ codes, settle method i = (codes ++ (settle method last).1, (settle method last).2) := by
  induction h with
  | refl => exact ⟨[], rfl⟩
  | @step i next last skipped hstep _ _ ih =>
    obtain ⟨codes, hcodes⟩ := ih
    refine ⟨skipped.toList ++ codes, ?_⟩
    rw [settle_of_again hstep, hcodes, List.append_assoc]

/-- So does reading: what is read, and what it comes to, is the same. -/
theorem Leads.readAll_eq (h : Leads method fits i last) (ending : Option Stop)
    (reads : List Bytes) :
    ∃ codes : List Nat, readAll method ending i reads =
      (codes.map .skipped ++ (readAll method ending last reads).1,
        (readAll method ending last reads).2) := by
  obtain ⟨codes, hcodes⟩ := h.settle_append
  refine ⟨codes, ?_⟩
  rw [readAll.eq_def, readAll.eq_def method ending last, hcodes]
  rcases settle method last with ⟨later, settled⟩
  cases settled <;> cases reads <;> simp only [List.map_append, List.append_assoc]

/-- Before anything has arrived, the first piece is all there is. -/
theorem readAll_start (limit : Nat) (ending : Option Stop) (data : Bytes) (later : List Bytes) :
    readAll method ending (start limit) (data :: later) =
      (.read data :: (readAll method ending ((start limit).append data) later).1,
        (readAll method ending ((start limit).append data) later).2) := by
  have hhungry : step method (start limit) = .hungry (start limit) := rfl
  rw [readAll, settle_of_hungry hhungry]
  rfl

/-- A stream after blank lines and interim responses that arrive with it is read as if it
stood alone, whatever it is and whatever comes later: the same pieces are read, to the same
outcome. -/
theorem readAll_interludes (method : Method) (limit : Nat) (ending : Option Stop)
    {pieces : List Interlude} (hvalid : ∀ p ∈ pieces, p.Valid) (stream : Bytes)
    (later : List Bytes) :
    ∃ (moments : List Moment) (outcome : Wait (Outcome Message)) (codes : List Nat),
      readAll method ending (start limit) (stream :: later) = (.read stream :: moments, outcome) ∧
      readAll method ending (start limit) ((pieces.flatMap Interlude.wire ++ stream) :: later) =
        (.read (pieces.flatMap Interlude.wire ++ stream) :: (codes.map .skipped ++ moments),
          outcome) := by
  have happend (data : Bytes) : (start limit).append data = ⟨.statusLine, data, .start limit⟩ := rfl
  have hleads : Leads method (fun _ => True)
      ((start limit).append (pieces.flatMap Interlude.wire ++ stream))
      ((start limit).append stream) := by
    rw [happend, happend]
    exact leads_interludes limit hvalid stream
  obtain ⟨codes, hcodes⟩ := hleads.readAll_eq ending later
  refine ⟨_, _, codes, readAll_start limit ending stream later, ?_⟩
  rw [readAll_start, hcodes]

/-- A blank line, a response that names a length and a coding, and one with a lone carriage
return in a value. -/
def samples : List Interlude :=
  [.blank,
    .head ⟨"1", 100, some "Continue", [⟨"Content-Length", " 5"⟩, ⟨"Transfer-Encoding", "gzip"⟩]⟩,
    .head ⟨"0", 103, none, [⟨"Content-Type", "a/b\rc"⟩]⟩]

/-- A stream that breaks off in its status line is read after them as it is alone. -/
theorem readAll_interludes_samples :
    (∀ p ∈ samples, p.Valid) ∧
      ∃ (moments : List Moment) (outcome : Wait (Outcome Message)) (codes : List Nat),
        readAll .get none (start 4) [Request.line "HTTP/1.1 2"] =
          (.read (Request.line "HTTP/1.1 2") :: moments, outcome) ∧
        readAll .get none (start 4)
            [samples.flatMap Interlude.wire ++ Request.line "HTTP/1.1 2"] =
          (.read (samples.flatMap Interlude.wire ++ Request.line "HTTP/1.1 2") ::
            (codes.map .skipped ++ moments), outcome) :=
  have hvalid : ∀ p ∈ samples, p.Valid := by decide
  ⟨hvalid, readAll_interludes .get 4 none hvalid _ []⟩

end Intake

end Http1Client
