import Http1Client.Proofs.Response.Line
import Http1Client.Request.Wire

/-!
# The lines of a head

`Bytes.cutHead` is how the other end takes a head apart: lines up to their ends, until the
first empty one, and what follows it. A request of which no text holds a line break is
taken apart into the request line and one line for each field (`cutHead_encode`).
-/

namespace Http1Client

/-! ## Taking a head apart -/

/-- The lines before the first empty one, and what follows it. -/
def Bytes.cutHead (bytes : Bytes) : Option (List Bytes × Bytes) :=
  match _h : bytes.crlfAt? with
  | none => none
  | some 0 => some ([], bytes.drop 2)
  | some (n + 1) =>
    (cutHead (bytes.drop (n + 3))).map fun (lines, rest) => (bytes.take (n + 1) :: lines, rest)
  termination_by bytes.length
  decreasing_by
    have := crlfAt?_bound _h
    rw [List.length_drop]
    omega

namespace Bytes

theorem cutHead_blank (rest : Bytes) : cutHead (crlf ++ rest) = some ([], rest) := by
  have hline : crlfAt? ([] ++ (crlf ++ rest)) = some 0 := crlfAt?_line List.not_mem_nil rest
  rw [List.nil_append] at hline
  rw [cutHead]
  split
  · next h => rw [hline] at h; cases h
  · rfl
  · next h => rw [hline] at h; cases h

theorem cutHead_line {line : Bytes} (hne : line ≠ []) (hcr : cr ∉ line) (rest : Bytes) :
    cutHead (line ++ (crlf ++ rest)) =
      (cutHead rest).map fun (lines, left) => (line :: lines, left) := by
  have hline := crlfAt?_line hcr rest
  rw [cutHead]
  split
  · next h => rw [hline] at h; cases h
  · next h =>
    rw [hline] at h
    exact absurd (List.length_eq_zero_iff.1 (Option.some.inj h)) hne
  · next n h =>
    have hn : line.length = n + 1 := Option.some.inj (hline.symm.trans h)
    have hdrop : (line ++ (crlf ++ rest)).drop (n + 3) = rest := by
      rw [← List.append_assoc, show n + 3 = (line ++ crlf).length by
        rw [List.length_append, hn]; rfl, List.drop_left]
    rw [hdrop, ← hn, List.take_left]

/-- Lines and the blank one after them. -/
theorem cutHead_lines {lines : List Bytes} (h : ∀ l ∈ lines, l ≠ [] ∧ cr ∉ l) (rest : Bytes) :
    cutHead (lines.flatMap (· ++ crlf) ++ (crlf ++ rest)) = some (lines, rest) := by
  induction lines with
  | nil => exact cutHead_blank rest
  | cons line lines ih =>
    obtain ⟨hne, hcr⟩ := h line List.mem_cons_self
    rw [List.flatMap_cons, List.append_assoc, List.append_assoc, cutHead_line hne hcr,
      ih fun l hl => h l (List.mem_cons_of_mem _ hl)]
    rfl

/-- No byte of the line would end a line. -/
def Unbroken (line : Bytes) : Prop := cr ∉ line ∧ lf ∉ line

theorem unbroken_encode {s : String} (h : s.toList.any Request.isLineBreak = false) :
    Unbroken (Utf8.encode s) := by
  have hnot := List.any_eq_false.1 h
  refine ⟨Utf8.cr_not_mem_encode fun hmem => ?_, Utf8.lf_not_mem_encode fun hmem => ?_⟩
  · exact hnot '\r' hmem rfl
  · exact hnot '\n' hmem rfl

end Bytes

/-! ## The head of a request -/

namespace Request

/-- The request line without its end. -/
def requestText (r : Request) : String := r.method.text ++ " " ++ r.path ++ " HTTP/1.1"

/-- A field on its line. -/
def fieldText (f : Field) : String := f.name ++ ": " ++ f.value

/-- The lines that a request is meant to have: the request line, and one for each field. -/
def headLines (r : Request) : List Bytes :=
  Utf8.encode r.requestText :: r.headers.fields.map fun f => Utf8.encode (fieldText f)

theorem encode_eq_lines (r : Request) :
    r.encode = r.headLines.flatMap (· ++ Bytes.crlf) ++ (Bytes.crlf ++ r.body) := by
  have hfields : (fun f => Utf8.encode (fieldText f) ++ Bytes.crlf) = fieldLine := rfl
  rw [encode, head, headLines, List.flatMap_cons, List.flatMap_map, hfields]
  simp only [requestLine, requestText, line, List.append_assoc]

theorem ne_nil_of_mem_headLines {r : Request} {l : Bytes} (h : l ∈ r.headLines) : l ≠ [] := by
  rcases List.mem_cons.1 h with rfl | h
  · simp [requestText, Utf8.encode]
  · obtain ⟨f, -, rfl⟩ := List.mem_map.1 h
    simp [fieldText, Utf8.encode]

/-- A request without line breaks in its lines is taken apart into these. -/
theorem cutHead_encode {r : Request} (h : ∀ l ∈ r.headLines, l.Unbroken) :
    r.encode.cutHead = some (r.headLines, r.body) := by
  rw [encode_eq_lines]
  exact Bytes.cutHead_lines (fun l hl => ⟨ne_nil_of_mem_headLines hl, (h l hl).1⟩) r.body

end Request

end Http1Client
