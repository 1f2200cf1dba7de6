import Http1Client.Proofs.Text.Utf8
import Http1Client.Response.Line
import Mathlib.Tactic.MkIffOfInductiveProp

/-!
# Lines and what follows them

A line that has ended is not changed by the bytes after it, whether these have
arrived or not: `takeLine_append` adds bytes behind it and `takeLine_cut` takes them
away. A fault stays too (`takeLine_append_bad`), with one exception. As long as the
end of a line has not arrived, CR at the end of the bytes counts like any other byte.
So `maxLine` bytes and a CR are refused, but with the LF they are a line.

`OneLine.takeLine` takes a line that has been written, and a line that is taken has been
written there (`exists_of_takeLine`); one that is too long is left where it stands
(`takeLine_long`).
-/

namespace Http1Client

namespace Bytes

/-! ## The place of a line's end -/

theorem crlfFrom?_append {n m : Nat} {bytes : Bytes} (h : crlfFrom? n bytes = some m)
    (more : Bytes) : crlfFrom? n (bytes ++ more) = some m := by
  induction bytes generalizing n with
  | nil => simp [crlfFrom?] at h
  | cons a rest ih =>
    cases rest with
    | nil => simp [crlfFrom?] at h
    | cons b rest =>
      rw [crlfFrom?] at h
      simp only [List.cons_append]
      rw [crlfFrom?]
      split at h
      · next hpair => rw [if_pos hpair]; exact h
      · next hpair => rw [if_neg hpair]; exact ih h

/-- Bytes behind the end of a line do not move it. -/
theorem crlfAt?_append {n : Nat} {bytes : Bytes} (h : crlfAt? bytes = some n) (more : Bytes) :
    crlfAt? (bytes ++ more) = some n := crlfFrom?_append h more

theorem crlfFrom?_append_none {n m : Nat} {bytes more : Bytes} (h : crlfFrom? n bytes = none)
    (h' : crlfFrom? n (bytes ++ more) = some m) : n + bytes.length ≤ m + 1 := by
  induction bytes generalizing n with
  | nil =>
    have := (crlfFrom?_bounds h').1
    simp only [List.length_nil]
    omega
  | cons a rest ih =>
    cases rest with
    | nil =>
      have := (crlfFrom?_bounds h').1
      simp only [List.length_cons, List.length_nil]
      omega
    | cons b rest =>
      rw [crlfFrom?] at h
      simp only [List.cons_append] at h'
      rw [crlfFrom?] at h'
      split at h
      · cases h
      · next hpair =>
        rw [if_neg hpair] at h'
        have := ih h h'
        simp only [List.length_cons] at this ⊢
        omega

/-- Without an end of line in the bytes, more bytes bring one at their last byte, which
is CR then, or behind them. -/
theorem crlfAt?_append_none {n : Nat} {bytes more : Bytes} (h : crlfAt? bytes = none)
    (h' : crlfAt? (bytes ++ more) = some n) : bytes.length ≤ n + 1 := by
  have := crlfFrom?_append_none h h'
  omega

/-- An end of line that lies in the front part of the bytes is found there. -/
theorem crlfAt?_cut {n : Nat} {bytes more : Bytes} (h : crlfAt? (bytes ++ more) = some n)
    (hn : n + 2 ≤ bytes.length) : crlfAt? bytes = some n := by
  cases hb : crlfAt? bytes with
  | none =>
    have := crlfAt?_append_none hb h
    omega
  | some m =>
    rw [crlfAt?_append hb] at h
    exact h

theorem crlfFrom?_of_not_mem {n : Nat} {line : Bytes} (h : cr ∉ line) :
    crlfFrom? n line = none := by
  induction line generalizing n with
  | nil => rfl
  | cons a line ih =>
    obtain ⟨ha, hline⟩ := not_or.1 (mt List.mem_cons.2 h)
    cases line with
    | nil => rfl
    | cons b line => rw [crlfFrom?, if_neg fun hpair => ha hpair.1.symm, ih hline]

/-- Bytes without CR have no end of line. -/
theorem crlfAt?_of_not_mem {line : Bytes} (h : cr ∉ line) : crlfAt? line = none :=
  crlfFrom?_of_not_mem h

theorem crlfFrom?_unbroken {n : Nat} {line : Bytes} (h : crlfFrom? n line = none) (rest : Bytes) :
    crlfFrom? n (line ++ (crlf ++ rest)) = some (n + line.length) := by
  induction line generalizing n with
  | nil => simp [crlf, crlfFrom?]
  | cons a line ih =>
    cases line with
    | nil =>
      -- The CR of the end that is written is not the LF that a CR before it would need.
      have hpair : ¬ (a = cr ∧ cr = lf) := fun hpair => absurd hpair.2 (by decide)
      simp only [List.cons_append, List.nil_append, crlf, List.length_cons, List.length_nil]
      rw [crlfFrom?, if_neg hpair, crlfFrom?, if_pos ⟨rfl, rfl⟩]
    | cons b line =>
      rw [crlfFrom?] at h
      split at h
      · cases h
      · next hpair =>
        have hnext := ih h
        simp only [List.cons_append] at hnext ⊢
        rw [crlfFrom?, if_neg hpair, hnext, List.length_cons (a := a)]
        congr 1
        omega

/-- Bytes without an end of line are the line before the end that is written after them. -/
theorem crlfAt?_unbroken {line : Bytes} (h : crlfAt? line = none) (rest : Bytes) :
    crlfAt? (line ++ (crlf ++ rest)) = some line.length := by
  rw [crlfAt?, crlfFrom?_unbroken h, Nat.zero_add]

/-- So are bytes without CR. -/
theorem crlfAt?_line {line : Bytes} (h : cr ∉ line) (rest : Bytes) :
    crlfAt? (line ++ (crlf ++ rest)) = some line.length :=
  crlfAt?_unbroken (crlfAt?_of_not_mem h) rest

/-- The place that is found has the first end of line behind it. -/
theorem crlfFrom?_split {n m : Nat} {bytes : Bytes} (h : crlfFrom? n bytes = some m) :
    ∃ line rest, bytes = line ++ (crlf ++ rest) ∧ m = n + line.length ∧
      crlfFrom? n line = none := by
  induction bytes generalizing n with
  | nil => cases h
  | cons a rest ih =>
    cases rest with
    | nil => cases h
    | cons b rest =>
      rw [crlfFrom?] at h
      by_cases hpair : a = cr ∧ b = lf
      · rw [if_pos hpair] at h
        cases h
        exact ⟨[], rest, by rw [hpair.1, hpair.2]; rfl, rfl, rfl⟩
      · rw [if_neg hpair] at h
        obtain ⟨line, rest', hbytes, rfl, hline⟩ := ih h
        refine ⟨a :: line, rest', by rw [hbytes]; rfl, by rw [List.length_cons]; omega, ?_⟩
        cases line with
        | nil => rfl
        | cons c line =>
          -- The next byte is that of the whole, so it is no LF behind a CR either.
          rw [List.cons_append] at hbytes
          cases hbytes
          rw [crlfFrom?, if_neg hpair, hline]

end Bytes

/-! ## Taking a line -/

variable {kind : LineKind} {bytes left : Bytes} {text : List Char} {fault : Fault}

/-- What is left after a line is what stands behind its end. -/
theorem takeLine_line_eq (h : takeLine kind bytes = .line text left) :
    ∃ n, bytes.crlfAt? = some n ∧ left = bytes.drop (n + 2) := by
  unfold takeLine at h
  split at h
  · next n hn =>
    split at h
    · cases h
    · split at h
      · cases h
      · cases h
        exact ⟨n, hn, rfl⟩
  · split at h <;> cases h

/-- A faulty line is left where it stands, or it is used up with its end. -/
theorem takeLine_bad_split (h : takeLine kind bytes = .bad fault left) :
    left = bytes ∨ ∃ line, bytes = line ++ (Bytes.crlf ++ left) := by
  unfold takeLine at h
  split at h
  · next n hn =>
    obtain ⟨line, rest, rfl, hlength, -⟩ := Bytes.crlfFrom?_split hn
    rw [Nat.zero_add] at hlength
    split at h
    · cases h
      exact .inl rfl
    · split at h
      · cases h
        rw [← List.append_assoc,
          List.drop_left' (by rw [List.length_append, hlength]; rfl)]
        exact .inr ⟨line, List.append_assoc ..⟩
      · cases h
  · split at h
    · cases h
      exact .inl rfl
    · cases h

/-- A line waits as long as its end is not there and the bytes are not too many. -/
theorem takeLine_wait_iff :
    takeLine kind bytes = .wait ↔ bytes.crlfAt? = none ∧ bytes.length ≤ maxLine := by
  unfold takeLine
  split
  · next hend =>
    have hline : ¬ bytes.crlfAt? = none := by
      rw [hend]
      exact Option.some_ne_none _
    simp only [hline, false_and, iff_false]
    split
    · exact nofun
    · split <;> exact nofun
  · next hnone =>
    rw [hnone, ← Nat.not_lt]
    split
    · next hlong => simp [hlong]
    · next hshort => simp [hshort]

/-- Bytes behind a line do not change it. -/
theorem takeLine_append (h : takeLine kind bytes = .line text left) (more : Bytes) :
    takeLine kind (bytes ++ more) = .line text (left ++ more) := by
  unfold takeLine at h ⊢
  split at h
  · next n hn =>
    have hbound := Bytes.crlfAt?_bound hn
    rw [Bytes.crlfAt?_append hn]
    dsimp only
    rw [List.take_append_of_le_length (by omega), List.drop_append_of_le_length (by omega)]
    split at h
    · cases h
    · next hlong =>
      rw [if_neg hlong]
      split at h
      · cases h
      · cases h
        rfl
  · split at h <;> cases h

/-- Bytes behind a faulty line do not mend it, unless they bring the end of a line that
is as long as a line may be. -/
theorem takeLine_append_bad {more : Bytes} (h : takeLine kind bytes = .bad fault left)
    (hedge : (bytes ++ more).crlfAt? ≠ some maxLine) :
    takeLine kind (bytes ++ more) = .bad fault (left ++ more) := by
  unfold takeLine at h ⊢
  split at h
  · next n hn =>
    have hbound := Bytes.crlfAt?_bound hn
    rw [Bytes.crlfAt?_append hn]
    dsimp only
    rw [List.take_append_of_le_length (by omega), List.drop_append_of_le_length (by omega)]
    split at h
    · next hlong =>
      rw [if_pos hlong]
      cases h
      rfl
    · next hlong =>
      rw [if_neg hlong]
      split at h
      · cases h
        rfl
      · cases h
  · next hnone =>
    split at h
    · next hlong =>
      cases h
      split
      · next n hn =>
        have := Bytes.crlfAt?_append_none hnone hn
        have hne : n ≠ maxLine := fun he => hedge (he ▸ hn)
        rw [if_pos (by omega)]
      · rw [if_pos (by rw [List.length_append]; omega)]
    · cases h

/-- Bytes behind a line are not needed to take it. -/
theorem takeLine_cut {more : Bytes}
    (h : takeLine kind (bytes ++ more) = .line text (left ++ more)) :
    takeLine kind bytes = .line text left := by
  have hlength : left.length + 2 ≤ bytes.length := by
    have := takeLine_line_length h
    simp only [List.length_append] at this
    omega
  obtain ⟨n, hn, hleft⟩ := takeLine_line_eq h
  have hbound := Bytes.crlfAt?_bound hn
  have hdrop : left.length + more.length = bytes.length + more.length - (n + 2) := by
    rw [← List.length_append, hleft, List.length_drop, List.length_append]
  rw [List.length_append] at hbound
  have hfront := Bytes.crlfAt?_cut hn (by omega)
  unfold takeLine at h ⊢
  rw [hn] at h
  rw [hfront]
  dsimp only at h ⊢
  rw [List.take_append_of_le_length (by omega), List.drop_append_of_le_length (by omega)] at h
  split at h
  · cases h
  · next hlong =>
    rw [if_neg hlong]
    split at h
    · cases h
    · simp only [LineCut.line.injEq] at h
      rw [h.1, List.append_cancel_right h.2]

/-- A text that can stand on a line: no end of line in it, and not too long. A CR or an LF
alone is no end of line. -/
@[mk_iff]
structure OneLine (text : String) : Prop where
  unbroken : (Utf8.encode text).crlfAt? = none
  length_le : (Utf8.encode text).length ≤ maxLine

instance (text : String) : Decidable (OneLine text) := decidable_of_iff _ (oneLine_iff text).symm

theorem OneLine.crlfAt? {s : String} (h : OneLine s) (rest : Bytes) :
    (Utf8.encode s ++ (Bytes.crlf ++ rest)).crlfAt? = some (Utf8.encode s).length :=
  Bytes.crlfAt?_unbroken h.unbroken rest

/-- A text that is written as a line is taken as it is. -/
theorem OneLine.takeLine {s : String} (h : OneLine s) (rest : Bytes) :
    takeLine kind (Utf8.encode s ++ (Bytes.crlf ++ rest)) = .line s.toList rest := by
  unfold Http1Client.takeLine
  rw [h.crlfAt?]
  dsimp only
  rw [if_neg (Nat.not_lt.2 h.length_le), List.take_left, Utf8.decode?_encode]
  dsimp only
  congr 1
  rw [← List.append_assoc]
  exact List.drop_left' (by rw [List.length_append]; rfl)

/-- A line that is taken is written there: a text that can stand on one, and the end behind. -/
theorem exists_of_takeLine (h : Http1Client.takeLine kind bytes = .line text left) :
    ∃ s : String, text = s.toList ∧ OneLine s ∧ bytes = Utf8.encode s ++ (Bytes.crlf ++ left) := by
  unfold Http1Client.takeLine at h
  split at h
  · next n hn =>
    obtain ⟨line, rest, rfl, hlength, hline⟩ := Bytes.crlfFrom?_split hn
    rw [Nat.zero_add] at hlength
    subst hlength
    by_cases hlong : maxLine < line.length
    · rw [if_pos hlong] at h
      cases h
    rw [if_neg hlong, List.take_left] at h
    split at h
    · cases h
    · next s hdecode =>
      obtain rfl := Utf8.encode_of_decode? hdecode
      cases h
      refine ⟨s, rfl, ⟨hline, Nat.not_lt.1 hlong⟩, ?_⟩
      have hrest : (Utf8.encode s ++ (Bytes.crlf ++ rest)).drop ((Utf8.encode s).length + 2) =
          rest := by
        rw [← List.append_assoc]
        exact List.drop_left' (by rw [List.length_append]; rfl)
      rw [hrest]
  · split at h <;> cases h

/-- A text without CR can stand on a line. -/
theorem oneLine_of_not_mem {s : String} (hcr : '\r' ∉ s.toList)
    (hlength : (Utf8.encode s).length ≤ maxLine) : OneLine s :=
  ⟨Bytes.crlfAt?_of_not_mem (Utf8.cr_not_mem_encode hcr), hlength⟩

theorem takeLine_line {s : String} (hcr : '\r' ∉ s.toList)
    (hlength : (Utf8.encode s).length ≤ maxLine) (rest : Bytes) :
    takeLine kind (Utf8.encode s ++ (Bytes.crlf ++ rest)) = .line s.toList rest :=
  (oneLine_of_not_mem hcr hlength).takeLine rest

/-- A text that is too long for a line is left where it stands. -/
theorem takeLine_long {s : String} (hcr : '\r' ∉ s.toList)
    (hlength : maxLine < (Utf8.encode s).length) (rest : Bytes) :
    takeLine kind (Utf8.encode s ++ (Bytes.crlf ++ rest)) =
      .bad (.lineTooLong kind) (Utf8.encode s ++ (Bytes.crlf ++ rest)) := by
  unfold takeLine
  rw [Bytes.crlfAt?_line (Utf8.cr_not_mem_encode hcr)]
  exact if_pos hlength

end Http1Client
