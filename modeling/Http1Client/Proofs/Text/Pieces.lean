import Http1Client.Text.Blank
import Http1Client.Text.Cut
import Http1Client.Text.Numeral
import Mathlib.Data.List.TakeWhile
import Mathlib.Tactic.IntervalCases

/-!
# Pieces of text are read as they were written

Lines and field values are put together with marks and blanks between their pieces.
Where a piece does not hold the mark, cutting at the mark gives the piece back; where
it has no blanks at its ends, trimming does; and the digits of a number read as the
number.
-/

namespace Http1Client.Text

variable {mark : Char} {s : List Char}

/-! ## Marks -/

theorem bne_of_not_mem (h : mark ∉ s) : ∀ c ∈ s, (c != mark) = true := by
  intro c hc
  rw [bne_iff_ne]
  rintro rfl
  exact h hc

/-- A piece before a mark that it does not hold, and what stands behind the mark. -/
theorem cutAt_append (h : mark ∉ s) (rest : List Char) :
    cutAt mark (s ++ mark :: rest) = (s, some rest) := by
  have hs := bne_of_not_mem h
  have hmark : ¬ (mark != mark) = true := by simp
  unfold cutAt
  rw [List.takeWhile_append_of_pos hs, List.dropWhile_append_of_pos hs, List.takeWhile_cons,
    List.dropWhile_cons, if_neg hmark, if_neg hmark, List.append_nil]

/-- Text that has been cut at a mark is put together again with it. -/
theorem eq_of_cutAt {front rest : List Char} (h : cutAt mark s = (front, some rest)) :
    s = front ++ mark :: rest := by
  have hs : s.takeWhile (· != mark) ++ s.dropWhile (· != mark) = s :=
    List.takeWhile_append_dropWhile
  unfold cutAt at h
  cases hdrop : s.dropWhile (· != mark) with
  | nil =>
    rw [hdrop] at h
    cases h
  | cons c rest' =>
    have hc : c = mark := by simpa [hdrop] using List.head?_dropWhile_not (· != mark) s
    rw [hdrop] at h hs
    cases h
    subst hc
    exact hs.symm

/-- A mark does not stand before its first occurrence. -/
theorem not_mem_of_cutAt {front : List Char} {rest : Option (List Char)}
    (h : cutAt mark s = (front, rest)) : mark ∉ front := by
  intro hmem
  have hfront : s.takeWhile (· != mark) = front := congrArg Prod.fst h
  rw [← hfront] at hmem
  have hne := List.mem_takeWhile_imp hmem
  simp at hne

/-- A text in which a mark does not occur is not cut. -/
theorem eq_of_cutAt_none {front : List Char} (h : cutAt mark s = (front, none)) :
    s = front := by
  have hs : s.takeWhile (· != mark) ++ s.dropWhile (· != mark) = s :=
    List.takeWhile_append_dropWhile
  unfold cutAt at h
  cases hdrop : s.dropWhile (· != mark) with
  | nil =>
    rw [hdrop] at h hs
    cases h
    rw [List.append_nil] at hs
    exact hs.symm
  | cons c rest =>
    rw [hdrop] at h
    cases h

/-- A piece without the mark is all there is before it. -/
theorem cutAt_of_not_mem (h : mark ∉ s) : cutAt mark s = (s, none) := by
  have hs := bne_of_not_mem h
  have hdrop : s.dropWhile (· != mark) = [] := List.dropWhile_eq_nil_iff.2 hs
  unfold cutAt
  rw [List.takeWhile_eq_self_iff.2 hs, hdrop]

theorem split_of_not_mem (h : mark ∉ s) : split mark s = [s] := by
  refine List.splitOnP_eq_singleton fun c hc => ?_
  rw [beq_eq_false_iff_ne]
  rintro rfl
  exact h hc

/-- What stands in a piece stood in the text. -/
theorem mem_of_mem_splitOnP {p : Char → Bool} {piece : List Char} (h : piece ∈ s.splitOnP p)
    {c : Char} (hc : c ∈ piece) : c ∈ s := by
  induction s generalizing piece with
  | nil =>
    rw [List.splitOnP_nil, List.mem_singleton] at h
    exact h ▸ hc
  | cons a s ih =>
    rw [List.splitOnP_cons_eq_if_modifyHead] at h
    split at h
    · rcases List.mem_cons.1 h with rfl | h
      · cases hc
      · exact List.mem_cons_of_mem _ (ih h hc)
    · cases hpieces : s.splitOnP p with
      | nil => exact absurd hpieces (List.splitOnP_ne_nil p s)
      | cons first others =>
        rw [hpieces, List.modifyHead_cons] at h
        rw [hpieces] at ih
        rcases List.mem_cons.1 h with rfl | h
        · rcases List.mem_cons.1 hc with rfl | hc
          · exact List.mem_cons_self
          · exact List.mem_cons_of_mem _ (ih List.mem_cons_self hc)
        · exact List.mem_cons_of_mem _ (ih (List.mem_cons_of_mem _ h) hc)

/-- What stands in joined pieces is the mark or stood in a piece. -/
theorem mem_intercalate {pieces : List (List Char)} {c : Char}
    (h : c ∈ [mark].intercalate pieces) : c = mark ∨ ∃ piece ∈ pieces, c ∈ piece := by
  induction pieces with
  | nil => cases h
  | cons first others ih =>
    cases others with
    | nil =>
      rw [List.intercalate_singleton] at h
      exact .inr ⟨first, List.mem_cons_self, h⟩
    | cons second others =>
      rw [List.intercalate_cons_cons, List.mem_append, List.mem_append, List.mem_singleton] at h
      rcases h with (h | h) | h
      · exact .inr ⟨first, List.mem_cons_self, h⟩
      · exact .inl h
      · rcases ih h with h | ⟨piece, hpiece, h⟩
        · exact .inl h
        · exact .inr ⟨piece, List.mem_cons_of_mem _ hpiece, h⟩

/-- Text is cut at a mark that stands in it. -/
theorem split_append (front rest : List Char) :
    split mark (front ++ mark :: rest) = split mark front ++ split mark rest :=
  @List.splitOnP_append_cons Char (· == mark) front rest mark (beq_self_eq_true mark)

/-- Joined pieces are cut where each of them is, and between them. -/
theorem split_intercalate {pieces : List (List Char)} (h : pieces ≠ []) :
    split mark ([mark].intercalate pieces) = pieces.flatMap (split mark) := by
  induction pieces with
  | nil => exact absurd rfl h
  | cons first others ih =>
    cases others with
    | nil => rw [List.intercalate_singleton, List.flatMap_singleton]
    | cons second others =>
      rw [List.intercalate_cons_cons, List.append_assoc, List.singleton_append, split_append,
        ih (List.cons_ne_nil _ _), ← List.flatMap_cons]

/-- Pieces that do not hold the mark are cut from each other again. -/
theorem split_pieces {pieces : List (List Char)} (hne : pieces ≠ [])
    (h : ∀ piece ∈ pieces, mark ∉ piece) : split mark ([mark].intercalate pieces) = pieces := by
  rw [split_intercalate hne]
  clear hne
  induction pieces with
  | nil => rfl
  | cons first others ih =>
    rw [List.flatMap_cons, split_of_not_mem (h first List.mem_cons_self),
      ih fun piece hpiece => h piece (List.mem_cons_of_mem _ hpiece), List.singleton_append]

/-! ## Blanks -/

/-- A blank before a text is trimmed away. -/
theorem trim_cons_of_blank {c : Char} (h : isBlank c = true) (s : List Char) :
    trim (c :: s) = trim s := by
  unfold trim trimStart
  rw [List.dropWhile_cons_of_pos h]

/-- A space before a text is trimmed away. -/
theorem trim_space (s : List Char) : trim (' ' :: s) = trim s := trim_cons_of_blank (by decide) s

theorem trimStart_of_head (h : ∀ c ∈ s.head?, isBlank c = false) : trimStart s = s := by
  cases s with
  | nil => rfl
  | cons c s =>
    have hc : ¬ isBlank c = true := by
      rw [h c rfl]
      exact Bool.false_ne_true
    exact List.dropWhile_cons_of_neg hc

theorem trimStart_of_not_blank (h : ∀ c ∈ s, isBlank c = false) : trimStart s = s :=
  trimStart_of_head fun c hc => h c (List.mem_of_mem_head? hc)

/-- A text with no blank at either end is trimmed already. -/
theorem trim_of_ends (hhead : ∀ c ∈ s.head?, isBlank c = false)
    (hlast : ∀ c ∈ s.getLast?, isBlank c = false) : trim s = s := by
  have hend : trimStart s.reverse = s.reverse :=
    trimStart_of_head fun c hc => hlast c (List.head?_reverse ▸ hc)
  rw [trim, trimStart_of_head hhead, trimEnd]
  unfold trimStart at hend
  rw [hend, List.reverse_reverse]

/-- Blanks before a text are trimmed away. -/
theorem trim_blanks_append {pad : List Char} (hpad : ∀ c ∈ pad, isBlank c = true) (s : List Char) :
    trim (pad ++ s) = trim s := by
  unfold trim trimStart
  rw [List.dropWhile_append_of_pos hpad]

/-- Blanks behind a text are trimmed away. -/
theorem trim_append_blanks {pad : List Char} (hpad : ∀ c ∈ pad, isBlank c = true) (s : List Char) :
    trim (s ++ pad) = trim s := by
  have hend (s : List Char) : trimEnd (s ++ pad) = trimEnd s := by
    unfold trimEnd
    rw [List.reverse_append, List.dropWhile_append_of_pos]
    intro c hc
    exact hpad c (List.mem_reverse.1 hc)
  unfold trim trimStart
  rw [List.dropWhile_append]
  by_cases hblank : (s.dropWhile isBlank).isEmpty = true
  · rw [if_pos hblank, List.isEmpty_iff.1 hblank, List.dropWhile_eq_nil_iff.2 hpad]
  · rw [if_neg hblank, hend]

/-- Blanks before a text make no difference to its trimmed pieces. -/
theorem map_trim_split_append (hmark : isBlank mark = false) {pad : List Char}
    (hpad : ∀ c ∈ pad, isBlank c = true) (s : List Char) :
    (split mark (pad ++ s)).map trim = (split mark s).map trim := by
  induction pad with
  | nil => rfl
  | cons c pad ih =>
    have hc : isBlank c = true := hpad c List.mem_cons_self
    have hne : ¬ (c == mark) = true := by
      intro heq
      rw [eq_of_beq heq, hmark] at hc
      cases hc
    rw [← ih fun d hd => hpad d (List.mem_cons_of_mem _ hd), List.cons_append, split, split,
      List.splitOnP_cons_eq_if_modifyHead, if_neg hne]
    cases (pad ++ s).splitOnP (· == mark) with
    | nil => rfl
    | cons piece pieces =>
      rw [List.modifyHead_cons, List.map_cons, List.map_cons, trim_cons_of_blank hc]

/-- Pieces that are joined with a mark and blanks behind it are, but for blanks around them, cut
where each of them is, and between them. -/
theorem map_trim_split_intercalate (hmark : isBlank mark = false) {pad : List Char}
    (hpad : ∀ c ∈ pad, isBlank c = true) {pieces : List (List Char)} (h : pieces ≠ []) :
    (split mark ((mark :: pad).intercalate pieces)).map trim =
      pieces.flatMap fun piece => (split mark piece).map trim := by
  induction pieces with
  | nil => exact absurd rfl h
  | cons first others ih =>
    cases others with
    | nil => rw [List.intercalate_singleton, List.flatMap_singleton]
    | cons second others =>
      rw [List.intercalate_cons_cons, List.append_assoc, List.cons_append, split_append,
        List.map_append, map_trim_split_append hmark hpad, ih (List.cons_ne_nil _ _)]
      rfl

/-! ## Digits -/

theorem isDigit_cases {c : Char} (h : isDigit 16 c = true) :
    48 ≤ c.toNat ∧ c.toNat ≤ 57 ∨ 97 ≤ c.toNat ∧ c.toNat ≤ 102 ∨
      65 ≤ c.toNat ∧ c.toNat ≤ 70 := by
  have hvalue : digitValue c < 16 := of_decide_eq_true h
  unfold digitValue at hvalue
  split at hvalue
  · next hc => exact .inl hc
  split at hvalue
  · next hc => exact .inr (.inl hc)
  split at hvalue
  · next hc => exact .inr (.inr hc)
  · omega

theorem isBlank_of_isDigit {c : Char} (h : isDigit 16 c = true) : isBlank c = false := by
  have := isDigit_cases h
  simp only [isBlank, inRanges, blankRanges, List.any_cons, List.any_nil, Bool.or_false,
    Bool.or_eq_false_iff, Bool.and_eq_false_iff, decide_eq_false_iff_not]
  omega

theorem isDigit_mono {base base' : Nat} (hbase : base ≤ base') {c : Char}
    (h : isDigit base c = true) : isDigit base' c = true := by
  simp only [isDigit, decide_eq_true_eq] at h ⊢
  omega

/-- A mark that is no digit does not stand among digits. -/
theorem not_mem_of_isDigit {base : Nat} (h : ∀ c ∈ s, isDigit base c = true)
    (hmark : isDigit base mark = false) : mark ∉ s := by
  intro hmem
  rw [h mark hmem] at hmark
  cases hmark

/-- No plus sign stands before digits. -/
theorem dropPlus_of_isDigit {base : Nat} (hbase : base ≤ 16)
    (hdigits : ∀ c ∈ s, isDigit base c = true) : dropPlus s = s := by
  unfold dropPlus
  split
  · have := isDigit_mono hbase (hdigits '+' List.mem_cons_self)
    exact absurd this (by decide)
  · rfl

/-- Digits of which the value is below the bound are a numeral. -/
theorem numeral?_of_digits {base bound : Nat} (hbase : base ≤ 16) (hne : s ≠ [])
    (hdigits : ∀ c ∈ s, isDigit base c = true) (hbound : digitsValue base s < bound) :
    numeral? base bound s = some (digitsValue base s) := by
  have hempty : s.isEmpty = false := by
    rw [List.isEmpty_eq_false_iff]
    exact hne
  have hall : s.all (isDigit base) = true := List.all_eq_true.2 hdigits
  simp only [numeral?, dropPlus_of_isDigit hbase hdigits, hempty, hall, Bool.not_true,
    Bool.or_false, if_pos hbound]
  rfl

/-! ## Numbers -/

theorem mem_toDigits {base n : Nat} (hbase : 1 < base) {c : Char}
    (h : c ∈ Nat.toDigits base n) : ∃ d, d < base ∧ c = d.digitChar := by
  induction n using Nat.strongRecOn with
  | ind n ih =>
    by_cases hn : n < base
    · rw [Nat.toDigits_of_lt_base hn, List.mem_singleton] at h
      exact ⟨n, hn, h⟩
    · rw [Nat.toDigits_of_base_le hbase (by omega), List.mem_append, List.mem_singleton] at h
      rcases h with h | h
      · exact ih (n / base) (Nat.div_lt_self (by omega) hbase) h
      · exact ⟨n % base, Nat.mod_lt n (by omega), h⟩

theorem isDigit_hexadecimal {n : Nat} {c : Char} (h : c ∈ hexadecimal n) :
    isDigit 16 c = true := by
  obtain ⟨d, hd, rfl⟩ := mem_toDigits (by omega) h
  interval_cases d <;> rfl

theorem digitValue_of_isDigit {c : Char} (h : c.isDigit = true) :
    digitValue c = c.toNat - 48 ∧ c.toNat < 58 := by
  have hc : '0' ≤ c ∧ c ≤ '9' := by
    simp only [Char.isDigit, Bool.and_eq_true, decide_eq_true_eq] at h
    exact h
  constructor
  · unfold digitValue
    rw [if_pos hc]
  · have : c.toNat ≤ 57 := hc.2
    omega

theorem isDigit_of_char {c : Char} (h : c.isDigit = true) : isDigit 10 c = true := by
  obtain ⟨hvalue, hlt⟩ := digitValue_of_isDigit h
  simp only [isDigit, hvalue, decide_eq_true_eq]
  omega

theorem isDigit_decimal {n : Nat} {c : Char} (h : c ∈ decimal n) : isDigit 10 c = true :=
  isDigit_of_char (Nat.isDigit_of_mem_toDigits (by omega) (by omega) h)

theorem digitValue_digitChar {d : Nat} (h : d < 16) : digitValue d.digitChar = d := by
  interval_cases d <;> rfl

/-- The digits of a number denote it. -/
theorem digitsValue_toDigits {base : Nat} (hbase : 1 < base) (hmax : base ≤ 16) (n : Nat) :
    digitsValue base (Nat.toDigits base n) = n := by
  induction n using Nat.strongRecOn with
  | ind n ih =>
    by_cases hn : n < base
    · rw [Nat.toDigits_of_lt_base hn]
      show 0 * base + digitValue n.digitChar = n
      rw [digitValue_digitChar (by omega), Nat.zero_mul, Nat.zero_add]
    · have hfront := ih (n / base) (Nat.div_lt_self (by omega) hbase)
      have hlast := Nat.mod_lt n (show 0 < base by omega)
      rw [digitsValue] at hfront
      rw [Nat.toDigits_of_base_le hbase (by omega), digitsValue, List.foldl_append, hfront]
      show n / base * base + digitValue (n % base).digitChar = n
      rw [digitValue_digitChar (by omega), Nat.div_add_mod']

theorem digitsValue_decimal (n : Nat) : digitsValue 10 (decimal n) = n :=
  digitsValue_toDigits (by omega) (by omega) n

theorem digitsValue_hexadecimal (n : Nat) : digitsValue 16 (hexadecimal n) = n :=
  digitsValue_toDigits (by omega) (Nat.le_refl 16) n

/-- Numbers from 100 to 999 have three digits. -/
theorem length_decimal {n : Nat} (hmin : 100 ≤ n) (hmax : n ≤ 999) : (decimal n).length = 3 := by
  have hle : (Nat.toDigits 10 n).length ≤ 3 :=
    (Nat.length_toDigits_le_iff (by omega) (by omega)).2 (by omega)
  have hgt : ¬ (Nat.toDigits 10 n).length ≤ 2 := by
    rw [Nat.length_toDigits_le_iff (by omega) (by omega)]
    omega
  show (Nat.toDigits 10 n).length = 3
  omega

/-- The digits of a number are a numeral for it. -/
theorem numeral?_decimal {n bound : Nat} (h : n < bound) :
    numeral? 10 bound (decimal n) = some n := by
  have hvalue := digitsValue_decimal n
  have hne : decimal n ≠ [] := Nat.toDigits_ne_nil
  rw [numeral?_of_digits (by omega) hne (fun c hc => isDigit_decimal hc)
    (by rw [hvalue]; exact h), hvalue]

end Http1Client.Text
