import Http1Client.Proofs.Text.Pieces

/-!
# Which texts are numbers

A length is read from a text by trimming the text and taking what is left as a numeral. That
admits more than the grammar of messages does. `Reads` is what is read, and `Spelled` is what
the grammar has: digits, with spaces and tabs around them. What is read and not spelled has
a plus sign in it, or a blank other than these two (`spelled_iff`).
-/

namespace Http1Client.Text

/-- The text reads as the number, which is below 2^64: digits, maybe after a plus sign, with
blanks around them. -/
def Reads (base : Nat) (s : List Char) (n : Nat) : Prop :=
  ∃ before sign digits after, s = before ++ (sign ++ digits ++ after) ∧
    (∀ c ∈ before ++ after, isBlank c = true) ∧ (sign = [] ∨ sign = ['+']) ∧
    digits ≠ [] ∧ (∀ c ∈ digits, isDigit base c = true) ∧
    digitsValue base digits = n ∧ n < UInt64.size

/-- The text is spelled by the grammar as the number, which is below 2^64: digits, with
spaces and tabs around them. -/
def Spelled (base : Nat) (s : List Char) (n : Nat) : Prop :=
  ∃ before digits after, s = before ++ (digits ++ after) ∧
    (∀ c ∈ before ++ after, c = ' ' ∨ c = '\t') ∧
    digits ≠ [] ∧ (∀ c ∈ digits, isDigit base c = true) ∧
    digitsValue base digits = n ∧ n < UInt64.size

/-- There is no plus sign in the text, and of blanks only spaces and tabs. -/
def Plain (s : List Char) : Prop := ∀ c ∈ s, c ≠ '+' ∧ (isBlank c = true → c = ' ' ∨ c = '\t')

variable {base bound n : Nat} {s : List Char}

/-! ## Trimming -/

/-- Trimming takes blanks from both ends. -/
theorem exists_trim (s : List Char) : ∃ before after,
    s = before ++ (trim s ++ after) ∧ ∀ c ∈ before ++ after, isBlank c = true := by
  have hstart : s = s.takeWhile isBlank ++ trimStart s := List.takeWhile_append_dropWhile.symm
  have hend : trimStart s =
      trim s ++ ((trimStart s).reverse.takeWhile isBlank).reverse := by
    have hreverse := List.takeWhile_append_dropWhile (p := isBlank) (l := (trimStart s).reverse)
    rw [← List.reverse_inj, List.reverse_append, List.reverse_reverse, trim, trimEnd,
      List.reverse_reverse]
    exact hreverse.symm
  refine ⟨_, _, by rw [← hend]; exact hstart, fun c hc => ?_⟩
  rcases List.mem_append.1 hc with hc | hc
  · exact List.mem_takeWhile_imp hc
  · exact List.mem_takeWhile_imp (List.mem_reverse.1 hc)

/-- A text that has been trimmed is trimmed already. -/
theorem trim_trim (s : List Char) : trim (trim s) = trim s := by
  obtain ⟨before, after, hs, hblank⟩ := exists_trim s
  obtain ⟨hbefore, hafter⟩ := List.forall_mem_append.1 hblank
  conv_rhs => rw [hs, trim_blanks_append hbefore, trim_append_blanks hafter]

/-- Blanks around a text without blanks are trimmed away. -/
theorem trim_append {before after : List Char}
    (hblank : ∀ c ∈ before ++ after, isBlank c = true) (h : ∀ c ∈ s, isBlank c = false) :
    trim (before ++ (s ++ after)) = s := by
  obtain ⟨hbefore, hafter⟩ := List.forall_mem_append.1 hblank
  have hfront : trimStart (before ++ (s ++ after)) = trimStart (s ++ after) :=
    List.dropWhile_append_of_pos hbefore
  rw [trim, hfront]
  cases s with
  | nil =>
    have hall : trimStart ([] ++ after) = [] := List.dropWhile_eq_nil_iff.2 hafter
    rw [hall]
    rfl
  | cons c s =>
    have hc : ¬ isBlank c = true := by
      rw [h c List.mem_cons_self]
      exact Bool.false_ne_true
    have hstart : trimStart (c :: s ++ after) = c :: s ++ after := List.dropWhile_cons_of_neg hc
    have hback : trimStart (after.reverse ++ (c :: s).reverse) = trimStart (c :: s).reverse :=
      List.dropWhile_append_of_pos fun d hd => hafter d (List.mem_reverse.1 hd)
    have hend : trimStart (c :: s).reverse = (c :: s).reverse :=
      trimStart_of_not_blank fun d hd => h d (List.mem_reverse.1 hd)
    rw [hstart, trimEnd, List.reverse_append]
    unfold trimStart at hback hend
    rw [hback, hend, List.reverse_reverse]

/-! ## Numerals -/

/-- A numeral is digits, maybe after a plus sign. -/
theorem numeral?_eq_some_iff (hbase : base ≤ 16) :
    numeral? base bound s = some n ↔
      ∃ sign digits, s = sign ++ digits ∧ (sign = [] ∨ sign = ['+']) ∧ digits ≠ [] ∧
        (∀ c ∈ digits, isDigit base c = true) ∧ digitsValue base digits = n ∧ n < bound := by
  constructor
  · intro h
    have hsign : ∃ sign, s = sign ++ dropPlus s ∧ (sign = [] ∨ sign = ['+']) := by
      unfold dropPlus
      split
      · exact ⟨['+'], rfl, .inr rfl⟩
      · exact ⟨[], rfl, .inl rfl⟩
    obtain ⟨sign, hs, hsign⟩ := hsign
    unfold numeral? at h
    dsimp only at h
    split at h
    · cases h
    next hdigits =>
    split at h
    · next hlt =>
      cases h
      simp only [Bool.or_eq_true, Bool.not_eq_true', not_or, Bool.not_eq_true,
        Bool.not_eq_false, List.isEmpty_eq_false_iff, List.all_eq_true] at hdigits
      exact ⟨sign, dropPlus s, hs, hsign, hdigits.1, hdigits.2, rfl, hlt⟩
    · cases h
  · rintro ⟨sign, digits, rfl, rfl | rfl, hne, hdigits, rfl, hlt⟩
    · exact numeral?_of_digits hbase hne hdigits hlt
    · have hread := numeral?_of_digits hbase hne hdigits hlt
      unfold numeral? at hread ⊢
      rw [dropPlus_of_isDigit hbase hdigits] at hread
      exact hread

/-! ## Numbers in texts -/

/-- A trimmed text is a numeral exactly if the text reads as a number. -/
theorem numeral?_trim_iff (hbase : base ≤ 16) :
    numeral? base UInt64.size (trim s) = some n ↔ Reads base s n := by
  rw [numeral?_eq_some_iff hbase]
  constructor
  · rintro ⟨sign, digits, htrim, hsign, hdigits⟩
    obtain ⟨before, after, hs, hblank⟩ := exists_trim s
    rw [htrim] at hs
    exact ⟨before, sign, digits, after, hs, hblank, hsign, hdigits⟩
  · rintro ⟨before, sign, digits, after, rfl, hblank, hsign, hne, hdigits, hvalue⟩
    refine ⟨sign, digits, trim_append hblank fun c hc => ?_, hsign, hne, hdigits, hvalue⟩
    rcases List.mem_append.1 hc with hc | hc
    · rcases hsign with rfl | rfl
      · cases hc
      · rw [List.mem_singleton.1 hc]
        decide
    · exact isBlank_of_isDigit (isDigit_mono hbase (hdigits c hc))

/-- What is spelled by the grammar consists of digits, spaces and tabs. -/
theorem cases_of_mem_spelled (h : Spelled base s n) {c : Char} (hc : c ∈ s) :
    (c = ' ' ∨ c = '\t') ∨ isDigit base c = true := by
  obtain ⟨before, digits, after, rfl, hspace, -, hdigits, -⟩ := h
  rcases List.mem_append.1 hc with hc | hc
  · exact .inl (hspace c (List.mem_append_left _ hc))
  rcases List.mem_append.1 hc with hc | hc
  · exact .inr (hdigits c hc)
  · exact .inl (hspace c (List.mem_append_right _ hc))

/-- What is spelled by the grammar is what is read and has neither a plus sign nor a blank
other than space and tab. -/
theorem spelled_iff (hbase : base ≤ 16) : Spelled base s n ↔ Reads base s n ∧ Plain s := by
  constructor
  · intro h
    have hplain : Plain s := by
      intro c hc
      rcases cases_of_mem_spelled h hc with hspace | hdigit
      · refine ⟨?_, fun _ => hspace⟩
        rcases hspace with rfl | rfl
        · decide
        · decide
      · have hdigit := isDigit_mono hbase hdigit
        constructor
        · rintro rfl
          exact absurd hdigit (by decide)
        · intro hblank
          rw [isBlank_of_isDigit hdigit] at hblank
          cases hblank
    obtain ⟨before, digits, after, rfl, hspace, hne, hdigits, hvalue⟩ := h
    refine ⟨⟨before, [], digits, after, rfl, fun c hc => ?_, .inl rfl, hne, hdigits, hvalue⟩,
      hplain⟩
    rcases hspace c hc with rfl | rfl
    · decide
    · decide
  · rintro ⟨⟨before, sign, digits, after, rfl, hblank, hsign, hne, hdigits, hvalue⟩, hplain⟩
    -- A plain text has no sign to read over, and its blanks are those of the grammar.
    have hnone : sign = [] := by
      rcases hsign with rfl | rfl
      · rfl
      · exact absurd rfl (hplain '+' (by simp)).1
    subst hnone
    refine ⟨before, digits, after, rfl, fun c hc => ?_, hne, hdigits, hvalue⟩
    refine (hplain c ?_).2 (hblank c hc)
    rcases List.mem_append.1 hc with hc | hc
    · exact List.mem_append_left _ hc
    · exact List.mem_append_right _ (List.mem_append_right _ hc)

/-! What is spelled by the grammar can be checked, in both bases of messages. -/

instance (s : List Char) : Decidable (Plain s) := List.decidableBAll _ s

theorem spelled_iff_numeral? (hbase : base ≤ 16) :
    Spelled base s n ↔ numeral? base UInt64.size (trim s) = some n ∧ Plain s := by
  rw [spelled_iff hbase, numeral?_trim_iff hbase]

instance (s : List Char) (n : Nat) : Decidable (Spelled 10 s n) :=
  decidable_of_iff _ (spelled_iff_numeral? (by omega)).symm

instance (s : List Char) (n : Nat) : Decidable (Spelled 16 s n) :=
  decidable_of_iff _ (spelled_iff_numeral? (Nat.le_refl _)).symm

/-- The decimal digits of a number spell it. -/
theorem spelled_decimal (h : n < UInt64.size) : Spelled 10 (decimal n) n :=
  ⟨[], decimal n, [], by simp, nofun, Nat.toDigits_ne_nil, fun _ hc => isDigit_decimal hc,
    digitsValue_decimal n, h⟩

end Http1Client.Text
