import Http1Client.Text.Utf8
import Mathlib.Data.List.Induction
import Mathlib.Tactic.IntervalCases

/-!
# Text survives its bytes

Reading the bytes of a text gives the text back: `decode?_encode`. The machine takes
the octets of one character from between two characters to between two characters
(`foldl_encodeChar`), and the text is put together one character at a time.

Bytes that are read as a text, with nothing replaced, are its bytes (`encode_of_decode?`). The
octets of a character that is under way are known (`Begun`), and each octet that is taken
belongs to a character that can still come (`took_step`).

An octet below 0x80 in the bytes of a text is a character of its own
(`mem_encode_of_lt`), so a text without a line end has bytes without one.
-/

namespace Http1Client.Utf8

/-- A code point lies below the surrogates, or above them and in range. -/
theorem toNat_cases (c : Char) :
    c.toNat < 0xD800 ∨ 0xDFFF < c.toNat ∧ c.toNat < 0x110000 := c.valid

/-! ## One character -/

namespace Reader

theorem step_between (text : List Char) (sound : Bool) (octet : UInt8) :
    step ⟨text, none, sound⟩ octet = first ⟨text, none, sound⟩ octet := rfl

theorem first_one (r : Reader) {n : Nat} (hmax : n < 0x80) :
    r.first (UInt8.ofNat n) = ⟨Char.ofNat n :: r.text, none, r.sound⟩ := by
  have hb : (UInt8.ofNat n).toNat = n := by
    rw [UInt8.toNat_ofNat', Nat.mod_eq_of_lt (by omega)]
  simp only [first, hb]
  rw [if_pos hmax]

theorem first_two (r : Reader) {n : Nat} (hmin : 2 ≤ n) (hmax : n < 32) :
    r.first (UInt8.ofNat (n + 0xC0)) = ⟨r.text, some ⟨1, 0x80, 0xBF, n⟩, r.sound⟩ := by
  interval_cases n <;> rfl

/-- The first octet of three narrows the range of the second at both ends of its own
range: no overlong form, no surrogate. -/
theorem first_three (r : Reader) {n : Nat} (hmax : n < 16) :
    r.first (UInt8.ofNat (n + 0xE0)) =
      ⟨r.text, some ⟨2, if n = 0 then 0xA0 else 0x80, if n = 13 then 0x9F else 0xBF, n⟩,
        r.sound⟩ := by
  interval_cases n <;> rfl

/-- The first octet of four does so too: no overlong form, nothing above U+10FFFF. -/
theorem first_four (r : Reader) {n : Nat} (hmax : n < 5) :
    r.first (UInt8.ofNat (n + 0xF0)) =
      ⟨r.text, some ⟨3, if n = 0 then 0x90 else 0x80, if n = 4 then 0x8F else 0xBF, n⟩,
        r.sound⟩ := by
  interval_cases n <;> rfl

section Tail

variable (text : List Char) (sound : Bool) {least greatest value n : Nat}

/-- A continuation octet adds six bits to the character under way. -/
theorem step_tail {owed : Nat} (howed : 1 < owed) (hn : n < 64) (hleast : least ≤ n + 0x80)
    (hgreatest : n + 0x80 ≤ greatest) :
    step ⟨text, some ⟨owed, least, greatest, value⟩, sound⟩ (UInt8.ofNat (n + 0x80)) =
      ⟨text, some ⟨owed - 1, 0x80, 0xBF, value * 64 + n⟩, sound⟩ := by
  have hb : (UInt8.ofNat (n + 0x80)).toNat = n + 0x80 := by
    rw [UInt8.toNat_ofNat', Nat.mod_eq_of_lt (by omega)]
  simp only [step, hb, Nat.add_sub_cancel]
  rw [if_pos ⟨hleast, hgreatest⟩, if_neg (by omega)]

/-- The last continuation octet ends the character. -/
theorem step_last (hn : n < 64) (hleast : least ≤ n + 0x80)
    (hgreatest : n + 0x80 ≤ greatest) :
    step ⟨text, some ⟨1, least, greatest, value⟩, sound⟩ (UInt8.ofNat (n + 0x80)) =
      ⟨Char.ofNat (value * 64 + n) :: text, none, sound⟩ := by
  have hb : (UInt8.ofNat (n + 0x80)).toNat = n + 0x80 := by
    rw [UInt8.toNat_ofNat', Nat.mod_eq_of_lt (by omega)]
  simp only [step, hb, Nat.add_sub_cancel]
  rw [if_pos ⟨hleast, hgreatest⟩, if_pos (Nat.le_refl 1)]

end Tail

end Reader

/-- The octets of a character add it to the text and leave everything else as it is. -/
theorem foldl_encodeChar (c : Char) (text : List Char) (sound : Bool) :
    (String.utf8EncodeChar c).foldl Reader.step ⟨text, none, sound⟩ =
      ⟨c :: text, none, sound⟩ := by
  have hc : Char.ofNat c.toNat = c := Char.ofNat_toNat c
  have hrange := toNat_cases c
  unfold String.utf8EncodeChar
  simp only [show c.val.toNat = c.toNat from rfl]
  generalize c.toNat = v at hc hrange
  split
  · next h1 =>
    rw [List.foldl_cons, List.foldl_nil, Reader.step_between, Reader.first_one _ (by omega), hc]
  split
  · next h1 h2 =>
    rw [Nat.mod_eq_of_lt (show v / 64 < 32 by omega)]
    simp only [List.foldl_cons, List.foldl_nil]
    rw [Reader.step_between, Reader.first_two _ (by omega) (by omega),
      Reader.step_last _ _ (by omega) (by omega) (by omega),
      show v / 64 * 64 + v % 64 = v by omega, hc]
  split
  · next h1 h2 h3 =>
    rw [Nat.mod_eq_of_lt (show v / 4096 < 16 by omega)]
    simp only [List.foldl_cons, List.foldl_nil]
    rw [Reader.step_between, Reader.first_three _ (by omega),
      Reader.step_tail _ _ (by omega) (by omega) (by split <;> omega) (by split <;> omega),
      Reader.step_last _ _ (by omega) (by omega) (by omega),
      show (v / 4096 * 64 + v / 64 % 64) * 64 + v % 64 = v by omega, hc]
  · next h1 h2 h3 =>
    rw [Nat.mod_eq_of_lt (show v / 262144 < 8 by omega)]
    simp only [List.foldl_cons, List.foldl_nil]
    rw [Reader.step_between, Reader.first_four _ (by omega),
      Reader.step_tail _ _ (by omega) (by omega) (by split <;> omega) (by split <;> omega),
      Reader.step_tail _ _ (by omega) (by omega) (by omega) (by omega),
      Reader.step_last _ _ (by omega) (by omega) (by omega),
      show ((v / 262144 * 64 + v / 4096 % 64) * 64 + v / 64 % 64) * 64 + v % 64 = v by omega, hc]

/-! ## A whole text -/

/-- The bytes of characters put them on top of the text in reverse. -/
theorem foldl_encode (s text : List Char) (sound : Bool) :
    (s.flatMap String.utf8EncodeChar).foldl Reader.step ⟨text, none, sound⟩ =
      ⟨s.reverse ++ text, none, sound⟩ := by
  induction s generalizing text with
  | nil => rfl
  | cons c s ih =>
    rw [List.flatMap_cons, List.foldl_append, foldl_encodeChar, ih, List.reverse_cons,
      List.append_assoc, List.singleton_append]

/-- The bytes of a text read as the text. -/
theorem decode?_encode (s : String) : decode? (encode s) = some s := by
  simp only [decode?, read, encode, Reader.start, foldl_encode, Reader.finish,
    List.append_nil, List.reverse_reverse, String.ofList_toList, if_true]

/-! ## Bytes that are read as text -/

/-- The octets so far of a character that is under way. The numbers that a further octet can
lead to are those that take no fewer octets and are no surrogates. -/
inductive Begun : Partial → Bytes → Prop
  | two {n : Nat} (hmin : 2 ≤ n) (hmax : n < 32) :
    Begun ⟨1, 0x80, 0xBF, n⟩ [UInt8.ofNat (n + 0xC0)]
  | three {n : Nat} (hmax : n < 16) :
    Begun ⟨2, if n = 0 then 0xA0 else 0x80, if n = 13 then 0x9F else 0xBF, n⟩
      [UInt8.ofNat (n + 0xE0)]
  | threeLast {n : Nat} (hmin : 0x20 ≤ n) (hmax : n < 0x400) (hvalid : n < 0x360 ∨ 0x37F < n) :
    Begun ⟨1, 0x80, 0xBF, n⟩ [UInt8.ofNat (n / 64 + 0xE0), UInt8.ofNat (n % 64 + 0x80)]
  | four {n : Nat} (hmax : n < 5) :
    Begun ⟨3, if n = 0 then 0x90 else 0x80, if n = 4 then 0x8F else 0xBF, n⟩
      [UInt8.ofNat (n + 0xF0)]
  | fourThird {n : Nat} (hmin : 0x10 ≤ n) (hmax : n < 0x110) :
    Begun ⟨2, 0x80, 0xBF, n⟩ [UInt8.ofNat (n / 64 + 0xF0), UInt8.ofNat (n % 64 + 0x80)]
  | fourLast {n : Nat} (hmin : 0x400 ≤ n) (hmax : n < 0x4400) :
    Begun ⟨1, 0x80, 0xBF, n⟩ [UInt8.ofNat (n / 4096 + 0xF0), UInt8.ofNat (n / 64 % 64 + 0x80),
      UInt8.ofNat (n % 64 + 0x80)]

/-- What the next octet may be is a continuation octet. -/
theorem Begun.range {p : Partial} {begun : Bytes} (h : Begun p begun) :
    0x80 ≤ p.least ∧ p.greatest < 0x80 + 64 := by
  cases h with
  | three => constructor <;> dsimp only <;> split <;> omega
  | four => constructor <;> dsimp only <;> split <;> omega
  | _ => exact ⟨Nat.le_refl _, Nat.le_refl _⟩

theorem toNat_ofNat {n : Nat} (h : n < 0xD800 ∨ 0xDFFF < n ∧ n < 0x110000) :
    (Char.ofNat n).val.toNat = n := by
  have hvalid : n.isValidChar := h
  rw [Char.ofNat, dif_pos hvalid]
  rfl

/-- A further octet ends a character that owes one, and belongs to one that owes more. -/
theorem begun_tail {p : Partial} {begun : Bytes} {n : Nat} (h : Begun p begun) (hn : n < 64)
    (hleast : p.least ≤ n + 0x80) (hgreatest : n + 0x80 ≤ p.greatest) :
    (p.owed ≤ 1 → String.utf8EncodeChar (Char.ofNat (p.value * 64 + n)) =
      begun ++ [UInt8.ofNat (n + 0x80)]) ∧
    (¬ p.owed ≤ 1 → Begun ⟨p.owed - 1, 0x80, 0xBF, p.value * 64 + n⟩
      (begun ++ [UInt8.ofNat (n + 0x80)])) := by
  have hhigh (v : Nat) : (v * 64 + n) / 64 = v := by omega
  have hlow (v : Nat) : (v * 64 + n) % 64 = n := by omega
  cases h with
  | @two v hmin hmax =>
    refine ⟨fun _ => ?_, fun howed => absurd (Nat.le_refl 1) howed⟩
    dsimp only
    unfold String.utf8EncodeChar
    rw [toNat_ofNat (by omega)]
    dsimp only
    rw [if_neg (by omega), if_pos (by omega), hhigh, hlow, Nat.mod_eq_of_lt hmax]
    rfl
  | @threeLast v hmin hmax hvalid =>
    refine ⟨fun _ => ?_, fun howed => absurd (Nat.le_refl 1) howed⟩
    dsimp only
    unfold String.utf8EncodeChar
    rw [toNat_ofNat (by omega)]
    dsimp only
    rw [if_neg (by omega), if_neg (by omega), if_pos (by omega), hhigh, hlow,
      show (v * 64 + n) / 4096 % 16 = v / 64 by omega]
    rfl
  | @fourLast v hmin hmax =>
    refine ⟨fun _ => ?_, fun howed => absurd (Nat.le_refl 1) howed⟩
    dsimp only
    unfold String.utf8EncodeChar
    rw [toNat_ofNat (by omega)]
    dsimp only
    rw [if_neg (by omega), if_neg (by omega), if_neg (by omega), hhigh, hlow,
      show (v * 64 + n) / 4096 % 64 = v / 64 % 64 by omega,
      show (v * 64 + n) / 262144 % 8 = v / 4096 by omega]
    rfl
  | @three v hmax =>
    refine ⟨fun howed => absurd howed (Nat.not_succ_le_self 1), fun _ => ?_⟩
    dsimp only at hleast hgreatest
    have hlast : Begun ⟨1, 0x80, 0xBF, v * 64 + n⟩ _ :=
      .threeLast (by split at hleast <;> omega) (by omega) (by split at hgreatest <;> omega)
    rwa [hhigh, hlow] at hlast
  | @four v hmax =>
    refine ⟨fun howed => absurd howed (show ¬ 3 ≤ 1 by omega), fun _ => ?_⟩
    dsimp only at hleast hgreatest
    have hthird : Begun ⟨2, 0x80, 0xBF, v * 64 + n⟩ _ :=
      .fourThird (by split at hleast <;> omega) (by split at hgreatest <;> omega)
    rwa [hhigh, hlow] at hthird
  | @fourThird v hmin hmax =>
    refine ⟨fun howed => absurd howed (Nat.not_succ_le_self 1), fun _ => ?_⟩
    have hlast : Begun ⟨1, 0x80, 0xBF, v * 64 + n⟩ _ := .fourLast (by omega) (by omega)
    rwa [hhigh, hlow, show (v * 64 + n) / 4096 = v / 64 by omega] at hlast

namespace Reader

/-- The bytes that a reader has taken in, if nothing was replaced. -/
inductive Took : Reader → Bytes → Prop
  | between (text : List Char) (sound : Bool) :
    Took ⟨text, none, sound⟩ (text.reverse.flatMap String.utf8EncodeChar)
  | within (text : List Char) {p : Partial} {begun : Bytes} (sound : Bool) (h : Begun p begun) :
    Took ⟨text, some p, sound⟩ (text.reverse.flatMap String.utf8EncodeChar ++ begun)

theorem took_char {text : List Char} {c : Char} {bytes : Bytes} (sound : Bool)
    (h : String.utf8EncodeChar c = bytes) :
    Took ⟨c :: text, none, sound⟩ (text.reverse.flatMap String.utf8EncodeChar ++ bytes) := by
  have htook := Took.between (c :: text) sound
  rwa [List.reverse_cons, List.flatMap_append, List.flatMap_singleton, h] at htook

/-- An octet between two characters is one, begins one, or is replaced. -/
theorem took_first (text : List Char) (sound : Bool) (octet : UInt8)
    (hsound : (first ⟨text, none, sound⟩ octet).sound = true) :
    Took (first ⟨text, none, sound⟩ octet)
      (text.reverse.flatMap String.utf8EncodeChar ++ [octet]) := by
  have hoctet : octet = UInt8.ofNat octet.toNat := UInt8.ofNat_toNat.symm
  by_cases hone : octet.toNat < 0x80
  · rw [hoctet, first_one _ hone]
    refine took_char sound ?_
    unfold String.utf8EncodeChar
    rw [toNat_ofNat (by omega)]
    exact if_pos (by omega)
  by_cases hlow : octet.toNat < 0xC2
  · simp only [first, if_neg hone, if_pos hlow] at hsound
    cases hsound
  by_cases htwo : octet.toNat < 0xE0
  · obtain ⟨n, hn⟩ : ∃ n, octet.toNat = n + 0xC0 := ⟨octet.toNat - 0xC0, by omega⟩
    rw [hoctet, hn, first_two _ (by omega) (by omega)]
    exact .within text sound (.two (by omega) (by omega))
  by_cases hthree : octet.toNat < 0xF0
  · obtain ⟨n, hn⟩ : ∃ n, octet.toNat = n + 0xE0 := ⟨octet.toNat - 0xE0, by omega⟩
    rw [hoctet, hn, first_three _ (by omega)]
    exact .within text sound (.three (by omega))
  by_cases hfour : octet.toNat < 0xF5
  · obtain ⟨n, hn⟩ : ∃ n, octet.toNat = n + 0xF0 := ⟨octet.toNat - 0xF0, by omega⟩
    rw [hoctet, hn, first_four _ (by omega)]
    exact .within text sound (.four (by omega))
  · simp only [first, if_neg hone, if_neg hlow, if_neg htwo, if_neg hthree,
      if_neg (show ¬ octet.toNat = 0xE0 by omega), if_neg (show ¬ octet.toNat = 0xED by omega),
      if_neg (show ¬ octet.toNat = 0xF0 by omega), if_neg (show ¬ octet.toNat < 0xF4 by omega),
      if_neg (show ¬ octet.toNat = 0xF4 by omega)] at hsound
    cases hsound

/-- What has been replaced stays so. -/
theorem sound_of_first {r : Reader} {octet : UInt8} (h : (r.first octet).sound = true) :
    r.sound = true := by
  unfold first at h
  dsimp only at h
  repeat' split at h
  all_goals first | exact h | cases h

theorem sound_of_step {r : Reader} {octet : UInt8} (h : (r.step octet).sound = true) :
    r.sound = true := by
  unfold step at h
  split at h
  · exact sound_of_first h
  · dsimp only at h
    split at h
    · split at h <;> exact h
    · cases sound_of_first h

theorem took_step {r : Reader} {bytes : Bytes} (h : Took r bytes) {octet : UInt8}
    (hsound : (r.step octet).sound = true) : Took (r.step octet) (bytes ++ [octet]) := by
  cases h with
  | between text sound => exact took_first text sound octet hsound
  | @within text p begun sound hbegun =>
    by_cases hrange : p.least ≤ octet.toNat ∧ octet.toNat ≤ p.greatest
    · obtain ⟨hleast, hgreatest⟩ := hbegun.range
      obtain ⟨n, hn⟩ : ∃ n, octet.toNat = n + 0x80 := ⟨octet.toNat - 0x80, by omega⟩
      have hoctet : octet = UInt8.ofNat (n + 0x80) := by rw [← hn, UInt8.ofNat_toNat]
      rw [hn] at hrange
      obtain ⟨hends, hbelongs⟩ := begun_tail hbegun (by omega) hrange.1 hrange.2
      simp only [step, hn, if_pos hrange, Nat.add_sub_cancel, List.append_assoc]
      rw [← hoctet] at hends hbelongs
      by_cases howed : p.owed ≤ 1
      · rw [if_pos howed]
        exact took_char sound (hends howed)
      · rw [if_neg howed]
        exact .within text sound (hbelongs howed)
    · simp only [step, if_neg hrange] at hsound
      cases sound_of_first hsound

/-- Bytes of which nothing is replaced are those of the text. -/
theorem took_foldl (bytes : Bytes) (hsound : (bytes.foldl step start).sound = true) :
    Took (bytes.foldl step start) bytes := by
  induction bytes using List.reverseRecOn with
  | nil => exact .between [] true
  | append_singleton bytes octet ih =>
    rw [List.foldl_append, List.foldl_cons, List.foldl_nil] at hsound ⊢
    exact took_step (ih (sound_of_step hsound)) hsound

end Reader

/-- Bytes that are read as a text are the bytes of the text. -/
theorem encode_of_decode? {bytes : Bytes} {s : String} (h : decode? bytes = some s) :
    encode s = bytes := by
  unfold decode? read at h
  dsimp only at h
  split at h
  · next hsound =>
    cases h
    generalize hr : bytes.foldl Reader.step .start = r at hsound ⊢
    obtain ⟨text, pending, sound⟩ := r
    cases pending with
    | some p => cases hsound
    | none =>
      have htook := Reader.took_foldl bytes (by rw [hr]; exact hsound)
      rw [hr] at htook
      cases htook
      rw [encode, String.toList_ofList]
      rfl
  · cases h

/-! ## Octets of ASCII -/

/-- An octet of ASCII in the bytes of a character is all of them. -/
theorem mem_encodeChar_of_lt {b : UInt8} {c : Char} (h : b ∈ String.utf8EncodeChar c)
    (hb : b.toNat < 0x80) : c.toNat = b.toNat := by
  -- Every octet but that of an ASCII character has its highest bit set.
  have hhigh (n : Nat) (h1 : 0x80 ≤ n) (h2 : n < 0x100) : ¬ (UInt8.ofNat n).toNat < 0x80 := by
    rw [UInt8.toNat_ofNat', Nat.mod_eq_of_lt (by omega)]
    omega
  unfold String.utf8EncodeChar at h
  simp only [show c.val.toNat = c.toNat from rfl] at h
  generalize c.toNat = v at h ⊢
  split at h
  · next h1 =>
    rw [List.mem_singleton.1 h, UInt8.toNat_ofNat', Nat.mod_eq_of_lt (by omega)]
  split at h
  · rcases List.mem_cons.1 h with rfl | h
    · exact absurd hb (hhigh _ (by omega) (by omega))
    · rw [List.mem_singleton.1 h] at hb
      exact absurd hb (hhigh _ (by omega) (by omega))
  split at h
  · simp only [List.mem_cons, List.not_mem_nil, or_false] at h
    rcases h with rfl | rfl | rfl
    · exact absurd hb (hhigh _ (by omega) (by omega))
    · exact absurd hb (hhigh _ (by omega) (by omega))
    · exact absurd hb (hhigh _ (by omega) (by omega))
  · simp only [List.mem_cons, List.not_mem_nil, or_false] at h
    rcases h with rfl | rfl | rfl | rfl
    · exact absurd hb (hhigh _ (by omega) (by omega))
    · exact absurd hb (hhigh _ (by omega) (by omega))
    · exact absurd hb (hhigh _ (by omega) (by omega))
    · exact absurd hb (hhigh _ (by omega) (by omega))

/-- An octet of ASCII in the bytes of a text is a character of the text. -/
theorem mem_encode_of_lt {b : UInt8} {s : String} (h : b ∈ encode s) (hb : b.toNat < 0x80) :
    Char.ofNat b.toNat ∈ s.toList := by
  obtain ⟨c, hc, hbc⟩ := List.mem_flatMap.1 h
  rw [← mem_encodeChar_of_lt hbc hb, Char.ofNat_toNat]
  exact hc

/-- Text has at least as many bytes as characters. -/
theorem length_le_encode (s : String) : s.toList.length ≤ (encode s).length := by
  rw [encode]
  induction s.toList with
  | nil => exact Nat.le_refl _
  | cons c s ih =>
    have hpos := c.utf8Size_pos
    rw [List.flatMap_cons, List.length_append, List.length_cons, String.length_utf8EncodeChar]
    omega

theorem cr_not_mem_encode {s : String} (h : '\r' ∉ s.toList) : Bytes.cr ∉ encode s :=
  fun hm => h (mem_encode_of_lt hm (by decide))

theorem lf_not_mem_encode {s : String} (h : '\n' ∉ s.toList) : Bytes.lf ∉ encode s :=
  fun hm => h (mem_encode_of_lt hm (by decide))

end Http1Client.Utf8
