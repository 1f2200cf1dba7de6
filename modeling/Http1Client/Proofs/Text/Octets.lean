import Http1Client.Proofs.Text.Utf8

/-!
# Positions in the bytes of a text

Whoever goes through a text by positions sees its octets one by one and takes each for a character
of its own. That tells the characters of ASCII apart; of any other character all octets answer a
test alike, if only characters outside ASCII do (`Uniform`). So the octets are taken as
the characters are (`takeWhile_octets`), and what is looked for is found (`findIdx?_octets`).

A position is told by what stands behind it: `place text rest` is where `rest`, an end of the text,
begins. These positions are the boundaries between characters (`isBoundary_place`,
`exists_place`).

The ways to look at bytes by positions check what they are asked for: a byte that is there
(`byteAt`), a part that lies inside (`part`), a text cut at boundaries (`textPart`). Each fails with
a `Misstep` otherwise; at places of the text none of them does.
-/

namespace Http1Client.Utf8

variable {text rest mid s : List Char} {test : Char → Bool} {bytes : Bytes} {pos : Nat}

/-- The bytes of characters. -/
def octets (s : List Char) : Bytes := s.flatMap String.utf8EncodeChar

theorem encode_ofList (s : List Char) : encode (String.ofList s) = octets s := by
  rw [encode, String.toList_ofList]
  rfl

theorem octets_cons (c : Char) (s : List Char) :
    octets (c :: s) = String.utf8EncodeChar c ++ octets s := List.flatMap_cons

theorem octets_append (s t : List Char) : octets (s ++ t) = octets s ++ octets t :=
  List.flatMap_append

theorem decode?_octets (s : List Char) : decode? (octets s) = some (String.ofList s) := by
  rw [← encode_ofList]
  exact decode?_encode _

theorem decodeLossy_octets (s : List Char) : decodeLossy (octets s) = String.ofList s := by
  have hdecode := decode?_octets s
  unfold decode? at hdecode
  dsimp only at hdecode
  split at hdecode
  · exact Option.some.inj hdecode
  · cases hdecode

/-! ## Octets of one character -/

/-- The octet taken for a character of its own. -/
def asChar (octet : UInt8) : Char := Char.ofNat octet.toNat

theorem toNat_asChar (octet : UInt8) : (asChar octet).toNat = octet.toNat := by
  have hlt : octet.toNat < 256 := octet.toNat_lt
  exact toNat_ofNat (by omega)

theorem encodeChar_of_lt {c : Char} (hc : c.toNat < 0x80) :
    String.utf8EncodeChar c = [UInt8.ofNat c.toNat] := by
  unfold String.utf8EncodeChar
  exact if_pos (show c.toNat ≤ 127 by omega)

/-- The first octet of a character is no continuation octet, and all others are. -/
theorem exists_encodeChar (c : Char) : ∃ first others, String.utf8EncodeChar c = first :: others ∧
    (first.toNat < 0x80 ∨ 0xC0 ≤ first.toNat) ∧
      ∀ octet ∈ others, 0x80 ≤ octet.toNat ∧ octet.toNat < 0xC0 := by
  have hoctet (n : Nat) (hn : n < 0x100) : (UInt8.ofNat n).toNat = n := by
    rw [UInt8.toNat_ofNat', Nat.mod_eq_of_lt hn]
  have htail (n : Nat) : 0x80 ≤ (UInt8.ofNat (n % 64 + 0x80)).toNat ∧
      (UInt8.ofNat (n % 64 + 0x80)).toNat < 0xC0 := by
    rw [hoctet _ (by omega)]
    omega
  have hrange := toNat_cases c
  unfold String.utf8EncodeChar
  simp only [show c.val.toNat = c.toNat from rfl]
  generalize c.toNat = v at hrange
  split
  · refine ⟨_, _, rfl, ?_, fun _ hmem => absurd hmem List.not_mem_nil⟩
    rw [hoctet _ (by omega)]
    omega
  split
  · refine ⟨_, _, rfl, ?_, fun octet hmem => ?_⟩
    · rw [hoctet _ (by omega)]
      omega
    · rw [List.mem_singleton.1 hmem]
      exact htail v
  split
  · refine ⟨_, _, rfl, ?_, fun octet hmem => ?_⟩
    · rw [hoctet _ (by omega)]
      omega
    · simp only [List.mem_cons, List.not_mem_nil, or_false] at hmem
      rcases hmem with rfl | rfl
      · exact htail (v / 64)
      · exact htail v
  · refine ⟨_, _, rfl, ?_, fun octet hmem => ?_⟩
    · rw [hoctet _ (by omega)]
      omega
    · simp only [List.mem_cons, List.not_mem_nil, or_false] at hmem
      rcases hmem with rfl | rfl | rfl
      · exact htail (v / 4096)
      · exact htail (v / 64)
      · exact htail v

/-! ## Tests that see ASCII only -/

/-- All characters outside ASCII answer the test alike. -/
def Uniform (test : Char → Bool) : Prop :=
  ∀ c d : Char, 0x80 ≤ c.toNat → 0x80 ≤ d.toNat → test c = test d

theorem uniform_of_lt (h : ∀ c, test c = true → c.toNat < 0x80) : Uniform test := by
  have hfalse (c : Char) (hc : 0x80 ≤ c.toNat) : test c = false := by
    rw [Bool.eq_false_iff]
    intro htrue
    exact absurd (h c htrue) (Nat.not_lt.2 hc)
  intro c d hc hd
  rw [hfalse c hc, hfalse d hd]

theorem uniform_mark {mark : Char} (hmark : mark.toNat < 0x80) : Uniform (· == mark) := by
  refine uniform_of_lt ?_
  intro c hc
  rw [eq_of_beq hc]
  exact hmark

theorem uniform_not_mark {mark : Char} (hmark : mark.toNat < 0x80) :
    Uniform (· != mark) := by
  intro c d hc hd
  exact congrArg (!·) (uniform_mark hmark c d hc hd)

/-- The octets of a character answer as the character does. -/
theorem test_asChar (htest : Uniform test) {c : Char} {octet : UInt8}
    (hmem : octet ∈ String.utf8EncodeChar c) : test (asChar octet) = test c := by
  by_cases hc : c.toNat < 0x80
  · rw [encodeChar_of_lt hc, List.mem_singleton] at hmem
    have hself : asChar octet = c := by
      rw [hmem, asChar, UInt8.toNat_ofNat', Nat.mod_eq_of_lt (by omega)]
      exact Char.ofNat_toNat c
    rw [hself]
  · have hoctet : ¬ octet.toNat < 0x80 := by
      intro hlt
      rw [mem_encodeChar_of_lt hmem hlt] at hc
      exact hc hlt
    refine htest _ _ ?_ (by omega)
    rw [toNat_asChar]
    omega

theorem takeWhile_octets (htest : Uniform test) (s : List Char) :
    (octets s).takeWhile (fun b => test (asChar b)) = octets (s.takeWhile test) := by
  induction s with
  | nil => rfl
  | cons c s ih =>
    rw [octets_cons]
    by_cases hc : test c = true
    · rw [List.takeWhile_append_of_pos, ih, List.takeWhile_cons_of_pos hc, octets_cons]
      intro octet hmem
      rw [test_asChar htest hmem]
      exact hc
    · obtain ⟨first, others, hchar, -⟩ := exists_encodeChar c
      have hfirst : ¬ test (asChar first) = true := by
        rw [test_asChar htest (hchar ▸ List.mem_cons_self)]
        exact hc
      rw [hchar, List.cons_append, List.takeWhile_cons, if_neg hfirst,
        List.takeWhile_cons_of_neg hc]
      rfl

theorem findIdx?_octets (htest : Uniform test) (s : List Char) :
    (octets s).findIdx? (fun b => test (asChar b)) =
      if s.any test then some (octets (s.takeWhile (!test ·))).length else none := by
  induction s with
  | nil => rfl
  | cons c s ih =>
    obtain ⟨first, others, hchar, -⟩ := exists_encodeChar c
    rw [octets_cons, List.findIdx?_append, List.any_cons]
    by_cases hc : test c = true
    · have hfirst : test (asChar first) = true := by
        rw [test_asChar htest (hchar ▸ List.mem_cons_self)]
        exact hc
      rw [hchar, List.findIdx?_cons, if_pos hfirst, hc, Bool.true_or, if_pos rfl,
        List.takeWhile_cons_of_neg (by simp [hc])]
      rfl
    · have hnone : (String.utf8EncodeChar c).findIdx? (fun b => test (asChar b)) = none := by
        rw [List.findIdx?_eq_none_iff]
        intro octet hmem
        rw [test_asChar htest hmem]
        exact Bool.eq_false_iff.2 hc
      rw [hnone, ih, Bool.eq_false_iff.2 hc, Bool.false_or,
        List.takeWhile_cons_of_pos (by simp [hc]), octets_cons, List.length_append]
      split
      · exact congrArg some (Nat.add_comm _ _)
      · rfl

/-! ## Places -/

/-- The position at which an end of a text begins. -/
def place (text rest : List Char) : Nat := (octets text).length - (octets rest).length

theorem place_self (text : List Char) : place text text = 0 := Nat.sub_self _

theorem place_nil (text : List Char) : place text [] = (octets text).length := Nat.sub_zero _

theorem length_octets_le (h : rest <:+ text) : (octets rest).length ≤ (octets text).length := by
  obtain ⟨front, rfl⟩ := h
  rw [octets_append, List.length_append]
  omega

/-- What is passed over moves the place on by its bytes. -/
theorem place_append (h : mid ++ rest <:+ text) :
    place text rest = place text (mid ++ rest) + (octets mid).length := by
  have hle := length_octets_le h
  unfold place
  rw [octets_append, List.length_append] at hle ⊢
  omega

theorem place_cons {c : Char} (h : c :: rest <:+ text) :
    place text rest = place text (c :: rest) + (String.utf8EncodeChar c).length := by
  have hchar : octets [c] = String.utf8EncodeChar c := List.append_nil _
  have hmid : [c] ++ rest <:+ text := h
  rw [← hchar]
  exact place_append hmid

/-- Passing over characters, in the form in which `place_append` and its like take it. -/
theorem takeWhile_append_suffix (test : Char → Bool) (h : rest <:+ text) :
    rest.takeWhile test ++ rest.dropWhile test <:+ text := by
  rw [List.takeWhile_append_dropWhile]
  exact h

theorem place_dropWhile (test : Char → Bool) (h : rest <:+ text) :
    place text (rest.dropWhile test) =
      place text rest + (octets (rest.takeWhile test)).length := by
  rw [place_append (takeWhile_append_suffix test h), List.takeWhile_append_dropWhile]

theorem place_le (text rest : List Char) : place text rest ≤ (octets text).length :=
  Nat.sub_le _ _

theorem drop_place (h : rest <:+ text) : (octets text).drop (place text rest) = octets rest := by
  obtain ⟨front, rfl⟩ := h
  have hplace : place (front ++ rest) rest = (octets front).length := by
    unfold place
    rw [octets_append, List.length_append]
    omega
  rw [hplace, octets_append]
  exact List.drop_left

theorem length_octets_pos (c : Char) (s : List Char) : 0 < (octets (c :: s)).length := by
  have hpos := c.utf8Size_pos
  rw [octets_cons, List.length_append, String.length_utf8EncodeChar]
  omega

theorem place_lt_iff (h : rest <:+ text) :
    place text rest < (octets text).length ↔ rest ≠ [] := by
  have hle := length_octets_le h
  cases rest with
  | nil => simp [place_nil]
  | cons c rest =>
    have hpos := length_octets_pos c rest
    simp only [place, ne_eq, List.cons_ne_nil, not_false_eq_true, iff_true]
    omega

/-- What is shorter begins further on. -/
theorem place_lt_place (h : rest <:+ text) (hs : s <:+ rest) (hlt : s.length < rest.length) :
    place text rest < place text s := by
  obtain ⟨mid, rfl⟩ := hs
  cases mid with
  | nil => exact absurd hlt (Nat.lt_irrefl _)
  | cons c mid =>
    have hpos := length_octets_pos c mid
    rw [place_append h]
    omega

/-! ## Boundaries -/

/-- A character begins at the position, or the text ends there. -/
def isBoundary (bytes : Bytes) (pos : Nat) : Bool :=
  match bytes[pos]? with
  | some octet => octet.toNat < 0x80 || 0xC0 ≤ octet.toNat
  | none => pos == bytes.length

theorem isBoundary_place (h : rest <:+ text) :
    isBoundary (octets text) (place text rest) = true := by
  have hhead : (octets text)[place text rest]? = (octets rest)[0]? := by
    rw [← drop_place h, List.getElem?_drop, Nat.add_zero]
  unfold isBoundary
  rw [hhead]
  cases rest with
  | nil => exact beq_iff_eq.2 (place_nil text)
  | cons c rest =>
    obtain ⟨first, others, hchar, hfirst, -⟩ := exists_encodeChar c
    rw [octets_cons, hchar, List.cons_append, List.getElem?_cons_zero]
    simpa using hfirst

/-- Every boundary is a place. -/
theorem exists_place (h : isBoundary (octets text) pos = true) :
    ∃ rest, rest <:+ text ∧ pos = place text rest := by
  induction text generalizing pos with
  | nil => exact ⟨[], List.suffix_rfl, by simpa [isBoundary, octets, place] using h⟩
  | cons c text ih =>
    obtain ⟨first, others, hchar, -, hothers⟩ := exists_encodeChar c
    by_cases hzero : pos = 0
    · exact ⟨c :: text, List.suffix_rfl, by rw [hzero, place_self]⟩
    by_cases hinside : pos < (String.utf8EncodeChar c).length
    · -- Inside the character there are continuation octets only.
      have hoctet : (octets (c :: text))[pos]? = (String.utf8EncodeChar c)[pos]? := by
        rw [octets_cons, List.getElem?_append_left hinside]
      have hmem : (String.utf8EncodeChar c)[pos] ∈ others := by
        obtain ⟨n, rfl⟩ := Nat.exists_eq_succ_of_ne_zero hzero
        simp only [hchar, List.getElem_cons_succ]
        exact List.getElem_mem _
      have hrange := hothers _ hmem
      rw [isBoundary, hoctet, List.getElem?_eq_getElem hinside] at h
      simp only [Bool.or_eq_true, decide_eq_true_eq] at h
      omega
    · have hbehind : isBoundary (octets text) (pos - (String.utf8EncodeChar c).length) = true := by
        rw [isBoundary, octets_cons, List.getElem?_append_right (by omega)] at h
        unfold isBoundary
        split at h
        · next octet hoctet =>
          rw [hoctet]
          exact h
        · next hnone =>
          rw [hnone]
          simp only [beq_iff_eq, List.length_append] at h ⊢
          omega
      obtain ⟨rest, hrest, hpos⟩ := ih hbehind
      refine ⟨rest, hrest.trans (List.suffix_cons c text), ?_⟩
      have hle := length_octets_le hrest
      unfold place at hpos ⊢
      rw [octets_cons, List.length_append]
      omega

/-! ## Looking at bytes -/

/-- What a reader by positions must not do. -/
inductive Misstep
  /-- Ask for a byte behind the end. -/
  | byte (pos : Nat)
  /-- Ask for a part that does not lie inside, or that cuts a character. -/
  | part (start stop : Nat)
  /-- Go on without getting on. -/
  | standstill (pos : Nat)

/-- The byte at a position. -/
def byteAt (bytes : Bytes) (pos : Nat) : Except Misstep UInt8 :=
  match bytes[pos]? with
  | some octet => .ok octet
  | none => .error (.byte pos)

/-- The bytes from one position to another. -/
def part (bytes : Bytes) (start stop : Nat) : Except Misstep Bytes :=
  if start ≤ stop ∧ stop ≤ bytes.length then .ok ((bytes.take stop).drop start)
  else .error (.part start stop)

/-- The text from one position to another, where characters have to begin. -/
def textPart (bytes : Bytes) (start stop : Nat) : Except Misstep String :=
  if start ≤ stop ∧ isBoundary bytes start = true ∧ isBoundary bytes stop = true then
    match decode? ((bytes.take stop).drop start) with
    | some text => .ok text
    | none => .error (.part start stop)
  else .error (.part start stop)

theorem byteAt_of_drop {octet : UInt8} {behind : Bytes} (h : bytes.drop pos = octet :: behind) :
    pos < bytes.length ∧ byteAt bytes pos = .ok octet ∧ bytes.drop (pos + 1) = behind := by
  have hoctet : bytes[pos]? = some octet := by
    rw [← Nat.add_zero pos, ← List.getElem?_drop, h, List.getElem?_cons_zero]
  refine ⟨(List.getElem?_eq_some_iff.1 hoctet).1, ?_, ?_⟩
  · rw [byteAt, hoctet]
  · rw [← List.drop_drop, h, List.drop_succ_cons, List.drop_zero]

theorem drop_take_place (h : mid ++ rest <:+ text) :
    ((octets text).take (place text rest)).drop (place text (mid ++ rest)) = octets mid := by
  have hlength : place text rest - place text (mid ++ rest) = (octets mid).length := by
    rw [place_append h]
    omega
  rw [List.drop_take, drop_place h, hlength, octets_append]
  exact List.take_left

/-- Between two places of a text is the text between them. -/
theorem part_place (h : mid ++ rest <:+ text) :
    part (octets text) (place text (mid ++ rest)) (place text rest) = .ok (octets mid) := by
  have hle : place text (mid ++ rest) ≤ place text rest := by
    rw [place_append h]
    omega
  rw [part, if_pos ⟨hle, place_le text rest⟩, drop_take_place h]

theorem textPart_place (h : mid ++ rest <:+ text) :
    textPart (octets text) (place text (mid ++ rest)) (place text rest) =
      .ok (String.ofList mid) := by
  have hle : place text (mid ++ rest) ≤ place text rest := by
    rw [place_append h]
    omega
  have hrest : rest <:+ text := (List.suffix_append mid rest).trans h
  rw [textPart, if_pos ⟨hle, isBoundary_place h, isBoundary_place hrest⟩, drop_take_place h,
    decode?_octets]

/-- Up to the first character that does not pass the test. -/
theorem part_takeWhile (test : Char → Bool) (h : rest <:+ text) :
    part (octets text) (place text rest) (place text (rest.dropWhile test)) =
      .ok (octets (rest.takeWhile test)) := by
  have hpart := part_place (takeWhile_append_suffix test h)
  rwa [List.takeWhile_append_dropWhile] at hpart

theorem textPart_takeWhile (test : Char → Bool) (h : rest <:+ text) :
    textPart (octets text) (place text rest) (place text (rest.dropWhile test)) =
      .ok (String.ofList (rest.takeWhile test)) := by
  have hpart := textPart_place (takeWhile_append_suffix test h)
  rwa [List.takeWhile_append_dropWhile] at hpart

/-- Up to the end. -/
theorem part_end (h : rest <:+ text) :
    part (octets text) (place text rest) (octets text).length = .ok (octets rest) := by
  have hall : rest ++ [] <:+ text := (List.append_nil rest).symm ▸ h
  have hpart := part_place hall
  rwa [List.append_nil, place_nil] at hpart

theorem textPart_end (h : rest <:+ text) :
    textPart (octets text) (place text rest) (octets text).length = .ok (String.ofList rest) := by
  have hall : rest ++ [] <:+ text := (List.append_nil rest).symm ▸ h
  have hpart := textPart_place hall
  rwa [List.append_nil, place_nil] at hpart

end Http1Client.Utf8
