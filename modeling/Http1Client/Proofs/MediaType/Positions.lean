import Http1Client.Proofs.MediaType.Cursor
import Http1Client.Proofs.MediaType.Rendering
import Http1Client.Proofs.Text.Spelling
import Mathlib.Data.List.Forall2

/-!
# Reading by positions fails for no text

`parseAt_eq` says that the reader by positions never missteps and reads what `parse?` reads. The
invariant is that the position is the place of an end of the text, and that end is what the reader
of characters has left: so each function of the one reader is told by the function of the other
(`skipWhile_place` to `passes_place`), and what is left grows shorter (`pass_advances`). Inside a
quoted value the invariant is given up, and holds again behind it: the bytes that were taken are
those of characters (`takeQuoted_place`).
-/

namespace Http1Client.MediaType

open Utf8 (octets place asChar part textPart isBoundary)

variable {text rest : List Char} {test : Char → Bool}

/-! ## Places of the text -/

theorem uniform_isSeparator : Utf8.Uniform isSeparator := by
  refine Utf8.uniform_of_lt ?_
  intro c hc
  simp only [isSeparator, Text.isAsciiBlank, Bool.or_eq_true, beq_iff_eq] at hc
  rcases hc with rfl | (((rfl | rfl) | rfl) | rfl) | rfl
  all_goals decide

theorem skipWhile_place (htest : Utf8.Uniform test) (h : rest <:+ text) :
    skipWhile test (octets text) (place text rest) = .ok (place text (rest.dropWhile test)) := by
  rw [skipWhile_eq, Utf8.drop_place h, Utf8.takeWhile_octets htest, Utf8.place_dropWhile test h]

/-- The entry ends where the reader of characters has it end. -/
theorem entryEnd_place (h : rest <:+ text) :
    entryEnd (octets text) (place text rest) = .ok (place text (entryRest rest)) := by
  unfold entryEnd entryRest
  rw [Utf8.part_end h, ok_bind, Utf8.findIdx?_octets (Utf8.uniform_mark (by decide))]
  by_cases hmark : rest.any (· == ';') = true
  · rw [if_pos hmark, Utf8.place_dropWhile _ h]
    rfl
  · have hnone : rest.dropWhile (· != ';') = [] := by
      refine List.dropWhile_eq_nil_iff.2 ?_
      intro c hc
      exact congrArg (!·) (Bool.eq_false_iff.2 fun heq => hmark (List.any_eq_true.2 ⟨c, hc, heq⟩))
    rw [if_neg hmark, hnone, Utf8.place_nil]
    rfl

/-- The octets of a character that is no mark are no marks. -/
theorem not_mark_of_mem {c : Char} (hbackslash : c ≠ '\\') (hquote : c ≠ '"') {octet : UInt8}
    (hmem : octet ∈ String.utf8EncodeChar c) : asChar octet ≠ '\\' ∧ asChar octet ≠ '"' := by
  have htest {mark : Char} (hmark : mark.toNat < 0x80) (hc : c ≠ mark) : asChar octet ≠ mark := by
    have hsame : (asChar octet == mark) = (c == mark) :=
      Utf8.test_asChar (Utf8.uniform_mark hmark) hmem
    rw [← beq_eq_false_iff_ne, hsame, beq_eq_false_iff_ne]
    exact hc
  exact ⟨htest (by decide) hbackslash, htest (by decide) hquote⟩

theorem not_mark_of_le {octet : UInt8} (h : 0x80 ≤ octet.toNat) :
    asChar octet ≠ '\\' ∧ asChar octet ≠ '"' := by
  rw [← Utf8.toNat_asChar] at h
  constructor
  · intro hmark
    rw [hmark] at h
    exact absurd h (by decide)
  · intro hmark
    rw [hmark] at h
    exact absurd h (by decide)

/-- A backslash takes the first byte of the next character along, the others follow by
themselves. -/
theorem takeQuoted_place_escape {e : Char} (h : '\\' :: e :: rest <:+ text) (taken : Bytes) :
    takeQuoted (octets text) (place text ('\\' :: e :: rest)) taken =
      takeQuoted (octets text) (place text rest) (taken ++ String.utf8EncodeChar e) := by
  obtain ⟨first, others, hchar, -, hothers⟩ := Utf8.exists_encodeChar e
  have he : e :: rest <:+ text := (List.suffix_cons _ _).trans h
  have hbytes : (octets text).drop (place text ('\\' :: e :: rest)) =
      UInt8.ofNat 92 :: first :: (others ++ octets rest) := by
    rw [Utf8.drop_place h, Utf8.octets_cons, Utf8.octets_cons, hchar]
    rfl
  have hrun : (octets text).drop (place text ('\\' :: e :: rest) + 2) = others ++ octets rest := by
    rw [← List.drop_drop, hbytes]
    rfl
  have hplace : place text ('\\' :: e :: rest) + 2 + others.length = place text rest := by
    have hlength : (String.utf8EncodeChar '\\').length = 1 := rfl
    rw [Utf8.place_cons he, Utf8.place_cons h, hchar, hlength, List.length_cons]
    omega
  rw [takeQuoted_escape hbytes rfl,
    takeQuoted_run hrun fun octet hmem => not_mark_of_le (hothers octet hmem).1, hplace, hchar,
    List.append_assoc, List.singleton_append]

/-- A character that is no mark, or a backslash that is the last character. -/
theorem takeQuoted_place_char {c : Char} (h : c :: rest <:+ text) (hquote : c ≠ '"')
    (hbackslash : c = '\\' → rest = []) (taken : Bytes) :
    takeQuoted (octets text) (place text (c :: rest)) taken =
      takeQuoted (octets text) (place text rest) (taken ++ String.utf8EncodeChar c) := by
  have hdrop := Utf8.drop_place h
  by_cases hc : c = '\\'
  · obtain rfl := hbackslash hc
    subst hc
    have hbytes : (octets text).drop (place text ['\\']) = [UInt8.ofNat 92] := hdrop
    rw [takeQuoted_plain hbytes (fun _ => rfl) (by decide), Utf8.place_cons h]
    rfl
  · rw [takeQuoted_run hdrop (fun octet hmem => not_mark_of_mem hc hquote hmem),
      Utf8.place_cons h]

/-- The bytes that are taken are those of the value, and the position behind the closing quote is
between two characters again. -/
theorem takeQuoted_place (h : rest <:+ text) (taken : Bytes) :
    takeQuoted (octets text) (place text rest) taken =
      .ok (taken ++ octets (quotedText rest).1, place text (quotedText rest).2) := by
  have hnone (taken : Bytes) : taken ++ octets [] = taken := List.append_nil taken
  fun_induction quotedText rest generalizing taken with
  | case1 => rw [takeQuoted_end (Utf8.drop_place h), hnone]
  | case2 rest =>
    have hbytes : (octets text).drop (place text ('"' :: rest)) = UInt8.ofNat 34 :: octets rest :=
      Utf8.drop_place h
    rw [takeQuoted_quote hbytes rfl, Utf8.place_cons h, hnone]
    rfl
  | case3 e rest value after hvalue ih =>
    have hrest : rest <:+ text := ((List.suffix_cons _ _).trans (List.suffix_cons _ _)).trans h
    have hvalue' := ih hrest (taken ++ String.utf8EncodeChar e)
    rw [hvalue] at hvalue'
    rw [takeQuoted_place_escape h, hvalue', Utf8.octets_cons, List.append_assoc]
  | case4 c rest hquote hbackslash value after hvalue ih =>
    have hlast : c = '\\' → rest = [] := by
      intro hc
      cases rest with
      | nil => rfl
      | cons e rest => exact (hbackslash e rest hc rfl).elim
    have hrest : rest <:+ text := (List.suffix_cons _ _).trans h
    have hvalue' := ih hrest (taken ++ String.utf8EncodeChar c)
    rw [hvalue] at hvalue'
    rw [takeQuoted_place_char h hquote hlast, hvalue', Utf8.octets_cons, List.append_assoc]

theorem quoteAt_place (h : rest <:+ text) :
    quoteAt (octets text) (place text rest) = .ok (rest.head? == some '"') := by
  have hdrop := Utf8.drop_place h
  unfold quoteAt
  cases rest with
  | nil =>
    rw [if_neg (Nat.not_lt.2 (List.drop_eq_nil_iff.1 hdrop))]
    rfl
  | cons c rest =>
    obtain ⟨first, others, hchar, -⟩ := Utf8.exists_encodeChar c
    have hfirst : (asChar first == '"') = (c == '"') :=
      Utf8.test_asChar (Utf8.uniform_mark (by decide)) (hchar ▸ List.mem_cons_self)
    rw [Utf8.octets_cons, hchar, List.cons_append] at hdrop
    obtain ⟨hlt, hoctet, -⟩ := Utf8.byteAt_of_drop hdrop
    rw [if_pos hlt, hoctet, ok_bind, hfirst]
    rfl

/-! ## Values -/

theorem quotedText_suffix (s : List Char) : (quotedText s).2 <:+ s := by
  fun_induction quotedText s with
  | case1 => exact List.suffix_rfl
  | case2 rest => exact List.suffix_cons _ _
  | case3 e rest value after hvalue ih =>
    rw [hvalue] at ih
    exact (ih.trans (List.suffix_cons _ _)).trans (List.suffix_cons _ _)
  | case4 c rest _ _ value after hvalue ih =>
    rw [hvalue] at ih
    exact ih.trans (List.suffix_cons _ _)

/-- The characters of a quoted value stood between the quotes, in their order. -/
theorem quotedText_sublist (s : List Char) : (quotedText s).1.Sublist s := by
  fun_induction quotedText s with
  | case1 => exact List.Sublist.refl _
  | case2 rest => exact List.nil_sublist _
  | case3 e rest value after hvalue ih =>
    rw [hvalue] at ih
    exact (ih.cons_cons e).cons _
  | case4 c rest _ _ value after hvalue ih =>
    rw [hvalue] at ih
    exact ih.cons_cons c

theorem entryRest_suffix (s : List Char) : entryRest s <:+ s := List.dropWhile_suffix _

theorem valueText_suffix (s : List Char) : (valueText s).2 <:+ s := by
  unfold valueText
  split
  · next rest =>
    exact ((entryRest_suffix _).trans (quotedText_suffix rest)).trans (List.suffix_cons _ _)
  · exact entryRest_suffix _

/-- What was taken is this value, and between quotes its characters come from the text. -/
def Taken.Means (text value : List Char) : Taken → Prop
  | plain taken => taken = String.ofList value
  | quoted taken => taken = octets value ∧ value.Sublist text

theorem valueAt_place (h : rest <:+ text) :
    ∃ taken : Taken, valueAt (octets text) (place text rest) =
        .ok (taken, place text (valueText rest).2) ∧ taken.Means text (valueText rest).1 := by
  have hquote := quoteAt_place h
  unfold valueAt
  rw [hquote, ok_bind]
  by_cases hhead : rest.head? = some '"'
  · obtain ⟨s, rfl⟩ := List.head?_eq_some_iff.1 hhead
    have hs : s <:+ text := (List.suffix_cons _ _).trans h
    have hbehind : (quotedText s).2 <:+ text := (quotedText_suffix s).trans hs
    have hplace : place text ('"' :: s) + 1 = place text s := (Utf8.place_cons h).symm
    refine ⟨.quoted (octets (quotedText s).1), ?_, rfl, (quotedText_sublist s).trans hs.sublist⟩
    rw [if_pos (beq_iff_eq.2 hhead), hplace, takeQuoted_place hs, ok_bind]
    dsimp only
    rw [skipWhile_place (Utf8.uniform_not_mark (by decide)) hbehind]
    rfl
  · have hvalue : valueText rest = (Text.trim (rest.takeWhile (· != ';')), entryRest rest) := by
      rw [valueText]
      rintro s rfl
      exact hhead rfl
    have htext : textPart (octets text) (place text rest) (place text (entryRest rest)) = _ :=
      Utf8.textPart_takeWhile _ h
    refine ⟨.plain (String.ofList (valueText rest).1), ?_, rfl⟩
    rw [if_neg (mt beq_iff_eq.1 hhead), entryEnd_place h, ok_bind, htext, ok_bind,
      String.toList_ofList, hvalue]
    rfl

/-! ## Entries -/

/-- An entry has no name, or the name goes up to its first equals sign. -/
theorem entry_cases (s : List Char) :
    '=' ∉ s.takeWhile (· != ';') ∧ entry s = (none, entryRest s) ∨
      ∃ name behind, s = name ++ '=' :: behind ∧ ';' ∉ name ∧ '=' ∉ name ∧
        entry s = (some (Text.trim name, (valueText behind).1), (valueText behind).2) := by
  by_cases hequals : '=' ∈ s.takeWhile (· != ';')
  · obtain ⟨name, tail, hwhole, hname⟩ := List.eq_append_cons_of_mem hequals
    have hs : s = name ++ '=' :: (tail ++ entryRest s) := by
      have hparts : s.takeWhile (· != ';') ++ entryRest s = s := List.takeWhile_append_dropWhile
      rw [hwhole, List.append_assoc, List.cons_append] at hparts
      exact hparts.symm
    have hsemicolon : ';' ∉ name := by
      intro hmem
      have hmem' : ';' ∈ s.takeWhile (· != ';') := by
        rw [hwhole]
        exact List.mem_append_left _ hmem
      exact absurd (List.mem_takeWhile_imp hmem') (by decide)
    refine .inr ⟨name, _, hs, hsemicolon, hname, ?_⟩
    have hentry : entry (name ++ '=' :: (tail ++ entryRest s)) = _ :=
      entry_of_value hsemicolon hname rfl
    rwa [← hs] at hentry
  · refine .inl ⟨hequals, ?_⟩
    unfold entry
    dsimp only
    rw [if_neg (mt List.contains_iff_mem.1 hequals)]

theorem entry_suffix (s : List Char) : (entry s).2 <:+ s := by
  rcases entry_cases s with ⟨-, hentry⟩ | ⟨name, behind, rfl, -, -, hentry⟩
  · rw [hentry]
    exact entryRest_suffix s
  · rw [hentry]
    exact (valueText_suffix behind).trans ((List.suffix_cons _ _).trans (List.suffix_append _ _))

/-- The entry that was found is this one. -/
def Found.Matches (text : List Char) (f : Found) (named : List Char × List Char) : Prop :=
  f.name = String.ofList named.1 ∧ f.value.Means text named.2

theorem entryAt_place (h : rest <:+ text) :
    ∃ found : Option Found, entryAt (octets text) (place text rest) =
        .ok (found, place text (entry rest).2) ∧
      Option.Rel (Found.Matches text) found (entry rest).1 := by
  have hwhole : part (octets text) (place text rest) (place text (entryRest rest)) = _ :=
    Utf8.part_takeWhile _ h
  unfold entryAt
  rw [entryEnd_place h, ok_bind, hwhole, ok_bind,
    Utf8.findIdx?_octets (Utf8.uniform_mark (by decide))]
  rcases entry_cases rest with ⟨hnameless, hentry⟩ | ⟨name, behind, rfl, hsemicolon, hname, hentry⟩
  · have hnone : ¬ (rest.takeWhile (· != ';')).any (· == '=') = true := by
      rw [List.any_eq_true]
      rintro ⟨c, hmem, heq⟩
      rw [eq_of_beq heq] at hmem
      exact hnameless hmem
    rw [if_neg hnone, hentry]
    exact ⟨none, rfl, .none⟩
  · have hsome : ((name ++ '=' :: behind).takeWhile (· != ';')).any (· == '=') = true := by
      rw [List.takeWhile_append_of_pos (Text.bne_of_not_mem hsemicolon), List.any_append]
      simp
    have hfront : ((name ++ '=' :: behind).takeWhile (· != ';')).takeWhile (!· == '=') = name := by
      show ((name ++ '=' :: behind).takeWhile (· != ';')).takeWhile (· != '=') = name
      rw [List.takeWhile_append_of_pos (Text.bne_of_not_mem hsemicolon),
        List.takeWhile_append_of_pos (Text.bne_of_not_mem hname)]
      simp
    have hmark : '=' :: behind <:+ text := (List.suffix_append _ _).trans h
    have hbehind : behind <:+ text := (List.suffix_cons _ _).trans hmark
    obtain ⟨taken, hvalue, hmeans⟩ := valueAt_place hbehind
    have hplace : place text (name ++ '=' :: behind) + (octets name).length =
        place text ('=' :: behind) := (Utf8.place_append h).symm
    have hplace' : place text ('=' :: behind) + 1 = place text behind :=
      (Utf8.place_cons hmark).symm
    rw [if_pos hsome, hfront, hentry]
    dsimp only
    rw [hplace, hplace', Utf8.textPart_place h, ok_bind, hvalue, ok_bind, String.toList_ofList]
    exact ⟨_, rfl, .some ⟨rfl, hmeans⟩⟩

theorem pass_place (h : rest <:+ text) :
    ∃ found : Option Found, pass (octets text) (place text rest) =
        .ok (found, place text (entry (rest.dropWhile isSeparator)).2) ∧
      Option.Rel (Found.Matches text) found (entry (rest.dropWhile isSeparator)).1 := by
  have hstart : rest.dropWhile isSeparator <:+ text := (List.dropWhile_suffix _).trans h
  obtain ⟨found, hentry, hmatches⟩ := entryAt_place hstart
  unfold pass
  rw [skipWhile_place uniform_isSeparator h, ok_bind]
  by_cases hnil : rest.dropWhile isSeparator = []
  · rw [hnil, Utf8.place_nil, if_pos le_rfl]
    exact ⟨none, rfl, .none⟩
  · rw [if_neg (Nat.not_le.2 ((Utf8.place_lt_iff hstart).2 hnil))]
    exact ⟨found, hentry, hmatches⟩

/-! ## All entries -/

theorem namedEntries_eq (s : List Char) : namedEntries s =
    (entry (s.dropWhile isSeparator)).1.toList ++
      namedEntries (entry (s.dropWhile isSeparator)).2 := by
  conv_lhs => rw [namedEntries]
  split
  · next hstart =>
    rw [hstart]
    exact namedEntries_nil.symm
  · next hstart => rw [hstart]

theorem pass_suffix (s : List Char) : (entry (s.dropWhile isSeparator)).2 <:+ s :=
  (entry_suffix _).trans (List.dropWhile_suffix _)

theorem length_entry_lt (hrest : rest ≠ []) :
    (entry (rest.dropWhile isSeparator)).2.length < rest.length := by
  cases hstart : rest.dropWhile isSeparator with
  | nil => exact List.length_pos_of_ne_nil hrest
  | cons c s =>
    have hlt := entry_length_lt (s := s) (head_of_dropWhile_separator hstart)
    have hle := length_dropWhile_le isSeparator rest
    rw [hstart] at hle
    exact Nat.lt_of_lt_of_le hlt hle

/-- A pass gets on. -/
theorem pass_advances (h : rest <:+ text) (hrest : rest ≠ []) :
    place text rest < place text (entry (rest.dropWhile isSeparator)).2 :=
  Utf8.place_lt_place h (pass_suffix rest) (length_entry_lt hrest)

theorem forall₂_toList {α β : Type} {R : α → β → Prop} {a : Option α} {b : Option β}
    (h : Option.Rel R a b) : List.Forall₂ R a.toList b.toList := by
  cases h with
  | none => exact .nil
  | some h => exact .cons h .nil

/-- The reader by positions finds the entries that the reader of characters finds. -/
theorem passes_place (h : rest <:+ text) :
    ∃ found, passes (octets text) (place text rest) = .ok found ∧
      List.Forall₂ (Found.Matches text) found (namedEntries rest) := by
  -- On what is left, which each pass makes shorter.
  induction hlength : rest.length using Nat.strongRecOn generalizing rest with
  | ind n ih =>
    by_cases hrest : rest = []
    · have hend : ¬ place text rest < (octets text).length :=
        fun hlt => (Utf8.place_lt_iff h).1 hlt hrest
      rw [passes, if_neg hend, hrest, namedEntries_nil]
      exact ⟨[], rfl, .nil⟩
    · obtain ⟨found, hpass, hmatches⟩ := pass_place h
      obtain ⟨later, hlater, hmatches'⟩ :=
        ih _ (hlength ▸ length_entry_lt hrest) ((pass_suffix rest).trans h) rfl
      refine ⟨found.toList ++ later, ?_, ?_⟩
      · rw [passes, if_pos ((Utf8.place_lt_iff h).2 hrest), hpass, ok_bind]
        dsimp only
        rw [if_pos (pass_advances h hrest), hlater]
        rfl
      · rw [namedEntries_eq]
        exact List.rel_append (forall₂_toList hmatches) hmatches'

theorem Taken.text_of_means {taken : Taken} {value : List Char} (h : taken.Means text value) :
    taken.text = String.ofList value := by
  cases taken with
  | plain taken => exact h
  | quoted taken => rw [Taken.text, h.1, Utf8.decodeLossy_octets]

/-- The reader by positions reads the parameters that the reader of characters reads. -/
theorem parametersAt_ofList (text : List Char) :
    parametersAt (String.ofList text) = .ok (readParameters text) := by
  obtain ⟨found, hpasses, hmatches⟩ := passes_place (List.suffix_refl text)
  have hsame : found.filterMap Found.parameter? = readParameters text := by
    clear hpasses
    unfold readParameters
    generalize namedEntries text = named at hmatches
    induction hmatches with
    | nil => rfl
    | cons hfound _ ih =>
      rw [List.filterMap_cons, List.filterMap_cons, ih, Found.parameter?, hfound.1,
        Taken.text_of_means hfound.2, String.toList_ofList]
  unfold parametersAt
  rw [Utf8.encode_ofList, ← Utf8.place_self text, hpasses, ok_bind, hsame]
  rfl

/-! ## The whole value -/

theorem cutTextAt_ofList {mark : Char} (hmark : mark.toNat < 0x80) (s : List Char) :
    cutTextAt mark (String.ofList s) =
      .ok (String.ofList (Text.cutAt mark s).1, (Text.cutAt mark s).2.map String.ofList) := by
  unfold cutTextAt
  rw [Utf8.encode_ofList]
  dsimp only
  rw [Utf8.findIdx?_octets (Utf8.uniform_mark hmark)]
  by_cases hmem : mark ∈ s
  · obtain ⟨front, behind, rfl, hfront⟩ := List.eq_append_cons_of_mem hmem
    have hany : (front ++ mark :: behind).any (· == mark) = true :=
      List.any_eq_true.2 ⟨mark, hmem, beq_self_eq_true mark⟩
    have hbefore : (front ++ mark :: behind).takeWhile (!· == mark) = front := by
      show (front ++ mark :: behind).takeWhile (· != mark) = front
      exact congrArg Prod.fst (Text.cutAt_append hfront behind)
    have hfirst : place (front ++ mark :: behind) (mark :: behind) = (octets front).length := by
      rw [Utf8.place_append List.suffix_rfl, Utf8.place_self, Nat.zero_add]
    have hsecond : place (front ++ mark :: behind) behind = (octets front).length + 1 := by
      rw [Utf8.place_cons (List.suffix_append front _), hfirst, Utf8.encodeChar_of_lt hmark]
      rfl
    have hleft := Utf8.textPart_place (List.suffix_refl (front ++ mark :: behind))
    have hright := Utf8.textPart_end ((List.suffix_cons mark behind).trans
      (List.suffix_append front _))
    rw [Utf8.place_self, hfirst] at hleft
    rw [hsecond] at hright
    rw [if_pos hany, hbefore, Text.cutAt_append hfront]
    dsimp only
    rw [hleft, ok_bind, hright]
    rfl
  · have hany : ¬ s.any (· == mark) = true := by
      rw [List.any_eq_true]
      rintro ⟨c, hc, heq⟩
      exact hmem (eq_of_beq heq ▸ hc)
    rw [if_neg hany, Text.cutAt_of_not_mem hmem]
    rfl

theorem typeAt_ofList (whole params : List Char) :
    typeAt (String.ofList whole) (String.ofList params) = .ok
      (match Text.cutAt '/' whole with
      | (_, none) => none
      | (left, some right) =>
        if isToken (Text.trim left) && isToken (Text.trim right) then
          some ⟨String.ofList (Text.lower (Text.trim left)),
            String.ofList (Text.lower (Text.trim right)), readParameters params⟩
        else none) := by
  unfold typeAt
  rw [cutTextAt_ofList (by decide), ok_bind]
  rcases Text.cutAt '/' whole with ⟨left, _ | right⟩
  · rfl
  · simp only [Option.map_some, String.toList_ofList, parametersAt_ofList, ok_bind]
    split <;> rfl

/-- The reader by positions never missteps, and it reads what the reader of characters reads. -/
theorem parseAt_eq (text : String) : parseAt text = .ok (parse? text) := by
  have hcut : cutTextAt ';' (String.ofList (Text.trim text.toList)) = _ :=
    cutTextAt_ofList (by decide) _
  unfold parseAt parse?
  dsimp only
  rw [hcut, ok_bind]
  by_cases hmark : ';' ∈ Text.trim text.toList
  · obtain ⟨whole, params, hvalue, hwhole⟩ := List.eq_append_cons_of_mem hmark
    rw [hvalue, Text.cutAt_append hwhole]
    dsimp only [Option.map_some]
    rw [String.toList_ofList]
    exact typeAt_ofList _ _
  · rw [Text.cutAt_of_not_mem hmark, Text.trim_trim]
    exact typeAt_ofList _ []

/-! ## What a pass does -/

/-- A quoted value as it was taken is text, and no character of it comes from anywhere else. -/
def Taken.Faithful (params : String) : Taken → Prop
  | plain _ => True
  | quoted taken => Utf8.decode? taken = some (Utf8.decodeLossy taken) ∧
      (Utf8.decodeLossy taken).toList.Sublist params.toList

/-- A pass from one boundary between characters to a later one. -/
structure Onward (params : String) (pos : Nat) (found : Option Found) (next : Nat) : Prop where
  pass : pass (Utf8.encode params) pos = .ok (found, next)
  further : pos < next
  inside : next ≤ (Utf8.encode params).length
  boundary : isBoundary (Utf8.encode params) next = true
  faithful : ∀ f ∈ found, f.value.Faithful params

theorem Taken.faithful_of_means {taken : Taken} {value : List Char} (h : taken.Means text value) :
    taken.Faithful (String.ofList text) := by
  cases taken with
  | plain taken => exact trivial
  | quoted taken =>
    obtain ⟨rfl, hvalue⟩ := h
    rw [Taken.Faithful, Utf8.decodeLossy_octets, Utf8.decode?_octets, String.toList_ofList,
      String.toList_ofList]
    exact ⟨rfl, hvalue⟩

/-- At a boundary a pass goes on to the next entry, wherever characters are cut on the way. -/
theorem onward_of_boundary (params : String) {pos : Nat}
    (hboundary : isBoundary (Utf8.encode params) pos = true)
    (hpos : pos < (Utf8.encode params).length) : ∃ found next, Onward params pos found next := by
  obtain ⟨text, rfl⟩ : ∃ text, params = String.ofList text := ⟨_, String.ofList_toList.symm⟩
  rw [Utf8.encode_ofList] at hboundary hpos
  obtain ⟨rest, hrest, rfl⟩ := Utf8.exists_place hboundary
  obtain ⟨found, hpass, hmatches⟩ := pass_place hrest
  refine ⟨found, _, ?_, pass_advances hrest ((Utf8.place_lt_iff hrest).1 hpos), ?_, ?_, ?_⟩
  · rw [Utf8.encode_ofList]
    exact hpass
  · rw [Utf8.encode_ofList]
    exact Utf8.place_le _ _
  · rw [Utf8.encode_ofList]
    exact Utf8.isBoundary_place ((pass_suffix rest).trans hrest)
  · intro f hf
    obtain rfl := hf
    generalize (entry (rest.dropWhile isSeparator)).1 = named at hmatches
    cases hmatches with
    | some hfound => exact Taken.faithful_of_means hfound.2

/-- All that the passes take from between quotes is text. -/
theorem passes_faithful (params : String) : ∃ found, passes (Utf8.encode params) 0 = .ok found ∧
    ∀ f ∈ found, f.value.Faithful params := by
  obtain ⟨text, rfl⟩ : ∃ text, params = String.ofList text := ⟨_, String.ofList_toList.symm⟩
  obtain ⟨found, hpasses, hmatches⟩ := passes_place (List.suffix_refl text)
  rw [Utf8.place_self] at hpasses
  rw [Utf8.encode_ofList]
  refine ⟨found, hpasses, ?_⟩
  clear hpasses
  generalize namedEntries text = named at hmatches
  induction hmatches with
  | nil =>
    intro f hf
    cases hf
  | cons hfound _ ih => exact List.forall_mem_cons.2 ⟨Taken.faithful_of_means hfound.2, ih⟩

/-- Reading a media type by positions fails for no text and gives what `parse?` gives: no byte is
asked for that is not there, no part is cut out that does not lie between two characters, and no
pass leaves the position where it was. What is taken from between quotes is text, of which nothing
is replaced. -/
theorem parseAt_sound (text params : String) :
    parseAt text = .ok (parse? text) ∧
      (∃ found, passes (Utf8.encode params) 0 = .ok found ∧
        ∀ f ∈ found, f.value.Faithful params) ∧
      ∀ pos, isBoundary (Utf8.encode params) pos = true → pos < (Utf8.encode params).length →
        ∃ found next, Onward params pos found next :=
  ⟨parseAt_eq text, passes_faithful params, fun _ => onward_of_boundary params⟩

/-- A backslash takes the first byte of a character along and leaves the second, which is taken
next. -/
theorem parseAt_sound_split_character :
    let text := "a/b;x=\"\\é\""
    let params := "x=\"\\é\""
    let taken : Taken := .quoted [0xC3, 0xA9]
    parseAt text = .ok (some ⟨"a", "b", [⟨"x", "é"⟩]⟩) ∧
      passes (Utf8.encode params) 0 = .ok [⟨"x", taken⟩] ∧ taken.Faithful params ∧
      ∃ found next, Onward params 0 found next := by
  intro text params taken
  obtain ⟨hparse, ⟨found, hpasses, hfaithful⟩, hpass⟩ := parseAt_sound text params
  have hread : parse? text = some ⟨"a", "b", [⟨"x", "é"⟩]⟩ := by decide +kernel
  have hfound : (passes (Utf8.encode params) 0).toOption = some [⟨"x", taken⟩] := by
    decide +kernel
  rw [hpasses] at hfound
  obtain rfl : found = [⟨"x", taken⟩] := Option.some.inj hfound
  rw [hread] at hparse
  exact ⟨hparse, hpasses, hfaithful _ (List.mem_singleton_self _),
    hpass 0 (by decide +kernel) (by decide +kernel)⟩

end Http1Client.MediaType
