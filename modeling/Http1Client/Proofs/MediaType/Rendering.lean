import Http1Client.MediaType.Printer
import Http1Client.MediaType.Reader
import Http1Client.Proofs.Text.Pieces
import Mathlib.Data.List.Basic

/-!
# A media type that is written is read back

What is read of a text is a *regular* media type: its names are tokens in small letters
(`regular_of_parse?`), and the values of its parameters are any texts. What is written of a
regular type is read as that type again (`parse?_of_regular`), because no mark that ends a name
or a value stands in it where it would be seen: names and values that are tokens have none, and
between quotes a backslash stands before each quote and each backslash (`quotedText_escaped`).
-/

namespace Http1Client

/-! ## Characters of tokens -/

theorem toNat_lt_of_isTokenChar {c : Char} (h : isTokenChar c = true) : c.toNat < 128 := by
  have hlt {last : UInt32} (hle : c.val ≤ last) (hlast : last.toNat < 128) : c.toNat < 128 :=
    Nat.lt_of_le_of_lt (UInt32.le_iff_toNat_le.1 hle) hlast
  rcases Bool.or_eq_true_iff.1 h with halnum | hmark
  · rcases Bool.or_eq_true_iff.1 halnum with halpha | hdigit
    · rcases Bool.or_eq_true_iff.1 halpha with hupper | hlower
      · exact hlt (of_decide_eq_true hupper).2 (by decide)
      · exact hlt (of_decide_eq_true (Bool.and_eq_true_iff.1 hlower).2) (by decide)
    · exact hlt (of_decide_eq_true (Bool.and_eq_true_iff.1 hdigit).2) (by decide)
  · have hall : tokenMarks.all (fun c => decide (c.toNat < 128)) = true := by decide
    exact of_decide_eq_true (List.all_eq_true.1 hall c (List.contains_iff_mem.1 hmark))

/-- What holds of the ASCII characters of tokens holds of all their characters. -/
theorem forall_isTokenChar {p : Char → Prop}
    (h : ∀ n < 128, isTokenChar (Char.ofNat n) = true → p (Char.ofNat n)) {c : Char}
    (hc : isTokenChar c = true) : p c := by
  have hself : Char.ofNat c.toNat = c := Char.ofNat_toNat c
  have := h c.toNat (toNat_lt_of_isTokenChar hc)
  rw [hself] at this
  exact this hc

theorem isTokenChar_toLower {c : Char} (h : isTokenChar c = true) :
    isTokenChar c.toLower = true ∧ c.toLower.toLower = c.toLower :=
  forall_isTokenChar (p := fun c => isTokenChar c.toLower = true ∧ c.toLower.toLower = c.toLower)
    (by decide) h

theorem isBlank_of_isTokenChar {c : Char} (h : isTokenChar c = true) : Text.isBlank c = false :=
  forall_isTokenChar (p := fun c => Text.isBlank c = false) (by decide) h

theorem not_blank_of_isToken {s : List Char} (h : isToken s = true) :
    ∀ c ∈ s, Text.isBlank c = false :=
  fun _ hc => isBlank_of_isTokenChar ((isToken_iff.1 h).2 _ hc)

theorem trim_of_isToken {s : List Char} (h : isToken s = true) : Text.trim s = s :=
  Text.trim_of_ends (fun c hc => not_blank_of_isToken h c (List.mem_of_mem_head? hc))
    fun c hc => not_blank_of_isToken h c (List.mem_of_getLast? hc)

/-- A token in small letters. -/
def SmallToken (s : String) : Prop := isToken s.toList = true ∧ Text.lower s.toList = s.toList

theorem smallToken_lower {s : List Char} (h : isToken s = true) :
    SmallToken (String.ofList (Text.lower s)) := by
  obtain ⟨hne, hchars⟩ := isToken_iff.1 h
  have hlower : isToken (Text.lower s) = true := by
    refine isToken_iff.2 ⟨mt List.map_eq_nil_iff.1 hne, fun c hc => ?_⟩
    obtain ⟨d, hd, rfl⟩ := List.mem_map.1 hc
    exact (isTokenChar_toLower (hchars d hd)).1
  have htwice : Text.lower (Text.lower s) = Text.lower s := by
    rw [Text.lower, Text.lower, List.map_map]
    exact List.map_congr_left fun c hc => (isTokenChar_toLower (hchars c hc)).2
  rw [SmallToken, String.toList_ofList]
  exact ⟨hlower, htwice⟩

namespace MediaType

variable {p : Parameter} {value rest : List Char} {m : MediaType}

/-! ## Values -/

/-- The text is empty or begins with the mark that ends an entry. -/
def EndsEntry (rest : List Char) : Prop := ∀ c ∈ rest.head?, c = ';'

theorem takeWhile_entry (h : ';' ∉ value) (hrest : EndsEntry rest) :
    (value ++ rest).takeWhile (· != ';') = value ∧ entryRest (value ++ rest) = rest := by
  have hvalue := Text.bne_of_not_mem h
  unfold entryRest
  rw [List.takeWhile_append_of_pos hvalue, List.dropWhile_append_of_pos hvalue]
  cases rest with
  | nil => exact ⟨List.append_nil _, rfl⟩
  | cons c rest =>
    obtain rfl := hrest c rfl
    exact ⟨List.append_nil _, rfl⟩

/-- A character between quotes: a quote or a backslash with a backslash before it, any other one
with or without. -/
structure QuotedChar where
  char : Char
  escaped : Bool
  guarded : char = '"' ∨ char = '\\' → escaped = true

/-- The character as it stands between the quotes. -/
def QuotedChar.text (q : QuotedChar) : List Char := if q.escaped then ['\\', q.char] else [q.char]

/-- Reading up to the closing quote undoes the escapes. -/
theorem quotedText_chars (chars : List QuotedChar) (rest : List Char) :
    quotedText (chars.flatMap QuotedChar.text ++ '"' :: rest) = (chars.map (·.char), rest) := by
  induction chars with
  | nil => rfl
  | cons q chars ih =>
    rw [List.flatMap_cons, List.append_assoc, List.map_cons, QuotedChar.text]
    by_cases hescaped : q.escaped = true
    · rw [if_pos hescaped]
      simp only [List.cons_append, List.nil_append, quotedText, ih]
    · obtain ⟨hquote, hbackslash⟩ := not_or.1 (mt q.guarded hescaped)
      rw [if_neg hescaped, List.singleton_append, quotedText]
      · rw [ih]
      · exact fun h => hquote h
      · exact fun _ _ h _ => hbackslash h

/-- Characters as they are written are escaped where they have to be. -/
theorem quotedText_escaped (value rest : List Char) :
    quotedText (value.flatMap escapedChar ++ '"' :: rest) = (value, rest) := by
  let written (c : Char) : QuotedChar := ⟨c, decide (c = '"' ∨ c = '\\'), decide_eq_true⟩
  have htext : value.flatMap escapedChar = (value.map written).flatMap QuotedChar.text := by
    rw [List.flatMap_map]
    refine List.flatMap_congr fun c _ => ?_
    by_cases hescaped : c = '"' ∨ c = '\\'
    · rw [escapedChar, QuotedChar.text, if_pos hescaped, if_pos (decide_eq_true hescaped)]
    · rw [escapedChar, QuotedChar.text, if_neg hescaped, if_neg]
      exact mt of_decide_eq_true hescaped
  rw [htext, quotedText_chars, List.map_map]
  exact congrArg (·, rest) (List.map_id value)

/-- A value that is written is read as itself, up to the end of the entry. -/
theorem valueText_written (hrest : EndsEntry rest) :
    valueText (writtenValue value ++ rest) = (value, rest) := by
  unfold writtenValue
  split
  · next htoken =>
    have hchars := (isToken_iff.1 htoken).2
    have hquote : ∀ s, value ++ rest ≠ '"' :: s := by
      intro s hs
      cases value with
      | nil => cases htoken
      | cons c value =>
        cases hs
        exact absurd (hchars '"' List.mem_cons_self) (by decide)
    have hentry := takeWhile_entry (not_mem_of_isToken htoken rfl) hrest
    rw [valueText, hentry.1, hentry.2, trim_of_isToken htoken]
    exact hquote
  · rw [List.cons_append, List.cons_append, List.append_assoc, List.singleton_append, valueText,
      quotedText_escaped]
    exact congrArg (Prod.mk value) (takeWhile_entry List.not_mem_nil hrest).2

/-! ## Parameters -/

/-- An entry is what stands before its first equals sign, trimmed, and the value behind it. -/
theorem entry_of_value {name s : List Char} (hsemicolon : ';' ∉ name) (hequals : '=' ∉ name)
    (h : valueText s = (value, rest)) :
    entry (name ++ '=' :: s) = (some (Text.trim name, value), rest) := by
  have hsemicolon' := Text.bne_of_not_mem hsemicolon
  have hequals' := Text.bne_of_not_mem hequals
  have hmark : ('=' != '=') = false := rfl
  unfold entry
  dsimp only
  rw [List.takeWhile_append_of_pos hsemicolon', List.takeWhile_append_of_pos hequals',
    List.dropWhile_append_of_pos hequals', List.takeWhile_cons_of_pos rfl, List.takeWhile_cons,
    List.dropWhile_cons, hmark]
  simp [h]

/-- What is written of a parameter is read as one entry. -/
theorem entry_written (hname : isToken p.name.toList = true) (hrest : EndsEntry rest) :
    entry (p.name.toList ++ '=' :: (writtenValue p.value.toList ++ rest)) =
      (some (p.name.toList, p.value.toList), rest) := by
  rw [entry_of_value (not_mem_of_isToken hname rfl) (not_mem_of_isToken hname rfl)
    (valueText_written hrest), trim_of_isToken hname]

theorem endsEntry_written (parameters : List Parameter) :
    EndsEntry (parameters.flatMap writtenParameter) := by
  intro c hc
  cases parameters with
  | nil => cases hc
  | cons p parameters => exact (Option.some.inj hc).symm

theorem isSeparator_of_isTokenChar {c : Char} (h : isTokenChar c = true) :
    isSeparator c = false :=
  forall_isTokenChar (p := fun c => isSeparator c = false) (by decide) h

theorem namedEntries_nil : namedEntries [] = [] := by
  rw [namedEntries]
  rfl

/-- What stands between two entries is passed over. -/
theorem namedEntries_separator {c : Char} (h : isSeparator c = true) (s : List Char) :
    namedEntries (c :: s) = namedEntries s := by
  rw [namedEntries, namedEntries, List.dropWhile_cons_of_pos h]

theorem namedEntries_of_entry {c : Char} {s rest : List Char}
    {found : Option (List Char × List Char)} (hc : isSeparator c = false)
    (h : entry (c :: s) = (found, rest)) :
    namedEntries (c :: s) = found.toList ++ namedEntries rest := by
  have hstart : (c :: s).dropWhile isSeparator = c :: s :=
    List.dropWhile_cons_of_neg (Bool.eq_false_iff.1 hc)
  rw [namedEntries]
  split
  · next hnil => rw [hstart] at hnil; cases hnil
  · next c' s' hcons =>
    rw [hstart] at hcons
    cases hcons
    rw [h]

theorem namedEntries_written {parameters : List Parameter}
    (h : ∀ p ∈ parameters, isToken p.name.toList = true) :
    namedEntries (parameters.flatMap writtenParameter) =
      parameters.map fun p => (p.name.toList, p.value.toList) := by
  induction parameters with
  | nil => exact namedEntries_nil
  | cons p parameters ih =>
    have hname := h p List.mem_cons_self
    have hentry := entry_written hname (endsEntry_written parameters)
    obtain ⟨c, name, hchars⟩ := List.exists_cons_of_ne_nil (isToken_iff.1 hname).1
    have hc : isTokenChar c = true := (isToken_iff.1 hname).2 c (hchars ▸ List.mem_cons_self)
    rw [hchars, List.cons_append] at hentry
    rw [List.flatMap_cons, writtenParameter, List.cons_append, List.cons_append,
      namedEntries_separator rfl, List.append_assoc, List.cons_append, hchars, List.cons_append,
      namedEntries_of_entry (isSeparator_of_isTokenChar hc) hentry,
      ih fun q hq => h q (List.mem_cons_of_mem _ hq), List.map_cons, hchars, Option.toList_some,
      List.singleton_append]

/-- Parameters that are written are read as themselves. -/
theorem readParameters_written {parameters : List Parameter}
    (h : ∀ p ∈ parameters, SmallToken p.name) :
    readParameters (parameters.flatMap writtenParameter) = parameters := by
  rw [readParameters, namedEntries_written fun p hp => (h p hp).1, List.filterMap_map]
  refine (List.filterMap_eq_map_iff_forall_eq_some.2 fun p hp => ?_).trans (List.map_id _)
  obtain ⟨htoken, hsmall⟩ := h p hp
  simp only [Function.comp_apply, htoken, hsmall, if_true, String.ofList_toList, id_eq]

/-! ## The whole type -/

/-- The names of the type are tokens in small letters. -/
structure Regular (m : MediaType) : Prop where
  primary : SmallToken m.primary
  sub : SmallToken m.sub
  parameters : ∀ p ∈ m.parameters, SmallToken p.name

/-- What is read is regular. -/
theorem regular_of_parse? {text : String} (h : parse? text = some m) : m.Regular := by
  unfold parse? at h
  dsimp only at h
  split at h
  · cases h
  · split at h
    · next htokens =>
      cases h
      obtain ⟨hprimary, hsub⟩ := Bool.and_eq_true _ _ ▸ htokens
      refine ⟨smallToken_lower hprimary, smallToken_lower hsub, fun p hp => ?_⟩
      obtain ⟨⟨name, value⟩, -, hp⟩ := List.mem_filterMap.1 hp
      dsimp only at hp
      split at hp
      · next hname =>
        cases hp
        exact smallToken_lower hname
      · cases hp
    · cases h

theorem isUnknown_of_regular (h : m.Regular) : m.isUnknown = false := by
  rw [isUnknown, Bool.eq_false_iff, ne_eq, String.isEmpty_iff, ← String.toList_eq_nil_iff]
  exact (isToken_iff.1 h.primary.1).1

theorem toList_essence (h : m.Regular) :
    m.essence.toList = m.primary.toList ++ '/' :: m.sub.toList := by
  simp [essence, isUnknown_of_regular h]

theorem toList_render (h : m.Regular) :
    m.render.toList = m.essence.toList ++ m.parameters.flatMap writtenParameter := by
  simp [render, isUnknown_of_regular h]

/-- A value that is written ends in its last character or in a quote. -/
theorem getLast?_writtenValue (value : List Char) :
    ∃ c, (writtenValue value).getLast? = some c ∧ Text.isBlank c = false := by
  unfold writtenValue
  split
  · next htoken =>
    have hne := (isToken_iff.1 htoken).1
    exact ⟨_, List.getLast?_eq_some_getLast hne,
      not_blank_of_isToken htoken _ (List.getLast_mem hne)⟩
  · exact ⟨'"', List.getLast?_concat, by decide⟩

/-- Parameters behind a text that does not end in a blank do not end in one either. -/
theorem getLast?_append_written {s : List Char} (parameters : List Parameter)
    (h : ∀ c ∈ s.getLast?, Text.isBlank c = false) :
    ∀ c ∈ (s ++ parameters.flatMap writtenParameter).getLast?, Text.isBlank c = false := by
  induction parameters generalizing s with
  | nil =>
    rw [List.flatMap_nil, List.append_nil]
    exact h
  | cons p parameters ih =>
    rw [List.flatMap_cons, ← List.append_assoc]
    refine ih fun c hc => ?_
    obtain ⟨last, hlast, hblank⟩ := getLast?_writtenValue p.value.toList
    have hend : (s ++ writtenParameter p).getLast? = some last := by
      rw [writtenParameter, List.getLast?_append, List.getLast?_append, List.getLast?_cons, hlast]
      rfl
    rw [hend] at hc
    exact Option.some.inj hc ▸ hblank

/-- A regular type has no blank at either end, with its parameters or without. -/
theorem trim_written (h : m.Regular) (parameters : List Parameter) :
    Text.trim (m.essence.toList ++ parameters.flatMap writtenParameter) =
      m.essence.toList ++ parameters.flatMap writtenParameter := by
  rw [toList_essence h]
  refine Text.trim_of_ends (fun c hc => ?_) (getLast?_append_written _ fun c hc => ?_)
  · rw [List.append_assoc, List.head?_append_of_ne_nil _ (isToken_iff.1 h.primary.1).1] at hc
    exact not_blank_of_isToken h.primary.1 c (List.mem_of_mem_head? hc)
  · rw [List.getLast?_append, List.getLast?_cons,
      List.getLast?_eq_some_getLast (isToken_iff.1 h.sub.1).1] at hc
    exact Option.some.inj hc ▸ not_blank_of_isToken h.sub.1 _ (List.getLast_mem _)

/-- What is written of a regular type is cut at the first semicolon into the names of the type
and its parameters. -/
theorem cutAt_render (h : m.Regular) : ∃ rest,
    Text.cutAt ';' m.render.toList = (m.essence.toList, rest) ∧
      readParameters (rest.getD []) = m.parameters := by
  have hmark : ';' ∉ m.essence.toList := by
    rw [toList_essence h]
    simp [not_mem_of_isToken (c := ';') h.primary.1 rfl, not_mem_of_isToken (c := ';') h.sub.1 rfl]
  have hread := readParameters_written h.parameters
  rw [toList_render h]
  cases hparameters : m.parameters with
  | nil =>
    rw [hparameters] at hread
    exact ⟨none, by rw [List.flatMap_nil, List.append_nil, Text.cutAt_of_not_mem hmark], hread⟩
  | cons p parameters =>
    rw [List.flatMap_cons, writtenParameter, List.cons_append, List.cons_append]
    refine ⟨_, Text.cutAt_append hmark _, ?_⟩
    -- The semicolon at which the text is cut makes no difference to the parameters.
    rw [hparameters, List.flatMap_cons, writtenParameter, List.cons_append, List.cons_append,
      readParameters, namedEntries_separator rfl] at hread
    exact hread

/-- What is written of a regular type is read as the type. -/
theorem parse?_of_regular (h : m.Regular) : parse? m.render = some m := by
  obtain ⟨rest, hcut, hrest⟩ := cutAt_render h
  have hrender : Text.trim m.render.toList = m.render.toList := by
    rw [toList_render h]
    exact trim_written h m.parameters
  have hessence : Text.trim m.essence.toList = m.essence.toList := by
    simpa using trim_written h []
  have hslash : '/' ∉ m.primary.toList := not_mem_of_isToken h.primary.1 rfl
  unfold parse?
  rw [hrender, hcut]
  dsimp only
  rw [hessence, toList_essence h, Text.cutAt_append hslash]
  dsimp only
  rw [trim_of_isToken h.primary.1, trim_of_isToken h.sub.1, h.primary.1, h.sub.1, h.primary.2,
    h.sub.2, hrest]
  simp only [String.ofList_toList, Bool.and_self, if_true]

/-- A media type that was read, whatever the text, is written in a text that is read as the
same type: its names, and its parameters with their values, in order and with duplicates. -/
theorem parse?_render {text : String} (h : parse? text = some m) : parse? m.render = some m :=
  parse?_of_regular (regular_of_parse? h)

/-- Blanks, junk, escapes, marks between quotes, a name that comes twice, no value and no closing
quote. -/
theorem parse?_render_quoted :
    let text := " Text/HTML ; Charset=\"a;\\b\\\"c\\\\\" x ;junk;\tq= é=\" ;Q=\"\";CHARSET=\"o\\"
    let m : MediaType := ⟨"text", "html",
      [⟨"charset", "a;b\"c\\"⟩, ⟨"q", "é=\""⟩, ⟨"q", ""⟩, ⟨"charset", "o\\"⟩]⟩
    parse? text = some m ∧ parse? m.render = some m := by
  intro text m
  have hread : parse? text = some m := by decide +kernel
  exact ⟨hread, parse?_render hread⟩

end MediaType

end Http1Client
