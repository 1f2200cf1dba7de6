import Http1Client.Proofs.MediaType.Rendering

/-!
# Entries that are malformed are passed over

Parameters stand in a list: entries with semicolons between them and blanks around each. Whoever
writes the list is free in much of it, and may be wrong. An entry has a name, an equals sign and a
value, which is plain or between quotes with as many escapes as one likes (`EntryValue`); or it has
no equals sign, or the name is no token, and then it stands for nothing (`Entry.parameter?`).

`readParameters_listing` says that the reader finds exactly the parameters that stand there, in
their order: no entry, well formed or not, has to do with the reading of another one. The one
induction is over the entries, with the rest of the list as what follows an entry; that it begins
with a semicolon or is empty (`EndsEntry`) is all that one needs to know of it.
-/

namespace Http1Client.MediaType

variable {rest s name : List Char}

/-! ## Entries as they stand in a list -/

/-- A value as it stands behind the equals sign of an entry. -/
inductive EntryValue
  /-- Text that does not begin with a quote. -/
  | plain (text : List Char) (whole : ';' ∉ text) (unquoted : text.head? ≠ some '"')
  /-- Characters between quotes, and what stands behind the closing one. -/
  | quoted (chars : List QuotedChar) (behind : List Char) (whole : ';' ∉ behind)

/-- The text of the value. -/
def EntryValue.text : EntryValue → List Char
  | plain text _ _ => text
  | quoted chars behind _ => '"' :: chars.flatMap QuotedChar.text ++ '"' :: behind

/-- What the text means: without blanks around it, or without quotes and escapes. -/
def EntryValue.value : EntryValue → List Char
  | plain text _ _ => Text.trim text
  | quoted chars _ _ => chars.map (·.char)

/-- What may stand between two semicolons of a list. -/
inductive Entry
  /-- A name, which may be no token, and a value. -/
  | named (name : List Char) (value : EntryValue) (whole : ';' ∉ name) (first : '=' ∉ name)
  /-- Text without an equals sign, or nothing. -/
  | bare (text : List Char) (whole : ';' ∉ text) (nameless : '=' ∉ text)

/-- The text of the entry. -/
def Entry.text : Entry → List Char
  | named name value _ _ => name ++ '=' :: value.text
  | bare text _ _ => text

/-- The parameter that the entry stands for, if the name is a token but for blanks around it. -/
def Entry.parameter? : Entry → Option Parameter
  | named name value _ _ =>
    if isToken (Text.trim name) then
      some ⟨String.ofList (Text.lower (Text.trim name)), String.ofList value.value⟩
    else none
  | bare _ _ _ => none

/-- An entry with blanks around it. -/
structure Slot where
  before : List Char
  entry : Entry
  behind : List Char
  blankBefore : ∀ c ∈ before, Text.isBlank c = true
  blankBehind : ∀ c ∈ behind, Text.isBlank c = true

/-- The text of the entry and of the blanks. -/
def Slot.text (s : Slot) : List Char := s.before ++ (s.entry.text ++ s.behind)

/-- The text of a list. -/
def listing (slots : List Slot) : List Char := [';'].intercalate (slots.map Slot.text)

/-! ## One entry -/

theorem not_mem_of_blank {pad : List Char} {mark : Char} (hmark : Text.isBlank mark = false)
    (hpad : ∀ c ∈ pad, Text.isBlank c = true) : mark ∉ pad := by
  intro hmem
  rw [hpad mark hmem] at hmark
  cases hmark

/-- A value is read as what it means, up to the end of the entry. -/
theorem valueText_text (v : EntryValue) {pad : List Char}
    (hpad : ∀ c ∈ pad, Text.isBlank c = true) (hrest : EndsEntry rest) :
    valueText (v.text ++ (pad ++ rest)) = (v.value, rest) := by
  have hsemicolon : ';' ∉ pad := not_mem_of_blank (by decide) hpad
  cases v with
  | plain text hwhole hunquoted =>
    have hquote : ∀ s, text ++ (pad ++ rest) ≠ '"' :: s := by
      intro s hs
      cases text with
      | cons c text =>
        cases hs
        exact hunquoted rfl
      | nil =>
        cases pad with
        | cons c pad =>
          cases hs
          exact absurd (hpad '"' List.mem_cons_self) (by decide)
        | nil =>
          have hhead := hrest '"' (by rw [show rest = '"' :: s from hs]; rfl)
          exact absurd hhead (by decide)
    have hpadded : ';' ∉ text ++ pad :=
      fun hmem => (List.mem_append.1 hmem).elim hwhole hsemicolon
    have hends := takeWhile_entry hpadded hrest
    rw [List.append_assoc] at hends
    show valueText (text ++ (pad ++ rest)) = (Text.trim text, rest)
    rw [valueText, hends.1, hends.2, Text.trim_append_blanks hpad]
    exact hquote
  | quoted chars behind hwhole =>
    have hpadded : ';' ∉ behind ++ pad :=
      fun hmem => (List.mem_append.1 hmem).elim hwhole hsemicolon
    have hends := takeWhile_entry hpadded hrest
    rw [List.append_assoc] at hends
    show valueText ('"' :: chars.flatMap QuotedChar.text ++ '"' :: behind ++ (pad ++ rest)) = _
    rw [List.append_assoc, List.cons_append, List.cons_append, valueText, quotedText_chars]
    exact congrArg (Prod.mk _) hends.2

theorem isBlank_of_isSeparator {c : Char} (h : isSeparator c = true) (hc : c ≠ ';') :
    Text.isBlank c = true := by
  simp only [isSeparator, Text.isAsciiBlank, Bool.or_eq_true, beq_iff_eq] at h
  rcases h with h | (((rfl | rfl) | rfl) | rfl) | rfl
  · exact absurd h hc
  all_goals decide

/-- The name goes up to the first equals sign. Blanks before it may be passed over as standing
between two entries. -/
theorem namedEntries_named {value : List Char} (hsemicolon : ';' ∉ name) (hequals : '=' ∉ name)
    (h : valueText s = (value, rest)) :
    namedEntries (name ++ '=' :: s) = (Text.trim name, value) :: namedEntries rest := by
  induction name with
  | nil =>
    have hentry : entry ('=' :: s) = (some ([], value), rest) :=
      entry_of_value List.not_mem_nil List.not_mem_nil h
    exact namedEntries_of_entry (by decide) hentry
  | cons c name ih =>
    have hname : ';' ∉ name ∧ '=' ∉ name :=
      ⟨fun hmem => hsemicolon (List.mem_cons_of_mem _ hmem),
        fun hmem => hequals (List.mem_cons_of_mem _ hmem)⟩
    by_cases hc : isSeparator c = true
    · have hblank : Text.isBlank c = true := by
        refine isBlank_of_isSeparator hc ?_
        rintro rfl
        exact hsemicolon List.mem_cons_self
      rw [List.cons_append, namedEntries_separator hc, ih hname.1 hname.2,
        Text.trim_cons_of_blank hblank]
    · exact namedEntries_of_entry (Bool.eq_false_iff.2 hc) (entry_of_value hsemicolon hequals h)

/-- Text without an equals sign is passed over up to the end of the entry. -/
theorem namedEntries_bare {text : List Char} (hsemicolon : ';' ∉ text) (hequals : '=' ∉ text)
    (hrest : EndsEntry rest) : namedEntries (text ++ rest) = namedEntries rest := by
  induction text with
  | nil => rfl
  | cons c text ih =>
    have htext : ';' ∉ text ∧ '=' ∉ text :=
      ⟨fun hmem => hsemicolon (List.mem_cons_of_mem _ hmem),
        fun hmem => hequals (List.mem_cons_of_mem _ hmem)⟩
    by_cases hc : isSeparator c = true
    · rw [List.cons_append, namedEntries_separator hc, ih htext.1 htext.2]
    · have hends := takeWhile_entry hsemicolon hrest
      have hentry : entry (c :: text ++ rest) = (none, rest) := by
        unfold entry
        dsimp only
        rw [hends.1, hends.2, if_neg]
        rw [List.contains_iff_mem]
        exact hequals
      exact namedEntries_of_entry (Bool.eq_false_iff.2 hc) hentry

/-- What is read of an entry, before its name is looked at. -/
def Entry.named? : Entry → Option (List Char × List Char)
  | named name value _ _ => some (Text.trim name, value.value)
  | bare _ _ _ => none

theorem namedEntries_slot (slot : Slot) (hrest : EndsEntry rest) :
    namedEntries (slot.text ++ rest) = slot.entry.named?.toList ++ namedEntries rest := by
  obtain ⟨before, entry, behind, hbefore, hbehind⟩ := slot
  have hsemicolon {pad : List Char} (hpad : ∀ c ∈ pad, Text.isBlank c = true) : ';' ∉ pad :=
    not_mem_of_blank (by decide) hpad
  have hequals {pad : List Char} (hpad : ∀ c ∈ pad, Text.isBlank c = true) : '=' ∉ pad :=
    not_mem_of_blank (by decide) hpad
  cases entry with
  | named name v hwhole hfirst =>
    have hvalue := valueText_text v hbehind hrest
    have hwhole' : ';' ∉ before ++ name :=
      fun hmem => (List.mem_append.1 hmem).elim (hsemicolon hbefore) hwhole
    have hfirst' : '=' ∉ before ++ name :=
      fun hmem => (List.mem_append.1 hmem).elim (hequals hbefore) hfirst
    have hnamed := namedEntries_named hwhole' hfirst' hvalue
    rw [Text.trim_blanks_append hbefore] at hnamed
    show namedEntries (before ++ ((name ++ '=' :: v.text) ++ behind) ++ rest) = _
    simp only [List.append_assoc, List.cons_append] at hnamed ⊢
    exact hnamed
  | bare text hwhole hnameless =>
    have hwhole' : ';' ∉ before ++ (text ++ behind) := by
      simp only [List.mem_append, not_or]
      exact ⟨hsemicolon hbefore, hwhole, hsemicolon hbehind⟩
    have hnameless' : '=' ∉ before ++ (text ++ behind) := by
      simp only [List.mem_append, not_or]
      exact ⟨hequals hbefore, hnameless, hequals hbehind⟩
    exact namedEntries_bare hwhole' hnameless' hrest

/-! ## The whole list -/

theorem namedEntries_listing (slots : List Slot) :
    namedEntries (listing slots) = slots.filterMap (·.entry.named?) := by
  have hcons (slot : Slot) (slots : List Slot) : (slot :: slots).filterMap (·.entry.named?) =
      slot.entry.named?.toList ++ slots.filterMap (·.entry.named?) := by
    rw [List.filterMap_cons]
    cases slot.entry.named? <;> rfl
  unfold listing
  induction slots with
  | nil => exact namedEntries_nil
  | cons slot slots ih =>
    rw [hcons]
    cases slots with
    | nil =>
      have hends : EndsEntry [] := by
        intro c hc
        cases hc
      have hslot := namedEntries_slot slot hends
      rw [List.append_nil, namedEntries_nil] at hslot
      rw [List.map_singleton, List.intercalate_singleton]
      exact hslot
    | cons next slots =>
      -- The semicolon before the next entry is all that this one sees of what follows.
      have hends (s : List Char) : EndsEntry (';' :: s) := fun _ hc => (Option.some.inj hc).symm
      rw [List.map_cons, List.map_cons, List.intercalate_cons_cons, List.append_assoc,
        List.singleton_append, namedEntries_slot slot (hends _), namedEntries_separator (by decide),
        ← List.map_cons, ih]

/-- Of a list of entries, in whatever order, with whatever blanks around them and empty ones between
them, exactly those are read whose name is a token but for blanks around it, each as if the others
did not stand there. -/
theorem readParameters_listing (slots : List Slot) :
    readParameters (listing slots) = slots.filterMap (·.entry.parameter?) := by
  rw [readParameters, namedEntries_listing, List.filterMap_filterMap]
  refine List.filterMap_congr fun slot _ => ?_
  cases slot.entry with
  | named name value _ _ => rfl
  | bare text _ _ => rfl

/-- A blank between a name and its equals sign is no part of the name: with it the name would be no
token, and the parameter is read all the same. -/
theorem readParameters_blank_name :
    let name := ['x', ' ']
    let slot : Slot := ⟨[], .named name (.plain ['1'] (by decide) (by decide)) (by decide)
      (by decide), [], List.forall_mem_nil _, List.forall_mem_nil _⟩
    isToken name = false ∧ readParameters (listing [slot]) = [⟨"x", "1"⟩] := by
  decide +kernel

end Http1Client.MediaType
