import Http1Client.MediaType.Basic
import Http1Client.Text.Blank
import Http1Client.Token

/-!
# Parameters of a media type

After the type comes a list of entries, `name=value` or `name="quoted"`, each
ended by a semicolon. Reading never fails: an entry without an equals sign, or
whose name is no token, is skipped, and the next one starts after the semicolon
that ends it. A semicolon between quotes ends nothing.

The reader takes one entry at a time and leaves strictly fewer characters, so it
needs no bound.
-/

namespace Http1Client.MediaType

/-- Between two entries: semicolons and ASCII white space. -/
def isSeparator (c : Char) : Bool := c == ';' || Text.isAsciiBlank c

/-- The text from the next semicolon on. -/
def entryRest (s : List Char) : List Char := s.dropWhile (· != ';')

/-- What stands before the closing quote, without the escapes, and what follows
the quote. Without a closing quote all of it is the value; a backslash at the
very end stands for itself. -/
def quotedText : List Char → List Char × List Char
  | [] => ([], [])
  | '"' :: rest => ([], rest)
  | '\\' :: e :: rest => let (value, after) := quotedText rest; (e :: value, after)
  | c :: rest => let (value, after) := quotedText rest; (c :: value, after)

/-- A value and the text from the semicolon after it. What stands between a
closing quote and that semicolon is dropped. -/
def valueText : List Char → List Char × List Char
  | '"' :: rest => let (value, after) := quotedText rest; (value, entryRest after)
  | s => (Text.trim (s.takeWhile (· != ';')), entryRest s)

/-- The entry at the start of the text, if it has a name, and the text from the
semicolon that ends it. -/
def entry (s : List Char) : Option (List Char × List Char) × List Char :=
  let whole := s.takeWhile (· != ';')
  if whole.contains '=' then
    let name := Text.trim (s.takeWhile (· != '='))
    let (value, after) := valueText ((s.dropWhile (· != '=')).drop 1)
    (some (name, value), after)
  else (none, entryRest s)

/-! ## Every entry uses up text -/

theorem length_dropWhile_le {α : Type} (p : α → Bool) (s : List α) :
    (s.dropWhile p).length ≤ s.length :=
  (List.dropWhile_suffix p).length_le

theorem quotedText_length_le (s : List Char) : (quotedText s).2.length ≤ s.length := by
  fun_induction quotedText s with
  | case1 => simp
  | case2 => simp
  | case3 e rest value after h ih => rw [h] at ih; simp only [List.length_cons] at ih ⊢; omega
  | case4 c rest _ _ value after h ih => rw [h] at ih; simp only [List.length_cons] at ih ⊢; omega

theorem entryRest_length_le (s : List Char) : (entryRest s).length ≤ s.length :=
  length_dropWhile_le _ _

theorem valueText_length_le (s : List Char) : (valueText s).2.length ≤ s.length := by
  unfold valueText
  split
  · next rest =>
    have h1 := quotedText_length_le rest
    have h2 := entryRest_length_le (quotedText rest).2
    simp only [List.length_cons]
    omega
  · exact entryRest_length_le _

/-- The rest after an entry that does not start with a semicolon is shorter. -/
theorem entry_length_lt {c : Char} {s : List Char} (h : c ≠ ';') :
    (entry (c :: s)).2.length < (c :: s).length := by
  have hv := valueText_length_le (((c :: s).dropWhile (· != '=')).drop 1)
  have he := length_dropWhile_le (· != '=') (c :: s)
  have hr := length_dropWhile_le (· != ';') s
  simp only [List.length_drop, List.length_cons] at hv he
  by_cases hw : ((c :: s).takeWhile (· != ';')).contains '='
  · simp only [entry, hw, if_true, List.length_cons]
    omega
  · simp only [entry, hw, entryRest, List.dropWhile_cons, bne_iff_ne, ne_eq, h,
      not_false_eq_true, if_true, List.length_cons, Bool.false_eq_true, if_false]
    omega

/-- The first character after the separators is none. -/
theorem head_of_dropWhile_separator {s : List Char} {c : Char} {rest : List Char}
    (h : s.dropWhile isSeparator = c :: rest) : c ≠ ';' := by
  intro hc
  subst hc
  have := List.head?_dropWhile_not isSeparator s
  rw [h] at this
  simp [isSeparator] at this

/-- All entries with a name, in order: trimmed names and values. -/
def namedEntries (s : List Char) : List (List Char × List Char) :=
  match _h : s.dropWhile isSeparator with
  | [] => []
  | c :: rest =>
    (entry (c :: rest)).1.toList ++ namedEntries (entry (c :: rest)).2
  termination_by s.length
  decreasing_by
    have h1 := entry_length_lt (s := rest) (head_of_dropWhile_separator _h)
    have h2 := length_dropWhile_le isSeparator s
    rw [_h] at h2
    omega

/-- The parameters: entries whose name is a token, the name in small letters. -/
def readParameters (s : List Char) : List Parameter :=
  (namedEntries s).filterMap fun (name, value) =>
    if isToken name then some ⟨String.ofList (Text.lower name), String.ofList value⟩
    else none

end Http1Client.MediaType
