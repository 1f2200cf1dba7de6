import Http1Client.MediaType.Reader
import Http1Client.Proofs.Text.Octets

/-!
# A reader of media types by positions

A media type may be read by positions in its bytes: one position goes along the list of parameters,
byte by byte, and names and values are cut out of the text between two of them. Each step then
rests on something that might fail: a byte is there, an end lies behind its start, a cut falls
between two characters, and a pass over an entry leaves the position further on. `parseAt` reads in
this way and checks all of it.

Inside a quoted value the position goes along bytes and not along characters. A backslash takes the
next byte along, which may be the first of several (`takeQuoted_escape`); the position then stands
inside a character, until the other bytes have been taken one by one (`takeQuoted_run`).
-/

namespace Http1Client.MediaType

open Utf8 (Misstep asChar byteAt part textPart)

/-! ## The reader -/

/-- The position behind the bytes that pass the test. -/
def skipWhile (test : Char → Bool) (bytes : Bytes) (pos : Nat) : Except Misstep Nat :=
  if pos < bytes.length then do
    let octet ← byteAt bytes pos
    if test (asChar octet) then skipWhile test bytes (pos + 1) else pure pos
  else pure pos
  termination_by bytes.length - pos

/-- The position at which the entry ends. -/
def entryEnd (bytes : Bytes) (pos : Nat) : Except Misstep Nat := do
  let ahead ← part bytes pos bytes.length
  match ahead.findIdx? (fun b => asChar b == ';') with
  | some i => pure (pos + i)
  | none => pure bytes.length

/-- The bytes up to the closing quote, without the escapes, behind those taken before; and the
position behind the quote. -/
def takeQuoted (bytes : Bytes) (pos : Nat) (taken : Bytes) : Except Misstep (Bytes × Nat) :=
  if pos < bytes.length then do
    let octet ← byteAt bytes pos
    if asChar octet = '\\' ∧ pos + 1 < bytes.length then
      let next ← byteAt bytes (pos + 1)
      takeQuoted bytes (pos + 2) (taken ++ [next])
    else if asChar octet = '"' then pure (taken, pos + 1)
    else takeQuoted bytes (pos + 1) (taken ++ [octet])
  else pure (taken, pos)
  termination_by bytes.length - pos

/-- A value as it was taken out of the bytes. -/
inductive Taken
  | plain (text : String)
  | quoted (taken : Bytes)
  deriving DecidableEq

/-- The text of the value. Bytes that were no text would be replaced. -/
def Taken.text : Taken → String
  | plain text => text
  | quoted taken => Utf8.decodeLossy taken

/-- Whether a quote stands at a position. -/
def quoteAt (bytes : Bytes) (pos : Nat) : Except Misstep Bool :=
  if pos < bytes.length then do
    let octet ← byteAt bytes pos
    pure (asChar octet == '"')
  else pure false

/-- The value at a position, and the position at which its entry ends. -/
def valueAt (bytes : Bytes) (pos : Nat) : Except Misstep (Taken × Nat) := do
  if ← quoteAt bytes pos then
    let (taken, behind) ← takeQuoted bytes (pos + 1) []
    let stop ← skipWhile (· != ';') bytes behind
    pure (.quoted taken, stop)
  else
    let stop ← entryEnd bytes pos
    let text ← textPart bytes pos stop
    pure (.plain (String.ofList (Text.trim text.toList)), stop)

/-- An entry with a name. -/
structure Found where
  name : String
  value : Taken
  deriving DecidableEq

/-- The entry at a position, if it has a name, and the position at which it ends. -/
def entryAt (bytes : Bytes) (start : Nat) : Except Misstep (Option Found × Nat) := do
  let stop ← entryEnd bytes start
  let whole ← part bytes start stop
  match whole.findIdx? (fun b => asChar b == '=') with
  | none => pure (none, stop)
  | some i =>
    let name ← textPart bytes start (start + i)
    let (value, next) ← valueAt bytes (start + i + 1)
    pure (some ⟨String.ofList (Text.trim name.toList), value⟩, next)

/-- One pass: over what stands between entries and over one entry. -/
def pass (bytes : Bytes) (pos : Nat) : Except Misstep (Option Found × Nat) := do
  let start ← skipWhile isSeparator bytes pos
  if bytes.length ≤ start then pure (none, start) else entryAt bytes start

/-- Passes until the end. -/
def passes (bytes : Bytes) (pos : Nat) : Except Misstep (List Found) :=
  if pos < bytes.length then do
    let (found, next) ← pass bytes pos
    if pos < next then
      let later ← passes bytes next
      pure (found.toList ++ later)
    else .error (.standstill pos)
  else pure []
  termination_by bytes.length - pos

/-- The parameter, if the name is a token. -/
def Found.parameter? (f : Found) : Option Parameter :=
  if isToken f.name.toList then some ⟨String.ofList (Text.lower f.name.toList), f.value.text⟩
  else none

/-- The parameters. -/
def parametersAt (params : String) : Except Misstep (List Parameter) := do
  let found ← passes (Utf8.encode params) 0
  pure (found.filterMap Found.parameter?)

/-- Cuts a text at the first byte that is the mark. -/
def cutTextAt (mark : Char) (text : String) : Except Misstep (String × Option String) :=
  let bytes := Utf8.encode text
  match bytes.findIdx? (fun b => asChar b == mark) with
  | some i => do
    let front ← textPart bytes 0 i
    let behind ← textPart bytes (i + 1) bytes.length
    pure (front, some behind)
  | none => pure (text, none)

/-- The media type of which these are the names and the parameters. -/
def typeAt (whole params : String) : Except Misstep (Option MediaType) := do
  match ← cutTextAt '/' whole with
  | (_, none) => pure none
  | (left, some right) =>
    let primary := Text.trim left.toList
    let sub := Text.trim right.toList
    if isToken primary && isToken sub then
      let parameters ← parametersAt params
      pure (some ⟨String.ofList (Text.lower primary), String.ofList (Text.lower sub), parameters⟩)
    else pure none

/-- The media type. -/
def parseAt (text : String) : Except Misstep (Option MediaType) := do
  let value := String.ofList (Text.trim text.toList)
  match ← cutTextAt ';' value with
  | (whole, some params) => typeAt (String.ofList (Text.trim whole.toList)) params
  | (whole, none) => typeAt whole ""

variable {bytes behind : Bytes} {octet : UInt8} {pos : Nat}

theorem ok_bind {α β : Type} (a : α) (f : α → Except Misstep β) :
    (Except.ok a >>= f) = f a := rfl

/-! ## Loops over bytes -/

theorem skipWhile_eq (test : Char → Bool) (bytes : Bytes) (pos : Nat) : skipWhile test bytes pos =
    .ok (pos + ((bytes.drop pos).takeWhile fun b => test (asChar b)).length) := by
  -- Along the bytes that are ahead of the position.
  induction hdrop : bytes.drop pos generalizing pos with
  | nil =>
    rw [skipWhile, if_neg (Nat.not_lt.2 (List.drop_eq_nil_iff.1 hdrop))]
    rfl
  | cons octet behind ih =>
    obtain ⟨hlt, hoctet, hbehind⟩ := Utf8.byteAt_of_drop hdrop
    rw [skipWhile, if_pos hlt, hoctet, ok_bind, List.takeWhile_cons]
    by_cases hpass : test (asChar octet) = true
    · rw [if_pos hpass, if_pos hpass, ih (pos + 1) hbehind, List.length_cons]
      exact congrArg Except.ok (by omega)
    · rw [if_neg hpass, if_neg hpass]
      rfl

/-! One lemma for each way in which bytes are taken. -/

theorem takeQuoted_end (hdrop : bytes.drop pos = []) (taken : Bytes) :
    takeQuoted bytes pos taken = .ok (taken, pos) := by
  rw [takeQuoted, if_neg (Nat.not_lt.2 (List.drop_eq_nil_iff.1 hdrop))]
  rfl

theorem takeQuoted_quote (hdrop : bytes.drop pos = octet :: behind) (hquote : asChar octet = '"')
    (taken : Bytes) : takeQuoted bytes pos taken = .ok (taken, pos + 1) := by
  obtain ⟨hlt, hoctet, -⟩ := Utf8.byteAt_of_drop hdrop
  have hbackslash : ¬ (asChar octet = '\\' ∧ pos + 1 < bytes.length) := by
    rw [hquote]
    exact fun h => absurd h.1 (by decide)
  rw [takeQuoted, if_pos hlt, hoctet, ok_bind, if_neg hbackslash, if_pos hquote]
  rfl

theorem takeQuoted_escape {next : UInt8} (hdrop : bytes.drop pos = octet :: next :: behind)
    (hbackslash : asChar octet = '\\') (taken : Bytes) :
    takeQuoted bytes pos taken = takeQuoted bytes (pos + 2) (taken ++ [next]) := by
  obtain ⟨hlt, hoctet, hnext⟩ := Utf8.byteAt_of_drop hdrop
  obtain ⟨hlt', hoctet', -⟩ := Utf8.byteAt_of_drop hnext
  rw [takeQuoted, if_pos hlt, hoctet, ok_bind, if_pos ⟨hbackslash, hlt'⟩, hoctet', ok_bind]

/-- A byte that is no mark, or a backslash that is the last byte. -/
theorem takeQuoted_plain (hdrop : bytes.drop pos = octet :: behind)
    (hbackslash : asChar octet = '\\' → behind = []) (hquote : asChar octet ≠ '"')
    (taken : Bytes) :
    takeQuoted bytes pos taken = takeQuoted bytes (pos + 1) (taken ++ [octet]) := by
  obtain ⟨hlt, hoctet, hnext⟩ := Utf8.byteAt_of_drop hdrop
  have hescape : ¬ (asChar octet = '\\' ∧ pos + 1 < bytes.length) := by
    rintro ⟨hmark, hlt'⟩
    rw [hbackslash hmark, List.drop_eq_nil_iff] at hnext
    exact absurd hlt' (Nat.not_lt.2 hnext)
  rw [takeQuoted, if_pos hlt, hoctet, ok_bind, if_neg hescape, if_neg hquote]

/-- Bytes that are no marks are taken one by one, whether a character begins with them or not. -/
theorem takeQuoted_run {run : Bytes} (hdrop : bytes.drop pos = run ++ behind)
    (hrun : ∀ octet ∈ run, asChar octet ≠ '\\' ∧ asChar octet ≠ '"') (taken : Bytes) :
    takeQuoted bytes pos taken = takeQuoted bytes (pos + run.length) (taken ++ run) := by
  induction run generalizing pos taken with
  | nil => rw [List.append_nil, List.length_nil, Nat.add_zero]
  | cons octet run ih =>
    obtain ⟨hbackslash, hquote⟩ := hrun octet List.mem_cons_self
    have hrest := ih (Utf8.byteAt_of_drop hdrop).2.2
      (fun o ho => hrun o (List.mem_cons_of_mem _ ho)) (taken ++ [octet])
    rw [takeQuoted_plain hdrop (fun hmark => absurd hmark hbackslash) hquote, hrest,
      List.append_assoc, List.singleton_append, List.length_cons, Nat.add_assoc, Nat.add_comm 1]

end Http1Client.MediaType
