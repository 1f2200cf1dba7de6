import Http1Client.Proofs.Response.Decoder
import Http1Client.Proofs.Text.Spelling
import Mathlib.Data.List.Basic

/-!
# The forms of lines

A status line and a field line have a form, which `SaysStatus` and `SaysField` spell out, and a line
of that form says one thing. Lines are read as what they say, and no others are read
(`statusOf_iff`, `fieldOf_iff`).

Three phases expect such lines. A line that says something is used for it (`Says.use`), and a line
that is used is blank or says what is reported of it (`says_of_useLine`). All that is known of how
lines are used in these phases rests on these two.

The code of a status line is read as a numeral, which may have a sign, and then its length and its
range are checked. What passes is three digits: there is no room for a sign (`threeDigits_iff`).
-/

namespace Http1Client

namespace Text

/-! ## Three digits -/

/-- Three digits, of which the first is not zero, and the number that they denote. -/
def ThreeDigits (digits : List Char) (n : Nat) : Prop :=
  ∃ a b c : Char, digits = [a, b, c] ∧
    (a.isDigit = true ∧ b.isDigit = true ∧ c.isDigit = true) ∧ a ≠ '0' ∧
    n = 100 * (a.toNat - 48) + 10 * (b.toNat - 48) + (c.toNat - 48)

/-- Digits of base ten are told by their values. -/
theorem eq_of_digitValue {c d : Char} (hc : isDigit 10 c = true) (hd : isDigit 10 d = true)
    (h : digitValue c = digitValue d) : c = d := by
  have hvalue {e : Char} (he : isDigit 10 e = true) : e.toNat = digitValue e + 48 := by
    have hlt : digitValue e < 10 := of_decide_eq_true he
    unfold digitValue at hlt ⊢
    split at hlt
    · next hrange =>
      have hle : 48 ≤ e.toNat := hrange.1
      rw [if_pos hrange]
      omega
    split at hlt
    · next hrange =>
      have hle : 97 ≤ e.toNat := hrange.1
      omega
    split at hlt
    · next hrange =>
      have hle : 65 ≤ e.toNat := hrange.1
      omega
    · omega
  refine Char.toNat_inj.1 ?_
  rw [hvalue hc, hvalue hd, h]

/-- Two texts of three digits with the same value are the same. -/
theorem eq_of_digitsValue {s t : List Char} (hs : s.length = 3) (ht : t.length = 3)
    (hsdigits : ∀ c ∈ s, isDigit 10 c = true) (htdigits : ∀ c ∈ t, isDigit 10 c = true)
    (h : digitsValue 10 s = digitsValue 10 t) : s = t := by
  obtain ⟨a, b, c, rfl⟩ := List.length_eq_three.1 hs
  obtain ⟨a', b', c', rfl⟩ := List.length_eq_three.1 ht
  simp only [List.forall_mem_cons] at hsdigits htdigits
  obtain ⟨ha, hb, hc, -⟩ := hsdigits
  obtain ⟨ha', hb', hc', -⟩ := htdigits
  have hlt {d : Char} (hd : isDigit 10 d = true) : digitValue d < 10 := of_decide_eq_true hd
  have hvalues : ((0 * 10 + digitValue a) * 10 + digitValue b) * 10 + digitValue c =
      ((0 * 10 + digitValue a') * 10 + digitValue b') * 10 + digitValue c' := h
  have hltb := hlt hb
  have hltb' := hlt hb'
  have hltc := hlt hc
  have hltc' := hlt hc'
  rw [eq_of_digitValue ha ha' (by omega), eq_of_digitValue hb hb' (by omega),
    eq_of_digitValue hc hc' (by omega)]

/-- A numeral of three characters for a number of three digits is the number as it is written:
there is no room for a sign. -/
theorem eq_decimal_of_numeral? {code : List Char} {n bound : Nat}
    (h : numeral? 10 bound code = some n) (hlength : code.length = 3) (hmin : 100 ≤ n)
    (hmax : n ≤ 999) : code = decimal n := by
  obtain ⟨sign, digits, rfl, hsign, -, hdigits, hvalue, -⟩ :=
    (numeral?_eq_some_iff (by omega)).1 h
  rcases hsign with rfl | rfl
  · refine eq_of_digitsValue hlength (length_decimal hmin hmax) hdigits
      (fun c hc => isDigit_decimal hc) ?_
    rw [digitsValue_decimal]
    exact hvalue
  · -- Behind a sign there are two digits, which are too few.
    obtain ⟨a, b, rfl⟩ := List.length_eq_two.1 (Nat.succ.inj hlength)
    simp only [List.forall_mem_cons] at hdigits
    have ha : digitValue a < 10 := of_decide_eq_true hdigits.1
    have hb : digitValue b < 10 := of_decide_eq_true hdigits.2.1
    have hsmall : (0 * 10 + digitValue a) * 10 + digitValue b = n := hvalue
    omega

theorem toNat_of_isDigit {c : Char} (h : c.isDigit = true) : 48 ≤ c.toNat ∧ c.toNat ≤ 57 := by
  simp only [Char.isDigit, Bool.and_eq_true, decide_eq_true_eq] at h
  exact h

theorem digitsValue_three {a b c : Char} (ha : a.isDigit = true) (hb : b.isDigit = true)
    (hc : c.isDigit = true) : digitsValue 10 [a, b, c] =
      100 * (a.toNat - 48) + 10 * (b.toNat - 48) + (c.toNat - 48) := by
  have hvalue : digitsValue 10 [a, b, c] =
      ((0 * 10 + digitValue a) * 10 + digitValue b) * 10 + digitValue c := rfl
  rw [hvalue, (digitValue_of_isDigit ha).1, (digitValue_of_isDigit hb).1,
    (digitValue_of_isDigit hc).1]
  omega

/-- Three characters that read as a number of three digits are these digits. -/
theorem threeDigits_iff {code : List Char} {n : Nat} :
    ThreeDigits code n ↔
      numeral? 10 UInt16.size code = some n ∧ code.length = 3 ∧ 100 ≤ n ∧ n ≤ 999 := by
  constructor
  · rintro ⟨a, b, c, rfl, ⟨ha, hb, hc⟩, hzero, rfl⟩
    have hrange := toNat_of_isDigit ha
    have hrange' := toNat_of_isDigit hb
    have hrange'' := toNat_of_isDigit hc
    have hfirst : a.toNat ≠ 48 := fun h => hzero (Char.toNat_inj.1 h)
    have hdigits : ∀ d ∈ [a, b, c], isDigit 10 d = true := by
      intro d hd
      simp only [List.mem_cons, List.not_mem_nil, or_false] at hd
      rcases hd with rfl | rfl | rfl
      · exact isDigit_of_char ha
      · exact isDigit_of_char hb
      · exact isDigit_of_char hc
    have hbound : digitsValue 10 [a, b, c] < UInt16.size := by
      rw [digitsValue_three ha hb hc, UInt16.size]
      omega
    refine ⟨?_, rfl, by omega, by omega⟩
    rw [numeral?_of_digits (by omega) (List.cons_ne_nil _ _) hdigits hbound,
      digitsValue_three ha hb hc]
  · rintro ⟨hnumeral, hlength, hmin, hmax⟩
    have hdecimal := eq_decimal_of_numeral? hnumeral hlength hmin hmax
    have hdigits : ∀ c ∈ code, c.isDigit = true := by
      intro c hc
      rw [hdecimal] at hc
      exact Nat.isDigit_of_mem_toDigits (by omega) (by omega) hc
    have hvalue : digitsValue 10 code = n := by rw [hdecimal, digitsValue_decimal]
    obtain ⟨a, b, c, rfl⟩ := List.length_eq_three.1 hlength
    simp only [List.forall_mem_cons] at hdigits
    obtain ⟨ha, hb, hc, -⟩ := hdigits
    rw [digitsValue_three ha hb hc] at hvalue
    have hrange' := toNat_of_isDigit hb
    have hrange'' := toNat_of_isDigit hc
    refine ⟨a, b, c, rfl, ⟨ha, hb, hc⟩, ?_, hvalue.symm⟩
    -- A number that starts with zero would have two digits.
    rintro rfl
    have hzero : '0'.toNat = 48 := rfl
    omega

theorem ThreeDigits.eq_decimal {digits : List Char} {n : Nat} (h : ThreeDigits digits n) :
    digits = decimal n := by
  obtain ⟨hnumeral, hlength, hmin, hmax⟩ := threeDigits_iff.1 h
  exact eq_decimal_of_numeral? hnumeral hlength hmin hmax

theorem ThreeDigits.space_not_mem {digits : List Char} {n : Nat} (h : ThreeDigits digits n) :
    ' ' ∉ digits := by
  rw [h.eq_decimal]
  exact not_mem_of_isDigit (fun _ hc => isDigit_decimal hc) (by decide)

theorem ThreeDigits.range {digits : List Char} {n : Nat} (h : ThreeDigits digits n) :
    100 ≤ n ∧ n ≤ 999 := (threeDigits_iff.1 h).2.2

/-- Numbers from 100 to 999 are written in this way. -/
theorem threeDigits_decimal {n : Nat} (h : 100 ≤ n ∧ n ≤ 999) : ThreeDigits (decimal n) n := by
  have hlt : n < UInt16.size := Nat.lt_of_le_of_lt h.2 (by decide)
  exact threeDigits_iff.2 ⟨numeral?_decimal hlt, length_decimal h.1 h.2, h⟩

end Text

/-! ## What a line says -/

/-- A status line, and the code and the reason that it says. Its first part, up to the first space,
begins with the mark of the version; the second, up to the next space or the end, is a number of
three digits; the rest is the reason, with blanks around it. -/
inductive SaysStatus : List Char → Nat → List Char → Prop
  | bare {version digits : List Char} {code : Nat} (hmark : versionMark <+: version)
    (hversion : ' ' ∉ version) (hcode : Text.ThreeDigits digits code) :
    SaysStatus (version ++ ' ' :: digits) code []
  | reason {version digits : List Char} {code : Nat} (hmark : versionMark <+: version)
    (hversion : ' ' ∉ version) (hcode : Text.ThreeDigits digits code) (rest : List Char) :
    SaysStatus (version ++ ' ' :: (digits ++ ' ' :: rest)) code (Text.trim rest)

/-- A field line, and the name and the value that it says. The name is all that stands before the
first colon, for there is none in a token; the rest is the value, with blanks around it. -/
inductive SaysField : List Char → List Char → List Char → Prop
  | mk {name : List Char} (htoken : isToken name = true) (rest : List Char) :
    SaysField (name ++ ':' :: rest) name (Text.trim rest)

/-! ## Reading -/

/-- A status line is read as what it says, and nothing else is read. -/
theorem statusOf_iff {line reason : List Char} {code : Nat} :
    statusOf line = .ok (code, reason) ↔ SaysStatus line code reason := by
  constructor
  · intro h
    unfold statusOf at h
    dsimp only at h
    generalize hcut : Text.cutAt ' ' line = front at h
    obtain ⟨version, rest⟩ := front
    generalize hcut' : Text.cutAt ' ' (rest.getD []) = back at h
    obtain ⟨digits, tail⟩ := back
    dsimp only at h hcut'
    split at h
    · cases h
    next hmark =>
    split at h
    · next n hnumeral =>
      by_cases hcode : digits.length = 3 ∧ 100 ≤ n ∧ n ≤ 999
      · rw [if_pos hcode] at h
        cases h
        have hdigits := Text.threeDigits_iff.2 ⟨hnumeral, hcode⟩
        have hprefix : versionMark <+: version := by
          rw [← List.isPrefixOf_iff_prefix]
          simpa using hmark
        cases rest with
        | none =>
          -- Without a space there would be no digits.
          cases hcut'
          cases hcode.1
        | some rest =>
          rw [Text.eq_of_cutAt hcut]
          have hversion := Text.not_mem_of_cutAt hcut
          cases tail with
          | none =>
            rw [Option.getD_some] at hcut'
            rw [Text.eq_of_cutAt_none hcut']
            exact .bare hprefix hversion hdigits
          | some tail =>
            rw [Option.getD_some] at hcut'
            rw [Text.eq_of_cutAt hcut']
            exact .reason hprefix hversion hdigits tail
      · rw [if_neg hcode] at h
        cases h
    · cases h
  · intro h
    cases h with
    | @bare version digits _ hmark hversion hcode =>
      obtain ⟨hnumeral, hrange⟩ := Text.threeDigits_iff.1 hcode
      have hprefix : versionMark.isPrefixOf version = true := List.isPrefixOf_iff_prefix.2 hmark
      have hcut := Text.cutAt_append hversion digits
      have hcut' := Text.cutAt_of_not_mem hcode.space_not_mem
      simp only [statusOf, hcut, hcut', hprefix, hnumeral, if_pos hrange, Option.getD_some,
        Bool.not_true, Bool.false_eq_true, if_false]
      rfl
    | @reason version digits _ hmark hversion hcode rest =>
      obtain ⟨hnumeral, hrange⟩ := Text.threeDigits_iff.1 hcode
      have hprefix : versionMark.isPrefixOf version = true := List.isPrefixOf_iff_prefix.2 hmark
      have hcut := Text.cutAt_append hversion (digits ++ ' ' :: rest)
      have hcut' := Text.cutAt_append hcode.space_not_mem rest
      simp only [statusOf, hcut, hcut', hprefix, hnumeral, if_pos hrange, Option.getD_some,
        Bool.not_true, Bool.false_eq_true, if_false]

theorem colon_not_mem_of_isToken {name : List Char} (h : isToken name = true) : ':' ∉ name :=
  not_mem_of_isToken h rfl

/-- A field line is read as what it says, and nothing else is read. -/
theorem fieldOf_iff {line name value : List Char} :
    fieldOf line = .ok (name, value) ↔ SaysField line name value := by
  constructor
  · intro h
    unfold fieldOf at h
    split at h
    · cases h
    · next front rest hcut =>
      by_cases htoken : isToken front = true
      · rw [if_pos htoken] at h
        cases h
        rw [Text.eq_of_cutAt hcut]
        exact .mk htoken rest
      · rw [if_neg htoken] at h
        cases h
  · intro h
    obtain ⟨htoken, rest⟩ := h
    simp only [fieldOf, Text.cutAt_append (colon_not_mem_of_isToken htoken), if_pos htoken]

/-! ## What lines do not say -/

theorem SaysStatus.ne_nil {line reason : List Char} {code : Nat} (h : SaysStatus line code reason) :
    line ≠ [] := by
  cases h <;> exact List.append_ne_nil_of_right_ne_nil _ (List.cons_ne_nil _ _)

theorem SaysField.ne_nil {line name value : List Char} (h : SaysField line name value) :
    line ≠ [] := by
  cases h
  exact List.append_ne_nil_of_right_ne_nil _ (List.cons_ne_nil _ _)

/-- A character that is none of a token's does not stand before the colon: a blank there, at the
start of a line that continues another one or behind the name, makes the line say nothing. -/
theorem not_saysField_of_char {front rest name value : List Char} {c : Char}
    (hfront : ':' ∉ front) (hcolon : c ≠ ':') (hc : isTokenChar c = false) :
    ¬ SaysField (front ++ c :: rest) name value := by
  intro h
  generalize hline : front ++ c :: rest = line at h
  obtain ⟨htoken, tail⟩ := h
  rcases List.append_eq_append_iff.1 hline with ⟨between, rfl, hrest⟩ | ⟨between, rfl, hrest⟩
  · -- The colon stands behind the character, which is in the name then.
    cases between with
    | nil => exact hcolon (List.cons.inj hrest).1
    | cons d between =>
      obtain ⟨rfl, -⟩ := List.cons.inj hrest
      exact not_mem_of_isToken htoken hc (List.mem_append_right _ List.mem_cons_self)
  · cases between with
    | nil => exact hcolon (List.cons.inj hrest).1.symm
    | cons d between =>
      obtain ⟨rfl, -⟩ := List.cons.inj hrest
      exact hfront (List.mem_append_right _ List.mem_cons_self)

/-- Nor does a code start with anything but a digit, such as a sign. -/
theorem not_saysStatus_of_char {version rest reason : List Char} {c : Char} {code : Nat}
    (hversion : ' ' ∉ version) (hc : c.isDigit = false) :
    ¬ SaysStatus (version ++ ' ' :: c :: rest) code reason := by
  intro h
  have hcut := Text.cutAt_append hversion (c :: rest)
  have hdigits {digits tail : List Char} (hcode : Text.ThreeDigits digits code)
      (hrest : digits ++ tail = c :: rest) : False := by
    obtain ⟨d, _, _, rfl, ⟨hd, -⟩, -⟩ := hcode
    obtain ⟨rfl, -⟩ := List.cons.inj hrest
    rw [hd] at hc
    cases hc
  generalize hline : version ++ ' ' :: c :: rest = line at h hcut
  cases h with
  | bare _ hversion' hcode =>
    rw [Text.cutAt_append hversion'] at hcut
    cases hcut
    exact hdigits hcode (List.append_nil _)
  | reason _ hversion' hcode tail =>
    rw [Text.cutAt_append hversion'] at hcut
    obtain ⟨-, hrest⟩ := Prod.mk.inj hcut
    exact hdigits hcode (Option.some.inj hrest)

/-! ## Lines that a phase expects -/

/-- What a line says in a phase that expects one, if it says anything. -/
inductive Says : Phase → String → Event → Prop
  | status {line : String} {code : Nat} {reason : List Char}
    (h : SaysStatus line.toList code reason) :
    Says .statusLine line (.status code (String.ofList reason))
  | header {line : String} {name value : List Char} (h : SaysField line.toList name value) :
    Says .headers line (.header (String.ofList name) (String.ofList value))
  | trailer {line : String} {name value : List Char} (h : SaysField line.toList name value) :
    Says .trailers line (.trailer (String.ofList name) (String.ofList value))

/-- The event is said by a line. -/
def Event.isSaid : Event → Bool
  | .status .. | .header .. | .trailer .. => true
  | _ => false

/-- The phase expects a line that says something. -/
def Phase.listens : Phase → Bool
  | .statusLine | .headers | .trailers => true
  | _ => false

/-- Where a phase goes with a line that has said something. -/
def Phase.heard : Phase → Phase
  | .statusLine => .headers
  | phase => phase

theorem Phase.readsLine_of_listens {phase : Phase} (h : phase.listens = true) :
    phase.readsLine = true := by
  cases phase with
  | statusLine | headers | trailers => rfl
  | _ => cases h

namespace Says

variable {phase : Phase} {line : String} {event : Event}

theorem listens (h : Says phase line event) : phase.listens = true := by
  cases h <;> rfl

theorem isSaid (h : Says phase line event) : event.isSaid = true := by
  cases h <;> rfl

theorem ne_nil (h : Says phase line event) : line.toList ≠ [] := by
  cases h with
  | status h => exact h.ne_nil
  | header h => exact h.ne_nil
  | trailer h => exact h.ne_nil

/-- A line is used for what it says. -/
theorem use (h : Says phase line event) :
    phase.useLine line.toList = .ok (phase.heard, [event]) := by
  have hne : line.toList.isEmpty = false := List.isEmpty_eq_false_iff.2 h.ne_nil
  cases h with
  | status h =>
    show Decoder.onStatusLine line.toList = _
    rw [Decoder.onStatusLine, hne, statusOf_iff.2 h]
    rfl
  | header h =>
    show Decoder.onHeaderLine line.toList = _
    rw [Decoder.onHeaderLine, hne, fieldOf_iff.2 h]
    rfl
  | trailer h =>
    show Decoder.onTrailerLine line.toList = _
    rw [Decoder.onTrailerLine, hne, fieldOf_iff.2 h]
    rfl

end Says

/-- A line that is used is blank, or it is used for what it says. -/
theorem says_of_useLine {phase next : Phase} {line : String} {events : List Event}
    (hphase : phase.listens = true) (huse : phase.useLine line.toList = .ok (next, events)) :
    line = "" ∨ ∃ event, Says phase line event ∧ next = phase.heard ∧ events = [event] := by
  by_cases hempty : line.toList.isEmpty = true
  · exact .inl (String.toList_eq_nil_iff.1 (List.isEmpty_iff.1 hempty))
  right
  cases phase with
  | statusLine =>
    simp only [Phase.useLine, Decoder.onStatusLine, if_neg hempty] at huse
    split at huse
    · cases huse
    · next hread =>
      cases huse
      exact ⟨_, .status (statusOf_iff.1 hread), rfl, rfl⟩
  | headers =>
    simp only [Phase.useLine, Decoder.onHeaderLine, if_neg hempty] at huse
    split at huse
    · cases huse
    · next hread =>
      cases huse
      exact ⟨_, .header (fieldOf_iff.1 hread), rfl, rfl⟩
  | trailers =>
    simp only [Phase.useLine, Decoder.onTrailerLine, if_neg hempty] at huse
    split at huse
    · cases huse
    · next hread =>
      cases huse
      exact ⟨_, .trailer (fieldOf_iff.1 hread), rfl, rfl⟩
  | _ => cases hphase

end Http1Client
