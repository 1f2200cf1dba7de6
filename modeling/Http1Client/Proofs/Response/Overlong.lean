import Http1Client.Proofs.Response.Receiving

/-!
# When a line is too long

A line is refused in two places: once its end has been found, for the bytes before it, and
before that for all the bytes at hand. Both come down to `Overlong`, which looks at the bytes
from the start of the line and at nothing else. So whether a line that arrives in pieces is
refused depends on whether the bytes are `Overlong` after one of the pieces
(`feed_tooLong_iff`), and never on what was read before it (`feed_of_comes`).

The second place counts the CR of the end as a byte of the line as long as the LF is missing.
A line of exactly `maxLine` bytes is therefore refused if a piece ends between the two, and a
line is refused in all other cases exactly if it has more bytes (`line_too_long_iff`).
-/

namespace Http1Client

/-- The bytes from the start of a line are refused as too many: those before its end, or all
of them while there is no end. -/
def Overlong (bytes : Bytes) : Prop :=
  match bytes.crlfAt? with
  | some n => maxLine < n
  | none => maxLine < bytes.length

theorem overlong_of_crlfAt? {bytes : Bytes} {n : Nat} (h : bytes.crlfAt? = some n) :
    Overlong bytes ↔ maxLine < n := by
  rw [Overlong, h]

theorem overlong_of_unbroken {bytes : Bytes} (h : bytes.crlfAt? = none) :
    Overlong bytes ↔ maxLine < bytes.length := by
  rw [Overlong, h]

theorem not_overlong_nil : ¬ Overlong [] := Nat.not_lt_zero maxLine

/-- Bytes are refused as too long for a line exactly then, and all of them stay. -/
theorem takeLine_tooLong_iff {kind : LineKind} {bytes left : Bytes} :
    takeLine kind bytes = .bad (.lineTooLong kind) left ↔ Overlong bytes ∧ left = bytes := by
  unfold takeLine Overlong
  cases bytes.crlfAt? with
  | none =>
    dsimp only
    split
    · next hlong => simp [hlong, eq_comm]
    · next hshort => simp [hshort]
  | some n =>
    dsimp only
    split
    · next hlong => simp [hlong, eq_comm]
    · next hshort =>
      split <;> simp [hshort]

/-- While the end of a line is not at hand and the bytes are not too many, a line waits. -/
theorem takeLine_of_unbroken {kind : LineKind} {bytes : Bytes} (h : bytes.crlfAt? = none)
    (hshort : ¬ Overlong bytes) : takeLine kind bytes = .wait := by
  rw [overlong_of_unbroken h] at hshort
  rw [takeLine, h]
  exact if_neg hshort

/-- Bytes behind the end of a line do not make it too long. -/
theorem unbroken_of_overlong_append {bytes more : Bytes} (hshort : ¬ Overlong bytes)
    (h : Overlong (bytes ++ more)) : bytes.crlfAt? = none := by
  cases hend : bytes.crlfAt? with
  | none => rfl
  | some n =>
    rw [overlong_of_crlfAt? hend] at hshort
    exact absurd ((overlong_of_crlfAt? (Bytes.crlfAt?_append hend more)).1 h) hshort

/-! ## The words for it -/

namespace Fault

/-- How the faults start that are not about the length of a line. -/
def otherStarts : List (List Char) := [['i', 'n'], ['m', 'i'], ['c', 'o'], ['r', 'e']]

theorem start_mem_otherStarts {fault : Fault} (h : ∀ kind, fault ≠ .lineTooLong kind) :
    fault.message.toList.take 2 ∈ otherStarts := by
  have hframe {front text back : String} (hfront : 2 ≤ front.toList.length)
      (hstart : front.toList.take 2 ∈ otherStarts) :
      (front ++ text ++ back).toList.take 2 ∈ otherStarts := by
    rw [String.toList_append, String.toList_append, List.append_assoc,
      List.take_append_of_le_length hfront]
    exact hstart
  cases fault with
  | lineTooLong kind => exact absurd rfl (h kind)
  | chunkNotEnded | lengthsDiffer => decide
  | readFailed cause =>
    have hmessage : message (.readFailed cause) = "read failed: " ++ cause ++ "" :=
      String.append_empty.symm
    rw [hmessage]
    exact hframe (by decide) (by decide)
  | _ => exact hframe (by decide) (by decide)

theorem start_lineTooLong (kind : LineKind) :
    (lineTooLong kind).message.toList.take 2 ∉ otherStarts := by
  cases kind <;> decide

theorem message_lineTooLong_inj {a b : LineKind}
    (h : (lineTooLong a).message = (lineTooLong b).message) : a = b := by
  revert h
  cases a <;> cases b <;> decide

/-- No other fault is put in the words for a line that is too long. -/
theorem eq_lineTooLong {fault : Fault} {kind : LineKind}
    (h : fault.toFailure = (lineTooLong kind).toFailure) : fault = .lineTooLong kind := by
  have hmessage : fault.message = (lineTooLong kind).message := Failure.malformed.inj h
  by_cases hline : ∃ line, fault = .lineTooLong line
  · obtain ⟨line, rfl⟩ := hline
    rw [message_lineTooLong_inj hmessage]
  · have hstart := start_mem_otherStarts fun line h => hline ⟨line, h⟩
    rw [hmessage] at hstart
    exact absurd hstart (start_lineTooLong kind)

end Fault

/-! ## Pieces -/

namespace Decoder

variable {σ : Type} {c : Collector σ} {phase start : Phase} {left bytes : Bytes} {s t : σ}
  {pieces later : List Bytes}

/-- The bytes at hand and the pieces behind them are received one after another, up to the
first failure. -/
def feed (c : Collector σ) (phase : Phase) (left : Bytes) (s : σ) : List Bytes → Progress σ
  | [] => receive c phase left s
  | piece :: pieces =>
    match receive c phase left s with
    | ⟨phase, left, s, some failure⟩ => ⟨phase, left, s, some failure⟩
    | ⟨phase, left, s, none⟩ => feed c phase (left ++ piece) s pieces

/-- The decoder comes to a place: a phase, the bytes at hand from there on, the collector's
state and the pieces that are still to come. -/
inductive Comes (c : Collector σ) (phase : Phase) (left : Bytes) (s : σ) (later : List Bytes) :
    Phase → Bytes → σ → List Bytes → Prop
  | here : Comes c phase left s later phase left s later
  | pass {start next : Phase} {bytes rest : Bytes} {t t' : σ} {events : List Event}
    {pieces : List Bytes} (hpass : Decoder.pass start bytes = .go next rest events)
    (hdeliver : c.deliver t events = (t', none))
    (h : Comes c phase left s later next rest t' pieces) :
    Comes c phase left s later start bytes t pieces
  | wait {start : Phase} {bytes piece : Bytes} {t : σ} {pieces : List Bytes}
    (hwait : Decoder.pass start bytes = .wait)
    (h : Comes c phase left s later start (bytes ++ piece) t pieces) :
    Comes c phase left s later start bytes t (piece :: pieces)

theorem feed_of_go {next : Phase} {rest : Bytes} {events : List Event} {t' : σ}
    (hpass : Decoder.pass start bytes = .go next rest events)
    (hdeliver : c.deliver t events = (t', none)) (pieces : List Bytes) :
    feed c start bytes t pieces = feed c next rest t' pieces := by
  have hreceive := receive_of_go hpass hdeliver
  cases pieces with
  | nil => exact hreceive
  | cons => rw [feed, feed, hreceive]

theorem feed_of_wait (h : Decoder.pass start bytes = .wait) (piece : Bytes)
    (pieces : List Bytes) :
    feed c start bytes t (piece :: pieces) = feed c start (bytes ++ piece) t pieces := by
  rw [feed, receive_of_wait h]

/-- What was read before a place does not matter behind it. -/
theorem feed_of_comes (h : Comes c phase left s later start bytes t pieces) :
    feed c start bytes t pieces = feed c phase left s later := by
  induction h with
  | here => rfl
  | pass hpass hdeliver _ ih => rw [feed_of_go hpass hdeliver, ih]
  | wait hwait _ ih => rw [feed_of_wait hwait, ih]

/-- A line is reported as too long: at its place, with all the bytes at hand left. -/
def TooLong (phase : Phase) (left : Bytes) (s : σ) (p : Progress σ) : Prop :=
  p = ⟨phase, left, s, some (Fault.toFailure (.lineTooLong phase.lineKind))⟩

theorem receive_of_overlong (hphase : phase.readsLine = true) (h : Overlong left) :
    TooLong phase left s (receive c phase left s) := by
  have hcut : takeLine phase.lineKind left = .bad (.lineTooLong phase.lineKind) left :=
    takeLine_tooLong_iff.2 ⟨h, rfl⟩
  rw [TooLong, receive_eq, pass_of_stops (.badLine hphase hcut)]

theorem fieldOf_ne_lineTooLong {text : List Char} {kind : LineKind} :
    fieldOf text ≠ .error (.lineTooLong kind) := by
  intro h
  unfold fieldOf at h
  split at h
  · cases h
  · split at h <;> cases h

theorem statusOf_ne_lineTooLong {text : List Char} {kind : LineKind} :
    statusOf text ≠ .error (.lineTooLong kind) := by
  intro h
  unfold statusOf at h
  dsimp only at h
  split at h
  · cases h
  · split at h
    · split at h <;> cases h
    · cases h

/-- A line that was taken is not too long, whatever else is wrong with it. -/
theorem useLine_ne_lineTooLong {text : List Char} {kind : LineKind} :
    phase.useLine text ≠ .error (.lineTooLong kind) := by
  intro h
  cases phase with
  | statusLine =>
    simp only [Phase.useLine, onStatusLine] at h
    split at h
    · cases h
    · split at h
      · next hfault =>
        cases h
        exact statusOf_ne_lineTooLong hfault
      · cases h
  | chunkSize =>
    simp only [Phase.useLine, onSizeLine] at h
    split at h <;> cases h
  | _ =>
    simp only [Phase.useLine, onHeaderLine, onTrailerLine] at h
    split at h
    · cases h
    · split at h
      · next hfault =>
        cases h
        exact fieldOf_ne_lineTooLong hfault
      · cases h

theorem overlong_of_receive (hphase : phase.readsLine = true)
    (h : TooLong phase left s (receive c start bytes t)) : Overlong left := by
  unfold TooLong at h
  fun_induction receive c start bytes t with
  | case1 => cases h
  | case2 start bytes t fault rest hpass =>
    obtain ⟨rfl, rfl, rfl, hfault⟩ := Progress.mk.inj h
    rw [Fault.eq_lineTooLong (Option.some.inj hfault)] at hpass
    cases stops_of_pass hpass with
    | badLine _ hcut =>
      obtain ⟨hlong, rfl⟩ := takeLine_tooLong_iff.1 hcut
      exact hlong
    | badUse _ _ huse => exact absurd huse useLine_ne_lineTooLong
  | case3 start bytes t next rest events hpass t' failure hdeliver =>
    -- Only body bytes are refused, and there are none in a phase that expects a line.
    obtain ⟨rfl, rfl, rfl, -⟩ := Progress.mk.inj h
    obtain ⟨-, data, tail, rfl, -⟩ := deliver_refused hpass hdeliver
    cases goes_of_pass hpass with
    | line _ _ huse => cases uses_of_useLine hphase huse
    | _ => cases hphase
  | case4 start bytes t next rest events hpass t' hdeliver ih => exact ih h

theorem overlong_of_feed (hphase : phase.readsLine = true)
    (h : TooLong phase left s (feed c start bytes t pieces)) : Overlong left := by
  induction pieces generalizing start bytes t with
  | nil => exact overlong_of_receive hphase h
  | cons piece pieces ih =>
    rw [feed] at h
    split at h
    · next hfailed =>
      rw [← hfailed] at h
      exact overlong_of_receive hphase h
    · exact ih h

/-- Bytes that are too many are refused before the next piece. -/
theorem feed_of_overlong (hphase : phase.readsLine = true) (h : Overlong left)
    (pieces : List Bytes) : TooLong phase left s (feed c phase left s pieces) := by
  have hreceive : TooLong phase left s (receive c phase left s) := receive_of_overlong hphase h
  cases pieces with
  | nil => exact hreceive
  | cons =>
    unfold TooLong at hreceive ⊢
    rw [feed, hreceive]

/-- A line that waits takes the next piece along. -/
theorem feed_of_unbroken (hphase : phase.readsLine = true) (hend : left.crlfAt? = none)
    (hshort : ¬ Overlong left) (piece : Bytes) (pieces : List Bytes) :
    feed c phase left s (piece :: pieces) = feed c phase (left ++ piece) s pieces := by
  have hwait : pass phase left = .wait := by
    rw [pass_eq_onLine hphase, takeLine_of_unbroken hend hshort]
    rfl
  exact feed_of_wait hwait piece pieces

/-- A line is reported as too long exactly if the bytes from its start are too many after one of
the pieces. -/
theorem feed_tooLong_iff (hphase : phase.readsLine = true) :
    (∃ front, front <+: pieces ∧
        TooLong phase (left ++ front.flatten) s (feed c phase left s pieces)) ↔
      ∃ front, front <+: pieces ∧ Overlong (left ++ front.flatten) := by
  constructor
  · rintro ⟨front, hfront, h⟩
    exact ⟨front, hfront, overlong_of_feed hphase h⟩
  rintro ⟨front, hfront, hlong⟩
  -- The bytes at hand grow by a piece at a time until they are too many.
  induction front generalizing left pieces with
  | nil =>
    refine ⟨[], hfront, ?_⟩
    rw [List.flatten_nil, List.append_nil] at hlong ⊢
    exact feed_of_overlong hphase hlong pieces
  | cons piece front ih =>
    obtain ⟨others, rfl, hothers⟩ := List.cons_prefix_iff.1 hfront
    by_cases hleft : Overlong left
    · refine ⟨[], List.nil_prefix, ?_⟩
      rw [List.flatten_nil, List.append_nil]
      exact feed_of_overlong hphase hleft _
    · have hend := unbroken_of_overlong_append hleft hlong
      rw [List.flatten_cons, ← List.append_assoc] at hlong
      obtain ⟨found, hfound, htooLong⟩ := ih hothers hlong
      refine ⟨piece :: found, List.cons_prefix_cons.2 ⟨rfl, hfound⟩, ?_⟩
      rw [feed_of_unbroken hphase hend hleft, List.flatten_cons, ← List.append_assoc]
      exact htooLong

end Decoder

/-! ## Lengths -/

section Lengths

variable {line rest front back : Bytes}

theorem crlfAt?_cr (hline : line.crlfAt? = none) : Bytes.crlfAt? (line ++ [Bytes.cr]) = none := by
  cases hend : Bytes.crlfAt? (line ++ [Bytes.cr]) with
  | none => rfl
  | some n =>
    -- With the LF behind it the end would stand behind the line, and there is no room for that.
    have hbound := Bytes.crlfAt?_bound hend
    have hwhole := Bytes.crlfAt?_append hend [Bytes.lf]
    rw [List.append_assoc, show [Bytes.cr] ++ [Bytes.lf] = Bytes.crlf ++ [] from rfl,
      Bytes.crlfAt?_unbroken hline] at hwhole
    rw [List.length_append, List.length_singleton, ← Option.some.inj hwhole] at hbound
    omega

/-- A line of the greatest length is refused with the CR of its end. -/
theorem overlong_cr (hline : line.crlfAt? = none) (hlength : line.length = maxLine) :
    Overlong (line ++ [Bytes.cr]) := by
  rw [overlong_of_unbroken (crlfAt?_cr hline), List.length_append, hlength]
  exact Nat.lt_succ_self maxLine

/-- Bytes from the start of a line are refused only if the line is longer than a line may be, or
as long, with the CR of its end and no more. -/
theorem length_of_overlong (hline : line.crlfAt? = none)
    (hbytes : front ++ back = line ++ (Bytes.crlf ++ rest)) (h : Overlong front) :
    maxLine < line.length ∨ line.length = maxLine ∧ front = line ++ [Bytes.cr] := by
  have hend := Bytes.crlfAt?_unbroken hline rest
  rw [← hbytes] at hend
  cases hfront : front.crlfAt? with
  | some n =>
    rw [Bytes.crlfAt?_append hfront, Option.some.injEq] at hend
    rw [overlong_of_crlfAt? hfront, hend] at h
    exact .inl h
  | none =>
    have hbound := Bytes.crlfAt?_append_none hfront hend
    rw [overlong_of_unbroken hfront] at h
    by_cases hlong : maxLine < line.length
    · exact .inl hlong
    · have hlength : front.length = (line ++ [Bytes.cr]).length := by
        rw [List.length_append, List.length_singleton]
        omega
      have hcr : front ++ back = (line ++ [Bytes.cr]) ++ ([Bytes.lf] ++ rest) := by
        rw [hbytes, List.append_assoc]
        rfl
      exact .inr ⟨by omega, (List.append_inj hcr hlength).1⟩

end Lengths

namespace Decoder

variable {σ : Type} {c : Collector σ} {phase start : Phase} {left bytes line rest : Bytes} {s t : σ}
  {pieces later : List Bytes}

/-- A line, of any kind and at any place, in any pieces, is reported as too long exactly if it
has more bytes before its end than a line may have, or as many and a piece ends between the CR
and the LF of its end. -/
theorem line_too_long_iff (hplace : Comes c phase left s later start bytes t pieces)
    (hphase : phase.readsLine = true) (hline : line.crlfAt? = none)
    (hbytes : left ++ later.flatten = line ++ (Bytes.crlf ++ rest)) :
    (∃ front, front <+: later ∧
        TooLong phase (left ++ front.flatten) s (feed c start bytes t pieces)) ↔
      maxLine < line.length ∨
        line.length = maxLine ∧
          ∃ front, front <+: later ∧ left ++ front.flatten = line ++ [Bytes.cr] := by
  rw [feed_of_comes hplace, feed_tooLong_iff hphase]
  -- What is left is about the bytes alone: the pieces matter by where they end.
  constructor
  · rintro ⟨front, ⟨others, rfl⟩, hlong⟩
    rw [List.flatten_append, ← List.append_assoc] at hbytes
    rcases length_of_overlong hline hbytes hlong with hlength | ⟨hlength, hcr⟩
    · exact .inl hlength
    · exact .inr ⟨hlength, front, List.prefix_append front others, hcr⟩
  · rintro (hlong | ⟨hlength, front, hfront, hcr⟩)
    · refine ⟨later, List.prefix_rfl, ?_⟩
      rw [hbytes, overlong_of_crlfAt? (Bytes.crlfAt?_unbroken hline rest)]
      exact hlong
    · exact ⟨front, hfront, hcr ▸ overlong_cr hline hlength⟩

/-- Whoever takes note of nothing and refuses nothing. -/
def listener : Collector Unit := ⟨fun s _ => s, fun s _ => .ok s⟩

/-- A trailer with one byte too many, behind the last size line and in two pieces. -/
theorem line_too_long_trailer :
    let line : Bytes := List.replicate 8193 97
    let pieces :=
      [Utf8.encode "0" ++ (Bytes.crlf ++ line.take 8000), line.drop 8000 ++ Bytes.crlf]
    ∃ front, front <+: [line.drop 8000 ++ Bytes.crlf] ∧
      TooLong .trailers (line.take 8000 ++ front.flatten) ()
        (feed listener .chunkSize [] () pieces) := by
  intro line pieces
  have hline : line.crlfAt? = none := Bytes.crlfAt?_of_not_mem fun h =>
    absurd (List.eq_of_mem_replicate h) (by decide)
  have hcut : takeLine .chunkSize (Utf8.encode "0" ++ (Bytes.crlf ++ line.take 8000)) =
      .line "0".toList (line.take 8000) := takeLine_line (by decide) (by decide) _
  have hpass : pass .chunkSize ([] ++ (Utf8.encode "0" ++ (Bytes.crlf ++ line.take 8000))) =
      .go .trailers (line.take 8000) [] := pass_of_goes (.line rfl hcut (by decide))
  have hbytes : line.take 8000 ++ [line.drop 8000 ++ Bytes.crlf].flatten =
      line ++ (Bytes.crlf ++ []) := by
    rw [List.append_nil, List.flatten_singleton, ← List.append_assoc, List.take_append_drop]
  refine (line_too_long_iff (.wait rfl (.pass hpass rfl .here)) rfl hline hbytes).2 (.inl ?_)
  rw [List.length_replicate]
  decide

/-- A line of the greatest length that is cut between the CR and the LF of its end is reported
as too long. -/
theorem tooLong_of_cut (hphase : phase.readsLine = true) (hline : line.crlfAt? = none)
    (hlength : line.length = maxLine) :
    TooLong phase (line ++ [Bytes.cr]) s
      (feed c phase [] s [line ++ [Bytes.cr], [Bytes.lf]]) := by
  rw [feed_of_unbroken hphase rfl not_overlong_nil, List.nil_append]
  exact feed_of_overlong hphase (overlong_cr hline hlength) _

/-- In one piece a line of the greatest length is not reported. -/
theorem not_tooLong_of_whole (hphase : phase.readsLine = true) (hline : line.crlfAt? = none)
    (hlength : line.length = maxLine) :
    ¬ ∃ front, front <+: [line ++ Bytes.crlf] ∧
      TooLong phase ([] ++ front.flatten) s (feed c phase [] s [line ++ Bytes.crlf]) := by
  rw [feed_tooLong_iff hphase]
  rintro ⟨front, ⟨others, hfront⟩, hlong⟩
  have hwhole : ([] ++ front.flatten) ++ others.flatten = line ++ (Bytes.crlf ++ []) := by
    rw [List.nil_append, ← List.flatten_append, hfront, List.flatten_singleton, List.append_nil]
  rcases length_of_overlong hline hwhole hlong with hlong | ⟨-, hcut⟩
  · rw [hlength] at hlong
    exact Nat.lt_irrefl _ hlong
  · -- Of one piece there are none of the bytes or all of them.
    rw [List.nil_append] at hcut
    cases front with
    | nil => exact absurd hcut.symm (List.append_ne_nil_of_right_ne_nil line nofun)
    | cons piece front =>
      obtain ⟨rfl, hnil⟩ := List.cons.inj hfront
      rw [(List.append_eq_nil_iff.1 hnil).1, List.flatten_singleton] at hcut
      cases List.append_cancel_left hcut

/-- A status line of exactly the greatest length is reported as too long or not, depending on
the pieces in which it comes. -/
theorem line_too_long_cut :
    let line := Utf8.encode "HTTP/1.1 200 " ++ List.replicate 8179 97
    line.crlfAt? = none ∧ ¬ maxLine < line.length ∧
      TooLong .statusLine (line ++ [Bytes.cr]) ()
        (feed listener .statusLine [] () [line ++ [Bytes.cr], [Bytes.lf]]) ∧
      ¬ ∃ front, front <+: [line ++ Bytes.crlf] ∧
        TooLong .statusLine ([] ++ front.flatten) ()
          (feed listener .statusLine [] () [line ++ Bytes.crlf]) := by
  intro line
  have hcr : Bytes.cr ∉ line := by
    rw [List.mem_append]
    rintro (h | h)
    · exact absurd h (by decide)
    · exact absurd (List.eq_of_mem_replicate h) (by decide)
  have hline : line.crlfAt? = none := Bytes.crlfAt?_of_not_mem hcr
  have hlength : line.length = maxLine := by
    have hstart : (Utf8.encode "HTTP/1.1 200 ").length = 13 := by decide
    rw [List.length_append, List.length_replicate, hstart]
    rfl
  have hshort : ¬ maxLine < line.length := by
    rw [hlength]
    exact Nat.lt_irrefl maxLine
  exact ⟨hline, hshort, tooLong_of_cut rfl hline hlength, not_tooLong_of_whole rfl hline hlength⟩

end Decoder

end Http1Client
