import Http1Client.Proofs.Response.Forms
import Http1Client.Proofs.Response.Overlong
import Http1Client.Proofs.Response.Session
import Http1Client.Request.Wire

/-!
# What each line of a response says

A status line, a header and a trailer say something if they have the form of one (`Says`). A decoder
reports what the lines say that it expects, and it takes no other line for one of them (`says_iff`):
a line that says nothing is a fault, in whatever pieces it arrives (`feed_of_silent`).

`Spells` reads events off a stream: each of them is said by a line, and the lines stand in the
stream one behind the other in the order of the events, each from where a line can start. Every
pass keeps that the bytes used so far spell what has been reported of lines (`spelled_pass`), so
every operation does and every run (`Session.spelled_run`).
-/

namespace Http1Client

namespace Decoder

variable {phase next : Phase} {line : String} {event : Event} {bytes left front : Bytes}
  {events log : List Event} {fault : Fault}

/-! ## Lines in a pass -/

/-- What a line says is what the phase makes of it. -/
theorem says_iff (hphase : phase.listens = true) :
    Says phase line event ↔
      event.isSaid = true ∧ ∃ next, phase.useLine line.toList = .ok (next, [event]) := by
  constructor
  · exact fun h => ⟨h.isSaid, phase.heard, h.use⟩
  · rintro ⟨hsaid, next, huse⟩
    rcases says_of_useLine hphase huse with rfl | ⟨_, htold, -, hevents⟩
    · -- A blank line may be an event, which ends the response, but it says nothing.
      cases phase with
      | statusLine | headers => cases huse
      | trailers =>
        cases huse
        cases hsaid
      | _ => cases hphase
    · cases hevents
      exact htold

/-- What is reported of a line is what it says, and nothing is reported but of that line. -/
theorem says_of_use (hphase : phase.readsLine = true)
    (huse : phase.useLine line.toList = .ok (next, events)) :
    events.filter Event.isSaid = [] ∨ ∃ event, events = [event] ∧ Says phase line event := by
  have htold {event : Event} (hlistens : phase.listens = true) (hsaid : event.isSaid = true)
      (hevents : events = [event]) : ∃ event, events = [event] ∧ Says phase line event :=
    ⟨event, hevents, (says_iff hlistens).2 ⟨hsaid, next, hevents ▸ huse⟩⟩
  cases uses_of_useLine hphase huse with
  | status | header | trailer => exact .inr (htold rfl rfl rfl)
  | _ => exact .inl rfl

/-- A line that is not blank and says nothing is a fault. -/
theorem fault_of_silent (hphase : phase.listens = true) (hne : line ≠ "")
    (hsilent : ∀ event, ¬ Says phase line event) :
    ∃ fault, phase.useLine line.toList = .error fault := by
  cases huse : phase.useLine line.toList with
  | error fault => exact ⟨fault, rfl⟩
  | ok used =>
    rcases says_of_useLine hphase huse with hblank | ⟨event, htold, -⟩
    · exact absurd hblank hne
    · exact absurd htold (hsilent event)

/-- A pass over a line that is whole does with it what the phase makes of it. -/
theorem pass_line (hphase : phase.readsLine = true) (hline : OneLine line) (rest : Bytes) :
    pass phase (Request.line line ++ rest) =
      match phase.useLine line.toList with
      | .error fault => .stop fault rest
      | .ok (next, events) => .go next rest events := by
  rw [pass_eq_onLine hphase, Request.line, List.append_assoc, hline.takeLine rest]
  rfl

/-- A pass over a line reports what the line says. -/
theorem says_iff_pass (hphase : phase.listens = true) (hline : OneLine line) (rest : Bytes) :
    Says phase line event ↔
      event.isSaid = true ∧
        ∃ next, pass phase (Request.line line ++ rest) = .go next rest [event] := by
  rw [says_iff hphase, pass_line (Phase.readsLine_of_listens hphase) hline]
  refine and_congr_right fun _ => exists_congr fun next => ?_
  constructor
  · intro huse
    rw [huse]
  · intro hpass
    split at hpass
    · cases hpass
    · next huse =>
      cases hpass
      exact huse

end Decoder

/-! ## Lines in a stream -/

/-- A line can start behind these bytes: there are none, or they end with the end of a line. -/
def LineStarts (front : Bytes) : Prop := front = [] ∨ Bytes.crlf <:+ front

/-- The bytes hold lines that say the events, one behind the other and each from where a line can
start. There may be other bytes between them. -/
inductive Spells : Bytes → List Event → Prop
  | nothing : Spells [] []
  | skip {front : Bytes} {events : List Event} (h : Spells front events) (gap : Bytes) :
    Spells (front ++ gap) events
  | line {front : Bytes} {events : List Event} {phase : Phase} {line : String} {event : Event}
    (h : Spells front events) (hstarts : LineStarts front) (hline : OneLine line)
    (htold : Says phase line event) : Spells (front ++ Request.line line) (events ++ [event])

theorem lineStarts_line (front : Bytes) (line : Bytes) :
    LineStarts (front ++ (line ++ Bytes.crlf)) :=
  .inr (List.append_assoc front line Bytes.crlf ▸ List.suffix_append _ _)

/-- The bytes used so far spell what has been reported of lines, and where a line is expected that
says something they have come to its start. -/
structure Spelled (phase : Phase) (front : Bytes) (log : List Event) : Prop where
  spells : Spells front (log.filter Event.isSaid)
  starts : phase.listens = true → LineStarts front

namespace Decoder

variable {σ : Type} {phase next : Phase} {bytes left front : Bytes} {events log : List Event}
  {fault : Fault}

/-- A pass that goes on has used up what it reports. -/
theorem spelled_pass (h : Spelled phase front log)
    (hpass : pass phase bytes = .go next left events) :
    ∃ used, bytes = used ++ left ∧ Spelled next (front ++ used) (log ++ events) := by
  have hskip (hnext : next.listens = false) (hevents : events.filter Event.isSaid = []) :
      ∃ used, bytes = used ++ left ∧ Spelled next (front ++ used) (log ++ events) := by
    obtain ⟨used, rfl⟩ := pass_go_suffix hpass
    refine ⟨used, rfl, ?_, fun hlistens => absurd hlistens (hnext ▸ Bool.false_ne_true)⟩
    rw [List.filter_append, hevents, List.append_nil]
    exact h.spells.skip used
  cases goes_of_pass hpass with
  | line hphase hcut huse =>
    obtain ⟨line, rfl, hline, rfl⟩ := exists_of_takeLine hcut
    refine ⟨Request.line line, (List.append_assoc ..).symm, ?_, fun _ => lineStarts_line _ _⟩
    rw [List.filter_append]
    rcases says_of_use hphase huse with hnone | ⟨event, rfl, htold⟩
    · rw [hnone, List.append_nil]
      exact h.spells.skip _
    · rw [List.filter_singleton, htold.isSaid]
      exact h.spells.line (h.starts htold.listens) hline htold
  | sizedEnd => exact hskip rfl rfl
  | sizedPart => exact hskip rfl rfl
  | untilClose => exact hskip rfl rfl
  | chunkDataEnd => exact hskip rfl rfl
  | chunkDataPart => exact hskip rfl rfl
  | chunkEnd => exact hskip rfl rfl

/-- A pass that stops has used up nothing, or a line. -/
theorem spelled_stop (h : Spelled phase front log) (hpass : pass phase bytes = .stop fault left) :
    ∃ used, bytes = used ++ left ∧ Spelled phase (front ++ used) log := by
  have hnothing : Spelled phase (front ++ []) log := (List.append_nil front).symm ▸ h
  have hskip (line : Bytes) : Spelled phase (front ++ (line ++ Bytes.crlf)) log :=
    ⟨h.spells.skip _, fun _ => lineStarts_line _ _⟩
  cases stops_of_pass hpass with
  | badLine _ hcut =>
    rcases takeLine_bad_split hcut with rfl | ⟨line, rfl⟩
    · exact ⟨[], rfl, hnothing⟩
    · exact ⟨line ++ Bytes.crlf, (List.append_assoc ..).symm, hskip line⟩
  | badUse _ hcut _ =>
    obtain ⟨line, -, -, rfl⟩ := exists_of_takeLine hcut
    exact ⟨Request.line line, (List.append_assoc ..).symm, hskip _⟩
  | chunkEnd => exact ⟨[], rfl, hnothing⟩

/-- Body bytes are not refused where a line is expected. -/
theorem listens_of_body {data : Bytes} {tail : List Event}
    (hpass : pass phase bytes = .go next left (.body data :: tail)) : phase.listens = false := by
  cases goes_of_pass hpass with
  | line hphase _ huse => cases uses_of_useLine hphase huse
  | _ => rfl

/-- Receiving has used up what it reports, whether it fails or not. -/
theorem spelled_receive (c : Collector σ) (bytes : Bytes) (t : σ × List Event)
    (h : Spelled phase front t.2) :
    let p := receive c.logged phase bytes t
    ∃ used, bytes = used ++ p.left ∧ Spelled p.phase (front ++ used) p.state.2 := by
  fun_induction receive c.logged phase bytes t generalizing front with
  | case1 phase bytes t =>
    exact ⟨[], rfl, (List.append_nil front).symm ▸ h⟩
  | case2 phase bytes t fault left hpass => exact spelled_stop h hpass
  | case3 phase bytes t next left events hpass t' failure hdeliver =>
    obtain ⟨rfl, data, tail, rfl, -⟩ := deliver_refused hpass hdeliver
    obtain ⟨used, rfl⟩ := pass_go_suffix hpass
    have hlistens := listens_of_body hpass
    exact ⟨used, rfl, h.spells.skip used, fun htrue => absurd htrue (hlistens ▸ Bool.false_ne_true)⟩
  | case4 phase bytes t next left events hpass t' hdeliver ih =>
    have hlog := (deliver_logged c t events).2
    rw [hdeliver] at hlog
    have hlog : t'.2 = t.2 ++ events := hlog rfl
    obtain ⟨used, rfl, hnext⟩ := spelled_pass h hpass
    rw [← hlog] at hnext
    obtain ⟨used', hleft, hlast⟩ := ih hnext
    rw [List.append_assoc] at hlast
    refine ⟨used ++ used', ?_, hlast⟩
    rw [List.append_assoc, ← hleft]

/-- The choice of a framing leads to no line that says something. -/
theorem spelled_frame (h : Spelled phase front log) (framing : Framing) :
    Spelled (frame phase framing).1 front (log ++ (frame phase framing).2) := by
  by_cases hphase : phase = .headersDone
  · have hevents : (frame phase framing).2.filter Event.isSaid = [] := by
      subst hphase
      cases framing with
      | sized n => cases n <;> rfl
      | _ => rfl
    have hlistens : (frame phase framing).1.listens = false := by
      subst hphase
      cases framing with
      | sized n => cases n <;> rfl
      | _ => rfl
    refine ⟨?_, fun htrue => absurd htrue (hlistens ▸ Bool.false_ne_true)⟩
    rw [List.filter_append, hevents, List.append_nil]
    exact h.spells
  · rw [frame_of_ne hphase, List.append_nil]
    exact h

theorem spelled_finish (h : Spelled phase front log) (hfinish : finish phase = .ok (next, events)) :
    Spelled next front (log ++ events) := by
  cases phase with
  | complete =>
    cases hfinish
    rw [List.append_nil]
    exact h
  | untilClose =>
    cases hfinish
    refine ⟨?_, nofun⟩
    rw [List.filter_append]
    exact (List.append_nil _).symm ▸ h.spells
  | _ => cases hfinish

end Decoder

namespace Session

variable {s : Session} {front : Bytes}

/-- An operation takes bytes from the front of those at hand. Only a new start leaves the used
ones behind, with what they said. -/
theorem spelled_apply (before : Bytes) (h : Spelled s.phase front s.log) (op : Operation) :
    ∃ before' front', before ++ (front ++ s.left) ++ op.data =
        before' ++ (front' ++ (s.apply op).1.left) ∧
      (op ≠ .reset → before' = before) ∧
      Spelled (s.apply op).1.phase front' (s.apply op).1.log := by
  cases op with
  | feed data l =>
    obtain ⟨used, hbytes, hspelled⟩ :=
      Decoder.spelled_receive l.collector (s.left ++ data) (l.state, s.log) h
    refine ⟨before, front ++ used, ?_, fun _ => rfl, hspelled⟩
    calc before ++ (front ++ s.left) ++ data
      _ = before ++ (front ++ (s.left ++ data)) := by simp only [List.append_assoc]
      _ = before ++ (front ++ (used ++ (s.apply (.feed data l)).1.left)) := by
        rw [hbytes]
        rfl
      _ = before ++ (front ++ used ++ (s.apply (.feed data l)).1.left) := by
        rw [List.append_assoc front]
  | frame framing =>
    exact ⟨before, front, List.append_nil _, fun _ => rfl, Decoder.spelled_frame h framing⟩
  | finish =>
    refine ⟨before, front, ?_, fun _ => rfl, ?_⟩
    · simp only [Operation.data, apply, List.append_nil]
      split <;> rfl
    · simp only [apply]
      split
      · next hfinish => exact Decoder.spelled_finish h hfinish
      · exact h
  | reset =>
    refine ⟨before ++ front, [], ?_, fun hop => absurd rfl hop, .nothing, fun _ => .inl rfl⟩
    simp only [Operation.data, apply, List.append_nil, List.append_assoc, List.nil_append]

theorem spelled_run (before : Bytes) (h : Spelled s.phase front s.log) (ops : List Operation) :
    ∃ before' front', before ++ (front ++ s.left) ++ ops.flatMap Operation.data =
        before' ++ (front' ++ (s.run ops).left) ∧
      (.reset ∉ ops → before' = before) ∧ Spelled (s.run ops).phase front' (s.run ops).log := by
  induction ops generalizing s before front with
  | nil => exact ⟨before, front, List.append_nil _, fun _ => rfl, h⟩
  | cons op ops ih =>
    obtain ⟨middle, front', hbytes, hmiddle, hop⟩ := spelled_apply before h op
    obtain ⟨last, front'', hbytes', hlast, hops⟩ := ih middle hop
    refine ⟨last, front'', ?_, ?_, hops⟩
    · rw [List.flatMap_cons, ← List.append_assoc, hbytes]
      exact hbytes'
    · intro hreset
      obtain ⟨hne, hmore⟩ := not_or.1 (mt List.mem_cons.2 hreset)
      rw [hlast hmore, hmiddle fun hop => hne hop.symm]

end Session

/-! ## Lines that say nothing -/

namespace Decoder

variable {σ : Type} {c : Collector σ} {phase : Phase} {line : String} {left rest : Bytes} {s : σ}
  {later : List Bytes}

theorem feed_of_stop {fault : Fault} (h : pass phase left = .stop fault rest)
    (pieces : List Bytes) :
    feed c phase left s pieces = ⟨phase, rest, s, some fault.toFailure⟩ := by
  have hreceive : receive c phase left s = ⟨phase, rest, s, some fault.toFailure⟩ := by
    rw [receive_eq, h]
  cases pieces with
  | nil => exact hreceive
  | cons => rw [feed, hreceive]

/-- The line is used up as soon as its end is among the bytes at hand. -/
theorem stop_of_silent {n : Nat} {more : Bytes} (hphase : phase.listens = true)
    (hline : OneLine line) (hne : line ≠ "") (hsilent : ∀ event, ¬ Says phase line event)
    (hbytes : left ++ more = Request.line line ++ rest) (hend : left.crlfAt? = some n) :
    ∃ fault rest', pass phase left = .stop fault rest' := by
  obtain ⟨front, rest', rfl, -, hfront⟩ := Bytes.crlfFrom?_split hend
  rw [Request.line, List.append_assoc, List.append_assoc, List.append_assoc] at hbytes
  -- There is no other end of line before it.
  have hlength := Bytes.crlfAt?_unbroken hfront (rest' ++ more)
  rw [hbytes, hline.crlfAt?, Option.some.injEq] at hlength
  obtain ⟨rfl, -⟩ := List.append_inj hbytes hlength.symm
  obtain ⟨fault, huse⟩ := fault_of_silent hphase hne hsilent
  have hpass := pass_line (Phase.readsLine_of_listens hphase) hline rest'
  rw [huse, Request.line, List.append_assoc] at hpass
  exact ⟨fault, rest', hpass⟩

/-- Where a line is expected that says something, one that says nothing is a fault, in whatever
pieces it comes. Nothing has been told of it, and the decoder stays where it was. -/
theorem feed_of_silent (hphase : phase.listens = true) (hline : OneLine line) (hne : line ≠ "")
    (hsilent : ∀ event, ¬ Says phase line event)
    (hbytes : left ++ later.flatten = Request.line line ++ rest) :
    ∃ bytes message, feed c phase left s later = ⟨phase, bytes, s, some (.malformed message)⟩ := by
  have hreads := Phase.readsLine_of_listens hphase
  -- The bytes at hand grow by a piece at a time until the line is there, or they are too many.
  induction later generalizing left with
  | nil =>
    have hend : left.crlfAt? = some (Utf8.encode line).length := by
      rw [List.flatten_nil, List.append_nil] at hbytes
      rw [hbytes, Request.line, List.append_assoc, hline.crlfAt?]
    obtain ⟨fault, rest', hpass⟩ := stop_of_silent hphase hline hne hsilent hbytes hend
    exact ⟨rest', fault.message, feed_of_stop hpass []⟩
  | cons piece later ih =>
    cases hend : left.crlfAt? with
    | some n =>
      obtain ⟨fault, rest', hpass⟩ := stop_of_silent hphase hline hne hsilent hbytes hend
      exact ⟨rest', fault.message, feed_of_stop hpass _⟩
    | none =>
      by_cases hlong : Overlong left
      · exact ⟨left, _, feed_of_overlong hreads hlong _⟩
      · rw [feed_of_unbroken hreads hend hlong]
        rw [List.flatten_cons, ← List.append_assoc] at hbytes
        exact ih hbytes

/-- However a decoder is used, the bytes that it has used up since the last start spell what it
has reported of lines. Where a line is expected that says something, it reports what the line says.
It fails on any other line that is not blank, in whatever pieces the line comes, and has told
nothing of it. Among these are field lines with a blank before the colon, and status lines with a
sign before the code. -/
theorem reports_what_lines_say :
    (∀ ops : List Operation, ∃ before front,
      ops.flatMap Operation.data = before ++ (front ++ (Session.start.run ops).left) ∧
        (.reset ∉ ops → before = []) ∧
        Spells front ((Session.start.run ops).log.filter Event.isSaid)) ∧
    (∀ {phase : Phase} {line : String} (rest : Bytes), phase.listens = true → OneLine line →
      (∀ event, Says phase line event ↔
        event.isSaid = true ∧
          ∃ next, pass phase (Request.line line ++ rest) = .go next rest [event]) ∧
      (line ≠ "" → (∀ event, ¬ Says phase line event) →
        ∀ {σ : Type} {c : Collector σ} {start : Phase} {bytes left : Bytes} {s t : σ}
          {pieces later : List Bytes}, Comes c phase left s later start bytes t pieces →
          left ++ later.flatten = Request.line line ++ rest →
          ∃ bytes' message,
            feed c start bytes t pieces = ⟨phase, bytes', s, some (.malformed message)⟩)) ∧
    (∀ {front rest name value : List Char} {c : Char}, ':' ∉ front → c ≠ ':' →
      isTokenChar c = false → ¬ SaysField (front ++ c :: rest) name value) ∧
    (∀ {version rest reason : List Char} {c : Char} {code : Nat}, ' ' ∉ version →
      c.isDigit = false → ¬ SaysStatus (version ++ ' ' :: c :: rest) code reason) := by
  refine ⟨fun ops => ?_, fun rest hphase hline => ⟨fun event => ?_, ?_⟩,
    not_saysField_of_char, not_saysStatus_of_char⟩
  · have hstart : Spelled Session.start.phase [] Session.start.log :=
      ⟨.nothing, fun _ => .inl rfl⟩
    obtain ⟨before, front, hbytes, hreset, hspelled⟩ := Session.spelled_run [] hstart ops
    exact ⟨before, front, hbytes, hreset, hspelled.spells⟩
  · exact says_iff_pass hphase hline rest
  · intro hne hsilent σ c start bytes left s t pieces later hplace hbytes
    rw [feed_of_comes hplace]
    exact feed_of_silent hphase hline hne hsilent hbytes

/-- A header with a blank before the colon, cut in two at that place, behind a status line. -/
theorem reports_what_lines_say_blank :
    let status := "HTTP/1.1 200 OK"
    let pieces := [Request.line status ++ Utf8.encode "X ", Utf8.encode ": 1" ++ Bytes.crlf]
    Says .statusLine status (.status 200 "OK") ∧ (∀ event, ¬ Says .headers "X : 1" event) ∧
      ∃ bytes message, feed listener .statusLine [] () pieces =
        ⟨.headers, bytes, (), some (.malformed message)⟩ := by
  intro status pieces
  have hpass (rest : Bytes) : pass .statusLine (Request.line status ++ rest) =
      .go .headers rest [.status 200 "OK"] := by
    have huse : Phase.statusLine.useLine status.toList = .ok (.headers, [.status 200 "OK"]) := by
      decide
    rw [pass_line rfl (by decide), huse]
  have hsilent : ∀ event, ¬ Says .headers "X : 1" event := by
    intro event htold
    cases htold with
    | header hfield =>
      have hline : "X : 1".toList = ['X'] ++ ' ' :: [':', ' ', '1'] := by decide
      rw [hline] at hfield
      exact reports_what_lines_say.2.2.1 (by decide) (by decide) rfl hfield
  have hbytes : Utf8.encode "X " ++ [Utf8.encode ": 1" ++ Bytes.crlf].flatten =
      Request.line "X : 1" ++ [] := by decide
  refine ⟨?_, hsilent, ?_⟩
  · exact ((reports_what_lines_say.2.1 [] rfl (by decide)).1 _).2 ⟨rfl, .headers, hpass []⟩
  · exact (reports_what_lines_say.2.1 [] rfl (by decide)).2 (by decide) hsilent
      (.wait rfl (.pass (hpass _) rfl .here)) hbytes

end Decoder

end Http1Client
