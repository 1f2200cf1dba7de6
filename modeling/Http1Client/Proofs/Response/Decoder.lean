import Http1Client.Proofs.Response.Line
import Http1Client.Response.Progress

/-!
# What a pass does

`Uses`, `Goes` and `Stops` say once in how many ways a line can be used, and a pass can go on
or stop, and with what (`uses_of_useLine`, `goes_of_pass`, `stops_of_pass`). All else about
passes is derived from them.

A pass that goes on does the same with more bytes behind (`pass_append_go`). There is
one exception, which is why a body may reach its collector in other pieces: a pass that
takes all the bytes of a body takes the bytes behind them too, which else are left for
the next pass. `pass_append_stop` says the same of faults, and `pass_cut` takes bytes
away that a pass has left over.
-/

namespace Http1Client

namespace Phase

/-- The phase expects a line. -/
def readsLine : Phase → Bool
  | .statusLine | .headers | .chunkSize | .trailers => true
  | _ => false

/-- The kind of line that a phase expects, if it expects one. -/
def lineKind : Phase → LineKind
  | .statusLine => .status
  | .headers => .header
  | .chunkSize => .chunkSize
  | _ => .trailer

/-- What a phase that expects a line does with it. -/
def useLine : Phase → List Char → Except Fault (Phase × List Event)
  | .statusLine => Decoder.onStatusLine
  | .headers => Decoder.onHeaderLine
  | .chunkSize => Decoder.onSizeLine
  | _ => Decoder.onTrailerLine

end Phase

namespace Decoder

variable {phase next : Phase} {bytes left more : Bytes} {events : List Event} {fault : Fault}

/-- In a phase that expects a line, a pass takes a line and uses it. -/
theorem pass_eq_onLine (h : phase.readsLine = true) (bytes : Bytes) :
    pass phase bytes = onLine (takeLine phase.lineKind bytes) phase.useLine := by
  cases bytes with
  | nil => rfl
  | cons b bytes =>
    cases phase with
    | statusLine => rfl
    | headers => rfl
    | chunkSize => rfl
    | trailers => rfl
    | _ => cases h

/-! ## The ways of using a line -/

/-- The ways in which a phase that expects a line uses one: the next phase and what is
reported. -/
inductive Uses : Phase → Phase → List Event → Prop
  /-- A blank line before the status line. -/
  | blank : Uses .statusLine .statusLine []
  | status (code : Nat) (reason : String) : Uses .statusLine .headers [.status code reason]
  | header (f : Field) : Uses .headers .headers [.header f.name f.value]
  | headEnd : Uses .headers .headersDone []
  | size {n : Nat} (hn : n ≠ 0) : Uses .chunkSize (.chunkData n) []
  /-- A chunk of no bytes is the last one. -/
  | lastSize : Uses .chunkSize .trailers []
  | trailer (f : Field) : Uses .trailers .trailers [.trailer f.name f.value]
  | trailersEnd : Uses .trailers .complete [.complete]

/-- A line is used in one of the ways listed. -/
theorem uses_of_useLine {text : List Char} (hphase : phase.readsLine = true)
    (h : phase.useLine text = .ok (next, events)) : Uses phase next events := by
  cases phase with
  | statusLine =>
    simp only [Phase.useLine, onStatusLine] at h
    split at h
    · cases h
      exact .blank
    · split at h
      · cases h
      · cases h
        exact .status _ _
  | headers =>
    simp only [Phase.useLine, onHeaderLine] at h
    split at h
    · cases h
      exact .headEnd
    · split at h
      · cases h
      · next name value _ =>
        cases h
        exact .header ⟨String.ofList name, String.ofList value⟩
  | chunkSize =>
    simp only [Phase.useLine, onSizeLine] at h
    split at h
    · cases h
    · cases h
      exact .lastSize
    · next n hn _ =>
      cases h
      exact .size hn
  | trailers =>
    simp only [Phase.useLine, onTrailerLine] at h
    split at h
    · cases h
      exact .trailersEnd
    · split at h
      · cases h
      · next name value _ =>
        cases h
        exact .trailer ⟨String.ofList name, String.ofList value⟩
  | _ => cases hphase

/-! ## The ways of a pass -/

theorem pass_headersDone (bytes : Bytes) : pass .headersDone bytes = .wait := by
  cases bytes <;> rfl

theorem pass_complete (bytes : Bytes) : pass .complete bytes = .wait := by
  cases bytes <;> rfl

theorem pass_sized {n : Nat} (h : bytes ≠ []) :
    pass (.sized n) bytes =
      if n - (bytes.take n).length = 0 then
        .go .complete (bytes.drop n) [.body (bytes.take n), .complete]
      else .go (.sized (n - (bytes.take n).length)) (bytes.drop n) [.body (bytes.take n)] := by
  cases bytes with
  | nil => exact absurd rfl h
  | cons => rfl

theorem pass_chunkData {n : Nat} (h : bytes ≠ []) :
    pass (.chunkData n) bytes =
      .go (if n - (bytes.take n).length = 0 then .chunkEnd
        else .chunkData (n - (bytes.take n).length)) (bytes.drop n) [.body (bytes.take n)] := by
  cases bytes with
  | nil => exact absurd rfl h
  | cons => rfl

theorem pass_chunkEnd (bytes : Bytes) :
    pass .chunkEnd bytes =
      if bytes.length < 2 then .wait
      else if bytes.take 2 = Bytes.crlf then .go .chunkSize (bytes.drop 2) []
      else .stop .chunkNotEnded bytes := by
  cases bytes <;> rfl

/-- The ways in which a pass goes on, from a phase and bytes to a phase, the bytes left and
what is reported. -/
inductive Goes : Phase → Bytes → Phase → Bytes → List Event → Prop
  /-- A line is used. -/
  | line {phase next : Phase} {bytes left : Bytes} {text : List Char} {events : List Event}
    (hphase : phase.readsLine = true) (hcut : takeLine phase.lineKind bytes = .line text left)
    (huse : phase.useLine text = .ok (next, events)) : Goes phase bytes next left events
  /-- All that was to come of a body is there. -/
  | sizedEnd {n : Nat} {bytes : Bytes} (hne : bytes ≠ []) (hn : n ≤ bytes.length) :
    Goes (.sized n) bytes .complete (bytes.drop n) [.body (bytes.take n), .complete]
  /-- A part of it is there. -/
  | sizedPart {n : Nat} {bytes : Bytes} (hne : bytes ≠ []) (hn : bytes.length < n) :
    Goes (.sized n) bytes (.sized (n - bytes.length)) [] [.body bytes]
  | untilClose {bytes : Bytes} (hne : bytes ≠ []) :
    Goes .untilClose bytes .untilClose [] [.body bytes]
  /-- All that was to come of a chunk is there. -/
  | chunkDataEnd {n : Nat} {bytes : Bytes} (hne : bytes ≠ []) (hn : n ≤ bytes.length) :
    Goes (.chunkData n) bytes .chunkEnd (bytes.drop n) [.body (bytes.take n)]
  /-- A part of it is there. -/
  | chunkDataPart {n : Nat} {bytes : Bytes} (hne : bytes ≠ []) (hn : bytes.length < n) :
    Goes (.chunkData n) bytes (.chunkData (n - bytes.length)) [] [.body bytes]
  | chunkEnd (left : Bytes) : Goes .chunkEnd (Bytes.crlf ++ left) .chunkSize left []

/-- The ways in which a pass stops, with a fault and the bytes left. -/
inductive Stops : Phase → Bytes → Fault → Bytes → Prop
  | badLine {phase : Phase} {bytes left : Bytes} {fault : Fault} (hphase : phase.readsLine = true)
    (hcut : takeLine phase.lineKind bytes = .bad fault left) : Stops phase bytes fault left
  | badUse {phase : Phase} {bytes left : Bytes} {text : List Char} {fault : Fault}
    (hphase : phase.readsLine = true) (hcut : takeLine phase.lineKind bytes = .line text left)
    (huse : phase.useLine text = .error fault) : Stops phase bytes fault left
  | chunkEnd {bytes : Bytes} (hlength : 2 ≤ bytes.length) (hcrlf : bytes.take 2 ≠ Bytes.crlf) :
    Stops .chunkEnd bytes .chunkNotEnded bytes

theorem goes_of_pass (h : pass phase bytes = .go next left events) :
    Goes phase bytes next left events := by
  have hne : bytes ≠ [] := by
    rintro rfl
    cases h
  by_cases hphase : phase.readsLine = true
  · rw [pass_eq_onLine hphase] at h
    cases hcut : takeLine phase.lineKind bytes with
    | wait => rw [hcut] at h; cases h
    | bad => rw [hcut] at h; cases h
    | line text rest =>
      rw [hcut] at h
      simp only [onLine] at h
      split at h
      · cases h
      · next huse =>
        cases h
        exact .line hphase hcut huse
  cases phase with
  | headersDone => rw [pass_headersDone] at h; cases h
  | complete => rw [pass_complete] at h; cases h
  | untilClose =>
    cases bytes with
    | nil => exact absurd rfl hne
    | cons b bytes =>
      cases h
      exact .untilClose hne
  | chunkEnd =>
    rw [pass_chunkEnd] at h
    split at h
    · cases h
    split at h
    · next hcrlf =>
      cases h
      obtain ⟨rest, rfl⟩ : ∃ rest, bytes = Bytes.crlf ++ rest :=
        ⟨bytes.drop 2, by rw [← hcrlf, List.take_append_drop]⟩
      exact .chunkEnd rest
    · cases h
  | sized n =>
    rw [pass_sized hne] at h
    rcases Nat.lt_or_ge bytes.length n with hn | hn
    · rw [List.take_of_length_le (Nat.le_of_lt hn), List.drop_eq_nil_of_le (Nat.le_of_lt hn),
        if_neg (by omega)] at h
      cases h
      exact .sizedPart hne hn
    · rw [if_pos (by rw [List.length_take]; omega)] at h
      cases h
      exact .sizedEnd hne hn
  | chunkData n =>
    rw [pass_chunkData hne] at h
    rcases Nat.lt_or_ge bytes.length n with hn | hn
    · rw [List.take_of_length_le (Nat.le_of_lt hn), List.drop_eq_nil_of_le (Nat.le_of_lt hn),
        if_neg (by omega)] at h
      cases h
      exact .chunkDataPart hne hn
    · rw [if_pos (by rw [List.length_take]; omega)] at h
      cases h
      exact .chunkDataEnd hne hn
  | _ => exact absurd rfl hphase

theorem pass_of_goes (h : Goes phase bytes next left events) :
    pass phase bytes = .go next left events := by
  cases h with
  | line hphase hcut huse =>
    rw [pass_eq_onLine hphase, hcut]
    simp only [onLine, huse]
  | sizedEnd hne hn => rw [pass_sized hne, if_pos (by rw [List.length_take]; omega)]
  | sizedPart hne hn =>
    rw [pass_sized hne, List.take_of_length_le (Nat.le_of_lt hn),
      List.drop_eq_nil_of_le (Nat.le_of_lt hn), if_neg (by omega)]
  | untilClose hne =>
    cases bytes with
    | nil => exact absurd rfl hne
    | cons => rfl
  | chunkDataEnd hne hn => rw [pass_chunkData hne, if_pos (by rw [List.length_take]; omega)]
  | chunkDataPart hne hn =>
    rw [pass_chunkData hne, List.take_of_length_le (Nat.le_of_lt hn),
      List.drop_eq_nil_of_le (Nat.le_of_lt hn), if_neg (by omega)]
  | chunkEnd left => rfl

theorem stops_of_pass (h : pass phase bytes = .stop fault left) : Stops phase bytes fault left := by
  by_cases hphase : phase.readsLine = true
  · rw [pass_eq_onLine hphase] at h
    cases hcut : takeLine phase.lineKind bytes with
    | wait => rw [hcut] at h; cases h
    | bad fault' rest =>
      rw [hcut] at h
      cases h
      exact .badLine hphase hcut
    | line text rest =>
      rw [hcut] at h
      simp only [onLine] at h
      split at h
      · next huse =>
        cases h
        exact .badUse hphase hcut huse
      · cases h
  have hne : bytes ≠ [] := by
    rintro rfl
    cases h
  cases phase with
  | headersDone => rw [pass_headersDone] at h; cases h
  | complete => rw [pass_complete] at h; cases h
  | untilClose =>
    cases bytes with
    | nil => exact absurd rfl hne
    | cons => cases h
  | chunkEnd =>
    rw [pass_chunkEnd] at h
    split at h
    · cases h
    split at h
    · cases h
    · next hlength hcrlf =>
      cases h
      exact .chunkEnd (by omega) hcrlf
  | sized n =>
    rw [pass_sized hne] at h
    split at h <;> cases h
  | chunkData n => rw [pass_chunkData hne] at h; cases h
  | _ => exact absurd rfl hphase

theorem pass_of_stops (h : Stops phase bytes fault left) :
    pass phase bytes = .stop fault left := by
  cases h with
  | badLine hphase hcut =>
    rw [pass_eq_onLine hphase, hcut]
    rfl
  | badUse hphase hcut huse =>
    rw [pass_eq_onLine hphase, hcut]
    simp only [onLine, huse]
  | chunkEnd hlength hcrlf => rw [pass_chunkEnd, if_neg (by omega), if_neg hcrlf]

/-! ## What follows the bytes -/

/-- The bytes are all body and so are the first ones behind them: a pass over both takes
the latter along, which else are left for the next pass. -/
def TakesAlong (phase next : Phase) (bytes more : Bytes) : Prop :=
  next.readsLine = false ∧ ∃ last rest data tail,
    pass next more = .go last rest (.body data :: tail) ∧
      pass phase (bytes ++ more) = .go last rest (.body (bytes ++ data) :: tail)

/-- What a stretch of `n` takes of bytes that do not fill it, and of those behind them. -/
theorem take_append_of_lt {n : Nat} (hn : bytes.length < n) (more : Bytes) :
    (bytes ++ more).take n = bytes ++ more.take (n - bytes.length) ∧
      (bytes ++ more).drop n = more.drop (n - bytes.length) := by
  rw [List.take_append, List.take_of_length_le (Nat.le_of_lt hn), List.drop_append,
    List.drop_eq_nil_of_le (Nat.le_of_lt hn), List.nil_append]
  exact ⟨rfl, rfl⟩

theorem takesAlong_sized {n : Nat} (hn : bytes.length < n) (hbytes : bytes ≠ [])
    (hmore : more ≠ []) : TakesAlong (.sized n) (.sized (n - bytes.length)) bytes more := by
  obtain ⟨htake, hdrop⟩ := take_append_of_lt hn more
  have happ : bytes ++ more ≠ [] := List.append_ne_nil_of_left_ne_nil hbytes _
  have hlength : (bytes ++ more).length = bytes.length + more.length := List.length_append
  refine ⟨rfl, ?_⟩
  rcases Nat.lt_or_ge more.length (n - bytes.length) with hlt | hge
  · have hwhole := Goes.sizedPart happ (show (bytes ++ more).length < n by omega)
    rw [hlength, ← Nat.sub_sub] at hwhole
    exact ⟨_, _, _, _, pass_of_goes (.sizedPart hmore hlt), pass_of_goes hwhole⟩
  · have hwhole := Goes.sizedEnd happ (show n ≤ (bytes ++ more).length by omega)
    rw [htake, hdrop] at hwhole
    exact ⟨_, _, _, _, pass_of_goes (.sizedEnd hmore hge), pass_of_goes hwhole⟩

theorem takesAlong_chunkData {n : Nat} (hn : bytes.length < n) (hbytes : bytes ≠ [])
    (hmore : more ≠ []) :
    TakesAlong (.chunkData n) (.chunkData (n - bytes.length)) bytes more := by
  obtain ⟨htake, hdrop⟩ := take_append_of_lt hn more
  have happ : bytes ++ more ≠ [] := List.append_ne_nil_of_left_ne_nil hbytes _
  have hlength : (bytes ++ more).length = bytes.length + more.length := List.length_append
  refine ⟨rfl, ?_⟩
  rcases Nat.lt_or_ge more.length (n - bytes.length) with hlt | hge
  · have hwhole := Goes.chunkDataPart happ (show (bytes ++ more).length < n by omega)
    rw [hlength, ← Nat.sub_sub] at hwhole
    exact ⟨_, _, _, _, pass_of_goes (.chunkDataPart hmore hlt), pass_of_goes hwhole⟩
  · have hwhole := Goes.chunkDataEnd happ (show n ≤ (bytes ++ more).length by omega)
    rw [htake, hdrop] at hwhole
    exact ⟨_, _, _, _, pass_of_goes (.chunkDataEnd hmore hge), pass_of_goes hwhole⟩

theorem takesAlong_untilClose (hbytes : bytes ≠ []) (hmore : more ≠ []) :
    TakesAlong .untilClose .untilClose bytes more :=
  ⟨rfl, _, _, _, _, pass_of_goes (.untilClose hmore),
    pass_of_goes (.untilClose (List.append_ne_nil_of_left_ne_nil hbytes _))⟩

/-- A pass that goes on does the same with bytes behind, or it takes them along. -/
theorem pass_append_go (h : pass phase bytes = .go next left events) (more : Bytes) :
    pass phase (bytes ++ more) = .go next (left ++ more) events ∨
      left = [] ∧ events = [.body bytes] ∧ TakesAlong phase next bytes more := by
  by_cases hmore : more = []
  · subst hmore
    rw [List.append_nil, List.append_nil]
    exact .inl h
  cases goes_of_pass h with
  | line hphase hcut huse =>
    exact .inl (pass_of_goes (.line hphase (takeLine_append hcut more) huse))
  | sizedEnd hne hn =>
    have hlength : (bytes ++ more).length = bytes.length + more.length := List.length_append
    have hwhole := Goes.sizedEnd (List.append_ne_nil_of_left_ne_nil hne more) (Nat.le_trans hn
      (hlength ▸ Nat.le_add_right _ _))
    rw [List.take_append_of_le_length hn, List.drop_append_of_le_length hn] at hwhole
    exact .inl (pass_of_goes hwhole)
  | sizedPart hne hn => exact .inr ⟨rfl, rfl, takesAlong_sized hn hne hmore⟩
  | untilClose hne => exact .inr ⟨rfl, rfl, takesAlong_untilClose hne hmore⟩
  | chunkDataEnd hne hn =>
    have hlength : (bytes ++ more).length = bytes.length + more.length := List.length_append
    have hwhole := Goes.chunkDataEnd (List.append_ne_nil_of_left_ne_nil hne more) (Nat.le_trans hn
      (hlength ▸ Nat.le_add_right _ _))
    rw [List.take_append_of_le_length hn, List.drop_append_of_le_length hn] at hwhole
    exact .inl (pass_of_goes hwhole)
  | chunkDataPart hne hn => exact .inr ⟨rfl, rfl, takesAlong_chunkData hn hne hmore⟩
  | chunkEnd left =>
    rw [List.append_assoc]
    exact .inl (pass_of_goes (.chunkEnd (left ++ more)))

/-- A pass that stops stops with bytes behind too, unless they bring the end of a line
that is as long as a line may be. -/
theorem pass_append_stop (h : pass phase bytes = .stop fault left)
    (hedge : phase.readsLine = true → (bytes ++ more).crlfAt? ≠ some maxLine) :
    pass phase (bytes ++ more) = .stop fault (left ++ more) := by
  cases stops_of_pass h with
  | badLine hphase hcut =>
    exact pass_of_stops (.badLine hphase (takeLine_append_bad hcut (hedge hphase)))
  | badUse hphase hcut huse =>
    exact pass_of_stops (.badUse hphase (takeLine_append hcut more) huse)
  | chunkEnd hlength hcrlf =>
    refine pass_of_stops (.chunkEnd ?_ ?_)
    · rw [List.length_append]
      omega
    · rw [List.take_append_of_le_length hlength]
      exact hcrlf

/-! ## What a pass leaves -/

/-- A pass uses bytes up from the front. -/
theorem pass_go_suffix (h : pass phase bytes = .go next left events) : left <:+ bytes := by
  cases goes_of_pass h with
  | line _ hcut _ =>
    obtain ⟨n, -, rfl⟩ := takeLine_line_eq hcut
    exact List.drop_suffix _ _
  | sizedEnd => exact List.drop_suffix _ _
  | sizedPart => exact List.nil_suffix
  | untilClose => exact List.nil_suffix
  | chunkDataEnd => exact List.drop_suffix _ _
  | chunkDataPart => exact List.nil_suffix
  | chunkEnd => exact List.suffix_append _ _

/-- So does one that stops. -/
theorem pass_stop_suffix (h : pass phase bytes = .stop fault left) : left <:+ bytes := by
  cases stops_of_pass h with
  | badLine _ hcut =>
    rcases takeLine_bad_split hcut with rfl | ⟨line, rfl⟩
    · exact List.suffix_rfl
    · exact (List.suffix_append _ _).trans (List.suffix_append _ _)
  | badUse _ hcut _ =>
    obtain ⟨n, -, rfl⟩ := takeLine_line_eq hcut
    exact List.drop_suffix _ _
  | chunkEnd => exact List.suffix_rfl

/-- A body that lasts until the peer closes is not left by a pass, which takes all there is. -/
theorem untilClose_of_pass_go (h : pass .untilClose bytes = .go next left events) :
    next = .untilClose ∧ left = [] := by
  cases goes_of_pass h with
  | line hphase => cases hphase
  | untilClose => exact ⟨rfl, rfl⟩

theorem weight_sized {n : Nat} : (Phase.sized n).weight = 0 ↔ n ≠ 0 := by
  cases n <;> simp [Phase.weight]

theorem weight_chunkData {n : Nat} : (Phase.chunkData n).weight = 0 ↔ n ≠ 0 := by
  cases n <;> simp [Phase.weight]

/-- A pass never leads to a stretch with nothing to come. -/
theorem pass_go_weight (h : pass phase bytes = .go next left events) : next.weight = 0 := by
  cases goes_of_pass h with
  | line hphase _ huse =>
    cases uses_of_useLine hphase huse with
    | size hn => exact weight_chunkData.2 hn
    | _ => rfl
  | sizedPart _ hn => exact weight_sized.2 (by omega)
  | chunkDataPart _ hn => exact weight_chunkData.2 (by omega)
  | _ => rfl

/-- Only the end of a head listens to the choice of a framing. -/
theorem frame_of_ne (h : phase ≠ .headersDone) (framing : Framing) :
    frame phase framing = (phase, []) := by
  cases phase with
  | headersDone => exact absurd rfl h
  | _ => rfl

/-- Nor does the choice of a framing. -/
theorem frame_weight (h : phase.weight = 0) (framing : Framing) :
    (frame phase framing).1.weight = 0 := by
  by_cases hphase : phase = .headersDone
  · subst hphase
    cases framing with
    | sized n => cases n <;> rfl
    | _ => rfl
  · rw [frame_of_ne hphase]
    exact h

/-- Where `n` bytes are dropped and `more` are left over, the `n` bytes stand before them. -/
theorem of_drop_append {n : Nat} (hmore : more ≠ [])
    (h : (bytes ++ more).drop n = left ++ more) : n ≤ bytes.length ∧ left = bytes.drop n := by
  have hpos := List.length_pos_iff.2 hmore
  have hlength := congrArg List.length h
  simp only [List.length_drop, List.length_append] at hlength
  have hn : n ≤ bytes.length := by omega
  rw [List.drop_append_of_le_length hn] at h
  exact ⟨hn, (List.append_cancel_right h).symm⟩

/-- Bytes that a pass leaves over are not needed for it. -/
theorem pass_cut (hweight : phase.weight = 0) (hphase : phase ≠ .untilClose)
    (h : pass phase (bytes ++ more) = .go next (left ++ more) events) :
    pass phase bytes = .go next left events := by
  by_cases hmore : more = []
  · subst hmore
    rw [List.append_nil, List.append_nil] at h
    exact h
  have hgoes := goes_of_pass h
  generalize hwhole : bytes ++ more = whole, hrest : left ++ more = rest at hgoes
  have hrest_ne : rest ≠ [] := hrest ▸ List.append_ne_nil_of_right_ne_nil left hmore
  cases hgoes with
  | line hline hcut huse =>
    subst hwhole hrest
    exact pass_of_goes (.line hline (takeLine_cut hcut) huse)
  | sizedEnd hne hn =>
    subst hwhole
    obtain ⟨hn, rfl⟩ := of_drop_append hmore hrest.symm
    have hpos := Nat.pos_of_ne_zero (weight_sized.1 hweight)
    rw [List.take_append_of_le_length hn]
    exact pass_of_goes (.sizedEnd (List.ne_nil_of_length_pos (by omega)) hn)
  | chunkDataEnd hne hn =>
    subst hwhole
    obtain ⟨hn, rfl⟩ := of_drop_append hmore hrest.symm
    have hpos := Nat.pos_of_ne_zero (weight_chunkData.1 hweight)
    rw [List.take_append_of_le_length hn]
    exact pass_of_goes (.chunkDataEnd (List.ne_nil_of_length_pos (by omega)) hn)
  | chunkEnd =>
    subst hrest
    rw [← List.append_assoc] at hwhole
    cases List.append_cancel_right hwhole
    exact pass_of_goes (.chunkEnd left)
  | untilClose => exact absurd rfl hphase
  | sizedPart => exact absurd rfl hrest_ne
  | chunkDataPart => exact absurd rfl hrest_ne

end Decoder

end Http1Client
