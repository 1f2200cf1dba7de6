import Http1Client.Response.Decoder

/-!
# How far the decoder gets

Receiving uses up bytes and never gives any back (`receive_left_length_le`), and
it comes to the end of a head only by using up some (`receive_headersDone`). What
drives a decoder can rest its own termination on these two.
-/

namespace Http1Client.Decoder

theorem takeLine_bad_length {kind : LineKind} {bytes left : Bytes} {fault : Fault}
    (h : takeLine kind bytes = .bad fault left) : left.length ≤ bytes.length := by
  unfold takeLine at h
  split at h
  · split at h
    · cases h
      exact Nat.le_refl _
    · split at h
      · cases h
        simp only [List.length_drop]
        omega
      · cases h
  · split at h
    · cases h
      exact Nat.le_refl _
    · cases h

theorem onLine_stop_length {kind : LineKind} {bytes left : Bytes} {fault : Fault}
    {use : List Char → Except Fault (Phase × List Event)}
    (h : onLine (takeLine kind bytes) use = .stop fault left) :
    left.length ≤ bytes.length := by
  unfold onLine at h
  split at h
  · cases h
  · next hline =>
    cases h
    exact takeLine_bad_length hline
  · next hline =>
    have := takeLine_line_length hline
    split at h
    · cases h
      omega
    · cases h

/-- A pass that stops leaves no more bytes than there were. -/
theorem pass_stop_length {phase : Phase} {bytes left : Bytes} {fault : Fault}
    (h : pass phase bytes = .stop fault left) : left.length ≤ bytes.length := by
  unfold pass at h
  split at h
  · cases h
  split at h
  · exact onLine_stop_length h
  · exact onLine_stop_length h
  · cases h
  · dsimp only at h
    split at h <;> cases h
  · cases h
  · exact onLine_stop_length h
  · cases h
  · split at h
    · cases h
    · split at h
      · cases h
      · cases h
        exact Nat.le_refl _
  · exact onLine_stop_length h
  · cases h

theorem weight_pos {phase : Phase} (h : 0 < phase.weight) :
    phase = .sized 0 ∨ phase = .chunkData 0 := by
  unfold Phase.weight at h
  split at h
  · exact .inl rfl
  · exact .inr rfl
  · cases h

/-- A pass that uses up no bytes ends a stretch with nothing to come. -/
theorem pass_go_stretch {phase next : Phase} {bytes left : Bytes} {events : List Event}
    (h : pass phase bytes = .go next left events) (hlen : left.length = bytes.length) :
    next = .complete ∨ next = .chunkEnd := by
  rcases pass_go_decreases h with hlt | ⟨-, hw⟩
  · omega
  · unfold pass at h
    split at h
    · cases h
    · rcases weight_pos (Nat.lt_of_le_of_lt (Nat.zero_le _) hw) with rfl | rfl
      · simp only [stretch, List.take_zero, List.length_nil, Nat.sub_zero, if_true] at h
        cases h
        exact .inl rfl
      · simp only [stretch, List.take_zero, List.length_nil, Nat.sub_zero, if_true] at h
        cases h
        exact .inr rfl

/-- Receiving leaves no more bytes than there were. -/
theorem receive_left_length_le {σ : Type} (c : Collector σ) (phase : Phase) (bytes : Bytes)
    (s : σ) : (receive c phase bytes s).left.length ≤ bytes.length := by
  fun_induction receive c phase bytes s with
  | case1 => exact Nat.le_refl _
  | case2 phase bytes s fault left h => exact pass_stop_length h
  | case3 phase bytes s next left events h s' failure hd =>
    rcases pass_go_decreases h with hlt | ⟨heq, -⟩
    · exact Nat.le_of_lt hlt
    · exact Nat.le_of_eq heq
  | case4 phase bytes s next left events h s' hd ih =>
    rcases pass_go_decreases h with hlt | ⟨heq, -⟩
    · exact Nat.le_trans ih (Nat.le_of_lt hlt)
    · exact heq ▸ ih

/-- The decoder comes to the end of a head only by using up bytes. -/
theorem receive_headersDone {σ : Type} (c : Collector σ) (phase : Phase) (bytes : Bytes) (s : σ)
    (h : (receive c phase bytes s).phase = .headersDone) :
    phase = .headersDone ∨ (receive c phase bytes s).left.length < bytes.length := by
  fun_induction receive c phase bytes s with
  | case1 => exact .inl h
  | case2 => exact .inl h
  | case3 => exact .inl h
  | case4 phase bytes s next left events hp s' hd ih =>
    have hle := receive_left_length_le c next left s'
    rcases Nat.lt_or_ge left.length bytes.length with hlt | hge
    · exact .inr (by omega)
    · rcases pass_go_decreases hp with hlt | ⟨heq, -⟩
      · omega
      · rcases ih h with rfl | hlt
        · rcases pass_go_stretch hp heq with hn | hn <;> cases hn
        · exact .inr (by omega)

end Http1Client.Decoder
