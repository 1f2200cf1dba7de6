import Http1Client.Proofs.Response.Receiving

/-!
# Where receiving comes to rest

Receiving that does not fail ends with a pass that waits, and a pass waits only where there is
nothing to be done with the bytes at hand: `Rests` lists these places, and they are all of them
(`rests_of_wait`). So nothing that could have been read is left behind (`receive_rests`), and to
receive again without more bytes changes nothing (`receive_of_rests`).

Where more bytes are asked for, those that are kept are fewer than would make up a line that is too
long (`Rests.length_le`).
-/

namespace Http1Client.Decoder

variable {σ : Type} {c : Collector σ} {phase : Phase} {bytes left : Bytes} {s : σ}

/-- The places where a decoder has nothing to do: a phase and the bytes not used so far. -/
inductive Rests : Phase → Bytes → Prop
  /-- The head is complete, and the framing is to be chosen. -/
  | headersDone (left : Bytes) : Rests .headersDone left
  /-- The response is complete. -/
  | complete (left : Bytes) : Rests .complete left
  /-- All bytes are used. -/
  | nothing (phase : Phase) : Rests phase []
  /-- A line is expected, of which the end is not there, nor more bytes than a line may have. -/
  | line {phase : Phase} {left : Bytes} (hphase : phase.readsLine = true)
    (hend : left.crlfAt? = none) (hlength : left.length ≤ maxLine) : Rests phase left
  /-- Half of the line end after the data of a chunk is there. -/
  | chunkEnd (byte : UInt8) : Rests .chunkEnd [byte]

theorem rests_of_wait (h : pass phase bytes = .wait) : Rests phase bytes := by
  by_cases hphase : phase.readsLine = true
  · rw [pass_eq_onLine hphase] at h
    cases hcut : takeLine phase.lineKind bytes with
    | wait =>
      obtain ⟨hend, hlength⟩ := takeLine_wait_iff.1 hcut
      exact .line hphase hend hlength
    | bad => rw [hcut] at h; cases h
    | line text left =>
      rw [hcut, onLine] at h
      split at h <;> cases h
  by_cases hne : bytes = []
  · subst hne
    exact .nothing phase
  cases phase with
  | headersDone => exact .headersDone bytes
  | complete => exact .complete bytes
  | chunkEnd =>
    rw [pass_chunkEnd] at h
    split at h
    · next hlength =>
      have hone : bytes.length = 1 := by
        have := List.length_pos_iff.2 hne
        omega
      obtain ⟨byte, rfl⟩ := List.length_eq_one_iff.1 hone
      exact .chunkEnd byte
    · split at h <;> cases h
  | sized n =>
    rw [pass_sized hne] at h
    split at h <;> cases h
  | chunkData n => rw [pass_chunkData hne] at h; cases h
  | untilClose =>
    rw [pass_of_goes (.untilClose hne)] at h
    cases h
  | _ => exact absurd rfl hphase

theorem wait_of_rests (h : Rests phase left) : pass phase left = .wait := by
  cases h with
  | headersDone => exact pass_headersDone left
  | complete => exact pass_complete left
  | nothing => rfl
  | line hphase hend hlength =>
    rw [pass_eq_onLine hphase, takeLine_wait_iff.2 ⟨hend, hlength⟩]
    rfl
  | chunkEnd => rfl

/-- Unless the head or the response is complete, no more bytes are kept than a line may have. -/
theorem Rests.length_le (h : Rests phase left) (hhead : phase ≠ .headersDone)
    (hcomplete : phase ≠ .complete) : left.length ≤ maxLine := by
  cases h with
  | headersDone => exact absurd rfl hhead
  | complete => exact absurd rfl hcomplete
  | nothing => exact Nat.zero_le maxLine
  | line _ _ hlength => exact hlength
  | chunkEnd => exact Nat.succ_le_of_lt (Nat.zero_lt_succ 8191)

/-- In these places nothing is received, and nothing told. -/
theorem receive_of_rests (h : Rests phase left) (c : Collector σ) (s : σ) :
    receive c phase left s = ⟨phase, left, s, none⟩ := receive_of_wait (wait_of_rests h)

/-- Bytes are received from the front. -/
theorem receive_suffix (c : Collector σ) (phase : Phase) (bytes : Bytes) (s : σ) :
    (receive c phase bytes s).left <:+ bytes := by
  fun_induction receive c phase bytes s with
  | case1 => exact List.suffix_rfl
  | case2 phase bytes s fault left hpass => exact pass_stop_suffix hpass
  | case3 phase bytes s next left events hpass => exact pass_go_suffix hpass
  | case4 phase bytes s next left events hpass s' hdeliver ih =>
    exact ih.trans (pass_go_suffix hpass)

/-- Receiving that has not failed has come to one of these places. -/
theorem receive_rests (h : (receive c phase bytes s).failure = none) :
    Rests (receive c phase bytes s).phase (receive c phase bytes s).left := by
  fun_induction receive c phase bytes s with
  | case1 phase bytes s hpass => exact rests_of_wait hpass
  | case2 => cases h
  | case3 => cases h
  | case4 phase bytes s next left events hpass s' hdeliver ih => exact ih h

end Http1Client.Decoder
