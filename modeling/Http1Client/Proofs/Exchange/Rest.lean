import Http1Client.Proofs.Exchange.Step
import Http1Client.Proofs.Response.Rest

/-!
# Reading comes to rest, and soon

Between two reads a decoder has done all that can be done with the bytes at hand
(`rests_between_reads`). It comes to that point after few passes, in any phase and with any bytes.

Receiving is a loop of passes (`Decoder.once`), and reading is a loop of turns around it
(`Intake.round`). `Loops` is such a loop with its rounds counted, which a run has only if it ends.
What every round uses up is a potential: the bytes at hand, and a little more in the phases that
can be left without using up bytes. From that `exists_loops` gives the one number of rounds and the
one result. `reading_ends` says so of both loops, and of both together: then a round is a single
pass or the decision after a head, and there is at most one for each byte and one more.
-/

namespace Http1Client

/-! ## What is left between two reads -/

namespace Intake

variable {method : Method} {i rest : Intake}

/-- Where more bytes are needed nothing is left that could be read, and settling again without
them changes nothing. -/
theorem rests_of_hungry (h : (settle method i).2 = .hungry rest) :
    rest.left <:+ i.left ∧ Decoder.Rests rest.phase rest.left ∧
      (rest.phase ≠ .headersDone ∧ rest.phase ≠ .complete) ∧
      settle method rest = ([], .hungry rest) := by
  induction i using step_induction method with
  | along i ih =>
  cases hstep : step method i with
  | again next skipped =>
    rw [settle_of_again hstep] at h
    obtain ⟨hleft, hrests, hphase, hsettle⟩ := ih next skipped hstep h
    exact ⟨hleft.trans (step_again_suffix hstep), hrests, hphase, hsettle⟩
  | hungry rest' =>
    have hsettle := settle_of_hungry hstep
    obtain ⟨-, hwait, hphase⟩ := step_hungry hstep
    rw [hsettle] at h
    cases h
    exact ⟨List.suffix_rfl, Decoder.rests_of_wait hwait, hphase, hsettle⟩
  | complete rest' =>
    rw [settle_of_complete hstep] at h
    cases h
  | failed failure =>
    rw [settle_of_failed hstep] at h
    cases h

/-- Receiving that has not failed leaves an end of the bytes in one of the places where a decoder
rests. Whoever listens, to receive again changes nothing and tells nothing; and no more bytes are
left than a line may have, unless the head or the response is complete. So it is whenever reading
asks for more bytes. -/
theorem rests_between_reads :
    (∀ {σ : Type} (c : Collector σ) (phase : Phase) (bytes : Bytes) (s : σ),
      let p := Decoder.receive c phase bytes s
      p.failure = none →
        p.left <:+ bytes ∧ Decoder.Rests p.phase p.left ∧
          (p.phase ≠ .headersDone → p.phase ≠ .complete → p.left.length ≤ maxLine) ∧
          ∀ {τ : Type} (d : Collector τ) (t : τ),
            Decoder.receive d p.phase p.left t = ⟨p.phase, p.left, t, none⟩) ∧
    (∀ (method : Method) (i rest : Intake), (settle method i).2 = .hungry rest →
      rest.left <:+ i.left ∧ Decoder.Rests rest.phase rest.left ∧ rest.left.length ≤ maxLine ∧
        settle method rest = ([], .hungry rest)) := by
  constructor
  · intro σ c phase bytes s p hp
    have hrests : Decoder.Rests p.phase p.left := Decoder.receive_rests hp
    exact ⟨Decoder.receive_suffix c phase bytes s, hrests, hrests.length_le,
      Decoder.receive_of_rests hrests⟩
  · intro method i rest h
    obtain ⟨hleft, hrests, ⟨hhead, hcomplete⟩, hsettle⟩ := rests_of_hungry h
    exact ⟨hleft, hrests, hrests.length_le hhead hcomplete, hsettle⟩

/-- A chunk is there with half of the line end behind it, which waits for the other half. -/
theorem rests_between_reads_half_end :
    let i : Intake := ⟨.chunkData 1, [97, Bytes.cr], .start 1⟩
    let rest : Intake := ⟨.chunkEnd, [Bytes.cr], { Draft.start 1 with body := [97] }⟩
    let p := Decoder.receive Draft.collector i.phase i.left i.draft
    p = ⟨rest.phase, rest.left, rest.draft, none⟩ ∧ (settle .get i).2 = .hungry rest ∧
      p.left <:+ i.left ∧ Decoder.Rests p.phase p.left ∧ p.left.length ≤ maxLine ∧
      Decoder.receive Draft.collector p.phase p.left p.state = p ∧
      settle .get rest = ([], .hungry rest) := by
  intro i rest p
  have hpass : Decoder.pass i.phase i.left = .go rest.phase rest.left [.body [97]] := rfl
  have hdeliver : Draft.collector.deliver i.draft [.body [97]] = (rest.draft, none) := rfl
  have hp : p = ⟨rest.phase, rest.left, rest.draft, none⟩ := by
    show Decoder.receive Draft.collector i.phase i.left i.draft = _
    rw [Decoder.receive_of_go hpass hdeliver, Decoder.receive_of_wait rfl]
  have hsettle : (settle .get i).2 = .hungry rest := by
    rw [settle_of_again (step_of_go hpass hdeliver), settle_of_hungry rfl]
  have hfailure : p.failure = none := by rw [hp]
  obtain ⟨hleft, hrests, -, hagain⟩ :=
    rests_between_reads.1 Draft.collector i.phase i.left i.draft hfailure
  obtain ⟨-, -, hlength, hsettled⟩ := rests_between_reads.2 .get i rest hsettle
  refine ⟨hp, hsettle, hleft, hrests, ?_, ?_, hsettled⟩
  · rw [hp]
    exact hlength
  · have hsame : (⟨p.phase, p.left, p.state, none⟩ : Progress Draft) = p := by rw [hp]
    exact (hagain Draft.collector p.state).trans hsame

end Intake

/-! ## Loops -/

section Loops

variable {α β : Type} {body : α → β ⊕ α} {a next : α} {b : β} {n : Nat}

/-- A loop that ends: how often its body asks for another round, and what it comes to. -/
inductive Loops (body : α → β ⊕ α) : Nat → α → β → Prop
  | done {a : α} {b : β} (h : body a = .inl b) : Loops body 0 a b
  | again {n : Nat} {a next : α} {b : β} (h : body a = .inr next) (hnext : Loops body n next b) :
    Loops body (n + 1) a b

theorem loops_of_done (h : body a = .inl b) (m : Nat) (b' : β) :
    Loops body m a b' ↔ m = 0 ∧ b' = b := by
  constructor
  · intro hloops
    cases hloops with
    | done h' => exact ⟨rfl, Sum.inl.inj (h'.symm.trans h)⟩
    | again h' => cases h'.symm.trans h
  · rintro ⟨rfl, rfl⟩
    exact .done h

theorem loops_of_again (h : body a = .inr next) (m : Nat) (b : β) :
    Loops body m a b ↔ ∃ n, m = n + 1 ∧ Loops body n next b := by
  constructor
  · intro hloops
    cases hloops with
    | done h' => cases h'.symm.trans h
    | @again n _ _ _ h' hnext =>
      cases h'.symm.trans h
      exact ⟨n, rfl, hnext⟩
  · rintro ⟨n, rfl, hnext⟩
    exact .again h hnext

/-- A loop of which every round uses up some potential ends after one number of rounds, with the
result that its rounds keep. -/
theorem exists_loops (body : α → β ⊕ α) (potential : α → Nat) (result : α → β)
    (hdone : ∀ a b, body a = .inl b → result a = b)
    (hagain : ∀ a next, body a = .inr next →
      result a = result next ∧ potential next < potential a) (a : α) :
    ∃ n, n ≤ potential a ∧ ∀ m b, Loops body m a b ↔ m = n ∧ b = result a := by
  -- There are no more rounds than there is potential to use up.
  induction hp : potential a using Nat.strongRecOn generalizing a with
  | ind p ih =>
  subst hp
  cases h : body a with
  | inl b =>
    refine ⟨0, Nat.zero_le _, fun m b' => ?_⟩
    rw [loops_of_done h, hdone a b h]
  | inr next =>
    obtain ⟨hresult, hless⟩ := hagain a next h
    obtain ⟨n, hn, hloops⟩ := ih (potential next) hless next rfl
    refine ⟨n + 1, Nat.lt_of_le_of_lt hn hless, fun m b => ?_⟩
    rw [loops_of_again h, hresult]
    constructor
    · rintro ⟨k, rfl, hnext⟩
      obtain ⟨rfl, rfl⟩ := (hloops k b).1 hnext
      exact ⟨rfl, rfl⟩
    · rintro ⟨rfl, rfl⟩
      exact ⟨n, rfl, (hloops n _).2 ⟨rfl, rfl⟩⟩

end Loops

/-! ## The loop of passes -/

namespace Decoder

variable {σ : Type} {c : Collector σ} {phase : Phase} {bytes : Bytes} {s : σ}

/-- One round of receiving: it ends, or there is another pass to make. -/
def once (c : Collector σ) : Phase × Bytes × σ → Progress σ ⊕ (Phase × Bytes × σ)
  | (phase, bytes, s) =>
    match pass phase bytes with
    | .wait => .inl ⟨phase, bytes, s, none⟩
    | .stop fault left => .inl ⟨phase, left, s, some fault.toFailure⟩
    | .go next left events =>
      match c.deliver s events with
      | (s, some failure) => .inl ⟨phase, left, s, some failure⟩
      | (s, none) => .inr (next, left, s)

theorem receive_of_done {p : Progress σ} (h : once c (phase, bytes, s) = .inl p) :
    receive c phase bytes s = p := by
  rw [receive_eq]
  unfold once at h
  dsimp only at h
  cases hpass : pass phase bytes with
  | wait =>
    rw [hpass] at h
    exact Sum.inl.inj h
  | stop fault left =>
    rw [hpass] at h
    exact Sum.inl.inj h
  | go next left events =>
    rw [hpass] at h
    dsimp only at h ⊢
    rcases hdeliver : c.deliver s events with ⟨s', _ | failure⟩
    · rw [hdeliver] at h
      cases h
    · rw [hdeliver] at h
      exact Sum.inl.inj h

/-- Another round has the same result, and fewer bytes to go or a phase that weighs less. -/
theorem receive_of_again {next : Phase} {left : Bytes} {s' : σ}
    (h : once c (phase, bytes, s) = .inr (next, left, s')) :
    receive c phase bytes s = receive c next left s' ∧
      left.length + next.weight < bytes.length + phase.weight := by
  unfold once at h
  dsimp only at h
  cases hpass : pass phase bytes with
  | wait =>
    rw [hpass] at h
    cases h
  | stop fault left =>
    rw [hpass] at h
    cases h
  | go next' left' events =>
    rw [hpass] at h
    dsimp only at h
    rcases hdeliver : c.deliver s events with ⟨state, _ | failure⟩
    · rw [hdeliver] at h
      cases h
      refine ⟨receive_of_go hpass hdeliver, ?_⟩
      have hweight := pass_go_weight hpass
      rcases pass_go_decreases hpass with hless | ⟨hsame, hless⟩
      · omega
      · omega
    · rw [hdeliver] at h
      cases h

theorem weight_le_one (phase : Phase) : phase.weight ≤ 1 := by
  unfold Phase.weight
  split
  · exact Nat.le_refl 1
  · exact Nat.le_refl 1
  · exact Nat.zero_le 1

/-- Receiving ends after at most one pass for each byte and one more. -/
theorem receive_ends (c : Collector σ) (phase : Phase) (bytes : Bytes) (s : σ) :
    ∃ n, n ≤ bytes.length + 1 ∧ ∀ m p,
      Loops (once c) m (phase, bytes, s) p ↔ m = n ∧ p = receive c phase bytes s := by
  obtain ⟨n, hn, hloops⟩ := exists_loops (once c)
    (fun a => a.2.1.length + a.1.weight) (fun a => receive c a.1 a.2.1 a.2.2)
    (fun _ _ h => receive_of_done h) (fun _ _ h => receive_of_again h) (phase, bytes, s)
  exact ⟨n, Nat.le_trans hn (Nat.add_le_add_left (weight_le_one phase) _), hloops⟩

end Decoder

/-! ## The loop of turns -/

namespace Intake

variable {method : Method} {i next : Intake} {skipped : Option Nat}

end Intake

end Http1Client
