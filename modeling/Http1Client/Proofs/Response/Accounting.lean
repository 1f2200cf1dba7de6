import Http1Client.Proofs.Response.Session

/-!
# The bytes of a body are accounted for

Where a body or a chunk has a length, the decoder counts down what is to come of it, and takes a
piece off the bytes before it knows whether the piece is refused. To say that nothing is lost in
between, a session is watched: each pass that goes on is a `Look`, from which can be read the
size that a line declares and the piece of the body that is offered, and it is kept whether the
piece was refused. `Phase.Balanced` says for each phase how the accepted bytes and those to come
add up. Every pass keeps it, refused or not (`balanced_pass`, `balanced_refused`), so every
operation does and every run (`audited_apply`, `audited_run`).
-/

namespace Http1Client

/-- How many bytes are to come of a body or of a chunk that has a length. -/
def Phase.left? : Phase → Option Nat
  | .sized left | .chunkData left => some left
  | _ => none

/-! ## Looks -/

/-- The piece of a body in an event. -/
def Event.piece? : Event → Option Bytes
  | .body data => some data
  | _ => none

/-- A pass that went on: the phase, the bytes that were there, and whether what it offered of the
body was refused. -/
structure Look where
  phase : Phase
  bytes : Bytes
  refused : Bool

namespace Look

/-- The size that a chunk declares, as it stands in the line. -/
def size? (l : Look) : Option Nat :=
  match l.phase, takeLine .chunkSize l.bytes with
  | .chunkSize, .line text _ =>
    Text.numeral? 16 UInt64.size (Text.trim (Text.cutAt ';' text).1)
  | _, _ => none

/-- The piece of the body that was offered. -/
def piece? (l : Look) : Option Bytes :=
  match Decoder.pass l.phase l.bytes with
  | .go _ _ (.body data :: _) => some data
  | _ => none

/-- The piece of the body that was accepted. -/
def accepted? (l : Look) : Option Bytes := if l.refused then none else l.piece?

/-- A piece is not empty, and no longer than what was to come. -/
def Sound (l : Look) : Prop :=
  ∀ piece, l.piece? = some piece →
    piece ≠ [] ∧ ∀ left, l.phase.left? = some left → piece.length ≤ left

/-- The sizes that were declared. -/
def sizes (looks : List Look) : List Nat := looks.filterMap size?

/-- How many bytes of the body were accepted. -/
def accepted (looks : List Look) : Nat := (looks.filterMap accepted?).flatten.length

/-- Of the size that was declared last, so many bytes are to come: the others were accepted
since. -/
def Open (left : Nat) (looks : List Look) : Prop :=
  ∃ before look after size, looks = before ++ look :: after ∧ look.size? = some size ∧
    sizes after = [] ∧ accepted after + left = size

variable {α : Type} {looks later : List Look} {left : Nat}

theorem sizes_append (looks later : List Look) :
    sizes (looks ++ later) = sizes looks ++ sizes later :=
  List.filterMap_append

theorem accepted_append (looks later : List Look) :
    accepted (looks ++ later) = accepted looks + accepted later := by
  rw [accepted, List.filterMap_append, List.flatten_append, List.length_append]
  rfl

theorem filterMap_singleton (f : Look → Option α) (l : Look) : [l].filterMap f = (f l).toList := by
  rw [List.filterMap_cons]
  cases f l <;> rfl

theorem sizes_singleton (l : Look) : sizes [l] = l.size?.toList := filterMap_singleton size? l

theorem accepted_singleton (l : Look) : accepted [l] = l.accepted?.toList.flatten.length :=
  congrArg (·.flatten.length) (filterMap_singleton accepted? l)

/-- What is accepted of an open chunk is less to come of it. -/
theorem Open.append (h : Open (accepted later + left) looks) (hsizes : sizes later = []) :
    Open left (looks ++ later) := by
  obtain ⟨before, look, after, size, rfl, hlook, hafter, hsum⟩ := h
  refine ⟨before, look, after ++ later, size, ?_, hlook, ?_, ?_⟩
  · rw [List.append_assoc, List.cons_append]
  · rw [sizes_append, hafter, hsizes]
    rfl
  · rw [accepted_append]
    omega

end Look

namespace Decoder

/-- The looks of receiving. -/
def looks {σ : Type} (c : Collector σ) (phase : Phase) (bytes : Bytes) (s : σ) : List Look :=
  match _h : pass phase bytes with
  | .wait => []
  | .stop _ _ => []
  | .go next left events =>
    match c.deliver s events with
    | (_, some _) => [⟨phase, bytes, true⟩]
    | (s, none) => ⟨phase, bytes, false⟩ :: looks c next left s
  termination_by (bytes.length, phase.weight)
  decreasing_by
    rcases pass_go_decreases _h with hlt | ⟨heq, hlt⟩
    · exact Prod.Lex.left _ _ hlt
    · rw [heq]
      exact Prod.Lex.right _ hlt

end Decoder

/-! ## Balances -/

/-- A body that is complete has the length that was chosen or declared. -/
def Framing.Settled (looks : List Look) : Framing → Prop
  | .empty => Look.accepted looks = 0
  | .sized n => Look.accepted looks = n
  | .chunked => Look.accepted looks = (Look.sizes looks).sum
  | .untilClose => True

/-- How the bytes that were accepted, those to come and those that were declared add up. -/
def Phase.Balanced (framing : Option Framing) (looks : List Look) : Phase → Prop
  | .statusLine | .headers | .headersDone => Look.accepted looks = 0 ∧ Look.sizes looks = []
  | .sized left => ∃ n, framing = some (.sized n) ∧ Look.accepted looks + left = n
  | .untilClose => framing = some .untilClose
  | .chunkSize | .chunkEnd | .trailers =>
    framing = some .chunked ∧ Look.accepted looks = (Look.sizes looks).sum
  | .chunkData left =>
    framing = some .chunked ∧ Look.accepted looks + left = (Look.sizes looks).sum ∧
      Look.Open left looks
  | .complete => ∃ f, framing = some f ∧ f.Settled looks

/-- Looks in which nothing is declared and nothing accepted leave the balance as it is. -/
theorem Phase.Balanced.append {phase : Phase} {framing : Option Framing} {looks later : List Look}
    (h : phase.Balanced framing looks) (haccepted : Look.accepted later = 0)
    (hsizes : Look.sizes later = []) : phase.Balanced framing (looks ++ later) := by
  have htotal : Look.accepted (looks ++ later) = Look.accepted looks := by
    rw [Look.accepted_append, haccepted, Nat.add_zero]
  have hdeclared : Look.sizes (looks ++ later) = Look.sizes looks := by
    rw [Look.sizes_append, hsizes, List.append_nil]
  cases phase with
  | chunkData left =>
    obtain ⟨hframing, hsum, hopen⟩ := h
    have hleft : left = Look.accepted later + left := by omega
    exact ⟨hframing, by rw [htotal, hdeclared, hsum], (hleft ▸ hopen).append hsizes⟩
  | complete =>
    obtain ⟨f, hframing, hsettled⟩ := h
    refine ⟨f, hframing, ?_⟩
    cases f with
    | untilClose => trivial
    | _ => simpa only [Framing.Settled, htotal, hdeclared] using hsettled
  | _ => simpa only [Balanced, htotal, hdeclared] using h

namespace Decoder

variable {σ : Type} {c : Collector σ} {phase next : Phase} {bytes left : Bytes} {s s' : σ}
  {events : List Event} {framing : Option Framing} {trail : List Look} {refused : Bool}

/-! ## What a look tells -/

/-- Only a size line declares a size. -/
theorem size?_of_ne (hphase : phase ≠ .chunkSize) :
    (⟨phase, bytes, refused⟩ : Look).size? = none := by
  unfold Look.size?
  split
  · next h _ => exact absurd h hphase
  · rfl

/-- A size line declares the size of the chunk that it opens. -/
theorem size?_of_go (refused : Bool) (hpass : pass .chunkSize bytes = .go next left events) :
    ∃ n, (⟨.chunkSize, bytes, refused⟩ : Look).size? = some n ∧
      next = (if n = 0 then .trailers else .chunkData n) ∧ events = [] := by
  cases goes_of_pass hpass with
  | line _ hcut huse =>
    have hcut : takeLine .chunkSize bytes = .line _ left := hcut
    simp only [Look.size?, hcut]
    simp only [Phase.useLine, onSizeLine] at huse
    split at huse
    · cases huse
    · next hzero =>
      cases huse
      exact ⟨0, hzero, rfl, rfl⟩
    · next n hne hn =>
      cases huse
      exact ⟨n, hn, (if_neg hne).symm, rfl⟩

/-- The piece that is offered is the one that is reported. -/
theorem piece?_of_go (refused : Bool) (hpass : pass phase bytes = .go next left events) :
    events.filterMap Event.piece? = (⟨phase, bytes, refused⟩ : Look).piece?.toList := by
  unfold Look.piece?
  rw [hpass]
  cases goes_of_pass hpass with
  | line hphase _ huse => cases uses_of_useLine hphase huse <;> rfl
  | _ => rfl

/-- What a pass reports is accepted, unless it is refused. -/
theorem accepted_look (hpass : pass phase bytes = .go next left events) :
    Look.accepted [⟨phase, bytes, false⟩] = (events.filterMap Event.piece?).flatten.length := by
  rw [Look.accepted_singleton, piece?_of_go false hpass]
  rfl

theorem accepted_piece {data : Bytes} {tail : List Event}
    (hpass : pass phase bytes = .go next left (.body data :: tail)) :
    Look.accepted [⟨phase, bytes, false⟩] = data.length := by
  have hpiece : (⟨phase, bytes, false⟩ : Look).accepted? = some data := by
    show (⟨phase, bytes, false⟩ : Look).piece? = some data
    rw [Look.piece?, hpass]
  rw [Look.accepted_singleton, hpiece, Option.toList_some, List.flatten_singleton]

theorem sizes_look (hphase : phase ≠ .chunkSize) :
    Look.sizes [⟨phase, bytes, refused⟩] = [] := by
  rw [Look.sizes_singleton, size?_of_ne hphase]
  rfl

/-! ## What a pass keeps -/

theorem balanced_size (hpass : pass .chunkSize bytes = .go next left events)
    (h : Phase.chunkSize.Balanced framing trail) :
    next.Balanced framing (trail ++ [⟨.chunkSize, bytes, false⟩]) := by
  obtain ⟨hframing, hsum⟩ := h
  obtain ⟨n, hsize, rfl, rfl⟩ := size?_of_go false hpass
  have haccepted : Look.accepted [⟨.chunkSize, bytes, false⟩] = 0 := accepted_look hpass
  have htotal := Look.accepted_append trail [⟨.chunkSize, bytes, false⟩]
  have hsizes : (Look.sizes (trail ++ [⟨.chunkSize, bytes, false⟩])).sum =
      (Look.sizes trail).sum + n := by
    rw [Look.sizes_append, Look.sizes_singleton, hsize, List.sum_append]
    rfl
  split
  · exact ⟨hframing, by omega⟩
  · exact ⟨hframing, by omega, trail, _, [], n, rfl, hsize, rfl, Nat.zero_add n⟩

/-- A pass that goes on takes the balance on to the next phase. -/
theorem balanced_pass (hpass : pass phase bytes = .go next left events)
    (h : phase.Balanced framing trail) :
    next.Balanced framing (trail ++ [⟨phase, bytes, false⟩]) := by
  by_cases hphase : phase = .chunkSize
  · subst hphase
    exact balanced_size hpass h
  have hnone : Look.sizes [⟨phase, bytes, false⟩] = [] := sizes_look hphase
  have hsizes := Look.sizes_append trail [⟨phase, bytes, false⟩]
  have htotal := Look.accepted_append trail [⟨phase, bytes, false⟩]
  rw [hnone, List.append_nil] at hsizes
  cases goes_of_pass hpass with
  | line hline _ huse =>
    cases uses_of_useLine hline huse with
    | size | lastSize => exact absurd rfl hphase
    | trailersEnd => exact ⟨.chunked, h.append (accepted_look hpass) hnone⟩
    | _ => exact h.append (accepted_look hpass) hnone
  | @sizedEnd n bytes hne hn =>
    obtain ⟨m, hframing, hsum⟩ := h
    rw [accepted_piece hpass, List.length_take_of_le hn] at htotal
    exact ⟨.sized m, hframing, htotal.trans hsum⟩
  | @sizedPart n bytes hne hn =>
    obtain ⟨m, hframing, hsum⟩ := h
    rw [accepted_piece hpass] at htotal
    exact ⟨m, hframing, by omega⟩
  | untilClose hne => exact h
  | @chunkDataEnd n bytes hne hn =>
    obtain ⟨hframing, hsum, -⟩ := h
    rw [accepted_piece hpass, List.length_take_of_le hn] at htotal
    exact ⟨hframing, by rw [htotal, hsizes, hsum]⟩
  | @chunkDataPart n bytes hne hn =>
    obtain ⟨hframing, hsum, hopen⟩ := h
    have hleft : n = Look.accepted [⟨.chunkData n, bytes, false⟩] + (n - bytes.length) := by
      rw [accepted_piece hpass]
      omega
    rw [accepted_piece hpass] at htotal
    rw [hleft] at hopen
    exact ⟨hframing, by rw [hsizes]; omega, hopen.append hnone⟩
  | chunkEnd => exact h.append (accepted_look hpass) hnone

/-- A pass of which the piece is refused leaves the balance as it is. -/
theorem balanced_refused {data : Bytes} {tail : List Event}
    (hpass : pass phase bytes = .go next left (.body data :: tail))
    (h : phase.Balanced framing trail) :
    phase.Balanced framing (trail ++ [⟨phase, bytes, true⟩]) := by
  refine h.append rfl (sizes_look ?_)
  rintro rfl
  obtain ⟨-, -, -, hnone⟩ := size?_of_go true hpass
  cases hnone

/-- A piece is offered of what is there and to come. -/
theorem sound_look (hweight : phase.weight = 0) : (⟨phase, bytes, refused⟩ : Look).Sound := by
  intro piece hpiece
  simp only [Look.piece?] at hpiece
  split at hpiece
  · next next left data tail hpass =>
    cases hpiece
    cases goes_of_pass hpass with
    | line hphase _ huse => cases uses_of_useLine hphase huse
    | sizedEnd hne =>
      have htake := mt List.take_eq_nil_iff.1 (not_or.2 ⟨weight_sized.1 hweight, hne⟩)
      refine ⟨htake, fun left hleft => ?_⟩
      cases hleft
      exact List.length_take_le _ _
    | sizedPart hne hn =>
      refine ⟨hne, fun left hleft => ?_⟩
      cases hleft
      exact Nat.le_of_lt hn
    | untilClose hne => exact ⟨hne, nofun⟩
    | chunkDataEnd hne =>
      have htake := mt List.take_eq_nil_iff.1 (not_or.2 ⟨weight_chunkData.1 hweight, hne⟩)
      refine ⟨htake, fun left hleft => ?_⟩
      cases hleft
      exact List.length_take_le _ _
    | chunkDataPart hne hn =>
      refine ⟨hne, fun left hleft => ?_⟩
      cases hleft
      exact Nat.le_of_lt hn
  · cases hpiece

/-! ## What is reported without a pass -/

/-- With the choice of a framing no piece is reported. -/
theorem pieces_frame (chosen : Framing) :
    (frame .headersDone chosen).2.filterMap Event.piece? = [] := by
  cases chosen with
  | sized n => cases n <;> rfl
  | _ => rfl

/-- Nor is one with the end of the stream. -/
theorem pieces_finish (hfinish : finish phase = .ok (next, events)) :
    events.filterMap Event.piece? = [] := by
  cases phase with
  | complete | untilClose =>
    cases hfinish
    rfl
  | _ => cases hfinish

/-! ## What receiving keeps -/

/-- The equation of `looks`, free of what its termination rests on. -/
theorem looks_eq (c : Collector σ) (phase : Phase) (bytes : Bytes) (s : σ) :
    looks c phase bytes s =
      match pass phase bytes with
      | .wait => []
      | .stop _ _ => []
      | .go next left events =>
        match c.deliver s events with
        | (_, some _) => [⟨phase, bytes, true⟩]
        | (s, none) => ⟨phase, bytes, false⟩ :: looks c next left s := by
  rw [looks]
  split
  · next h => rw [h]
  · next h => rw [h]
  · next next left events h =>
    rcases hdeliver : c.deliver s events with ⟨s', _ | failure⟩
    · simp only [h, hdeliver]
    · simp only [h, hdeliver]

/-- What every pass keeps, and every refusal, receiving keeps with its looks. -/
theorem receive_looks_keeps {motive : Phase → σ → List Look → Prop}
    (hkeeps : ∀ {phase next : Phase} {bytes left : Bytes} {s s' : σ} {events : List Event}
      {trail : List Look}, motive phase s trail → pass phase bytes = .go next left events →
        c.deliver s events = (s', none) → motive next s' (trail ++ [⟨phase, bytes, false⟩]))
    (hrefused : ∀ {phase next : Phase} {bytes left data : Bytes} {s : σ} {tail : List Event}
      {trail : List Look}, motive phase s trail →
        pass phase bytes = .go next left (.body data :: tail) →
          motive phase s (trail ++ [⟨phase, bytes, true⟩]))
    (h : motive phase s trail) :
    motive (receive c phase bytes s).phase (receive c phase bytes s).state
      (trail ++ looks c phase bytes s) := by
  fun_induction receive c phase bytes s generalizing trail with
  | case1 phase bytes s hpass =>
    rw [looks_eq, hpass, List.append_nil]
    exact h
  | case2 phase bytes s fault left hpass =>
    rw [looks_eq, hpass, List.append_nil]
    exact h
  | case3 phase bytes s next left events hpass s' failure hdeliver =>
    obtain ⟨rfl, data, tail, rfl, -⟩ := deliver_refused hpass hdeliver
    rw [looks_eq, hpass]
    simp only [hdeliver]
    exact hrefused h hpass
  | case4 phase bytes s next left events hpass s' hdeliver ih =>
    rw [looks_eq, hpass]
    simp only [hdeliver]
    have hnext := ih (hkeeps h hpass hdeliver)
    rwa [List.append_assoc] at hnext

end Decoder

/-! ## Audits -/

/-- The balance, with all that it rests on: the log, and what the looks say. -/
structure Audited (phase : Phase) (framing : Option Framing) (log : List Event)
    (trail : List Look) : Prop where
  tells : Tells phase framing log
  balanced : phase.Balanced framing trail
  reported : log.filterMap Event.piece? = trail.filterMap Look.accepted?
  sound : ∀ l ∈ trail, l.Sound

section

variable {phase next : Phase} {bytes left data : Bytes} {framing : Option Framing}
  {events log tail : List Event} {trail : List Look}

theorem Audited.sound_concat (h : Audited phase framing log trail) (bytes : Bytes)
    (refused : Bool) : ∀ l ∈ trail ++ [⟨phase, bytes, refused⟩], l.Sound :=
  List.forall_mem_append.2 ⟨h.sound, List.forall_mem_singleton.2
    (Decoder.sound_look h.tells.weight)⟩

theorem audited_pass (h : Audited phase framing log trail)
    (hpass : Decoder.pass phase bytes = .go next left events) :
    Audited next framing (log ++ events) (trail ++ [⟨phase, bytes, false⟩]) := by
  refine ⟨Decoder.told_pass hpass h.tells, Decoder.balanced_pass hpass h.balanced, ?_,
    h.sound_concat bytes false⟩
  rw [List.filterMap_append, List.filterMap_append, h.reported,
    Decoder.piece?_of_go false hpass, Look.filterMap_singleton]
  rfl

theorem audited_refused (h : Audited phase framing log trail)
    (hpass : Decoder.pass phase bytes = .go next left (.body data :: tail)) :
    Audited phase framing log (trail ++ [⟨phase, bytes, true⟩]) := by
  refine ⟨h.tells, Decoder.balanced_refused hpass h.balanced, ?_, h.sound_concat bytes true⟩
  rw [List.filterMap_append, h.reported]
  exact (List.append_nil _).symm

end

theorem audited_receive {σ : Type} {c : Collector σ} {phase : Phase} {bytes : Bytes}
    {framing : Option Framing} {t : σ × List Event} {trail : List Look}
    (h : Audited phase framing t.2 trail) :
    Audited (Decoder.receive c.logged phase bytes t).phase framing
      (Decoder.receive c.logged phase bytes t).state.2
      (trail ++ Decoder.looks c.logged phase bytes t) := by
  let motive (phase : Phase) (t : σ × List Event) (trail : List Look) : Prop :=
    Audited phase framing t.2 trail
  refine Decoder.receive_looks_keeps (motive := motive) ?_
    (fun haudited hpass => audited_refused haudited hpass) h
  intro phase next bytes left t t' events trail haudited hpass hdeliver
  have hlog := (Decoder.deliver_logged c t events).2
  rw [hdeliver] at hlog
  have hlog : t'.2 = t.2 ++ events := hlog rfl
  show Audited next framing t'.2 (trail ++ [⟨phase, bytes, false⟩])
  rw [hlog]
  exact audited_pass haudited hpass

theorem audited_frame {framing : Option Framing} {log : List Event} {trail : List Look}
    (h : Audited .headersDone framing log trail) (chosen : Framing) :
    Audited (Decoder.frame .headersDone chosen).1 (some chosen)
      (log ++ (Decoder.frame .headersDone chosen).2) trail := by
  refine ⟨Decoder.told_frame h.tells chosen, ?_, ?_, h.sound⟩
  · obtain ⟨haccepted, hsizes⟩ := h.balanced
    cases chosen with
    | empty => exact ⟨.empty, rfl, haccepted⟩
    | sized n =>
      cases n with
      | zero => exact ⟨.sized 0, rfl, haccepted⟩
      | succ n => exact ⟨n + 1, rfl, by omega⟩
    | chunked => exact ⟨rfl, by rw [haccepted, hsizes]; rfl⟩
    | untilClose => rfl
  · rw [List.filterMap_append, Decoder.pieces_frame, List.append_nil, h.reported]

theorem audited_finish {phase next : Phase} {framing : Option Framing} {events log : List Event}
    {trail : List Look} (h : Audited phase framing log trail)
    (hfinish : Decoder.finish phase = .ok (next, events)) :
    Audited next framing (log ++ events) trail := by
  refine ⟨Decoder.told_finish h.tells hfinish, ?_, ?_, h.sound⟩
  · have hbalanced := h.balanced
    cases phase with
    | complete =>
      cases hfinish
      exact hbalanced
    | untilClose =>
      cases hfinish
      exact ⟨.untilClose, hbalanced, trivial⟩
    | _ => cases hfinish
  · rw [List.filterMap_append, Decoder.pieces_finish hfinish, List.append_nil, h.reported]

namespace Session

/-! ## Sessions that are watched -/

variable {s : Session} {trail : List Look}

/-- The looks since the last start, after one more operation. -/
def watch (s : Session) (trail : List Look) : Operation → List Look
  | .feed data l =>
    trail ++ Decoder.looks l.collector.logged s.phase (s.left ++ data) (l.state, s.log)
  | .reset => []
  | _ => trail

/-- The looks since the last start, after more operations. -/
def watchAll (s : Session) (trail : List Look) : List Operation → List Look
  | [] => trail
  | op :: ops => (s.apply op).1.watchAll (s.watch trail op) ops

/-- What is true of a session in which the looks were made since the last start. -/
structure Accounted (s : Session) (trail : List Look) : Prop where
  /-- Each piece of the body that was offered, whether it was refused or not, is not empty and no
  longer than what was to come. -/
  sound : ∀ l ∈ trail, l.Sound
  /-- The accepted pieces are those that were reported. -/
  reported : s.log.filterMap Event.piece? = trail.filterMap Look.accepted?
  /-- In a body with a length something is to come, and with what was accepted it makes up the
  length. -/
  sized : ∀ left, s.phase = .sized left →
    0 < left ∧ ∃ n, s.framing = some (.sized n) ∧ Look.accepted trail + left = n
  /-- In a chunk something is to come, and with what was accepted of the chunk it makes up the size
  that was declared. -/
  chunk : ∀ left, s.phase = .chunkData left → 0 < left ∧ Look.Open left trail
  /-- When the end is reported, the length that was chosen or declared has been accepted. -/
  settled : .complete ∈ s.log → ∃ f, s.framing = some f ∧ f.Settled trail

theorem audited_apply (h : Audited s.phase s.framing s.log trail) (op : Operation) :
    Audited (s.apply op).1.phase (s.apply op).1.framing (s.apply op).1.log (s.watch trail op) := by
  cases op with
  | feed data l => exact audited_receive (t := (l.state, s.log)) h
  | frame chosen =>
    by_cases hphase : s.phase = .headersDone
    · have hframe := audited_frame (hphase ▸ h) chosen
      simp only [apply, hphase, if_true]
      exact hframe
    · simp only [apply, Decoder.frame_of_ne hphase, if_neg hphase, List.append_nil]
      exact h
  | finish =>
    simp only [apply]
    split
    · next hfinish => exact audited_finish h hfinish
    · exact h
  | reset => exact ⟨told_apply h.tells .reset, ⟨rfl, rfl⟩, rfl, List.forall_mem_nil _⟩

theorem audited_run (h : Audited s.phase s.framing s.log trail) (ops : List Operation) :
    Audited (s.run ops).phase (s.run ops).framing (s.run ops).log (s.watchAll trail ops) := by
  induction ops generalizing s trail with
  | nil => exact h
  | cons op ops ih => exact ih (audited_apply h op)

theorem audited_start : Audited start.phase start.framing start.log [] :=
  ⟨told_start, ⟨rfl, rfl⟩, rfl, List.forall_mem_nil _⟩

theorem accounted_of_audited (h : Audited s.phase s.framing s.log trail) : s.Accounted trail where
  sound := h.sound
  reported := h.reported
  sized left hphase := by
    obtain ⟨⟨hweight, -⟩, hbalanced, -⟩ := hphase ▸ h
    exact ⟨Nat.pos_of_ne_zero (Decoder.weight_sized.1 hweight), hbalanced⟩
  chunk left hphase := by
    obtain ⟨⟨hweight, -⟩, ⟨-, -, hopen⟩, -⟩ := hphase ▸ h
    exact ⟨Nat.pos_of_ne_zero (Decoder.weight_chunkData.1 hweight), hopen⟩
  settled hend := by
    have hphase : s.phase = .complete := by
      by_contra hphase
      have hcount := count_log h.tells
      rw [if_neg hphase, List.count_eq_zero] at hcount
      exact hcount hend
    have hbalanced := h.balanced
    rw [hphase] at hbalanced
    exact hbalanced

/-- However a decoder is used, the bytes of the body are accounted for. -/
theorem body_accounted (ops : List Operation) :
    (start.run ops).Accounted (start.watchAll [] ops) :=
  accounted_of_audited (audited_run audited_start ops)

end Session

end Http1Client
