import Http1Client.Response.Framing
import Http1Client.Response.Line

/-!
# Decoding a response

The decoder reads a response from bytes that arrive in pieces of any size. It
stands in one of ten phases and looks at the bytes not used so far; `pass` says
what happens next: nothing can be done before more bytes arrive, or the bytes
are faulty, or it goes to another phase, with fewer bytes and with events for
whoever collects the response.

After the blank line that ends the header fields the decoder waits in
`headersDone` until it is told how the body is delimited (`frame`), because
that depends on the request and on the fields themselves.

`receive` makes passes for as long as they get on. Each one either uses up bytes
or leaves a phase in which nothing was left to read, so it ends: `Phase.weight`
breaks the tie. A collector may refuse body bytes; the decoder then stops with
those bytes used up and its phase unchanged.
-/

namespace Http1Client

/-- Where the decoder stands. -/
inductive Phase where
  | statusLine
  | headers
  /-- The header fields are complete and the framing is not chosen yet. -/
  | headersDone
  /-- In a body of which `left` bytes are to come. -/
  | sized (left : Nat)
  /-- In a body that ends when the peer closes. -/
  | untilClose
  | chunkSize
  /-- In a chunk of which `left` bytes are to come. -/
  | chunkData (left : Nat)
  /-- At the line end after the data of a chunk. -/
  | chunkEnd
  | trailers
  | complete
  deriving DecidableEq, Repr

/-- What the decoder reports. -/
inductive Event where
  | status (code : Nat) (reason : String)
  | header (name value : String)
  | body (data : Bytes)
  | trailer (name value : String)
  | complete
  deriving DecidableEq, Repr

/-- What one look at the bytes gives. -/
inductive Pass where
  /-- Nothing can be done with these bytes alone. -/
  | wait
  /-- The bytes are faulty; the phase stays. -/
  | stop (fault : Fault) (left : Bytes)
  /-- On to the next phase. -/
  | go (next : Phase) (left : Bytes) (events : List Event)

namespace Decoder

/-- The next bytes of a delimited stretch of `left`: what belongs to it and what
is to come. -/
def stretch (left : Nat) (bytes : Bytes) : Bytes × Nat :=
  let data := bytes.take left
  (data, left - data.length)

/-- What a line that was taken gives. -/
def onLine (cut : LineCut) (use : List Char → Except Fault (Phase × List Event)) : Pass :=
  match cut with
  | .wait => .wait
  | .bad fault left => .stop fault left
  | .line text left =>
    match use text with
    | .error fault => .stop fault left
    | .ok (next, events) => .go next left events

/-- The line that starts a response. Blank lines before it are passed over. -/
def onStatusLine (text : List Char) : Except Fault (Phase × List Event) :=
  if text.isEmpty then .ok (.statusLine, [])
  else
    match statusOf text with
    | .error fault => .error fault
    | .ok (code, reason) => .ok (.headers, [.status code (String.ofList reason)])

/-- A header field, or the blank line after the last one. -/
def onHeaderLine (text : List Char) : Except Fault (Phase × List Event) :=
  if text.isEmpty then .ok (.headersDone, [])
  else
    match fieldOf text with
    | .error fault => .error fault
    | .ok (name, value) =>
      .ok (.headers, [.header (String.ofList name) (String.ofList value)])

/-- The size of a chunk: a hexadecimal numeral before any semicolon. -/
def onSizeLine (text : List Char) : Except Fault (Phase × List Event) :=
  let size := Text.trim (Text.cutAt ';' text).1
  match Text.numeral? 16 UInt64.size size with
  | none => .error (.chunkSize (String.ofList size))
  | some 0 => .ok (.trailers, [])
  | some n => .ok (.chunkData n, [])

/-- A trailer field, or the blank line that ends the response. -/
def onTrailerLine (text : List Char) : Except Fault (Phase × List Event) :=
  if text.isEmpty then .ok (.complete, [.complete])
  else
    match fieldOf text with
    | .error fault => .error fault
    | .ok (name, value) =>
      .ok (.trailers, [.trailer (String.ofList name) (String.ofList value)])

/-- One look at the bytes. -/
def pass (phase : Phase) (bytes : Bytes) : Pass :=
  if bytes.isEmpty then .wait
  else
    match phase with
    | .statusLine => onLine (takeLine .status bytes) onStatusLine
    | .headers => onLine (takeLine .header bytes) onHeaderLine
    | .headersDone => .wait
    | .sized left =>
      let (data, left') := stretch left bytes
      if left' = 0 then .go .complete (bytes.drop left) [.body data, .complete]
      else .go (.sized left') (bytes.drop left) [.body data]
    | .untilClose => .go .untilClose [] [.body bytes]
    | .chunkSize => onLine (takeLine .chunkSize bytes) onSizeLine
    | .chunkData left =>
      let (data, left') := stretch left bytes
      .go (if left' = 0 then .chunkEnd else .chunkData left') (bytes.drop left) [.body data]
    | .chunkEnd =>
      if bytes.length < 2 then .wait
      else if bytes.take 2 = Bytes.crlf then .go .chunkSize (bytes.drop 2) []
      else .stop .chunkNotEnded bytes
    | .trailers => onLine (takeLine .trailer bytes) onTrailerLine
    | .complete => .wait

end Decoder

/-- A stretch with nothing to come weighs more than the phase after it. -/
def Phase.weight : Phase → Nat
  | .sized 0 | .chunkData 0 => 1
  | _ => 0

namespace Decoder

/-! ## Every pass gets on -/

theorem onLine_go_length {kind : LineKind} {bytes left : Bytes} {next : Phase}
    {events : List Event} {use : List Char → Except Fault (Phase × List Event)}
    (h : onLine (takeLine kind bytes) use = .go next left events) :
    left.length < bytes.length := by
  unfold onLine at h
  split at h
  · cases h
  · cases h
  · next text rest hline =>
    have := takeLine_line_length hline
    split at h
    · cases h
    · cases h
      omega

/-- A pass that goes on uses up bytes, or leaves a phase with nothing to come. -/
theorem pass_go_decreases {phase next : Phase} {bytes left : Bytes} {events : List Event}
    (h : pass phase bytes = .go next left events) :
    left.length < bytes.length ∨
      left.length = bytes.length ∧ next.weight < phase.weight := by
  unfold pass at h
  split at h
  · cases h
  next hne =>
  have hpos : 0 < bytes.length := by
    cases bytes with
    | nil => simp at hne
    | cons => simp
  split at h
  · exact .inl (onLine_go_length h)
  · exact .inl (onLine_go_length h)
  · cases h
  · next n =>
    rcases Nat.eq_zero_or_pos n with rfl | hn
    · simp only [stretch, List.take_zero, List.length_nil, Nat.sub_zero, if_true] at h
      cases h
      exact .inr ⟨by simp, by simp [Phase.weight]⟩
    · refine .inl ?_
      have : left = bytes.drop n := by
        dsimp only at h
        split at h <;> cases h <;> rfl
      subst this
      simp only [List.length_drop]
      omega
  · cases h
    exact .inl hpos
  · exact .inl (onLine_go_length h)
  · next n =>
    rcases Nat.eq_zero_or_pos n with rfl | hn
    · simp only [stretch, List.take_zero, List.length_nil, Nat.sub_zero, if_true] at h
      cases h
      exact .inr ⟨by simp, by simp [Phase.weight]⟩
    · cases h
      refine .inl ?_
      simp only [List.length_drop]
      omega
  · split at h
    · cases h
    · split at h
      · cases h
        refine .inl ?_
        simp only [List.length_drop]
        omega
      · cases h
  · exact .inl (onLine_go_length h)
  · cases h

end Decoder

/-! ## Receiving -/

/-- Whoever collects a response: takes note of every event, and may refuse body
bytes. -/
structure Collector (σ : Type) where
  note : σ → Event → σ
  accept : σ → Bytes → Except Failure σ

/-- The events in order, up to body bytes that are refused: the collector's state
and the refusal. -/
def Collector.deliver {σ : Type} (c : Collector σ) : σ → List Event → σ × Option Failure
  | s, [] => (s, none)
  | s, .body data :: rest =>
    match c.accept s data with
    | .ok s => c.deliver s rest
    | .error failure => (s, some failure)
  | s, event :: rest => c.deliver (c.note s event) rest

/-- Where the decoder came to. -/
structure Progress (σ : Type) where
  phase : Phase
  left : Bytes
  state : σ
  failure : Option Failure

namespace Decoder

/-- Makes passes over the bytes for as long as they get on. -/
def receive {σ : Type} (c : Collector σ) (phase : Phase) (bytes : Bytes) (s : σ) :
    Progress σ :=
  match _h : pass phase bytes with
  | .wait => ⟨phase, bytes, s, none⟩
  | .stop fault left => ⟨phase, left, s, some fault.toFailure⟩
  | .go next left events =>
    match c.deliver s events with
    | (s, some failure) => ⟨phase, left, s, some failure⟩
    | (s, none) => receive c next left s
  termination_by (bytes.length, phase.weight)
  decreasing_by
    rcases pass_go_decreases _h with hlt | ⟨heq, hlt⟩
    · exact Prod.Lex.left _ _ hlt
    · rw [heq]
      exact Prod.Lex.right _ hlt

/-- Says how the body is delimited. Only a decoder that waits for it listens. -/
def frame (phase : Phase) (framing : Framing) : Phase × List Event :=
  match phase, framing with
  | .headersDone, .empty => (.complete, [.complete])
  | .headersDone, .sized 0 => (.complete, [.complete])
  | .headersDone, .sized n => (.sized n, [])
  | .headersDone, .chunked => (.chunkSize, [])
  | .headersDone, .untilClose => (.untilClose, [])
  | phase, _ => (phase, [])

/-- The peer has closed. That completes a body which lasts until then; in any
other phase before the end the response is cut off. -/
def finish (phase : Phase) : Except Failure (Phase × List Event) :=
  match phase with
  | .complete => .ok (.complete, [])
  | .untilClose => .ok (.complete, [.complete])
  | _ => .error .connectionClosed

end Decoder

end Http1Client
