import Http1Client.Exchange.Moment
import Http1Client.Network.Trouble
import Http1Client.Response.Framing
import Http1Client.Response.Progress

/-!
# Taking in a response

An intake is the decoder with the draft that it fills and the bytes not used so
far: what `read_response` works on, the parser, the aggregator and the buffer.
`turn` lets the decoder get on as far as it can and then decides: after the
head of an interim response it starts afresh, after any other head it chooses how
the body is delimited, and otherwise the response is complete or more bytes are
needed.

`settle` makes turns until one of the last two is the case. A turn that asks for
another one has used up bytes, or it was the turn at the end of a head, which the
next one is not (`turn_again_decreases`).

A body is one piece of memory, and room for a length that is declared and accepted
is taken at once (`reserve`), before any byte of the body has come. There is none
for more than `maxPiece` bytes, however much memory there is: reading breaks off
there, and `overflow?` finds the place. Room for less is always found.
-/

namespace Http1Client

/-- A response that is being taken in. -/
structure Intake where
  phase : Phase
  left : Bytes
  draft : Draft

namespace Intake

/-- Before the first byte. -/
def start (limit : Nat) : Intake := ⟨.statusLine, [], .start limit⟩

/-- Bytes that arrive. -/
def append (i : Intake) (data : Bytes) : Intake := { i with left := i.left ++ data }

/-- Announces another response. A change of protocols is none of these. -/
def isInterim (code : Nat) : Bool := 100 ≤ code && code < 200 && code != 101

/-- What a turn comes to. -/
inductive Turn where
  /-- There is more to do; an interim response may have been passed over. -/
  | again (next : Intake) (skipped : Option Nat)
  /-- More bytes are needed. -/
  | hungry (rest : Intake)
  /-- The response is complete; what is left is not part of it. -/
  | complete (rest : Intake)
  | failed (failure : Failure)

/-- The decision after the head of a response. -/
def onHead (method : Method) (left : Bytes) (draft : Draft) : Turn :=
  if isInterim draft.code then .again ⟨.statusLine, left, draft.discardInterim⟩ (some draft.code)
  else
    match Framing.choose method draft.code draft.headers with
    | .error fault => .failed fault.toFailure
    | .ok framing =>
      match draft.checkFraming framing with
      | some failure => .failed failure
      | none =>
        let (phase, events) := Decoder.frame .headersDone framing
        .again ⟨phase, left, (Draft.collector.deliver draft events).1⟩ none

/-- Lets the decoder get on and decides what is next. -/
def turn (method : Method) (i : Intake) : Turn :=
  let p := Decoder.receive Draft.collector i.phase i.left i.draft
  match p.failure with
  | some failure => .failed failure
  | none =>
    match p.phase with
    | .headersDone => onHead method p.left p.state
    | .complete => .complete ⟨.complete, p.left, p.state⟩
    | phase => .hungry ⟨phase, p.left, p.state⟩

/-- The end of a head weighs more than any other phase. -/
def weight (phase : Phase) : Nat := if phase = .headersDone then 1 else 0

/-! ## Every turn gets on -/

theorem onHead_again {method : Method} {left : Bytes} {draft : Draft} {next : Intake}
    {skipped : Option Nat} (h : onHead method left draft = .again next skipped) :
    next.left = left ∧ next.phase ≠ .headersDone := by
  unfold onHead at h
  split at h
  · cases h
    exact ⟨rfl, nofun⟩
  · split at h
    · cases h
    · next framing _ =>
      split at h
      · cases h
      · cases h
        refine ⟨rfl, ?_⟩
        cases framing with
        | sized n => cases n <;> exact nofun
        | empty => exact nofun
        | chunked => exact nofun
        | untilClose => exact nofun

/-- A turn that asks for another one has used up bytes, or it stood at the end of
a head and the next one does not. -/
theorem turn_again_decreases {method : Method} {i next : Intake} {skipped : Option Nat}
    (h : turn method i = .again next skipped) :
    next.left.length < i.left.length ∨
      next.left.length = i.left.length ∧ weight next.phase < weight i.phase := by
  have hle := Decoder.receive_left_length_le Draft.collector i.phase i.left i.draft
  have hdone := Decoder.receive_headersDone Draft.collector i.phase i.left i.draft
  unfold turn at h
  dsimp only at h
  split at h
  · cases h
  · split at h
    · next hphase =>
      obtain ⟨hleft, hnext⟩ := onHead_again h
      rw [hleft]
      rcases hdone hphase with hi | hlt
      · rcases Nat.lt_or_eq_of_le hle with hlt | heq
        · exact .inl hlt
        · exact .inr ⟨heq, by simp [weight, hnext, hi]⟩
      · exact .inl hlt
    · cases h
    · cases h

/-! ## Reading -/

/-- Where turns lead: to the next read, or to a result. -/
inductive Settled where
  | hungry (rest : Intake)
  | complete (rest : Intake)
  | failed (failure : Failure)

/-- Makes turns until more bytes are needed or there is a result; with the codes of
the interim responses passed over. -/
def settle (method : Method) (i : Intake) : List Nat × Settled :=
  match _h : turn method i with
  | .again next skipped =>
    let (codes, settled) := settle method next
    (skipped.toList ++ codes, settled)
  | .hungry rest => ([], .hungry rest)
  | .complete rest => ([], .complete rest)
  | .failed failure => ([], .failed failure)
  termination_by (i.left.length, weight i.phase)
  decreasing_by
    rcases turn_again_decreases _h with hlt | ⟨heq, hlt⟩
    · exact Prod.Lex.left _ _ hlt
    · rw [heq]
      exact Prod.Lex.right _ hlt

/-- The end of the stream. -/
def atEnd (i : Intake) : Outcome Message :=
  match Decoder.finish i.phase with
  | .error failure => .error failure
  | .ok (_, events) => (Draft.collector.deliver i.draft events).1.toMessage

/-- What reading comes to when there are no more bytes. -/
def onEnding (i : Intake) : Option Stop → Wait (Outcome Message)
  | none => .done i.atEnd
  | some (.trouble t) => .done (.error t.readFailure)
  | some .silence => .forever

/-- Reads until the response is complete: the moments, and what it comes to. -/
def readAll (method : Method) (ending : Option Stop) (i : Intake) (reads : List Bytes) :
    List Moment × Wait (Outcome Message) :=
  let (codes, settled) := settle method i
  let skipped := codes.map Moment.skipped
  match settled, reads with
  | .complete rest, _ => (skipped, .done rest.draft.toMessage)
  | .failed failure, _ => (skipped, .done (.error failure))
  | .hungry rest, [] => (skipped, rest.onEnding ending)
  | .hungry rest, data :: later =>
    let (moments, result) := readAll method ending (rest.append data) later
    (skipped ++ .read data :: moments, result)
  termination_by structural reads

/-! ## Room for the body -/

/-- The longest piece of memory. -/
def maxPiece : Nat := 0x7fffffffffffffff

/-- The room that the body takes: what has been collected, and what is still to come
of a declared length. -/
def room (i : Intake) : Nat :=
  match i.phase with
  | .sized n => i.draft.body.length + n
  | _ => i.draft.body.length

/-- There is no room for the body. -/
def Settled.overflows : Settled → Bool
  | .hungry rest | .complete rest => maxPiece < rest.room
  | .failed _ => false

/-- The moments of reading up to where there is no room for the body, if that ever
is so. -/
def overflow? (method : Method) (i : Intake) (reads : List Bytes) : Option (List Moment) :=
  let (codes, settled) := settle method i
  let skipped := codes.map Moment.skipped
  if settled.overflows then some skipped
  else
    match settled, reads with
    | .hungry rest, data :: later =>
      (overflow? method (rest.append data) later).map (skipped ++ .read data :: ·)
    | _, _ => none
  termination_by structural reads

end Intake

end Http1Client
