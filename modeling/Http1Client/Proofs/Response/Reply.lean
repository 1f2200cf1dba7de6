import Http1Client.Proofs.Response.Line
import Http1Client.Proofs.Text.Pieces
import Http1Client.Request.Wire
import Http1Client.Response.Draft
import Mathlib.Tactic.MkIffOfInductiveProp

/-!
# A response as its peer writes it

`Reply.wire` writes a response with its body in one of three transfers: after a
Content-Length, in chunks with trailers, or up to the close of the connection. The sizes
of chunks may be spelled in any way, and extensions may follow them.

`Reply.Valid` is what a peer has to keep to, and it can be checked.
-/

namespace Http1Client

/-! ## Writing -/

/-- The line before the data of a chunk: hexadecimal digits, and an extension. -/
structure SizeLine where
  digits : String
  extension : Option String

/-- The line without its end. -/
def SizeLine.text (l : SizeLine) : String :=
  match l.extension with
  | none => l.digits
  | some extension => l.digits ++ ";" ++ extension

/-- A piece of a body with its size line. -/
structure Chunk where
  size : SizeLine
  data : Bytes

/-- The size line, the data and a line end. -/
def Chunk.wire (c : Chunk) : Bytes := Request.line c.size.text ++ (c.data ++ Bytes.crlf)

/-- How a body is sent. -/
inductive Transfer where
  | sized (body : Bytes)
  /-- The chunks, the size line of the last one, which has no data, and the trailers. -/
  | chunked (chunks : List Chunk) (last : SizeLine) (trailers : List Field)
  | untilClose (body : Bytes)

namespace Transfer

/-- The body that is sent. -/
def body : Transfer → Bytes
  | .sized body => body
  | .chunked chunks _ _ => chunks.flatMap (·.data)
  | .untilClose body => body

/-- The fields after the body. -/
def trailers : Transfer → List Field
  | .chunked _ _ trailers => trailers
  | _ => []

/-- The bytes after the head. -/
def wire : Transfer → Bytes
  | .sized body => body
  | .chunked chunks last trailers =>
    chunks.flatMap Chunk.wire ++
      (Request.line last.text ++ (trailers.flatMap Request.fieldLine ++ Bytes.crlf))
  | .untilClose body => body

/-- The framing that a transfer calls for. -/
def framing : Transfer → Framing
  | .sized body => .sized body.length
  | .chunked _ _ _ => .chunked
  | .untilClose _ => .untilClose

end Transfer

/-- A response before it is written. -/
structure Reply where
  /-- The version after `HTTP/1.`, a digit. -/
  minor : Char
  status : Status
  headers : List Field
  transfer : Transfer

namespace Reply

/-- The status line without its end. -/
def statusText (r : Reply) : String :=
  "HTTP/1." ++ String.ofList [r.minor] ++ " " ++ String.ofList (Text.decimal r.status.code) ++
    " " ++ r.status.reason

/-- The status line, the header fields and the blank line after them. -/
def head (r : Reply) : Bytes :=
  Request.line r.statusText ++ (r.headers.flatMap Request.fieldLine ++ Bytes.crlf)

/-- The bytes of a response. -/
def wire (r : Reply) : Bytes := r.head ++ r.transfer.wire

/-- The message that is meant: trailers are fields after the header fields. -/
def message (r : Reply) : Message :=
  ⟨r.status, ⟨r.headers ++ r.transfer.trailers⟩, .new r.transfer.body⟩

end Reply

/-! ## What a peer keeps to -/

/-- The line is shorter than a line may be, and nothing in it ends it early. -/
@[mk_iff]
structure ShortLine (text : String) : Prop where
  plain : text.toList.any Request.isLineBreak = false
  short : (Utf8.encode text).length < maxLine

/-- The field reads back as it is written. -/
@[mk_iff]
structure FieldFits (f : Field) : Prop where
  token : isToken f.name.toList = true
  trimmed : Text.trim f.value.toList = f.value.toList
  line : ShortLine (f.name ++ ": " ++ f.value)

/-- The size line is for that many bytes. -/
@[mk_iff]
structure SizeFits (l : SizeLine) (size : Nat) : Prop where
  nonempty : l.digits.toList ≠ []
  digits : l.digits.toList.all (Text.isDigit 16) = true
  value : Text.digitsValue 16 l.digits.toList = size
  line : ShortLine l.text

namespace Transfer

/-- What is written of the body fits together. -/
def Fits : Transfer → Prop
  | .chunked chunks last trailers =>
    (∀ c ∈ chunks, c.data ≠ [] ∧ SizeFits c.size c.data.length) ∧ SizeFits last 0 ∧
      ∀ f ∈ trailers, FieldFits f
  | _ => True

/-- The fields that delimit the body are those of the transfer and no others. -/
def Declared (headers : Headers) : Transfer → Prop
  | .sized body =>
    headers.getAll "Transfer-Encoding" = [] ∧
      headers.getAll "Content-Length" = [String.ofList (Text.decimal body.length)]
  | .chunked _ _ _ =>
    headers.getAll "Transfer-Encoding" = ["chunked"] ∧ headers.getAll "Content-Length" = []
  | .untilClose _ =>
    headers.getAll "Transfer-Encoding" = [] ∧ headers.getAll "Content-Length" = []

end Transfer

/-- A final response that may have a body, written by the rules. -/
@[mk_iff]
structure Reply.Valid (r : Reply) : Prop where
  minor : r.minor.isDigit = true
  final : 200 ≤ r.status.code ∧ r.status.code ≤ 999
  bodied : r.status.code ≠ 204 ∧ r.status.code ≠ 304
  trimmed : Text.trim r.status.reason.toList = r.status.reason.toList
  line : ShortLine r.statusText
  fields : ∀ f ∈ r.headers, FieldFits f
  transfer : r.transfer.Fits
  declared : r.transfer.Declared ⟨r.headers⟩

/-! What a peer keeps to can be checked. -/

instance (text : String) : Decidable (ShortLine text) :=
  decidable_of_iff _ (shortLine_iff text).symm

instance (f : Field) : Decidable (FieldFits f) := decidable_of_iff _ (fieldFits_iff f).symm

instance (l : SizeLine) (size : Nat) : Decidable (SizeFits l size) :=
  decidable_of_iff _ (sizeFits_iff l size).symm

instance (t : Transfer) : Decidable t.Fits :=
  match t with
  | .sized _ => .isTrue trivial
  | .chunked _ _ _ => inferInstanceAs (Decidable (_ ∧ _ ∧ _))
  | .untilClose _ => .isTrue trivial

instance (headers : Headers) (t : Transfer) : Decidable (t.Declared headers) :=
  match t with
  | .sized _ => inferInstanceAs (Decidable (_ ∧ _))
  | .chunked _ _ _ => inferInstanceAs (Decidable (_ ∧ _))
  | .untilClose _ => inferInstanceAs (Decidable (_ ∧ _))

instance (r : Reply) : Decidable r.Valid := decidable_of_iff _ (r.valid_iff).symm

/-! ## Lines -/

theorem cr_not_mem_of_plain {s : String} (h : s.toList.any Request.isLineBreak = false) :
    '\r' ∉ s.toList := fun hmem => List.any_eq_false.1 h '\r' hmem rfl

theorem ShortLine.cr_not_mem {s : String} (h : ShortLine s) : '\r' ∉ s.toList :=
  cr_not_mem_of_plain h.plain

theorem ShortLine.oneLine {s : String} (h : ShortLine s) : OneLine s :=
  oneLine_of_not_mem h.cr_not_mem (Nat.le_of_lt h.short)

theorem shortLine_empty : ShortLine "" := ⟨rfl, by decide⟩

end Http1Client
