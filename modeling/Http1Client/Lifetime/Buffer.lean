import Http1Client.Bytes

/-!
# Counted buffers

The bytes of a body are shared by holders who each own a *reference*. A buffer
starts with one; `retain` adds one while there is any, `release` gives one back,
and with the last one the bytes go. A buffer without references stays as it is
for ever.
-/

namespace Http1Client

/-- Shared bytes with the number of references to them. -/
structure Buffer where
  refs : Nat
  bytes : Option Bytes
  deriving DecidableEq, Repr

namespace Buffer

/-- A buffer with one reference. -/
def new (bytes : Bytes) : Buffer := ⟨1, some bytes⟩

/-- One more reference, unless the bytes are gone. -/
def retain? (b : Buffer) : Option Buffer :=
  if b.refs = 0 then none else some ⟨b.refs + 1, b.bytes⟩

/-- One reference fewer, and whether it was the last one. A buffer without
references stays as it is. -/
def release (b : Buffer) : Buffer × Bool :=
  match b.refs with
  | 0 => (b, false)
  | 1 => (⟨0, none⟩, true)
  | n + 2 => (⟨n + 1, b.bytes⟩, false)

/-- The bytes are gone. -/
def isFreed (b : Buffer) : Bool := b.refs == 0

/-- How many bytes there are to read. -/
def size (b : Buffer) : Nat :=
  match b.bytes with
  | none => 0
  | some bytes => bytes.length

/-- There is nothing to read. -/
def isEmpty (b : Buffer) : Bool := b.size == 0

end Buffer

end Http1Client
