import Http1Client.Bytes

/-!
# UTF-8

`encode` writes text as bytes. Reading goes through one machine that takes an
octet at a time: between characters, or owing continuation octets of which the
next must lie in a given range (the ranges keep out overlong forms, surrogates
and values above U+10FFFF). An octet that cannot continue a character ends it:
what was read of it becomes one replacement character, and the octet starts
anew.

`decode?` succeeds exactly if nothing had to be replaced; `decodeLossy` always
gives a text.
-/

namespace Http1Client.Utf8

/-- The bytes of a text. -/
def encode (s : String) : Bytes := s.toList.flatMap String.utf8EncodeChar

/-- What stands for bytes that are no character. -/
def replacement : Char := Char.ofNat 0xFFFD

/-- A character under way: the continuation octets owed, the range of the next
one, and the value so far. -/
structure Partial where
  owed : Nat
  least : Nat
  greatest : Nat
  value : Nat

/-- Where the machine stands: the text so far in reverse, the character under
way, and whether nothing was replaced. -/
structure Reader where
  text : List Char
  pending : Option Partial
  sound : Bool

/-- Before the first octet. -/
def Reader.start : Reader := ⟨[], none, true⟩

/-- A replacement character joins the text. -/
def Reader.replace (r : Reader) : Reader := ⟨replacement :: r.text, none, false⟩

/-- An octet between two characters. -/
def Reader.first (r : Reader) (octet : UInt8) : Reader :=
  let b := octet.toNat
  if b < 0x80 then ⟨Char.ofNat b :: r.text, none, r.sound⟩
  else if b < 0xC2 then r.replace
  else if b < 0xE0 then ⟨r.text, some ⟨1, 0x80, 0xBF, b - 0xC0⟩, r.sound⟩
  else if b = 0xE0 then ⟨r.text, some ⟨2, 0xA0, 0xBF, 0⟩, r.sound⟩
  else if b = 0xED then ⟨r.text, some ⟨2, 0x80, 0x9F, 0xD⟩, r.sound⟩
  else if b < 0xF0 then ⟨r.text, some ⟨2, 0x80, 0xBF, b - 0xE0⟩, r.sound⟩
  else if b = 0xF0 then ⟨r.text, some ⟨3, 0x90, 0xBF, 0⟩, r.sound⟩
  else if b < 0xF4 then ⟨r.text, some ⟨3, 0x80, 0xBF, b - 0xF0⟩, r.sound⟩
  else if b = 0xF4 then ⟨r.text, some ⟨3, 0x80, 0x8F, 4⟩, r.sound⟩
  else r.replace

/-- One octet. -/
def Reader.step (r : Reader) (octet : UInt8) : Reader :=
  match r.pending with
  | none => r.first octet
  | some p =>
    let b := octet.toNat
    if p.least ≤ b ∧ b ≤ p.greatest then
      let value := p.value * 64 + (b - 0x80)
      if p.owed ≤ 1 then ⟨Char.ofNat value :: r.text, none, r.sound⟩
      else ⟨r.text, some ⟨p.owed - 1, 0x80, 0xBF, value⟩, r.sound⟩
    else r.replace.first octet

/-- The end of the bytes: a character under way is cut off. -/
def Reader.finish (r : Reader) : Reader :=
  match r.pending with
  | none => r
  | some _ => r.replace

/-- The machine after all the bytes. -/
def read (bytes : Bytes) : Reader := (bytes.foldl Reader.step Reader.start).finish

/-- The text whose bytes these are, if they are the bytes of a text. -/
def decode? (bytes : Bytes) : Option String :=
  let r := read bytes
  if r.sound then some (String.ofList r.text.reverse) else none

/-- The text with each maximal piece that is no character replaced. -/
def decodeLossy (bytes : Bytes) : String := String.ofList (read bytes).text.reverse

end Http1Client.Utf8
