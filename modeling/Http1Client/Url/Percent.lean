import Http1Client.Text.Numeral
import Http1Client.Text.Utf8

/-!
# Percent encoding

A byte may be written as a percent sign and two hexadecimal digits. Each part of
a URL has a set of ASCII characters that must be written so; controls and
everything outside ASCII always are. A percent sign that is already there stays
as it is, so encoding twice changes nothing more.

Decoding works on bytes and leaves a percent sign that no two digits follow. The
sets are those of the library `url`.
-/

namespace Http1Client.Url

/-- The hexadecimal digit of a number below sixteen, in capitals. -/
def hexDigit (n : Nat) : Char := (Nat.digitChar n).toUpper

/-- A byte as a percent sign and two digits. -/
def percentByte (b : UInt8) : List Char :=
  ['%', hexDigit (b.toNat / 16), hexDigit (b.toNat % 16)]

/-- One character, encoded if it is a control, outside ASCII, or in the set. -/
def percentChar (set : List Char) (c : Char) : List Char :=
  if c.toNat < 0x20 ∨ 0x7E < c.toNat ∨ set.contains c then
    (String.utf8EncodeChar c).flatMap percentByte
  else [c]

/-- The text with the characters of the set encoded. -/
def percentEncode (set : List Char) (s : List Char) : List Char :=
  s.flatMap (percentChar set)

/-- Controls only: opaque paths and the hosts of unknown schemes. -/
def controlSet : List Char := []

/-- The fragment. -/
def fragmentSet : List Char := [' ', '"', '<', '>', '\x60']

/-- A segment of a path. -/
def pathSet : List Char := fragmentSet ++ ['#', '?', '\x7b', '\x7d']

/-- User name and password. -/
def userinfoSet : List Char :=
  pathSet ++ ['/', ':', ';', '=', '@', '[', '\\', ']', '^', '|']

/-- The query of a URL; the schemes that are known encode apostrophes too. -/
def querySet (special : Bool) : List Char :=
  [' ', '"', '#', '<', '>'] ++ if special then ['\''] else []

/-- The byte that two hexadecimal digits denote. -/
def hexPair? (high low : UInt8) : Option UInt8 :=
  let h := Text.digitValue (Char.ofNat high.toNat)
  let l := Text.digitValue (Char.ofNat low.toNat)
  if h < 16 ∧ l < 16 then some (UInt8.ofNat (h * 16 + l)) else none

/-- The bytes with every encoded byte in place of its three characters. -/
def percentDecode : Bytes → Bytes
  | b :: h :: l :: rest =>
    match if b = 0x25 then hexPair? h l else none with
    | some decoded => decoded :: percentDecode rest
    | none => b :: percentDecode (h :: l :: rest)
  | s => s

end Http1Client.Url
