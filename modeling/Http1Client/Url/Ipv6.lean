import Http1Client.Url.Ipv4

/-!
# IPv6 addresses

Eight pieces of sixteen bits, written in hexadecimal with colons between them.
Two colons stand for one or more zero pieces, once; the last two pieces may be
written as an IPv4 address.

Writing puts two colons for the first of the longest runs of two or more zero
pieces. A socket address writes the pieces after `::ffff:` in decimal
(`renderMapped`); a URL never does (`render`). The reader and `render` stand in for
those of the library `url`.
-/

namespace Http1Client

/-- An address of eight pieces. -/
structure Ipv6 where
  pieces : List UInt16
  length_eq : pieces.length = 8
  deriving DecidableEq, Repr

namespace Ipv6

/-- The address of eight pieces. -/
def ofPieces? (pieces : List UInt16) : Option Ipv6 :=
  if h : pieces.length = 8 then some ⟨pieces, h⟩ else none

/-! ## Reading -/

/-- One to four hexadecimal digits. -/
def piece? (s : List Char) : Option UInt16 :=
  if s.isEmpty ∨ 4 < s.length ∨ !s.all (Text.isDigit 16) then none
  else some (UInt16.ofNat (Text.digitsValue 16 s))

/-- The two pieces of an IPv4 address. -/
def ofIpv4 (a : Ipv4) : List UInt16 :=
  [UInt16.ofNat (a.bits.toNat / 0x10000), UInt16.ofNat (a.bits.toNat % 0x10000)]

/-- Pieces from the texts between colons. With `dotted` the last text may be an
IPv4 address. -/
def piecesOf? (dotted : Bool) : List (List Char) → Option (List UInt16)
  | [] => some []
  | [last] =>
    match piece? last with
    | some p => some [p]
    | none => if dotted then (Ipv4.dotted? last).map ofIpv4 else none
  | s :: rest =>
    match piece? s with
    | some p => (piecesOf? dotted rest).map (p :: ·)
    | none => none

/-- The pieces of a side of the two colons, which may be empty. -/
def side? (dotted : Bool) (s : List Char) : Option (List UInt16) :=
  if s.isEmpty then some [] else piecesOf? dotted (Text.split ':' s)

/-- The text before the first two colons in a row and the text after them. -/
def cutGap : List Char → Option (List Char × List Char)
  | ':' :: ':' :: rest => some ([], rest)
  | c :: rest => (cutGap rest).map fun (front, back) => (c :: front, back)
  | [] => none

/-- Reads an address. -/
def parse? (s : List Char) : Option Ipv6 :=
  match cutGap s with
  | none => (piecesOf? true (Text.split ':' s)).bind ofPieces?
  | some (front, back) =>
    match side? false front, side? true back with
    | some f, some b =>
      if f.length + b.length < 8 then
        ofPieces? (f ++ List.replicate (8 - f.length - b.length) 0 ++ b)
      else none
    | _, _ => none

/-! ## Writing -/

/-- The number of zero pieces at the front. -/
def zerosAhead (pieces : List UInt16) : Nat := (pieces.takeWhile (· == 0)).length

/-- The start and length of the first of the longest runs of zero pieces. -/
def longestZeros (index : Nat) : List UInt16 → Nat × Nat
  | [] => (index, 0)
  | p :: rest =>
    let here := zerosAhead (p :: rest)
    let later := longestZeros (index + 1) rest
    if later.2 ≤ here then (index, here) else later

/-- Pieces with colons between them. -/
def renderPieces (pieces : List UInt16) : List Char :=
  [':'].intercalate (pieces.map fun p => Text.hexadecimal p.toNat)

/-- The shortest usual form. -/
def render (a : Ipv6) : List Char :=
  let (start, length) := longestZeros 0 a.pieces
  if length < 2 then renderPieces a.pieces
  else
    renderPieces (a.pieces.take start) ++ [':', ':'] ++
      renderPieces (a.pieces.drop (start + length))

/-- The IPv4 address behind `::ffff:`, if the address is of that kind. -/
def mapped? (a : Ipv6) : Option Ipv4 :=
  match a.pieces with
  | [0, 0, 0, 0, 0, 0xFFFF, hi, lo] =>
    some ⟨UInt32.ofNat (hi.toNat * 0x10000 + lo.toNat)⟩
  | _ => none

/-- The form of socket addresses, in which a mapped IPv4 address is decimal. -/
def renderMapped (a : Ipv6) : List Char :=
  match a.mapped? with
  | some v4 => "::ffff:".toList ++ v4.render
  | none => a.render

end Ipv6

end Http1Client
