import Http1Client.Text.Cut
import Http1Client.Text.Numeral

/-!
# IPv4 addresses

There are two ways to read one. A socket takes exactly four decimal numbers
below 256 without leading zeros (`Ipv4.dotted?`). A URL is lenient
(`Ipv4.ofHost?`): up to four parts, each decimal, octal after `0` or hexadecimal
after `0x`, of which the last fills all the bytes that are left. A host whose
last part looks like a number is an address or nothing. The first is the way of
the system, the second that of the library `url`, for which it stands in.
-/

namespace Http1Client

/-- An address of four bytes. -/
structure Ipv4 where
  bits : UInt32
  deriving DecidableEq, Repr

namespace Ipv4

/-- The four bytes, the most significant first. -/
def octets (a : Ipv4) : List Nat :=
  let n := a.bits.toNat
  [n / 0x1000000 % 256, n / 0x10000 % 256, n / 0x100 % 256, n % 256]

/-- The address of four bytes. -/
def ofOctets (a b c d : Nat) : Ipv4 :=
  ⟨UInt32.ofNat (a * 0x1000000 + b * 0x10000 + c * 0x100 + d)⟩

/-- Four decimal numbers with points between them. -/
def render (a : Ipv4) : List Char := ['.'].intercalate (a.octets.map Text.decimal)

/-! ## Four decimal numbers -/

/-- A decimal number below 256 without leading zeros. -/
def octet? (s : List Char) : Option Nat :=
  if s.isEmpty ∨ 3 < s.length ∨ !s.all Char.isDigit ∨ (1 < s.length ∧ s.head? = some '0') then
    none
  else
    let n := Text.digitsValue 10 s
    if n < 256 then some n else none

/-- Reads four decimal numbers with points between them. -/
def dotted? (s : List Char) : Option Ipv4 :=
  match (Text.split '.' s).mapM octet? with
  | some [a, b, c, d] => some (ofOctets a b c d)
  | _ => none

/-! ## The lenient form of URLs -/

/-- The digits of a part and their base. Digits may be missing after `0x`. -/
def radix (s : List Char) : Nat × List Char :=
  match s with
  | '0' :: 'x' :: rest => (16, rest)
  | '0' :: 'X' :: rest => (16, rest)
  | '0' :: c :: rest => (8, c :: rest)
  | s => (10, s)

/-- A part of the lenient form. -/
def part? (s : List Char) : Option Nat :=
  let (base, digits) := radix s
  if s.isEmpty || !digits.all (Text.isDigit base) then none
  else some (Text.digitsValue base digits)

/-- The parts of a host, without the empty one after a point at the end. -/
def parts (host : List Char) : List (List Char) :=
  let all := Text.split '.' host
  if all.getLast? = some [] then all.dropLast else all

/-- The last part of the host is a number, so the host is an address or nothing. -/
def endsInNumber (host : List Char) : Bool :=
  let all := Text.split '.' host
  let last := if all.getLast? = some [] then all.dropLast.getLast? else all.getLast?
  match last with
  | none => false
  | some p => (!p.isEmpty && p.all Char.isDigit) || (part? p).isSome

/-- The value of the parts: all but the last are bytes, and the last one fills
the rest. -/
def valueOf (index : Nat) : List Nat → Option Nat
  | [] => none
  | [last] => if last < 256 ^ (4 - index) then some last else none
  | n :: rest =>
    if n < 256 then (valueOf (index + 1) rest).map (n * 256 ^ (3 - index) + ·) else none

/-- Reads the lenient form. -/
def ofHost? (host : List Char) : Option Ipv4 :=
  let ps := parts host
  if 4 < ps.length then none
  else
    match ps.mapM part? with
    | none => none
    | some numbers => (valueOf 0 numbers).map fun n => ⟨UInt32.ofNat n⟩

end Ipv4

end Http1Client
