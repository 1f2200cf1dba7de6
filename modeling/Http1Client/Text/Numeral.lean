/-!
# Unsigned numerals

A numeral is one or more digits of a base, with at most one plus sign before
them, and its value must lie below a bound. Blanks, minus signs, separators and
the empty text are no numerals. Leading zeros are allowed and do not count
towards the bound.
-/

namespace Http1Client.Text

/-- The value of a digit in bases up to sixteen, letters in either case. -/
def digitValue (c : Char) : Nat :=
  if '0' ≤ c ∧ c ≤ '9' then c.toNat - 48
  else if 'a' ≤ c ∧ c ≤ 'f' then c.toNat - 87
  else if 'A' ≤ c ∧ c ≤ 'F' then c.toNat - 55
  else 16

/-- The character is a digit of the base. -/
def isDigit (base : Nat) (c : Char) : Bool := digitValue c < base

/-- The number that the digits denote, the most significant first. -/
def digitsValue (base : Nat) (digits : List Char) : Nat :=
  digits.foldl (fun n c => n * base + digitValue c) 0

/-- The text without one leading plus sign. -/
def dropPlus : List Char → List Char
  | '+' :: rest => rest
  | s => s

/-- Reads a numeral of the base whose value is below the bound. -/
def numeral? (base bound : Nat) (s : List Char) : Option Nat :=
  let digits := dropPlus s
  if digits.isEmpty || !digits.all (isDigit base) then none
  else
    let n := digitsValue base digits
    if n < bound then some n else none

/-- The decimal digits of a number, without leading zeros. -/
def decimal (n : Nat) : List Char := Nat.toDigits 10 n

/-- The hexadecimal digits of a number, in small letters, without leading zeros. -/
def hexadecimal (n : Nat) : List Char := Nat.toDigits 16 n

end Http1Client.Text
