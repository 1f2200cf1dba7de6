/-!
# Byte strings

What travels over a connection is a list of octets. A line ends at the first CR
that is directly followed by LF; `crlfAt?` finds that place, and every reader
of lines rests on it.
-/

namespace Http1Client

/-- A byte string. -/
abbrev Bytes := List UInt8

namespace Bytes

/-- Carriage return. -/
def cr : UInt8 := 13

/-- Line feed. -/
def lf : UInt8 := 10

/-- The end of a line. -/
def crlf : Bytes := [cr, lf]

/-- `crlfAt?` counting from `n`. -/
def crlfFrom? (n : Nat) : Bytes → Option Nat
  | [] => none
  | [_] => none
  | a :: b :: rest =>
    if a = cr ∧ b = lf then some n else crlfFrom? (n + 1) (b :: rest)

/-- How many bytes stand before the first CR LF pair, or `none` without one. -/
def crlfAt? (bytes : Bytes) : Option Nat := crlfFrom? 0 bytes

/-- The place found is the count plus an index that leaves room for the pair. -/
theorem crlfFrom?_bounds {n m : Nat} {bytes : Bytes} (h : crlfFrom? n bytes = some m) :
    n ≤ m ∧ m + 2 ≤ n + bytes.length := by
  induction bytes generalizing n with
  | nil => simp [crlfFrom?] at h
  | cons a rest ih =>
    cases rest with
    | nil => simp [crlfFrom?] at h
    | cons b rest =>
      rw [crlfFrom?] at h
      split at h
      · cases h
        simp
      · have := ih h
        simp only [List.length_cons] at this ⊢
        omega

/-- A line found in a byte string lies inside it, its end included. -/
theorem crlfAt?_bound {m : Nat} {bytes : Bytes} (h : crlfAt? bytes = some m) :
    m + 2 ≤ bytes.length := by
  have := (crlfFrom?_bounds h).2
  omega

end Bytes

end Http1Client
