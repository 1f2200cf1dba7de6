/-!
# Punycode

A label of a domain name that holds characters outside ASCII is written in
ASCII: first its ASCII characters, then a hyphen if there are any, then a list
of steps. The characters outside ASCII are inserted in the order of their code
points; a step counts how many insertions to pass over, and is written as a
numeral of base 36 whose digits have thresholds, so that it ends itself. The
thresholds follow the size of the steps (`adapt`). The library `url` writes and
reads the labels of hosts so.
-/

namespace Http1Client.Url.Punycode

/-- The digit of a value below 36: letters, then decimal digits. -/
def digit (n : Nat) : Char := Char.ofNat (if n < 26 then n + 97 else n + 22)

/-- The value of a digit. -/
def digitOf? (c : Char) : Option Nat :=
  if 'a' ≤ c ∧ c ≤ 'z' then some (c.toNat - 97)
  else if 'A' ≤ c ∧ c ≤ 'Z' then some (c.toNat - 65)
  else if '0' ≤ c ∧ c ≤ '9' then some (c.toNat - 22)
  else none

/-- The threshold of the digit at position `k`, a multiple of 36. -/
def threshold (bias k : Nat) : Nat := max 1 (min 26 (k - bias))

/-- Divides by 35 until the step is small, counting 36 for each time. -/
def settle (delta k : Nat) : Nat :=
  if _h : 455 < delta then settle (delta / 35) (k + 36)
  else k + 36 * delta / (delta + 38)
  termination_by delta
  decreasing_by exact Nat.div_lt_self (by omega) (by decide)

/-- The next bias after a step, with so many characters in place. -/
def adapt (delta count : Nat) (first : Bool) : Nat :=
  let damped := if first then delta / 700 else delta / 2
  settle (damped + damped / count) 0

/-! ## Writing -/

/-- The digits of a step. -/
def digitsOf (bias k n : Nat) : List Char :=
  let t := threshold bias k
  if _h : n < t then [digit n]
  else digit (t + (n - t) % (36 - t)) :: digitsOf bias (k + 36) ((n - t) / (36 - t))
  termination_by n
  decreasing_by
    have ht : 1 ≤ threshold bias k := Nat.le_max_left ..
    exact Nat.lt_of_le_of_lt (Nat.div_le_self ..) (by omega)

/-- A label being written. -/
structure Writer where
  out : List Char
  delta : Nat
  bias : Nat
  done : Nat
  first : Bool

/-- One character of the label while the characters `point` are inserted. -/
def Writer.scan (point : Nat) (w : Writer) (c : Char) : Writer :=
  if c.toNat < point then { w with delta := w.delta + 1 }
  else if c.toNat = point then
    { out := w.out ++ digitsOf w.bias 36 w.delta, delta := 0,
      bias := adapt w.delta (w.done + 1) w.first, done := w.done + 1, first := false }
  else w

/-- Inserts the characters of the code points in ascending order. -/
def insertPoints (label : List Char) : Nat → List Nat → Writer → Writer
  | _, [], w => w
  | start, point :: rest, w =>
    let w := { w with delta := w.delta + (point - start) * (w.done + 1) }
    let w := label.foldl (Writer.scan point) w
    insertPoints label (point + 1) rest { w with delta := w.delta + 1 }

/-- The distinct code points outside ASCII, in ascending order. -/
def widePoints (label : List Char) : List Nat :=
  ((label.map Char.toNat).filter (128 ≤ ·)).eraseDups.mergeSort (· ≤ ·)

/-- The ASCII form of a label, without the mark of such forms. -/
def encode (label : List Char) : List Char :=
  let basic := label.filter (·.toNat < 128)
  let writer : Writer := ⟨[], 0, 72, basic.length, true⟩
  basic ++ (if basic.isEmpty then [] else ['-']) ++
    (insertPoints label 128 (widePoints label) writer).out

/-! ## Reading -/

/-- A step at the front of the text, added to `n`, and the text after it. -/
def step? (bias : Nat) : Nat → Nat → Nat → List Char → Option (Nat × List Char)
  | _, _, _, [] => none
  | k, weight, n, c :: rest =>
    match digitOf? c with
    | none => none
    | some d =>
      let t := threshold bias k
      if d < t then some (n + d * weight, rest)
      else step? bias (k + 36) (weight * (36 - t)) (n + d * weight) rest

theorem step?_length {bias k weight n m : Nat} {s rest : List Char}
    (h : step? bias k weight n s = some (m, rest)) : rest.length < s.length := by
  induction s generalizing k weight n with
  | nil => simp [step?] at h
  | cons c s ih =>
    rw [step?] at h
    split at h
    · cases h
    · dsimp only at h
      split at h
      · cases h
        simp
      · have := ih h
        simp only [List.length_cons]
        omega

/-- Inserts the characters that the steps stand for. -/
def insertSteps (bias point n : Nat) (out : List Char) (s : List Char) : Option (List Char) :=
  if s.isEmpty then some out
  else
    match _h : step? bias 36 1 n s with
    | none => none
    | some (m, rest) =>
      let count := out.length + 1
      let point := point + m / count
      if point.isValidChar then
        insertSteps (adapt (m - n) count (n == 0)) point (m % count + 1)
          (out.insertIdx (m % count) (Char.ofNat point)) rest
      else none
  termination_by s.length
  decreasing_by exact step?_length _h

/-- The label of an ASCII form without its mark. -/
def decode? (s : List Char) : Option (List Char) :=
  let tail := (s.reverse.takeWhile (· != '-')).reverse
  let basic := s.take (s.length - tail.length - 1)
  if basic.all (·.toNat < 128) then insertSteps 72 128 0 basic tail else none

end Http1Client.Url.Punycode
