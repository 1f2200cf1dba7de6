/-!
# Tables in ascending order

Properties of characters are kept in tables whose entries ascend by a key, the
first code point that an entry is about. The entry for a code point is the last
one whose key is not above it, found by halving.

An entry that covers a closed range of code points starts with the two ends of
the range.
-/

namespace Http1Client.Text.Table

variable {α : Type}

/-- The first place from `low` below `high` whose key is above `n`. -/
def boundary (key : α → Nat) (table : Array α) (n low high : Nat) : Nat :=
  if _h : low < high then
    match table[(low + high) / 2]? with
    | none => low
    | some entry =>
      if key entry ≤ n then boundary key table n ((low + high) / 2 + 1) high
      else boundary key table n low ((low + high) / 2)
  else low
  termination_by high - low
  decreasing_by all_goals omega

/-- The last entry whose key is not above `n`. -/
def last? (key : α → Nat) (table : Array α) (n : Nat) : Option α :=
  match boundary key table n 0 table.size with
  | 0 => none
  | place + 1 => table[place]?

/-- One of the ranges holds `n`. -/
def covers (ranges : Array (Nat × Nat)) (n : Nat) : Bool :=
  (last? Prod.fst ranges n).any (n ≤ ·.2)

/-- What the table says of the range that holds `n`. -/
def find? (table : Array (Nat × Nat × α)) (n : Nat) : Option α :=
  match last? Prod.fst table n with
  | some (_, last, value) => if n ≤ last then some value else none
  | none => none

end Http1Client.Text.Table
