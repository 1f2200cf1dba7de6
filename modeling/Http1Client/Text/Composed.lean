import Http1Client.Text.CombiningClass
import Http1Client.Text.Composite

/-!
# Composed form

The same letter with marks can be written in several ways. In composed form
(Normalization Form C) every character is first taken apart, marks that follow
each other are put in the order of their classes, and then characters are put
together again as far as they go: a base takes a later mark unless another mark
of the same or a higher class stands between them.
-/

namespace Http1Client.Text.Composed

/-- A character with its combining class. -/
structure Classed where
  char : Char
  combining : Nat

/-- The parts of a character, down to those that cannot be taken apart. -/
def parts (c : Char) : List Classed :=
  if c.toNat < 0x80 then [⟨c, 0⟩]
  else
    (Composite.split Composite.depth c.toNat).map fun n =>
      ⟨Char.ofNat n, combiningClass (Char.ofNat n)⟩

/-- Puts a character behind a text, latest character first, but before the marks of
higher classes at its end. -/
def arrange (c : Classed) : List Classed → List Classed
  | [] => [c]
  | last :: before =>
    if 0 < c.combining ∧ c.combining < last.combining then last :: arrange c before
    else c :: last :: before

/-- A text being composed: what is done, latest character first, the base that may
still take marks, and the marks that it has not taken, latest first. -/
structure Draft where
  done : List Char
  base : Option Char
  marks : List Classed

/-- All characters of the draft, latest first. -/
def Draft.chars (d : Draft) : List Char :=
  d.marks.map Classed.char ++ (d.base.toList ++ d.done)

/-- Another character: the base takes it, or it waits behind the base, or it is a
base itself. -/
def Draft.add (d : Draft) (c : Classed) : Draft :=
  let near := d.marks.head?.all (·.combining < c.combining)
  match if near then d.base.bind fun b => Composite.join? b.toNat c.char.toNat else none with
  | some whole => { d with base := some (Char.ofNat whole) }
  | none =>
    if c.combining = 0 then ⟨d.chars, some c.char, []⟩
    else { d with marks := c :: d.marks }

/-- The composed form of a text. -/
def compose (s : List Char) : List Char :=
  if s.all (·.toNat < 0x80) then s
  else
    let arranged := (s.flatMap parts).foldl (fun text c => arrange c text) []
    (arranged.reverse.foldl Draft.add ⟨[], none, []⟩).chars.reverse

/-- The text is in composed form. -/
def isComposed (s : List Char) : Bool := compose s == s

end Http1Client.Text.Composed
