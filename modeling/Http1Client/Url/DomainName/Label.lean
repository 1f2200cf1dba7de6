import Http1Client.Text.Composed
import Http1Client.Url.DomainName.Direction
import Http1Client.Url.DomainName.Joining
import Http1Client.Url.DomainName.Mapping
import Http1Client.Url.Punycode

/-!
# Labels

The points of a domain name part it into labels. A label has a form in ASCII and
one to be read; they differ if the label holds characters outside ASCII. Then
the first is the Punycode of the second, after the mark `xn--`.

A label with the mark must decode to one that could have been written without:
of plain characters, in composed form. However it is written, a label does not
start with a mark and has joiners only where they may stand. So the library `url`
checks the labels of a host.
-/

namespace Http1Client.Url.DomainName

/-- What a label in Punycode starts with. -/
def punycodeMark : List Char := ['x', 'n', '-', '-']

/-- How long the Punycode of a label may be. -/
def maxPunycode : Nat := 2000

/-- How long a label with characters outside ASCII may be. -/
def maxWide : Nat := 1000

/-- All characters are in ASCII. -/
def isNarrow (s : List Char) : Bool := s.all (·.toNat < 0x80)

/-- A label in both its forms. -/
structure Label where
  ascii : List Char
  wide : List Char

namespace Label

/-- The label of a text in Punycode, without the mark. The text does not end with
the hyphen that would follow the characters of ASCII if there were no others. -/
def ofPunycode? (code : List Char) : Option Label :=
  if !isNarrow code || maxPunycode < code.length || code.getLast?.all (· == '-') then none
  else
    match Punycode.decode? code with
    | none => none
    | some wide =>
      if wide.all isPlain && Text.Composed.isComposed wide then
        some ⟨punycodeMark ++ code, wide⟩
      else none

/-- The label of a text in which every character has its form. -/
def ofText? (text : List Char) : Option Label :=
  if punycodeMark.isPrefixOf text then ofPunycode? (text.drop punycodeMark.length)
  else if isNarrow text then some ⟨text, text⟩
  else if maxWide < text.length then none
  else some ⟨punycodeMark ++ Punycode.encode text, text⟩

/-- The label can be read: it is not too long, starts with no mark, and its joiners
stand where they may. -/
def isLegible (l : Label) : Bool :=
  isNarrow l.wide ||
    (l.wide.length ≤ maxWide && !l.wide.head?.any Text.isMark && Joining.fit [] l.wide)

/-- Something in the label runs from right to left. -/
def turns (l : Label) : Bool := l.wide.any fun c => (direction c).turns

/-- The label keeps to one direction. -/
def keepsDirection (l : Label) : Bool := Direction.keepOne (l.wide.map direction)

end Label

end Http1Client.Url.DomainName
