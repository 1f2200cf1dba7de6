import Http1Client.Text.Cut
import Http1Client.Url.DomainName.Label

/-!
# Domain names in ASCII

A name is compared and sent in ASCII. Each character is mapped to its form, the
whole is composed, and then the name is cut into labels, each of which is written
in ASCII. Where anything in the name runs from right to left, every label has to
keep to one direction.

A name need not keep the rules of host names: its labels may be empty, and hold
any mark of ASCII that has no meaning of its own in a URL. This stands in for what
the library `url` makes of a domain name.
-/

namespace Http1Client.Url.DomainName

/-- Marks of ASCII that no name may hold. -/
def forbiddenMarks : List Char :=
  ['%', '#', '/', ':', '<', '>', '?', '@', '[', '\\', ']', '^', '|']

/-- The character, which has its form, may stand in a name: it is no control, space
or forbidden mark. -/
def allowed (c : Char) : Bool :=
  0x20 < c.toNat && c.toNat ≠ 0x7F && !forbiddenMarks.contains c

/-- The text with each character in its form, if none is refused. -/
def mapped? (name : List Char) : Option (List Char) :=
  if name.any isRefused then none
  else
    let text := Text.Composed.compose (name.flatMap mapChar)
    if text.all allowed then some text else none

/-- The labels of a name. -/
def labels? (name : List Char) : Option (List Label) :=
  match mapped? name with
  | none => none
  | some text =>
    match (Text.split '.' text).mapM Label.ofText? with
    | none => none
    | some labels =>
      if labels.all Label.isLegible &&
          (!labels.any Label.turns || labels.all Label.keepsDirection) then some labels
      else none

/-- The ASCII form of a name. -/
def ascii? (name : List Char) : Option (List Char) :=
  (labels? name).map fun labels => ['.'].intercalate (labels.map Label.ascii)

end Http1Client.Url.DomainName
