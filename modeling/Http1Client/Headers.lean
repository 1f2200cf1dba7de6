import Http1Client.Text.Ascii
import Http1Client.Text.Quoted

/-!
# Header fields

A message carries a list of named values in the order they were added, which is
also the order they are written. A name keeps the casing it was given; looking
up, replacing and removing ignore the case of ASCII letters, so the list is a
multi-map from folded names to values.

`set` is the one operation that edits in place: the new field takes the seat of
the first field of its name, and the later ones of that name go.
-/

namespace Http1Client

/-- One header field. -/
structure Field where
  name : String
  value : String
  deriving DecidableEq, Repr

/-- The field answers to the name. -/
def Field.named (f : Field) (name : String) : Bool := Text.sameFolded f.name name

/-- Header fields in order. -/
structure Headers where
  fields : List Field
  deriving DecidableEq, Repr

namespace Headers

/-- No fields. -/
def empty : Headers := ⟨[]⟩

/-- The values of a name, in order. -/
def getAll (h : Headers) (name : String) : List String :=
  (h.fields.filter (·.named name)).map (·.value)

/-- The first value of a name. -/
def get? (h : Headers) (name : String) : Option String :=
  (h.fields.find? (·.named name)).map (·.value)

/-- Some field has the name. -/
def contains (h : Headers) (name : String) : Bool := h.fields.any (·.named name)

/-- The fields with one more at the end. -/
def add (h : Headers) (name value : String) : Headers := ⟨h.fields ++ [⟨name, value⟩]⟩

/-- Puts a field in the seat of the first one of its name and drops the later
ones of that name; without one it goes last. -/
def place (f : Field) : List Field → List Field
  | [] => [f]
  | g :: rest =>
    if g.named f.name then f :: rest.filter (!·.named f.name) else g :: place f rest

/-- One value for the name, in place of all its values. -/
def set (h : Headers) (name value : String) : Headers := ⟨place ⟨name, value⟩ h.fields⟩

/-- The fields without those of the name, and whether there were any. -/
def remove (h : Headers) (name : String) : Headers × Bool :=
  let rest := h.fields.filter (!·.named name)
  (⟨rest⟩, rest.length != h.fields.length)

/-- The fields without those of the name. -/
def without (h : Headers) (name : String) : Headers := (h.remove name).1

/-- The names among those seen that the name equals but for case are none. -/
def distinctFrom (seen : List String) : List Field → List String
  | [] => seen
  | f :: rest =>
    if seen.any (fun n => Text.sameFolded n f.name) then distinctFrom seen rest
    else distinctFrom (seen ++ [f.name]) rest

/-- Each name once, in the casing and order in which it was first seen. -/
def names (h : Headers) : List String := distinctFrom [] h.fields

/-- How many fields there are. -/
def size (h : Headers) : Nat := h.fields.length

/-- The fields for people: quoted pairs in brackets. -/
def describe (h : Headers) : String :=
  let pairs := h.fields.map fun f =>
    "(" ++ Text.quoted f.name ++ ", " ++ Text.quoted f.value ++ ")"
  "[" ++ ", ".intercalate pairs ++ "]"

end Headers

end Http1Client
