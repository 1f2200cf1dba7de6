import Http1Client.Text.Ascii

/-!
# Media types

The type of a body: a primary type, a subtype and a list of parameters, names in
small letters. A body whose type is absent or unreadable has the *unknown* type,
in which both names are empty.
-/

namespace Http1Client

/-- A parameter of a media type. -/
structure Parameter where
  name : String
  value : String
  deriving DecidableEq, Repr

/-- A media type. -/
structure MediaType where
  primary : String
  sub : String
  parameters : List Parameter
  deriving DecidableEq, Repr

namespace MediaType

/-- The type of a body that does not say, or says it unreadably. -/
def unknown : MediaType := ⟨"", "", []⟩

/-- The type is the unknown one. -/
def isUnknown (m : MediaType) : Bool := m.primary.isEmpty

/-- Type and subtype without parameters; empty for the unknown type. -/
def essence (m : MediaType) : String :=
  if m.isUnknown then "" else m.primary ++ "/" ++ m.sub

/-- The value of the first parameter of the name, in any casing. -/
def parameter? (m : MediaType) (name : String) : Option String :=
  (m.parameters.find? fun p => Text.sameFolded p.name name).map (·.value)

/-- The character encoding that the type names. -/
def charset? (m : MediaType) : Option String := m.parameter? "charset"

/-- Text of any kind. -/
def isText (m : MediaType) : Bool := m.primary == "text"

/-- JSON, by its own name or as the syntax of another type. -/
def isJson (m : MediaType) : Bool :=
  m.primary == "application" && (m.sub == "json" || m.sub.endsWith "+json")

end MediaType

end Http1Client
