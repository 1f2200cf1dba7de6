import Http1Client.MediaType.Basic
import Http1Client.Token

/-!
# Writing media types

Parameters follow the type, each after a semicolon. A value that is a token
stands as it is; any other is quoted, with a backslash before each quote and
each backslash.
-/

namespace Http1Client.MediaType

/-- One character between the quotes of a value. -/
def escapedChar (c : Char) : List Char :=
  if c = '"' ∨ c = '\\' then ['\\', c] else [c]

/-- The value of a parameter as it is written. -/
def writtenValue (value : List Char) : List Char :=
  if isToken value then value else '"' :: value.flatMap escapedChar ++ ['"']

/-- A parameter with the semicolon before it. -/
def writtenParameter (p : Parameter) : List Char :=
  ';' :: p.name.toList ++ '=' :: writtenValue p.value.toList

/-- The text of a media type; empty for the unknown type. -/
def render (m : MediaType) : String :=
  if m.isUnknown then ""
  else String.ofList (m.essence.toList ++ m.parameters.flatMap writtenParameter)

end Http1Client.MediaType
