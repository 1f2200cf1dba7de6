import Http1Client.MediaType.Parameters
import Http1Client.Text.Cut

/-!
# Reading media types

`parse?` reads the value of a Content-Type field: the type up to the first
semicolon, cut at its first slash into two tokens, and the parameters after it.
`ofField` never fails and gives the unknown type instead.
-/

namespace Http1Client.MediaType

/-- Reads a media type. -/
def parse? (text : String) : Option MediaType :=
  let (whole, rest) := Text.cutAt ';' (Text.trim text.toList)
  match Text.cutAt '/' (Text.trim whole) with
  | (_, none) => none
  | (left, some right) =>
    let primary := Text.trim left
    let sub := Text.trim right
    if isToken primary && isToken sub then
      some ⟨String.ofList (Text.lower primary), String.ofList (Text.lower sub),
        readParameters (rest.getD [])⟩
    else none

/-- The type that an optional Content-Type value names. -/
def ofField (value : Option String) : MediaType := (value.bind parse?).getD unknown

end Http1Client.MediaType
