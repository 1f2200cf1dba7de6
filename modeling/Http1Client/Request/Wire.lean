import Http1Client.Request.Prepared

/-!
# Requests on the wire

A request line, a line for each header field in order, a blank line, the body.
Every line ends in CR LF.
-/

namespace Http1Client.Request

/-- A line with its end. -/
def line (text : String) : Bytes := Utf8.encode text ++ Bytes.crlf

/-- Method, path and version. -/
def requestLine (r : Request) : Bytes := line (r.method.text ++ " " ++ r.path ++ " HTTP/1.1")

/-- A header field on its line. -/
def fieldLine (f : Field) : Bytes := line (f.name ++ ": " ++ f.value)

/-- The request line, the header fields and the blank line after them. -/
def head (r : Request) : Bytes :=
  r.requestLine ++ r.headers.fields.flatMap fieldLine ++ Bytes.crlf

/-- The bytes of a request. -/
def encode (r : Request) : Bytes := r.head ++ r.body

end Http1Client.Request
