import Http1Client.Failure

/-!
# What is wrong with a response

Each way in which the peer's bytes fail to be a response is a constructor, and
`message` puts it in words. For an exchange all of them are one cause,
`Failure.malformed`.
-/

namespace Http1Client

/-- The four places where a line is expected. -/
inductive LineKind where
  | status
  | header
  | chunkSize
  | trailer
  deriving DecidableEq, Repr

/-- The kind of line in words. -/
def LineKind.name : LineKind → String
  | .status => "status"
  | .header => "header"
  | .chunkSize => "chunk size"
  | .trailer => "trailer"

/-- What is wrong with the bytes of a response. -/
inductive Fault where
  /-- More bytes before the line's end than a line may have. -/
  | lineTooLong (line : LineKind)
  /-- A line that is not UTF-8. -/
  | lineNotText (line : LineKind)
  /-- A first line without the version. -/
  | statusLine (text : String)
  /-- No number from 100 to 999 in three characters. -/
  | statusCode (text : String)
  /-- A field line without a colon. -/
  | fieldLine (text : String)
  /-- A field name that is no token. -/
  | fieldName (name : String)
  /-- A chunk size that is no hexadecimal numeral. -/
  | chunkSize (text : String)
  /-- Bytes other than a line's end after the data of a chunk. -/
  | chunkNotEnded
  /-- A Content-Length with a member that is no numeral. -/
  | bodyLength (value : String)
  /-- Two different lengths. -/
  | lengthsDiffer
  /-- The transport failed while the response was read. -/
  | readFailed (cause : String)
  deriving DecidableEq, Repr

namespace Fault

/-- The fault in words. -/
def message : Fault → String
  | .lineTooLong line => line.name ++ " line too long"
  | .lineNotText line => "invalid " ++ line.name ++ " encoding"
  | .statusLine text => "invalid status line '" ++ text ++ "'"
  | .statusCode text => "invalid status code '" ++ text ++ "'"
  | .fieldLine text => "invalid header line '" ++ text ++ "'"
  | .fieldName name => "invalid header name '" ++ name ++ "'"
  | .chunkSize text => "invalid chunk size '" ++ text ++ "'"
  | .chunkNotEnded => "missing CRLF after chunk data"
  | .bodyLength value => "invalid Content-Length '" ++ value ++ "'"
  | .lengthsDiffer => "conflicting Content-Length values"
  | .readFailed cause => "read failed: " ++ cause

/-- The fault as the failure of an exchange. -/
def toFailure (f : Fault) : Failure := .malformed f.message

end Fault

end Http1Client
