import Http1Client.Headers
import Http1Client.Request.Method
import Http1Client.Response.Fault
import Http1Client.Text.Ascii
import Http1Client.Text.Blank
import Http1Client.Text.Cut
import Http1Client.Text.Numeral

/-!
# Where the body of a response ends

The request's method, the status code and two header fields decide how the body
is delimited, in this order:

1. no body at all, after HEAD and with codes 1xx, 204 and 304;
2. Transfer-Encoding, if present: chunks if its last field ends in the member
   `chunked`, else until the peer closes;
3. Content-Length, if present: all members of all its fields must be numerals
   below 2^64, and equal;
4. otherwise until the peer closes.
-/

namespace Http1Client

/-- How a body is delimited. -/
inductive Framing where
  | empty
  | sized (length : Nat)
  | chunked
  | untilClose
  deriving DecidableEq, Repr

namespace Framing

/-- The response has no body, whatever its fields say. -/
def bodiless (method : Method) (code : Nat) : Bool :=
  method == .head || (100 ≤ code && code < 200) || code == 204 || code == 304

/-- The last member of a list in a field value, trimmed. -/
def lastMember (value : String) : List Char :=
  Text.trim ((Text.split ',' value.toList).getLastD [])

/-- The members of the values, each with the value it stands in. -/
def members (values : List String) : List (String × List Char) :=
  values.flatMap fun v => (Text.split ',' v.toList).map fun m => (v, m)

/-- The length on which all members agree, starting from the one already seen. -/
def agreedLength : Option Nat → List (String × List Char) → Except Fault (Option Nat)
  | seen, [] => .ok seen
  | seen, (value, member) :: rest =>
    match Text.numeral? 10 UInt64.size (Text.trim member) with
    | none => .error (.bodyLength value)
    | some n =>
      match seen with
      | some m => if m = n then agreedLength (some n) rest else .error .lengthsDiffer
      | none => agreedLength (some n) rest

/-- The framing of a response to the method. -/
def choose (method : Method) (code : Nat) (headers : Headers) : Except Fault Framing :=
  if bodiless method code then .ok .empty
  else
    match (headers.getAll "Transfer-Encoding").getLast? with
    | some coding =>
      .ok (if Text.lower (lastMember coding) == "chunked".toList then .chunked else .untilClose)
    | none =>
      match agreedLength none (members (headers.getAll "Content-Length")) with
      | .error fault => .error fault
      | .ok (some n) => .ok (.sized n)
      | .ok none => .ok .untilClose

end Framing

end Http1Client
