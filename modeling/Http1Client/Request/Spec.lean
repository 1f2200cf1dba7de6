import Http1Client.Headers
import Http1Client.Bytes
import Http1Client.Request.Method

/-!
# What a caller asks for

A request as the caller describes it, before anything is checked. The method is
GET unless another one is chosen.
-/

namespace Http1Client

/-- A request as described. -/
structure RequestSpec where
  method : Method := .get
  url : Option String := none
  headers : Headers := .empty
  body : Option Bytes := none
  deriving DecidableEq, Repr

end Http1Client
