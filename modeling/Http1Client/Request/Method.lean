/-!
# Request methods

Seven methods have a name of their own; any other is known by its text only.
A method of the second form is never one of the first, not even with the same
text: `other "HEAD"` is written like `head` but is not `head`.
-/

namespace Http1Client

/-- What a request asks for. -/
inductive Method where
  | get
  | post
  | put
  | delete
  | head
  | options
  | patch
  | other (text : String)
  deriving DecidableEq, Repr

/-- The method as it is written. -/
def Method.text : Method → String
  | .get => "GET"
  | .post => "POST"
  | .put => "PUT"
  | .delete => "DELETE"
  | .head => "HEAD"
  | .options => "OPTIONS"
  | .patch => "PATCH"
  | .other text => text

end Http1Client
