/-!
# Tokens

Method names, field names, media types and parameter names are *tokens*: one or
more ASCII letters, digits or fifteen marks. No token holds a blank, a colon, a
control character or anything outside ASCII, which is what keeps the lines of a
message apart.
-/

namespace Http1Client

/-- The marks that a token may hold besides letters and digits. -/
def tokenMarks : List Char :=
  ['!', '#', '$', '%', '&', '\'', '*', '+', '-', '.', '^', '_', '\x60', '|', '~']

/-- The character may stand in a token. -/
def isTokenChar (c : Char) : Bool := c.isAlphanum || tokenMarks.contains c

/-- One or more token characters. -/
def isToken (s : List Char) : Bool := !s.isEmpty && s.all isTokenChar

/-- A token is not empty and holds token characters only. -/
theorem isToken_iff {s : List Char} :
    isToken s = true ↔ s ≠ [] ∧ ∀ c ∈ s, isTokenChar c = true := by
  cases s <;> simp [isToken]

/-- A character that is none of a token's stands in no token. -/
theorem not_mem_of_isToken {s : List Char} {c : Char} (h : isToken s = true)
    (hc : isTokenChar c = false) : c ∉ s := by
  intro hmem
  rw [(isToken_iff.1 h).2 c hmem] at hc
  cases hc

end Http1Client
