/-!
# ASCII case

Field names, schemes, media types and host names are compared without regard to
the case of the twenty-six ASCII letters. No other letter is folded: `É` and
`é`, or `ſ` and `s`, stay different.
-/

namespace Http1Client.Text

/-- The text with ASCII capitals written small. -/
def lower (s : List Char) : List Char := s.map Char.toLower

/-- Both texts are the same but for the case of ASCII letters. -/
def sameFolded (a b : String) : Bool := lower a.toList == lower b.toList

theorem sameFolded_iff {a b : String} :
    sameFolded a b = true ↔ lower a.toList = lower b.toList := by
  simp [sameFolded]

theorem sameFolded_refl (a : String) : sameFolded a a = true := by simp [sameFolded]

end Http1Client.Text
