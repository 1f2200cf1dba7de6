/-!
# Cutting text at a mark

Lines and field values are taken apart at single characters: once, at the first
occurrence (`cutAt`), or at every occurrence (`split`).
-/

namespace Http1Client.Text

/-- The text before the first occurrence of a character, and the text after it
if there is one. -/
def cutAt (mark : Char) (s : List Char) : List Char × Option (List Char) :=
  (s.takeWhile (· != mark),
    match s.dropWhile (· != mark) with
    | [] => none
    | _ :: rest => some rest)

/-- The pieces between the occurrences of a character; one piece without any. -/
def split (mark : Char) (s : List Char) : List (List Char) := s.splitOnP (· == mark)

end Http1Client.Text
