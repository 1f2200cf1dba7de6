import Http1Client.Response.Fault
import Http1Client.Text.Cut
import Http1Client.Text.Blank
import Http1Client.Text.Numeral
import Http1Client.Text.Utf8
import Http1Client.Token

/-!
# Lines of a response

`takeLine` takes one line off the front of the bytes that have arrived, if its
end has arrived too. A line has at most `maxLine` bytes before its end; once it
is clear that there are more, it is refused where it stands. A line that is not
text is refused after it has been taken.

`statusOf` and `fieldOf` read the two forms of line that carry meaning.
-/

namespace Http1Client

/-- The most bytes that a line may have before its end. -/
def maxLine : Nat := 8192

/-- What the front of the bytes holds. -/
inductive LineCut where
  /-- The end of the line has not arrived. -/
  | wait
  /-- No line that can be used, and the bytes left. -/
  | bad (fault : Fault) (left : Bytes)
  /-- A line without its end, and the bytes after it. -/
  | line (text : List Char) (left : Bytes)

/-- Takes one line off the front. -/
def takeLine (kind : LineKind) (bytes : Bytes) : LineCut :=
  match bytes.crlfAt? with
  | some n =>
    if maxLine < n then .bad (.lineTooLong kind) bytes
    else
      match Utf8.decode? (bytes.take n) with
      | none => .bad (.lineNotText kind) (bytes.drop (n + 2))
      | some text => .line text.toList (bytes.drop (n + 2))
  | none => if maxLine < bytes.length then .bad (.lineTooLong kind) bytes else .wait

/-- A line that is taken leaves at least two bytes fewer. -/
theorem takeLine_line_length {kind : LineKind} {bytes left : Bytes} {text : List Char}
    (h : takeLine kind bytes = .line text left) : left.length + 2 ≤ bytes.length := by
  unfold takeLine at h
  split at h
  · next n hn =>
    have := Bytes.crlfAt?_bound hn
    split at h
    · cases h
    · split at h
      · cases h
      · cases h
        simp only [List.length_drop]
        omega
  · split at h <;> cases h

/-- The version with which a status line starts. -/
def versionMark : List Char := ['H', 'T', 'T', 'P', '/', '1', '.']

/-- Reads `HTTP/1.x SP code [SP reason]`: the code and the trimmed reason. -/
def statusOf (line : List Char) : Except Fault (Nat × List Char) :=
  let (version, rest) := Text.cutAt ' ' line
  if !versionMark.isPrefixOf version then .error (.statusLine (String.ofList line))
  else
    let (code, reason) := Text.cutAt ' ' (rest.getD [])
    match Text.numeral? 10 UInt16.size code with
    | some n =>
      if code.length = 3 ∧ 100 ≤ n ∧ n ≤ 999 then .ok (n, Text.trim (reason.getD []))
      else .error (.statusCode (String.ofList code))
    | none => .error (.statusCode (String.ofList code))

/-- Reads `name: value`: a token, and the trimmed text after the first colon. -/
def fieldOf (line : List Char) : Except Fault (List Char × List Char) :=
  match Text.cutAt ':' line with
  | (_, none) => .error (.fieldLine (String.ofList line))
  | (name, some value) =>
    if isToken name then .ok (name, Text.trim value)
    else .error (.fieldName (String.ofList name))

end Http1Client
