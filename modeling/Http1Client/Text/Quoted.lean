import Http1Client.Text.Numeral
import Http1Client.Text.Unseen

/-!
# Quoted text for people

`quoted` writes a text between double quotes so that every character can be
seen: quotes and backslashes are escaped, the common controls have letters, and
any other character that would leave no mark of its own is written by its code
point in hexadecimal.
-/

namespace Http1Client.Text

/-- One character between quotes. -/
def quotedChar (c : Char) : List Char :=
  if c = '"' then ['\\', '"']
  else if c = '\\' then ['\\', '\\']
  else if c = '\t' then ['\\', 't']
  else if c = '\n' then ['\\', 'n']
  else if c = '\r' then ['\\', 'r']
  else if c.toNat = 0 then ['\\', '0']
  else if isUnseen c then
    ['\\', 'u', '\x7b'] ++ hexadecimal c.toNat ++ ['\x7d']
  else [c]

/-- The text between double quotes, every character visible. -/
def quoted (s : String) : String :=
  String.ofList ('"' :: s.toList.flatMap quotedChar ++ ['"'])

end Http1Client.Text
