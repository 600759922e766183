import SeedGate.Bytes.Hex
import SeedGate.Text.Hidden

/-!
# Quoted text

A text is quoted between double quotes, with a backslash before a double quote
and a backslash, the usual short names for the null, tab, line feed and carriage
return characters, and a number in braces for every other character that does
not show. Single quotes stand as they are.
-/

namespace SeedGate.Text

/-- How a character is written inside quotes. -/
def quotedChar (c : Char) : String :=
  if c == '\x00' then "\\0"
  else if c == '\t' then "\\t"
  else if c == '\r' then "\\r"
  else if c == '\n' then "\\n"
  else if c == '"' then "\\\""
  else if c == '\\' then "\\\\"
  else if isHidden c then "\\u\x7b" ++ Hex.ofNat c.toNat ++ "\x7d"
  else c.toString

/-- The text between double quotes. -/
def quoted (s : String) : String :=
  "\"" ++ String.join (s.toList.map quotedChar) ++ "\""

end SeedGate.Text
