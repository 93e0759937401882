import RadarCatalog.Text.Hex
import RadarCatalog.Text.Hidden

/-!
# Quoted texts in messages

A text is shown between double quotes. The quote and the backslash carry a backslash; NUL, tab,
line feed and carriage return have their letter; any other hidden character is its code point in
braces; every other character is shown as it is.
-/

namespace RadarCatalog.Text

/-- A character as a quoted text shows it. -/
def quotedChar (c : Char) : List Char :=
  if c = '"' then ['\\', '"']
  else if c = '\\' then ['\\', '\\']
  else if c = '\n' then ['\\', 'n']
  else if c = '\r' then ['\\', 'r']
  else if c = '\t' then ['\\', 't']
  else if c.toNat = 0 then ['\\', '0']
  else if isHidden c then "\\u\x7b".toList ++ hexDigits c.toNat ++ ['}']
  else [c]

/-- The text between double quotes. -/
def quoted (s : String) : String :=
  String.ofList ('"' :: s.toList.flatMap quotedChar ++ ['"'])

end RadarCatalog.Text
