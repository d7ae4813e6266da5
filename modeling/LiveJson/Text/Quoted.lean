import LiveJson.Text.Markless

/-!
# Quoted texts in messages

A text that a message shows between quotes is written so that every character of it can be seen:
`quote` puts a backslash before quotes and backslashes, names the four commonest controls by a
letter, and gives every other character that shows no mark of its own by its code point.  A single
quote needs no backslash, since the quotes around the text are double.
-/

set_option autoImplicit false

namespace LiveJson.Text

/-- One character inside quotes: `\0`, `\t`, `\r`, `\n`, a backslash before `"` and `\`, the code
point in lower-case hexadecimal for other markless characters, and all else as it is. -/
def quoteChar (c : Char) : List Char :=
  if c = '\x00' then ['\\', '0']
  else if c = '\t' then ['\\', 't']
  else if c = '\r' then ['\\', 'r']
  else if c = '\n' then ['\\', 'n']
  else if c = '"' then ['\\', '"']
  else if c = '\\' then ['\\', '\\']
  else if isMarkless c then ['\\', 'u', '{'] ++ Nat.toDigits 16 c.toNat ++ ['}']
  else [c]

/-- A text between double quotes, each character as `quoteChar` writes it. -/
def quote (text : String) : String :=
  String.ofList ('"' :: text.toList.flatMap quoteChar ++ ['"'])

end LiveJson.Text
