import LiveJson.Json.Value

/-!
# Writing documents

A document is written with two spaces for each level of nesting, one item or member to a line, and
an empty container in two characters.

## What is here

* `escapeChar`, `writeString` — strings in quotes.  Only what must be escaped is: the quote, the
  backslash and the controls below U+0020.
* `writeValue` — a value at a level of nesting.
* `Value.text` — a whole document.
-/

set_option autoImplicit false

namespace LiveJson.Json

/-! ## Strings -/

/-- A hexadecimal digit in lower case. -/
def hexDigit (n : Nat) : Char :=
  Nat.digitChar n

/-- A character of a string as it is written.  Five controls have a letter; the others below U+0020
are written by their code point. -/
def escapeChar (c : Char) : List Char :=
  if c = '"' then ['\\', '"']
  else if c = '\\' then ['\\', '\\']
  else if c = '\x08' then ['\\', 'b']
  else if c = '\t' then ['\\', 't']
  else if c = '\n' then ['\\', 'n']
  else if c = '\x0c' then ['\\', 'f']
  else if c = '\r' then ['\\', 'r']
  else if c.toNat < 0x20 then
    ['\\', 'u', '0', '0', hexDigit (c.toNat / 16), hexDigit (c.toNat % 16)]
  else [c]

/-- A string in quotes. -/
def writeString (s : String) : List Char :=
  '"' :: s.toList.flatMap escapeChar ++ ['"']

/-! ## Values -/

/-- The start of a line at a level of nesting. -/
def indent (depth : Nat) : List Char :=
  List.replicate (2 * depth) ' '

/-- A line feed and the start of the next line. -/
def newline (depth : Nat) : List Char :=
  '\n' :: indent depth

/-- A truth value. -/
def writeBool (b : Bool) : List Char :=
  if b then ['t', 'r', 'u', 'e'] else ['f', 'a', 'l', 's', 'e']

mutual
/-- A value whose first line is at level `depth`. -/
def writeValue (depth : Nat) : Value → List Char
  | .null => ['n', 'u', 'l', 'l']
  | .bool b => writeBool b
  | .number n => n.chars
  | .string s => writeString s
  | .list [] => ['[', ']']
  | .list (v :: rest) =>
    '[' :: newline (depth + 1) ++ writeValue (depth + 1) v ++ writeItems (depth + 1) rest ++
      newline depth ++ [']']
  | .map [] => ['{', '}']
  | .map ((k, v) :: rest) =>
    '{' :: newline (depth + 1) ++ writeString k ++ [':', ' '] ++ writeValue (depth + 1) v ++
      writeMembers (depth + 1) rest ++ newline depth ++ ['}']

/-- The items behind the first one, each after a comma and on a line of its own. -/
def writeItems (depth : Nat) : List Value → List Char
  | [] => []
  | v :: rest => ',' :: newline depth ++ writeValue depth v ++ writeItems depth rest

/-- The members behind the first one, each after a comma and on a line of its own. -/
def writeMembers (depth : Nat) : List (String × Value) → List Char
  | [] => []
  | (k, v) :: rest =>
    ',' :: newline depth ++ writeString k ++ [':', ' '] ++ writeValue depth v ++
      writeMembers depth rest
end

/-- **A document as it is written.** -/
def Value.text (v : Value) : String :=
  String.ofList (writeValue 0 v)

end LiveJson.Json
