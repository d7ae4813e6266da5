import LiveJson.Json.Literal
import LiveJson.Json.Numeral
import LiveJson.Json.Value

/-!
# Words, numbers and strings

The smallest parts of a document that have a value: the words `null`, `true` and `false`, numbers
and strings.  A `Lexeme` is one of them while it is being read.

## What is here

* `Scalar` — the value of a lexeme.
* `Lexeme.start?` — the lexeme that a character starts.
* `Lexeme.step` and `Lexeme.finish` — one more character, and the end of the text.
-/

set_option autoImplicit false

namespace LiveJson.Json

/-- A value without children. -/
inductive Scalar where
  | null
  | bool (b : Bool)
  | number (n : Number)
  | string (s : String)

/-- The scalar as a document. -/
def Scalar.toValue : Scalar → Value
  | .null => .null
  | .bool b => .bool b
  | .number n => .number n
  | .string s => .string s

/-- A lexeme that is being read. -/
inductive Lexeme where
  /-- A word of which `next` and then `rest` are still to come. -/
  | word (next : Char) (rest : List Char) (meaning : Scalar)
  /-- A number. -/
  | number (isNegative : Bool) (phase : NumeralPhase)
  /-- A string, with the characters of its text read so far, last one first. -/
  | string (read : List Char) (phase : LiteralPhase)

/-- The lexeme that a character starts. -/
def Lexeme.start? (c : Char) : Option Lexeme :=
  if c = 'n' then some (.word 'u' ['l', 'l'] .null)
  else if c = 't' then some (.word 'r' ['u', 'e'] (.bool true))
  else if c = 'f' then some (.word 'a' ['l', 's', 'e'] (.bool false))
  else if c = '"' then some (.string [] .plain)
  else if c = '-' then some (.number true .sign)
  else if c = '0' then some (.number false .zero)
  else if c.isDigit then some (.number false (.whole (.ofDigit c)))
  else none

/-- What a character does to a lexeme. -/
inductive LexemeStep where
  /-- The character belongs to the lexeme, which goes on. -/
  | more (next : Lexeme)
  /-- The character is the last one of the lexeme. -/
  | closed (value : Scalar)
  /-- The lexeme ended before the character. -/
  | ended (value : Scalar)
  /-- Reading stops, `advance` bytes behind the start of the character. -/
  | fault (cause : Cause) (advance : Nat)

/-- One more character of a lexeme. -/
def Lexeme.step : Lexeme → Char → LexemeStep
  | .word next rest meaning, c =>
    if c = next then
      match rest with
      | [] => .closed meaning
      | d :: rest => .more (.word d rest meaning)
    else .fault .expectedWord 1
  | .number isNegative phase, c =>
    match phase.step c with
    | .more next => .more (.number isNegative next)
    | .fault cause => .fault cause 1
    | .ended =>
      match phase.finish isNegative with
      | .ok n => .ended (.number n)
      | .error cause => .fault cause 0
  | .string read phase, c =>
    match phase.step c with
    | .more d next => .more (.string (d.toList ++ read) next)
    | .closed => .closed (.string (String.ofList read.reverse))
    | .fault cause advance => .fault cause advance

/-- The lexeme at the end of the text.  A number may end there. -/
def Lexeme.finish : Lexeme → Except Cause Scalar
  | .word _ _ _ => .error .endInValue
  | .number isNegative phase => (phase.finish isNegative).map .number
  | .string _ _ => .error .endInString

end LiveJson.Json
