import LiveJson.Json.Cause

/-!
# Strings, read character by character

A string stands between double quotes.  A backslash starts an escape: a letter, or `u` and four
hexadecimal digits that name a UTF-16 unit.  A unit that is the first half of a surrogate pair must
be followed by an escape for the second half.

## What is here

* `LiteralPhase` — where in a string, or in an escape, the reader stands.
* `LiteralPhase.step` — one more character: on (perhaps with a character of the string's text), the
  closing quote, or a fault.
* The four digits of a unit are counted in bytes: the reader takes four bytes and then looks at
  them, so a longer character among them may overlap the end of the four.
-/

set_option autoImplicit false

namespace LiveJson.Json

/-- The digits of a UTF-16 unit as far as they are read: how many bytes, and the value unless some
character was no digit. -/
structure HexDigits where
  bytes : Nat
  value : Option Nat
deriving DecidableEq, Repr

/-- Before the first digit. -/
def HexDigits.start : HexDigits := ⟨0, some 0⟩

/-- How many bytes the digits of a unit take. -/
def HexDigits.width : Nat := 4

/-- The value of a hexadecimal digit. -/
def hexValue? (c : Char) : Option Nat :=
  if c.isDigit then some (c.toNat - '0'.toNat)
  else if 'a' ≤ c ∧ c ≤ 'f' then some (c.toNat - 'a'.toNat + 10)
  else if 'A' ≤ c ∧ c ≤ 'F' then some (c.toNat - 'A'.toNat + 10)
  else none

/-- The digits with one more character. -/
def HexDigits.push (h : HexDigits) (c : Char) : HexDigits :=
  ⟨h.bytes + c.utf8Size, h.value.bind fun v => (hexValue? c).map (v * 16 + ·)⟩

/-- Where the reader stands in a string. -/
inductive LiteralPhase where
  /-- Between characters. -/
  | plain
  /-- After a backslash. -/
  | escape
  /-- In the digits of a unit. -/
  | unit (digits : HexDigits)
  /-- After the first half of a surrogate pair. -/
  | half (high : Nat)
  /-- After the backslash behind the first half of a surrogate pair. -/
  | halfEscape (high : Nat)
  /-- In the digits of the second half of a surrogate pair. -/
  | lowUnit (high : Nat) (digits : HexDigits)
deriving DecidableEq, Repr

/-- What a character does to a string. -/
inductive LiteralStep where
  /-- On, with a character of the text if one is complete. -/
  | more (read : Option Char) (next : LiteralPhase)
  /-- The character closes the string. -/
  | closed
  /-- The reader stops, `advance` bytes behind the start of the character. -/
  | fault (cause : Cause) (advance : Nat)
deriving DecidableEq, Repr

/-- The character that a one-letter escape stands for. -/
def escaped? (c : Char) : Option Char :=
  match c with
  | '"' => some '"'
  | '\\' => some '\\'
  | '/' => some '/'
  | 'b' => some '\x08'
  | 'f' => some '\x0c'
  | 'n' => some '\n'
  | 'r' => some '\r'
  | 't' => some '\t'
  | _ => none

/-- Whether a unit is the first half of a surrogate pair. -/
def isHighSurrogate (unit : Nat) : Bool :=
  decide (0xD800 ≤ unit) && decide (unit ≤ 0xDBFF)

/-- Whether a unit is the second half of a surrogate pair. -/
def isLowSurrogate (unit : Nat) : Bool :=
  decide (0xDC00 ≤ unit) && decide (unit ≤ 0xDFFF)

/-- The character of a surrogate pair. -/
def ofSurrogates (high low : Nat) : Char :=
  Char.ofNat (0x10000 + (high - 0xD800) * 0x400 + (low - 0xDC00))

/-- A character among the digits of a unit.  Once four bytes are read, `settle` looks at the unit; a
character that was no digit is found only then. -/
def digitStep (digits : HexDigits) (c : Char) (collecting : HexDigits → LiteralPhase)
    (settle : Nat → LiteralStep) : LiteralStep :=
  let digits' := digits.push c
  if digits'.bytes < HexDigits.width then .more none (collecting digits')
  else
    match digits'.value with
    | none => .fault .invalidEscape (HexDigits.width - digits.bytes)
    | some unit => settle unit

/-- One more character of a string. -/
def LiteralPhase.step : LiteralPhase → Char → LiteralStep
  | .plain, c =>
    if c = '"' then .closed
    else if c = '\\' then .more none .escape
    else if c.toNat < 0x20 then .fault .controlCharacter 1
    else .more (some c) .plain
  | .escape, c =>
    if c = 'u' then .more none (.unit .start)
    else
      match escaped? c with
      | some d => .more (some d) .plain
      | none => .fault .invalidEscape 1
  | .unit digits, c =>
    digitStep digits c .unit fun unit =>
      if isLowSurrogate unit then .fault .loneSurrogate 1
      else if isHighSurrogate unit then .more none (.half unit)
      else .more (some (Char.ofNat unit)) .plain
  | .half high, c => if c = '\\' then .more none (.halfEscape high) else .fault .missingSurrogate 1
  | .halfEscape high, c =>
    if c = 'u' then .more none (.lowUnit high .start) else .fault .missingSurrogate 1
  | .lowUnit high digits, c =>
    digitStep digits c (.lowUnit high) fun unit =>
      if isLowSurrogate unit then .more (some (ofSurrogates high unit)) .plain
      else .fault .loneSurrogate 1

end LiveJson.Json
