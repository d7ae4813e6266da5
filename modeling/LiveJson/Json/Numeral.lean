import LiveJson.Json.Cause
import LiveJson.Json.Number
import LiveJson.Text.Numeral

/-!
# Numbers, read character by character

A numeral is an optional minus sign, an integer part without leading zeros, an optional fraction and
an optional exponent.  It has no closing character: it ends where the next character cannot go on
with it, or with the text.

## What is here

* `NumeralPhase` — which part of a numeral is being read, with the value of what has been read.
  Digits are collected in a significand of 64 bits.  Where they no longer fit, those of the integer
  part are only counted and those of the fraction are dropped.
* `NumeralPhase.step` — one more character: on, not part of the numeral any more, or a fault.
* `NumeralPhase.finish` — the number that has been read.
-/

set_option autoImplicit false

namespace LiveJson.Json

/-- The significand of a numeral. -/
abbrev Significand := Fin UInt64.size

/-- The significand with one more digit, if 64 bits can hold it. -/
def appendDigit (s : Significand) (digit : Nat) : Option Significand :=
  if h : s.val * 10 + digit < UInt64.size then some ⟨s.val * 10 + digit, h⟩ else none

/-- The value of a decimal digit. -/
def digitValue (c : Char) : Nat :=
  c.toNat - '0'.toNat

/-- The significand of a numeral without digits, or of zeros alone. -/
def Significand.zero : Significand := ⟨0, Text.size_pos⟩

/-- A digit as a significand. -/
def Significand.ofDigit (c : Char) : Significand :=
  ⟨digitValue c % UInt64.size, Nat.mod_lt _ Text.size_pos⟩

/-- The greatest exponent that is read digit by digit. -/
def maxExponent : Nat := 0x7FFFFFFF

/-- The part of a numeral that is being read.  Where both are known, `exponent` says by which power
of ten the significand is to be multiplied. -/
inductive NumeralPhase where
  /-- After the minus sign. -/
  | sign
  /-- After a leading zero. -/
  | zero
  /-- In the integer part. -/
  | whole (significand : Significand)
  /-- In the integer part, `extra` digits behind what the significand can hold. -/
  | long (significand : Significand) (extra : Nat)
  /-- After the point. -/
  | point (significand : Significand) (exponent : Int)
  /-- In the fraction. -/
  | fraction (significand : Significand) (exponent : Int)
  /-- In the fraction, behind what the significand can hold. -/
  | surplus (significand : Significand) (exponent : Int)
  /-- After the exponent mark. -/
  | mark (significand : Significand) (exponent : Int)
  /-- After the sign of the exponent. -/
  | markSign (significand : Significand) (exponent : Int) (down : Bool)
  /-- In the digits of the exponent. -/
  | power (significand : Significand) (exponent : Int) (down : Bool) (digits : Nat)
  /-- In an exponent so large that the number is zero. -/
  | vanished
deriving DecidableEq, Repr

/-- What a character does to a numeral. -/
inductive NumeralStep where
  /-- The character belongs to the numeral. -/
  | more (next : NumeralPhase)
  /-- The numeral ended before the character. -/
  | ended
  /-- The character cannot stand there. -/
  | fault (cause : Cause)
deriving DecidableEq, Repr

/-- Whether a character is an exponent mark. -/
def isExponentMark (c : Char) : Bool :=
  c == 'e' || c == 'E'

/-- Behind the integer part: a point, an exponent mark, or the end. -/
def afterWhole (s : Significand) (extra : Nat) (c : Char) : NumeralStep :=
  if c = '.' then .more (.point s extra)
  else if isExponentMark c then .more (.mark s extra)
  else .ended

/-- A digit of the fraction. -/
def fractionDigit (s : Significand) (exponent : Int) (c : Char) : NumeralPhase :=
  match appendDigit s (digitValue c) with
  | some s' => .fraction s' (exponent - 1)
  | none => .surplus s exponent

/-- A digit of the exponent.  When the exponent gets too large, the number is zero, or it is out of
range. -/
def powerDigit (s : Significand) (exponent : Int) (down : Bool) (digits : Nat) (c : Char) :
    NumeralStep :=
  let digits' := digits * 10 + digitValue c
  if digits' ≤ maxExponent then .more (.power s exponent down digits')
  else if s.val ≠ 0 ∧ down = false then .fault .numberOutOfRange
  else .more .vanished

/-- One more character of a numeral. -/
def NumeralPhase.step : NumeralPhase → Char → NumeralStep
  | .sign, c =>
    if c = '0' then .more .zero
    else if c.isDigit then .more (.whole (.ofDigit c))
    else .fault .invalidNumber
  | .zero, c => if c.isDigit then .fault .invalidNumber else afterWhole .zero 0 c
  | .whole s, c =>
    if c.isDigit then
      match appendDigit s (digitValue c) with
      | some s' => .more (.whole s')
      | none => .more (.long s 1)
    else afterWhole s 0 c
  | .long s extra, c => if c.isDigit then .more (.long s (extra + 1)) else afterWhole s extra c
  | .point s e, c => if c.isDigit then .more (fractionDigit s e c) else .fault .invalidNumber
  | .fraction s e, c =>
    if c.isDigit then .more (fractionDigit s e c)
    else if isExponentMark c then .more (.mark s e)
    else .ended
  | .surplus s e, c =>
    if c.isDigit then .more (.surplus s e)
    else if isExponentMark c then .more (.mark s e)
    else .ended
  | .mark s e, c =>
    if c = '+' then .more (.markSign s e false)
    else if c = '-' then .more (.markSign s e true)
    else if c.isDigit then powerDigit s e false 0 c
    else .fault .invalidNumber
  | .markSign s e down, c =>
    if c.isDigit then powerDigit s e down 0 c else .fault .invalidNumber
  | .power s e down digits, c => if c.isDigit then powerDigit s e down digits c else .ended
  | .vanished, c => if c.isDigit then .more .vanished else .ended

/-- A number made of parts, or the fault that it is out of range. -/
def numberOfParts (isNegative : Bool) (s : Significand) (exponent : Int) : Except Cause Number :=
  match Number.ofParts? isNegative s exponent with
  | some n => .ok n
  | none => .error .numberOutOfRange

/-- An integer, or the fault that it is out of range. -/
def numberOfInteger (isNegative : Bool) (s : Significand) : Except Cause Number :=
  match Number.ofInteger? isNegative s with
  | some n => .ok n
  | none => .error .numberOutOfRange

/-- The number that has been read, if the numeral may end here. -/
def NumeralPhase.finish (isNegative : Bool) : NumeralPhase → Except Cause Number
  | .sign | .point _ _ | .mark _ _ | .markSign _ _ _ => .error .endInValue
  | .zero => numberOfInteger isNegative .zero
  | .whole s => numberOfInteger isNegative s
  | .long s extra => numberOfParts isNegative s extra
  | .fraction s e | .surplus s e => numberOfParts isNegative s e
  | .power s e down digits => numberOfParts isNegative s (if down then e - digits else e + digits)
  | .vanished => numberOfParts isNegative .zero 0

end LiveJson.Json
