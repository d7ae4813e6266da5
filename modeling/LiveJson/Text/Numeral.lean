/-!
# Numerals of 64 bits

Reading a natural number below 2^64 from its decimal digits, for list indices and for numbers on the
command line.  A plus sign may come first and zeros may lead.  The first character that cannot go
on decides the fault, so `99999999999999999999x` is too large rather than badly spelt.
-/

set_option autoImplicit false

namespace LiveJson.Text

/-- Why a text is no numeral. -/
inductive NumeralFault where
  /-- There is no character. -/
  | empty
  /-- A character is no digit, or there is only a sign. -/
  | invalidDigit
  /-- The number is 2^64 or more. -/
  | tooLarge
deriving DecidableEq, Repr

/-- The fault in words. -/
def NumeralFault.message : NumeralFault → String
  | .empty => "cannot parse integer from empty string"
  | .invalidDigit => "invalid digit found in string"
  | .tooLarge => "number too large to fit in target type"

/-- Zero is a number of 64 bits. -/
theorem size_pos : 0 < UInt64.size := by decide

/-- Reads digits behind those whose value is `n`. -/
def readDigits : Fin UInt64.size → List Char → Except NumeralFault (Fin UInt64.size)
  | n, [] => .ok n
  | n, c :: cs =>
    if c.isDigit then
      if h : n.val * 10 + (c.toNat - '0'.toNat) < UInt64.size then readDigits ⟨_, h⟩ cs
      else .error .tooLarge
    else .error .invalidDigit

/-- Reads a numeral: digits, with a plus sign allowed before them. -/
def readNumeral (text : String) : Except NumeralFault (Fin UInt64.size) :=
  match text.toList with
  | [] => .error .empty
  | ['+'] => .error .invalidDigit
  | '+' :: cs => readDigits ⟨0, size_pos⟩ cs
  | cs => readDigits ⟨0, size_pos⟩ cs

end LiveJson.Text
