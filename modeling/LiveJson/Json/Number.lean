import LiveJson.Decimal.Shortest

/-!
# Numbers of a document

A number is of one of three classes: a natural number below 2^64, a negative integer down to -2^63,
or a finite double.  The class is part of the number, so `1` and `1.0` differ.

## What is here

* `Number`, and its equality `==`: within a class by value, where doubles are compared as floating
  point does (`0.0 == -0.0`).
* `Number.ofInteger?` and `Number.ofParts?` — the number that a numeral means.  A numeral with a
  fraction or an exponent is put together by at most one rounding of the digits and one rounding
  for the power of ten, and so may miss the nearest double by a unit in the last place.
* `Number.text` — the number as it is written.  A double is written with the fewest digits that
  read back, in positional form for first-digit exponents from -5 to 15.
-/

set_option autoImplicit false

namespace LiveJson.Json

/-- A number of a document. -/
inductive Number where
  /-- A natural number of at most 64 bits. -/
  | natural (value : Nat) (lt : value < UInt64.size)
  /-- The negative of `magnitude`, an integer of 64 bits with sign. -/
  | negative (magnitude : Nat) (bounds : 1 ≤ magnitude ∧ magnitude ≤ UInt64.size / 2)
  /-- A finite double. -/
  | float (value : Float) (finite : value.isFinite = true)

/-- Numbers are equal when they are of one class and have one value.  Doubles are compared as
floating point does. -/
def Number.beq : Number → Number → Bool
  | .natural m _, .natural n _ => m == n
  | .negative m _, .negative n _ => m == n
  | .float x _, .float y _ => x == y
  | _, _ => false

instance : BEq Number := ⟨Number.beq⟩

/-- Whether the number is a double. -/
def Number.isFloat : Number → Bool
  | .float _ _ => true
  | _ => false

/-! ## What a numeral means -/

/-- The double, if it is finite. -/
def Number.ofFloat? (x : Float) : Option Number :=
  if h : x.isFinite = true then some (.float x h) else none

/-- The greatest exponent of a power of ten among the doubles. -/
def maxPowerOfTen : Nat := 308

/-- The double `10^k`, rounded once. -/
def powerOfTen (k : Nat) : Float :=
  Float.ofScientific 1 false k

/-- Multiplies by a power of ten, in steps that stay within the powers of ten among the doubles.
There is no result when the product is too large for a double. -/
def scale (x : Float) (exponent : Int) : Option Float :=
  if exponent.natAbs ≤ maxPowerOfTen then
    if exponent < 0 then some (x / powerOfTen exponent.natAbs)
    else
      let product := x * powerOfTen exponent.natAbs
      if product.isInf then none else some product
  else if x == 0 then some x
  else if 0 < exponent then none
  else scale (x / powerOfTen maxPowerOfTen) (exponent + maxPowerOfTen)
termination_by exponent.natAbs
decreasing_by simp only [maxPowerOfTen] at *; omega

/-- A double with a sign. -/
def withSign (isNegative : Bool) (x : Float) : Float :=
  if isNegative then -x else x

/-- The number `± significand · 10^exponent` as a double, if it is not too large. -/
def Number.ofParts? (isNegative : Bool) (significand : Fin UInt64.size) (exponent : Int) :
    Option Number :=
  (scale (UInt64.ofNat significand.val).toFloat exponent).bind fun x =>
    Number.ofFloat? (withSign isNegative x)

/-- An integer numeral within 64 bits.  With a minus sign it is a negative integer as long as 64
bits can hold it with its sign, and a double otherwise; so is `-0`. -/
def Number.ofInteger? (isNegative : Bool) (significand : Fin UInt64.size) : Option Number :=
  if isNegative then
    if h : 1 ≤ significand.val ∧ significand.val ≤ UInt64.size / 2 then
      some (.negative significand.val h)
    else Number.ofParts? true significand 0
  else some (.natural significand.val significand.isLt)

/-! ## How a number is written -/

/-- How doubles are laid out: the exponents of the first digit that are written positionally. -/
structure FloatLayout where
  lowestPositional : Int
  highestPositional : Int

/-- Doubles from 0.00001 to below 10^16 are written positionally. -/
def floatLayout : FloatLayout := ⟨-5, 15⟩

/-- Positional form of the digits when the first one stands at `10^exponent`.  There is always a
digit on either side of the point. -/
def positional (digits : List Char) (exponent : Int) : List Char :=
  if exponent < 0 then
    ['0', '.'] ++ List.replicate (-exponent - 1).toNat '0' ++ digits
  else
    let whole := exponent.toNat + 1
    let fraction := digits.drop whole
    digits.take whole ++ List.replicate (whole - digits.length) '0' ++ ['.'] ++
      (if fraction.isEmpty then ['0'] else fraction)

/-- Form with an exponent: one digit before the point, a point only if digits follow, and the
exponent with its sign. -/
def exponential (digits : List Char) (exponent : Int) : List Char :=
  digits.take 1 ++ (if digits.length ≤ 1 then [] else '.' :: digits.drop 1) ++
    ['e', if exponent < 0 then '-' else '+'] ++ Nat.toDigits 10 exponent.natAbs

/-- The magnitude of a finite double. -/
def magnitudeText (x : Float) : List Char :=
  let b := Binary.ofFloat x
  if b.significand = 0 then positional ['0'] 0
  else
    let d := b.shortest
    let written := Nat.toDigits 10 d.digits
    let exponent := d.exponent + written.length - 1
    let digits := (written.reverse.dropWhile (· == '0')).reverse
    if floatLayout.lowestPositional ≤ exponent ∧ exponent ≤ floatLayout.highestPositional then
      positional digits exponent
    else exponential digits exponent

/-- Whether the sign bit of a double is set; it is for `-0.0`. -/
def isSigned (x : Float) : Bool :=
  decide (UInt64.size / 2 ≤ x.toBits.toNat)

/-- The characters of a number. -/
def Number.chars : Number → List Char
  | .natural n _ => Nat.toDigits 10 n
  | .negative m _ => '-' :: Nat.toDigits 10 m
  | .float x _ => if isSigned x then '-' :: magnitudeText x else magnitudeText x

/-- A number as it is written. -/
def Number.text (n : Number) : String :=
  String.ofList n.chars

end LiveJson.Json
