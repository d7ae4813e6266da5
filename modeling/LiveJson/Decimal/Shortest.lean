/-!
# The shortest decimal that reads back

A binary floating-point number stands for every real that rounds to it.  Among the decimals in that
interval, `Binary.shortest` picks one with the fewest digits, and of those with equally many the one
closest to the number itself.

## What is here

* `Binary` — a number `m · 2^q`, and `Binary.ofFloat`, which reads it off the bits of a float.
* `Decimal` — a number `d · 10^k`, and the exact comparison with a binary number, done on natural
  numbers alone.
* `Binary.holds` — whether a decimal lies in the interval of reals that round to a number.
* `Binary.shortest` — grids of 1, 2, … 17 digits are tried in turn.  On each of them only the two
  neighbours of the number matter: if any point of the grid lies in the interval, one of these does.
-/

set_option autoImplicit false

namespace LiveJson

/-! ## Binary and decimal numbers -/

/-- The number `significand · 2^exponent`. -/
structure Binary where
  significand : Nat
  exponent : Int
deriving DecidableEq, Repr

/-- The number `digits · 10^exponent`. -/
structure Decimal where
  digits : Nat
  exponent : Int
deriving DecidableEq, Repr

/-- The least exponent of a double. -/
def Binary.leastExponent : Int := -1074

/-- The least significand of a double that has all its 53 bits, `2^52`. -/
def Binary.leastFull : Nat := 0x10000000000000

/-- The power `2^n`. -/
def twoTo (n : Nat) : Nat :=
  Nat.pow 2 n

/-- The power `10^n`. -/
def tenTo (n : Nat) : Nat :=
  Nat.pow 10 n

/-- The magnitude of a finite float: 52 bits of fraction, with a leading one unless the exponent
field is zero. -/
def Binary.ofFloat (x : Float) : Binary :=
  let bits : Nat := x.toBits.toNat
  let fraction : Nat := bits % Binary.leastFull
  let field : Nat := bits / Binary.leastFull % 2048
  if field = 0 then ⟨fraction, Binary.leastExponent⟩
  else ⟨Binary.leastFull + fraction, (field : Int) - 1075⟩

/-- Compares a decimal with a binary number.  Both sides are multiplied by the powers that stand in
a denominator, so that nothing is rounded. -/
def Decimal.compare (d : Decimal) (b : Binary) : Ordering :=
  Ord.compare
    (d.digits * tenTo d.exponent.toNat * twoTo (-b.exponent).toNat)
    (b.significand * twoTo b.exponent.toNat * tenTo (-d.exponent).toNat)

/-- The greatest `d` with `d · 10^k` not above the number. -/
def Binary.floorAt (b : Binary) (k : Int) : Nat :=
  b.significand * twoTo b.exponent.toNat * tenTo (-k).toNat /
    (tenTo k.toNat * twoTo (-b.exponent).toNat)

/-- How many decimal digits a natural number has; zero has one. -/
def digitCount (n : Nat) : Nat :=
  (Nat.toDigits 10 n).length

/-- The exponent of the first decimal digit of a number that is not zero. -/
def Binary.magnitude (b : Binary) : Int :=
  let whole := b.floorAt 0
  if whole ≠ 0 then (digitCount whole : Int) - 1
  else -(digitCount ((twoTo (-b.exponent).toNat - 1) / b.significand) : Int)

/-! ## The interval that rounds to a number -/

/-- The lower end of the interval, half a step below the number.  Below a power of two the steps are
half as long, unless the exponent is the least there is. -/
def Binary.lowerEnd (b : Binary) : Binary :=
  let quarters :=
    if b.significand = Binary.leastFull ∧ Binary.leastExponent < b.exponent then 1 else 2
  ⟨4 * b.significand - quarters, b.exponent - 2⟩

/-- The upper end of the interval, half a step above the number. -/
def Binary.upperEnd (b : Binary) : Binary :=
  ⟨4 * b.significand + 2, b.exponent - 2⟩

/-- Whether a decimal rounds to the number.  A tie between two neighbours goes to the one with the
even significand, so the ends belong to the interval exactly if the significand is even. -/
def Binary.holds (b : Binary) (d : Decimal) : Bool :=
  match d.compare b.lowerEnd, d.compare b.upperEnd with
  | .gt, .lt => true
  | .eq, _ | _, .eq => b.significand % 2 == 0
  | _, _ => false

/-! ## The search -/

/-- The better of two neighbouring grid points around the number: the nearer one, and the even one
if both are equally near. -/
def Binary.nearer (b : Binary) (low : Decimal) : Decimal :=
  let high : Decimal := ⟨low.digits + 1, low.exponent⟩
  match Decimal.compare ⟨2 * low.digits + 1, low.exponent⟩ ⟨b.significand, b.exponent + 1⟩ with
  | .gt => low
  | .lt => high
  | .eq => if low.digits % 2 = 0 then low else high

/-- The best decimal of `n` digits that reads back as the number, if there is one. -/
def Binary.onGrid (b : Binary) (n : Nat) : Option Decimal :=
  let k : Int := b.magnitude + 1 - n
  let low : Decimal := ⟨b.floorAt k, k⟩
  let high : Decimal := ⟨low.digits + 1, k⟩
  match b.holds low, b.holds high with
  | true, true => some (b.nearer low)
  | true, false => some low
  | false, true => some high
  | false, false => none

/-- How many digits always suffice for a double. -/
def Binary.maxDigits : Nat := 17

/-- **The shortest decimal that reads back as the number,** the closest one if there are several.
Seventeen digits always suffice, so the last alternative is never taken. -/
def Binary.shortest (b : Binary) : Decimal :=
  ((List.range' 1 Binary.maxDigits).findSome? b.onGrid).getD ⟨b.significand, 0⟩

end LiveJson
