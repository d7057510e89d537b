import LedgerNet.Number.Power

/-!
# Binary floating-point numbers

Delegation fee rates are binary numbers of 24 bits, and the numbers of a
JSON document that are not whole are binary numbers of 53 bits. Neither is
computed with here. All that matters is which binary number a decimal text
stands for, and which decimal text a binary number is shown as, and both
have an exact answer in whole numbers:

* a text stands for the **nearest** binary number, a tie going to the even
  significand;
* a binary number is shown with the **fewest digits** that read back as
  itself, and among those with the nearest ones.

A finite number is kept as `significand * 2 ^ exponent`, so no bit pattern
is ever taken apart.
-/

namespace LedgerNet

/-- A binary format: how many bits a significand has, and the range of the
exponents that go with it. -/
structure BinaryFormat where
  /-- Bits of the significand. -/
  precision : Nat
  /-- The least exponent; a number with it may have a short significand. -/
  leastExponent : Int
  /-- The greatest exponent of a finite number. -/
  greatestExponent : Int

/-- The format of 32 bits. -/
def BinaryFormat.single : BinaryFormat := ⟨24, -149, 104⟩

/-- The format of 64 bits. -/
def BinaryFormat.double : BinaryFormat := ⟨53, -1074, 971⟩

/-- **A binary number**: signed, and possibly infinite or no number at
all. -/
inductive Binary where
  | finite (negative : Bool) (significand : Nat) (exponent : Int)
  | infinite (negative : Bool)
  | notANumber
  deriving DecidableEq, Repr

/-- The whole number nearest to `numerator / denominator`, a tie going to
the even one. -/
def roundHalfEven (numerator denominator : Nat) : Nat :=
  let quotient := numerator / denominator
  let twice := 2 * (numerator % denominator)
  if twice < denominator then quotient
  else if denominator < twice then quotient + 1
  else if quotient % 2 = 0 then quotient else quotient + 1

/-- A quotient divided by a power of two, as numerator and denominator. -/
def overPowerOfTwo (numerator denominator : Nat) (exponent : Int) : Nat × Nat :=
  if 0 ≤ exponent then (numerator, denominator * 2 ^ exponent.toNat)
  else (numerator * 2 ^ (-exponent).toNat, denominator)

namespace BinaryFormat

/-- **The nearest number of the format** to a quotient of whole numbers. -/
def nearest (format : BinaryFormat) (negative : Bool) (numerator denominator : Nat) : Binary :=
  if numerator = 0 then .finite negative 0 format.leastExponent
  else
    let magnitude : Int := (Nat.log2 numerator : Int) - (Nat.log2 denominator : Int)
    -- the first guess is exact or one too small
    let guess : Int := max format.leastExponent (magnitude - format.precision)
    let trial := overPowerOfTwo numerator denominator guess
    let exponent : Int :=
      if 2 ^ format.precision ≤ trial.1 / trial.2 then guess + 1 else guess
    let scaled := overPowerOfTwo numerator denominator exponent
    let rounded := roundHalfEven scaled.1 scaled.2
    let (significand, exponent) :=
      if rounded = 2 ^ format.precision then (rounded / 2, exponent + 1) else (rounded, exponent)
    if format.greatestExponent < exponent then .infinite negative
    else .finite negative significand exponent

/-- The nearest number of the format to `digits * 10 ^ exponent`. A number
with so many digits before or after the point that no format reaches it is
answered without computing the power. -/
def ofDecimal (format : BinaryFormat) (negative : Bool) (digits : Nat) (exponent : Int) : Binary :=
  if digits = 0 then .finite negative 0 format.leastExponent
  else
    let length : Int := (Nat.toDigits 10 digits).length
    if 400 < length + exponent then .infinite negative
    else if length + exponent < -400 then .finite negative 0 format.leastExponent
    else if 0 ≤ exponent then format.nearest negative (digits * 10 ^ exponent.toNat) 1
    else format.nearest negative digits (10 ^ (-exponent).toNat)

end BinaryFormat

/-! ## The shortest digits -/

/-- A decimal number `digits * 10 ^ exponent`. -/
structure DecimalDigits where
  digits : Nat
  exponent : Int
  deriving DecidableEq, Repr

/-- The numbers that round to a given one, as quarters of its last place:
from `low` to `high`, ends included when `closed`. -/
structure RoundingInterval where
  low : Nat
  value : Nat
  high : Nat
  closed : Bool
  exponent : Int

/-- **The interval of a finite number.** Half a place to each side, but only
a quarter below a power of two, where the numbers stand twice as close. -/
def BinaryFormat.interval (format : BinaryFormat) (significand : Nat) (exponent : Int) :
    RoundingInterval where
  low :=
    if significand = 2 ^ (format.precision - 1) ∧ format.leastExponent < exponent
    then 4 * significand - 1 else 4 * significand - 2
  value := 4 * significand
  high := 4 * significand + 2
  closed := significand % 2 = 0
  exponent := exponent - 2

namespace RoundingInterval

/-- Two numbers brought to one scale: `digits * 10 ^ place` and
`quarters * 2 ^ exponent`. -/
def scaled (digits : Nat) (place : Int) (quarters : Nat) (exponent : Int) : Nat × Nat :=
  (digits * 10 ^ place.toNat * 2 ^ (-exponent).toNat,
    quarters * 2 ^ exponent.toNat * 10 ^ (-place).toNat)

/-- Whether a decimal number rounds to the number of the interval. -/
def holds (i : RoundingInterval) (digits : Nat) (place : Int) : Bool :=
  let below := scaled digits place i.low i.exponent
  let above := scaled digits place i.high i.exponent
  if i.closed then below.2 ≤ below.1 && above.1 ≤ above.2
  else below.2 < below.1 && above.1 < above.2

/-- The multiple of `10 ^ place` just below the value. -/
def floorAt (i : RoundingInterval) (place : Int) : Nat :=
  let pair := scaled 1 place i.value i.exponent
  pair.2 / pair.1

/-- Whether the value lies past the middle between `digits` and its
successor on the grid, or in the middle with an odd lower end. -/
def roundsUp (i : RoundingInterval) (digits : Nat) (place : Int) : Bool :=
  let pair := scaled (2 * digits + 1) place (2 * i.value) i.exponent
  pair.1 < pair.2 || (pair.1 == pair.2 && digits % 2 == 1)

/-- The grid point next to the value that reads back, the nearer of two. -/
def onGrid? (i : RoundingInterval) (place : Int) : Option DecimalDigits :=
  let lower := i.floorAt place
  match i.holds lower place && lower != 0, i.holds (lower + 1) place with
  | true, true => some ⟨if i.roundsUp lower place then lower + 1 else lower, place⟩
  | true, false => some ⟨lower, place⟩
  | false, true => some ⟨lower + 1, place⟩
  | false, false => none

/-- The first grid with a point that reads back, from the coarsest one
on. -/
def firstGrid (i : RoundingInterval) : Nat → Int → DecimalDigits
  | 0, place => ⟨i.floorAt place, place⟩
  | finer + 1, place =>
    match i.onGrid? place with
    | some digits => digits
    | none => i.firstGrid finer (place - 1)

end RoundingInterval

/-- A decimal number without the zeros at its end. -/
def DecimalDigits.stripped (d : DecimalDigits) : DecimalDigits :=
  let reversed := (Nat.toDigits 10 d.digits).reverse
  let zeros := (reversed.takeWhile (· == '0')).length
  if d.digits = 0 then ⟨0, 0⟩ else ⟨d.digits / 10 ^ zeros, d.exponent + zeros⟩

/-- **The fewest digits that read back** as a finite number other than
zero. The search starts at a power of ten above the number and refines the
grid one place at a time; twenty places are more than any format needs. -/
def BinaryFormat.shortest (format : BinaryFormat) (significand : Nat) (exponent : Int) :
    DecimalDigits :=
  let magnitude : Int := (Nat.log2 significand : Int) + exponent
  -- a decimal exponent that is at least that of the number
  let place : Int := magnitude * 30103 / 100000 + 2
  ((format.interval significand exponent).firstGrid 20 place).stripped

/-! ## Positional text -/

/-- The digits of a decimal number with its point in place and no
exponent. -/
def DecimalDigits.positional (d : DecimalDigits) : String :=
  let digits := Nat.toDigits 10 d.digits
  if 0 ≤ d.exponent then
    String.ofList (digits ++ List.replicate d.exponent.toNat '0')
  else
    let places := (-d.exponent).toNat
    if digits.length ≤ places then
      String.ofList (['0', '.'] ++ List.replicate (places - digits.length) '0' ++ digits)
    else
      String.ofList (digits.take (digits.length - places) ++ ['.']
        ++ digits.drop (digits.length - places))

end LedgerNet
