import ObjectSpec.Decimal.Binary64
import ObjectSpec.Text.Basic

/-!
# Decimal numerals

A decimal numeral is a coefficient and a power of ten. It is read from digits on
both sides of a point and an exponent, and it is rounded to the binary format in
one step. The other way around, a binary64 number is written with the shortest
numeral that reads back as the number.
-/

namespace ObjectSpec

/-- The magnitude `coefficient * 10 ^ exponent`. -/
structure Decimal where
  /-- The digits, read as one number. -/
  coefficient : Nat
  /-- The power of ten. -/
  exponent : Int
  deriving DecidableEq

namespace Decimal

/-- The numeral with the given digits before and after the point. -/
def ofDigits (whole fraction : List Nat) (exponent : Int) : Decimal where
  coefficient := Text.numberOfDigits 10 (whole ++ fraction)
  exponent := exponent - fraction.length

/-- A power of ten that the coefficient stays below, as `2 ^ 3 < 10`. -/
def widthBound (numeral : Decimal) : Nat :=
  numeral.coefficient.log2 / 3 + 1

/-- The binary64 number nearest to a signed numeral; none if its magnitude is
beyond the format. Magnitudes below `10 ^ -330` round to zero, and those from
`10 ^ 310` on are out of range, so the powers of ten that are computed stay
small. -/
def toBinary64? (numeral : Decimal) (negative : Bool) : Option Binary64 :=
  if numeral.coefficient = 0 then some (.zero negative)
  else if numeral.exponent + numeral.widthBound ≤ -330 then
    some (.zero negative)
  else if 310 ≤ numeral.exponent then none
  else
    match numeral.exponent with
    | .ofNat power =>
        Binary64.ofNat? negative (numeral.coefficient * tenTo power)
    | .negSucc power =>
        Binary64.ofQuotient? negative numeral.coefficient (tenTo (power + 1))

end Decimal

/-!
## Shortest decimal digits

A binary64 number is written with the fewest significant digits that still read
back as the same number. Among numerals of that length the nearest one is taken,
and of two equally near ones the one with an even last digit. Every magnitude
that rounds to the number lies in an interval around it, whose ends belong to it
exactly when the significand is even.
-/

/-- The number of decimal digits of a natural number; zero has one. -/
def decimalWidth (number : Nat) : Nat :=
  (Nat.toDigits 10 number).length

/-- The numeral that follows another one on the grid of its power of ten. -/
def Decimal.next (numeral : Decimal) : Decimal :=
  ⟨numeral.coefficient + 1, numeral.exponent⟩

namespace Binary64

/-- Four times the magnitude, in units. Quarters of a unit are the finest
distances that rounding compares. -/
def quarterUnits (number : Binary64) : Nat :=
  4 * number.units

/-- Half the distance to the next greater magnitude, in quarters of a unit. -/
def upperHalfGap (number : Binary64) : Nat :=
  2 * twoTo number.scale

/-- Half the distance to the next smaller magnitude, in quarters of a unit.
Below a power of two the numbers lie twice as close. -/
def lowerHalfGap (number : Binary64) : Nat :=
  if number.significand = twoTo 52 ∧ number.scale ≠ 0 then twoTo number.scale
  else 2 * twoTo number.scale

/-- A numeral's magnitude as a fraction of quarters of a unit. -/
def quarterFraction (numeral : Decimal) : Nat × Nat :=
  match numeral.exponent with
  | .ofNat power => (numeral.coefficient * tenTo power * (4 * unitsPerOne), 1)
  | .negSucc power =>
      (numeral.coefficient * (4 * unitsPerOne), tenTo (power + 1))

/-- Whether a numeral reads back as the number, apart from its sign. -/
def readsBack (number : Binary64) (numeral : Decimal) : Bool :=
  let (position, denominator) := quarterFraction numeral
  let lowest := (number.quarterUnits - number.lowerHalfGap) * denominator
  let highest := (number.quarterUnits + number.upperHalfGap) * denominator
  if number.significand % 2 = 0 then lowest ≤ position && position ≤ highest
  else lowest < position && position < highest

/-- The power of ten of the first digit of a positive magnitude. The least one
is above `10 ^ -400`, so `10 ^ 400` times the magnitude has a whole part. -/
def leadingExponent (number : Binary64) : Int :=
  (decimalWidth (number.units * tenTo 400 / unitsPerOne) : Int) - 401

/-- The greatest numeral with the given power of ten that is not above the
number. -/
def below (number : Binary64) (exponent : Int) : Decimal :=
  match exponent with
  | .ofNat power => ⟨number.units / (unitsPerOne * tenTo power), exponent⟩
  | .negSucc power =>
      ⟨number.units * tenTo (power + 1) / unitsPerOne, exponent⟩

/-- Of the two neighbours on a grid, the nearer one, a tie to the even one. -/
def nearer (number : Binary64) (lower : Decimal) : Decimal :=
  let (lowerPosition, denominator) := quarterFraction lower
  let (upperPosition, _) := quarterFraction lower.next
  let position := number.quarterUnits * denominator
  let lowerDistance := position - lowerPosition
  let upperDistance := upperPosition - position
  if lowerDistance < upperDistance then lower
  else if upperDistance < lowerDistance then lower.next
  else if lower.coefficient % 2 = 0 then lower
  else lower.next

/-- The best numeral on the grid of a power of ten that reads back, if one
does. -/
def onGrid? (number : Binary64) (exponent : Int) : Option Decimal :=
  let lower := number.below exponent
  match number.readsBack lower, number.readsBack lower.next with
  | true, true => some (number.nearer lower)
  | true, false => some lower
  | false, true => some lower.next
  | false, false => none

/-- The shortest numeral that reads back as a number, apart from its sign. Grids
of one digit to seventeen digits are tried in turn, and the last one always has
such a numeral. -/
def shortest (number : Binary64) : Decimal :=
  if number.isZero then ⟨0, 0⟩
  else
    let leading := number.leadingExponent
    let tried := (List.range 17).findSome? fun (extraDigits : Nat) =>
      number.onGrid? (leading - extraDigits)
    tried.getD (number.below (leading - 16))

end Binary64

/-!
## Notation of binary64 numbers

A number is written with its shortest digits. Where the first digit has a power
of ten from `-5` to `15` they stand around a point, with at least one digit on
either side of it. All other numbers have one digit before the point, no point
without a digit after it, and a signed exponent.
-/

/-- The least power of ten of a first digit that is written around a point. -/
def leastPositional : Int := -5

/-- The greatest power of ten of a first digit that is written around a
point. -/
def greatestPositional : Int := 15

/-- The digits of a numeral without the zeros at the end. -/
def Decimal.significantDigits (numeral : Decimal) : List Char :=
  ((Nat.toDigits 10 numeral.coefficient).reverse.dropWhile (· == '0')).reverse

/-- The power of ten of a numeral's first digit. -/
def Decimal.leadingExponent (numeral : Decimal) : Int :=
  numeral.exponent + decimalWidth numeral.coefficient - 1

/-- Digits around a point, the first of them at a power of ten. -/
def positional (digits : List Char) (leading : Int) : List Char :=
  match leading with
  | .ofNat power =>
      let whole := digits.take (power + 1)
      let fraction := digits.drop (power + 1)
      whole ++ List.replicate (power + 1 - whole.length) '0' ++
        '.' :: (if fraction = [] then ['0'] else fraction)
  | .negSucc power => ['0', '.'] ++ List.replicate power '0' ++ digits

/-- Digits with a signed exponent. -/
def scientific (digits : List Char) (leading : Int) : List Char :=
  let sign := if leading < 0 then '-' else '+'
  let mantissa :=
    match digits with
    | [] => ['0']
    | [digit] => [digit]
    | digit :: fraction => digit :: '.' :: fraction
  mantissa ++ 'e' :: sign :: Nat.toDigits 10 leading.natAbs

/-- The characters of a magnitude other than zero. -/
def Decimal.written (numeral : Decimal) : List Char :=
  let leading := numeral.leadingExponent
  if leastPositional ≤ leading ∧ leading ≤ greatestPositional then
    positional numeral.significantDigits leading
  else scientific numeral.significantDigits leading

/-- The text of a number. -/
def Binary64.text (number : Binary64) : String :=
  let sign := if number.negative then ['-'] else []
  let magnitude :=
    if number.isZero then ['0', '.', '0'] else number.shortest.written
  String.ofList (sign ++ magnitude)

end ObjectSpec
