/-!
# Finite binary64 numbers

A finite binary64 number is a signed significand of at most 53 bits, scaled by a
power of two. Magnitudes are natural numbers of the unit `2 ^ -1074`, the least
positive number of the format, so rounding and comparison are exact arithmetic
on natural numbers. Infinities and the not-a-number values have no place here:
an operation that would leave the format has no result.
-/

namespace ObjectSpec

/-! ## Powers of two and ten -/

/-- A power of two. -/
def twoTo (exponent : Nat) : Nat := Nat.pow 2 exponent

@[simp] theorem twoTo_zero : twoTo 0 = 1 := rfl

theorem twoTo_succ (exponent : Nat) :
    twoTo (exponent + 1) = twoTo exponent * 2 := rfl

theorem twoTo_pos (exponent : Nat) : 0 < twoTo exponent :=
  Nat.two_pow_pos exponent

/-- A power of ten. -/
def tenTo (exponent : Nat) : Nat := Nat.pow 10 exponent

@[simp] theorem tenTo_zero : tenTo 0 = 1 := rfl

theorem tenTo_succ (exponent : Nat) :
    tenTo (exponent + 1) = tenTo exponent * 10 := rfl

/-! ## The format -/

/-- The quotient of two numbers rounded to the nearest integer, a tie to the
even one. -/
def roundedQuotient (numerator denominator : Nat) : Nat :=
  let quotient := numerator / denominator
  let twiceRemainder := 2 * (numerator % denominator)
  if denominator < twiceRemainder then quotient + 1
  else if denominator = twiceRemainder then quotient + quotient % 2
  else quotient

/-- A finite binary64 number of the magnitude
`significand * 2 ^ scale * 2 ^ -1074`. Each magnitude has one form: the
significand uses all of its 53 bits unless the scale is zero. -/
structure Binary64 where
  /-- Whether the sign is negative; zero has both signs. -/
  negative : Bool
  /-- The integral significand. -/
  significand : Nat
  /-- The power of two above the least positive number. -/
  scale : Nat
  /-- A significand has at most 53 bits. -/
  significand_lt : significand < twoTo 53
  /-- The greatest magnitudes lie below `2 ^ 1024`. -/
  scale_le : scale ≤ 2045
  /-- A scaled significand has exactly 53 bits. -/
  normal : twoTo 52 ≤ significand ∨ scale = 0
  deriving DecidableEq

namespace Binary64

/-- How many units `2 ^ -1074` make up one. -/
def unitsPerOne : Nat := twoTo 1074

/-- Zero with a sign. -/
def zero (negative : Bool) : Binary64 where
  negative := negative
  significand := 0
  scale := 0
  significand_lt := by decide
  scale_le := by decide
  normal := .inr rfl

/-- The magnitude in units of `2 ^ -1074`. -/
def units (number : Binary64) : Nat :=
  number.significand * twoTo number.scale

@[simp] theorem units_zero (negative : Bool) :
    (zero negative).units = 0 := by
  simp [units, zero]

/-- Whether a number is a zero of either sign. -/
def isZero (number : Binary64) : Bool :=
  number.significand = 0

/-- The number of the given parts, if the format has it. -/
def ofParts? (negative : Bool) (significand scale : Nat) : Option Binary64 :=
  if valid :
      significand < twoTo 53 ∧ scale ≤ 2045 ∧
        (twoTo 52 ≤ significand ∨ scale = 0)
  then some ⟨negative, significand, scale, valid.1, valid.2.1, valid.2.2⟩
  else none

/-- The scale at which a magnitude of so many whole units has a significand of
53 bits, or zero if it has fewer bits than that. -/
def scaleFor (wholeUnits : Nat) : Nat :=
  wholeUnits.log2 - 52

/-- The number nearest to a quotient, ties to the even significand; none if its
magnitude is beyond the format. -/
def ofQuotient? (negative : Bool) (numerator denominator : Nat) :
    Option Binary64 :=
  let scaled := numerator * unitsPerOne
  let scale := scaleFor (scaled / denominator)
  let significand := roundedQuotient scaled (denominator * twoTo scale)
  if significand = twoTo 53 then ofParts? negative (twoTo 52) (scale + 1)
  else ofParts? negative significand scale

/-- The number nearest to a natural number, with a sign. -/
def ofNat? (negative : Bool) (magnitude : Nat) : Option Binary64 :=
  ofQuotient? negative magnitude 1

/-- The magnitude as a natural number, if it is one. -/
def toNat? (number : Binary64) : Option Nat :=
  if number.units % unitsPerOne = 0 then some (number.units / unitsPerOne)
  else none

/-- Whether two numbers are equal as numbers: the two zeros are. -/
def sameValue (left right : Binary64) : Bool :=
  left = right || (left.isZero && right.isZero)

end Binary64

/-- A natural number rounded to 53 significant bits, ties to even. -/
def roundedTo53Bits (number : Nat) : Nat :=
  let unit := twoTo (Binary64.scaleFor number)
  roundedQuotient number unit * unit

end ObjectSpec
