import Mathlib.Algebra.Order.Ring.Nat
import Mathlib.Data.List.Induction
import Mathlib.Tactic.GCongr
import Mathlib.Tactic.Ring
import ObjectSpec.Parser
import ObjectSpec.Proofs.Numerals
import ObjectSpec.Proofs.Rounding

/-!
# The range of numbers

A decimal numeral has a nearest number in the binary format exactly if it is not
too large, however many digits it has and however small it is. An integer beyond
63 bits that is read digit by digit is rounded at each digit. The errors add up,
but to so little that up to `2 ^ 1023` every integer has a value, and from `2 ^
1025` on none has.
-/

namespace ObjectSpec

theorem tenTo_pos (exponent : Nat) : 0 < tenTo exponent :=
  Nat.pow_pos (by decide)

theorem tenTo_le_tenTo
    {left right : Nat}
    (le : left ≤ right) :
    tenTo left ≤ tenTo right :=
  Nat.pow_le_pow_right (by decide) le

/-! ## Decimal numerals -/

namespace Decimal

/-- Whether the magnitude `coefficient * 10 ^ exponent` is at least a natural
number. -/
def AtLeast (numeral : Decimal) (bound : Nat) : Prop :=
  bound * tenTo (-numeral.exponent).toNat ≤
    numeral.coefficient * tenTo numeral.exponent.toNat

theorem atLeast_ofNat_iff
    {coefficient power bound : Nat} :
    AtLeast ⟨coefficient, .ofNat power⟩ bound ↔
      bound ≤ coefficient * tenTo power := by
  simp [AtLeast]

theorem atLeast_negSucc_iff
    {coefficient power bound : Nat} :
    AtLeast ⟨coefficient, .negSucc power⟩ bound ↔
      bound * tenTo (power + 1) ≤ coefficient := by
  simp [AtLeast]

/-- The width bounds the coefficient. -/
theorem coefficient_lt (numeral : Decimal) :
    numeral.coefficient < tenTo numeral.widthBound := by
  have exponent : numeral.coefficient.log2 + 1 ≤ 3 * numeral.widthBound := by
    rw [widthBound]
    omega
  calc
    numeral.coefficient < twoTo (numeral.coefficient.log2 + 1) :=
      Nat.lt_log2_self
    _ ≤ twoTo (3 * numeral.widthBound) := twoTo_le_twoTo exponent
    _ = Nat.pow 8 numeral.widthBound := Nat.pow_mul 2 3 numeral.widthBound
    _ ≤ tenTo numeral.widthBound := Nat.pow_le_pow_left (by decide) _

theorem leastTooLarge_pos : 0 < Binary64.leastTooLarge := by
  decide +kernel

theorem leastTooLarge_le_tenTo : Binary64.leastTooLarge ≤ tenTo 310 := by
  decide +kernel

/-- A numeral with no digit before its three hundredth place is not too
large. -/
theorem not_atLeast_of_tiny
    {numeral : Decimal}
    (tiny : numeral.exponent + numeral.widthBound ≤ -330) :
    ¬numeral.AtLeast Binary64.leastTooLarge := by
  have unscaled : numeral.exponent.toNat = 0 := by omega
  have width_le : numeral.widthBound ≤ (-numeral.exponent).toNat := by omega
  rw [AtLeast, unscaled, tenTo_zero, Nat.mul_one, Nat.not_le]
  calc
    numeral.coefficient < tenTo numeral.widthBound := numeral.coefficient_lt
    _ ≤ tenTo (-numeral.exponent).toNat := tenTo_le_tenTo width_le
    _ ≤ Binary64.leastTooLarge * tenTo (-numeral.exponent).toNat :=
      Nat.le_mul_of_pos_left _ leastTooLarge_pos

/-- A numeral other than zero that ends before its three hundredth place is too
large. -/
theorem atLeast_of_huge
    {numeral : Decimal}
    (positive : numeral.coefficient ≠ 0)
    (huge : 310 ≤ numeral.exponent) :
    numeral.AtLeast Binary64.leastTooLarge := by
  have undivided : (-numeral.exponent).toNat = 0 := by omega
  have power_le : 310 ≤ numeral.exponent.toNat := by omega
  rw [AtLeast, undivided, tenTo_zero, Nat.mul_one]
  calc
    Binary64.leastTooLarge ≤ tenTo 310 := leastTooLarge_le_tenTo
    _ ≤ tenTo numeral.exponent.toNat := tenTo_le_tenTo power_le
    _ ≤ numeral.coefficient * tenTo numeral.exponent.toNat :=
      Nat.le_mul_of_pos_left _ (Nat.pos_of_ne_zero positive)

/-- A numeral has no nearest number exactly if it is too large. -/
theorem toBinary64?_eq_none_iff
    (numeral : Decimal)
    (negative : Bool) :
    numeral.toBinary64? negative = none ↔
      numeral.AtLeast Binary64.leastTooLarge := by
  unfold toBinary64?
  split
  next zero =>
      refine iff_of_false nofun ?_
      rw [AtLeast, zero, Nat.zero_mul, Nat.not_le]
      exact Nat.mul_pos leastTooLarge_pos (tenTo_pos _)
  next positive =>
      split
      next tiny => exact iff_of_false nofun (not_atLeast_of_tiny tiny)
      next notTiny =>
          split
          next huge => exact iff_of_true rfl (atLeast_of_huge positive huge)
          next notHuge =>
              obtain ⟨coefficient, exponent⟩ := numeral
              cases exponent with
              | ofNat power =>
                  rw [atLeast_ofNat_iff, ← Nat.mul_one Binary64.leastTooLarge]
                  exact Binary64.ofQuotient?_eq_none_iff Nat.one_pos negative
              | negSucc power =>
                  rw [atLeast_negSucc_iff]
                  exact Binary64.ofQuotient?_eq_none_iff (tenTo_pos _) negative

/-- Zeros at the end of a coefficient are among its digits. -/
theorem lt_widthBound
    {magnitude places : Nat}
    {exponent : Int}
    (positive : magnitude * tenTo places ≠ 0) :
    places < widthBound ⟨magnitude * tenTo places, exponent⟩ := by
  refine Nat.lt_of_not_le fun le => ?_
  have magnitude_pos : 0 < magnitude := by
    refine Nat.pos_of_ne_zero ?_
    rintro rfl
    exact positive (Nat.zero_mul _)
  have below := coefficient_lt ⟨magnitude * tenTo places, exponent⟩
  have width_le := tenTo_le_tenTo le
  have power_le := Nat.le_mul_of_pos_left (tenTo places) magnitude_pos
  exact absurd (Nat.lt_of_lt_of_le below width_le) (Nat.not_lt.2 power_le)

/-- A magnitude below `2 ^ 53` keeps its value, however many zeros follow the
point. -/
theorem toBinary64?_of_lt
    {magnitude : Nat}
    (places : Nat)
    (negative : Bool)
    (exact : magnitude < twoTo 53) :
    ∃ number : Binary64,
      toBinary64? ⟨magnitude * tenTo places, -places⟩ negative = some number ∧
        number.negative = negative ∧
        number.units = magnitude * Binary64.unitsPerOne := by
  unfold toBinary64?
  split
  next zero =>
      have magnitude_eq : magnitude = 0 := by
        rcases Nat.mul_eq_zero.1 zero with isZero | isZero
        · exact isZero
        · exact absurd isZero (Nat.ne_of_gt (tenTo_pos places))
      refine ⟨.zero negative, rfl, rfl, ?_⟩
      rw [magnitude_eq, Binary64.units_zero, Nat.zero_mul]
  next positive =>
      have width : places < widthBound ⟨magnitude * tenTo places, -places⟩ :=
        lt_widthBound positive
      rw [if_neg (by simp only; omega), if_neg (by simp only; omega)]
      cases places with
      | zero =>
          change ∃ number, Binary64.ofQuotient? negative
            (magnitude * tenTo 0 * tenTo 0) 1 = some number ∧ _
          rw [tenTo_zero, Nat.mul_one (magnitude * 1)]
          exact Binary64.ofQuotient?_of_lt negative Nat.one_pos exact
      | succ places =>
          change ∃ number, Binary64.ofQuotient? negative
            (magnitude * tenTo (places + 1)) (tenTo (places + 1)) =
              some number ∧ _
          exact Binary64.ofQuotient?_of_lt negative (tenTo_pos _) exact

end Decimal

/-! ## Numbers that are read digit by digit -/

namespace LeadingNumber

/-- A factor for each of the two roundings in each of so many steps. -/
def overSteps (factor steps : Nat) : Nat :=
  Nat.pow (factor * factor) steps

theorem overSteps_zero (factor : Nat) : overSteps factor 0 = 1 := rfl

theorem overSteps_succ (factor steps : Nat) :
    overSteps factor (steps + 1) = overSteps factor steps * (factor * factor) :=
  rfl

theorem overSteps_le_overSteps
    {left right : Nat}
    (le : left ≤ right)
    (steps : Nat) :
    overSteps left steps ≤ overSteps right steps :=
  Nat.pow_le_pow_left (Nat.mul_le_mul le le) steps

/-- How far the number that is read with rounding can be from the exact one.
Each rounding changes it by at most a part of `2 ^ -53`. -/
structure Close (steps rounded number : Nat) : Prop where
  /-- What the roundings can add. -/
  upper : rounded * overSteps (twoTo 53) steps ≤
    number * overSteps (twoTo 53 + 1) steps
  /-- What the roundings can take away. -/
  lower : number * overSteps (twoTo 53 - 1) steps ≤
    rounded * overSteps (twoTo 53) steps

/-- The next number if a digit is read with rounding. -/
def roundedStep (radix rounded digit : Nat) : Nat :=
  roundedTo53Bits (roundedTo53Bits (rounded * radix) + digit)

theorem roundedStep_zero (radix : Nat) : roundedStep radix 0 0 = 0 := by
  have zero : roundedTo53Bits 0 = 0 := by decide +kernel
  rw [roundedStep, Nat.zero_mul, zero, Nat.add_zero, zero]

namespace Close

variable {steps rounded number : Nat}

theorem upper_step
    (close : Close steps rounded number)
    (radix digit : Nat) :
    roundedStep radix rounded digit * overSteps (twoTo 53) (steps + 1) ≤
      (number * radix + digit) * overSteps (twoTo 53 + 1) (steps + 1) := by
  have shifted := (roundedTo53Bits_bounds (rounded * radix)).1
  have added :=
    (roundedTo53Bits_bounds (roundedTo53Bits (rounded * radix) + digit)).1
  have parts_le := overSteps_le_overSteps (Nat.le_succ (twoTo 53)) steps
  have bound := close.upper
  rw [roundedStep, overSteps_succ, overSteps_succ]
  generalize roundedTo53Bits (rounded * radix) = product at shifted added ⊢
  generalize roundedTo53Bits (product + digit) = sum at added ⊢
  generalize overSteps (twoTo 53) steps = parts at parts_le bound ⊢
  generalize overSteps (twoTo 53 + 1) steps = growth at parts_le bound ⊢
  generalize twoTo 53 = unit at shifted added ⊢
  calc
    sum * (parts * (unit * unit)) = unit * sum * unit * parts := by ring
    _ ≤ (unit + 1) * (product + digit) * unit * parts := by gcongr
    _ = (unit + 1) * (unit * product + unit * digit) * parts := by ring
    _ ≤ (unit + 1) * ((unit + 1) * (rounded * radix) + (unit + 1) * digit) *
        parts := by
      gcongr
      omega
    _ = (unit + 1) * (unit + 1) *
        (rounded * parts * radix + digit * parts) := by ring
    _ ≤ (unit + 1) * (unit + 1) *
        (number * growth * radix + digit * growth) := by gcongr
    _ = (number * radix + digit) * (growth * ((unit + 1) * (unit + 1))) := by
      ring

theorem lower_step
    (close : Close steps rounded number)
    (radix digit : Nat) :
    (number * radix + digit) * overSteps (twoTo 53 - 1) (steps + 1) ≤
      roundedStep radix rounded digit * overSteps (twoTo 53) (steps + 1) := by
  have shifted := (roundedTo53Bits_bounds (rounded * radix)).2
  have added :=
    (roundedTo53Bits_bounds (roundedTo53Bits (rounded * radix) + digit)).2
  have less_le : twoTo 53 - 1 ≤ twoTo 53 := Nat.sub_le (twoTo 53) 1
  have loss_le := overSteps_le_overSteps less_le steps
  have bound := close.lower
  rw [roundedStep, overSteps_succ, overSteps_succ]
  generalize roundedTo53Bits (rounded * radix) = product at shifted added ⊢
  generalize roundedTo53Bits (product + digit) = sum at added ⊢
  generalize overSteps (twoTo 53) steps = parts at loss_le bound ⊢
  generalize overSteps (twoTo 53 - 1) steps = loss at loss_le bound ⊢
  generalize twoTo 53 - 1 = less at shifted added less_le ⊢
  generalize twoTo 53 = unit at shifted added less_le ⊢
  calc
    (number * radix + digit) * (loss * (less * less))
      = less * less * (number * loss * radix + digit * loss) := by ring
    _ ≤ less * less * (rounded * parts * radix + digit * parts) := by gcongr
    _ = less * (less * (rounded * radix) + less * digit) * parts := by ring
    _ ≤ less * (unit * product + unit * digit) * parts := by gcongr
    _ = unit * (less * (product + digit)) * parts := by ring
    _ ≤ unit * (unit * sum) * parts := by gcongr
    _ = sum * (parts * (unit * unit)) := by ring

theorem step
    (close : Close steps rounded number)
    (radix digit : Nat) :
    Close (steps + 1) (roundedStep radix rounded digit)
      (number * radix + digit) :=
  ⟨close.upper_step radix digit, close.lower_step radix digit⟩

theorem eq_zero
    (close : Close 0 rounded 0) :
    rounded = 0 := by
  have bound := close.upper
  rw [overSteps_zero, Nat.zero_mul, Nat.mul_one] at bound
  exact Nat.le_zero.1 bound

theorem zero (steps : Nat) : Close steps 0 0 := by
  constructor <;> rw [Nat.zero_mul] <;> exact Nat.zero_le _

end Close

/-- Reading digits from numbers that are close to each other keeps them close.
The number of steps that count is bounded by the number of bits of the
result. -/
theorem close_foldl
    {radix : Nat}
    (radixLarge : 1 < radix)
    (digits : List Nat)
    {rounded number : Nat}
    (close : ∀ steps, number < twoTo steps → Close steps rounded number)
    {steps : Nat}
    (below : digits.foldl (fun number digit => number * radix + digit) number <
      twoTo steps) :
    Close steps (digits.foldl (roundedStep radix) rounded)
      (digits.foldl (fun number digit => number * radix + digit) number) := by
  induction digits generalizing rounded number with
  | nil => exact close steps below
  | cons digit digits inductionHypothesis =>
      suffices next : ∀ steps, number * radix + digit < twoTo steps →
          Close steps (roundedStep radix rounded digit) (number * radix + digit)
            from
        inductionHypothesis next below
      intro steps below
      have doubled := Nat.mul_le_mul_left number radixLarge
      cases steps with
      | zero =>
          rw [twoTo_zero] at below
          obtain ⟨rfl, rfl⟩ : number = 0 ∧ digit = 0 := by omega
          rw [(close 0 (by decide)).eq_zero, roundedStep_zero, Nat.zero_mul]
          exact .zero 0
      | succ steps =>
          rw [twoTo_succ] at below
          exact (close steps (by omega)).step radix digit

/-- The number that is read with rounding is as close to the exact one as its
bits allow. -/
theorem close_roundedNumber
    {radix steps : Nat}
    (radixLarge : 1 < radix)
    {digits : List Nat}
    (below : Text.numberOfDigits radix digits < twoTo steps) :
    Close steps (roundedNumber radix digits)
      (Text.numberOfDigits radix digits) :=
  close_foldl radixLarge digits (fun steps _ => .zero steps) below

/-- Up to `2 ^ 1023` an integer that is read with rounding is not too large. -/
theorem roundedNumber_lt
    {radix : Nat}
    (radixLarge : 1 < radix)
    {digits : List Nat}
    (le : Text.numberOfDigits radix digits ≤ twoTo 1023) :
    roundedNumber radix digits < Binary64.leastTooLarge := by
  have below : Text.numberOfDigits radix digits < twoTo 1024 :=
    Nat.lt_of_le_of_lt le (by decide +kernel)
  have spare : twoTo 1023 * overSteps (twoTo 53 + 1) 1024 <
      Binary64.leastTooLarge * overSteps (twoTo 53) 1024 := by
    decide +kernel
  refine Nat.lt_of_mul_lt_mul_right (a := overSteps (twoTo 53) 1024) ?_
  calc
    roundedNumber radix digits * overSteps (twoTo 53) 1024
      ≤ Text.numberOfDigits radix digits * overSteps (twoTo 53 + 1) 1024 :=
        (close_roundedNumber radixLarge below).upper
    _ ≤ twoTo 1023 * overSteps (twoTo 53 + 1) 1024 := Nat.mul_le_mul_right _ le
    _ < Binary64.leastTooLarge * overSteps (twoTo 53) 1024 := spare

theorem roundedNumber_append_singleton
    (radix : Nat)
    (digits : List Nat)
    (last : Nat) :
    roundedNumber radix (digits ++ [last]) =
      roundedStep radix (roundedNumber radix digits) last := by
  rw [roundedNumber, List.foldl_append]
  rfl

/-- A further digit does not make a number less, also if it is read with
rounding. -/
theorem le_roundedStep
    {radix : Nat}
    (radixLarge : 1 < radix)
    (rounded digit : Nat) :
    rounded ≤ roundedStep radix rounded digit := by
  have doubled := Nat.mul_le_mul_left rounded radixLarge
  have shifted := (roundedTo53Bits_bounds (rounded * radix)).2
  have added :=
    (roundedTo53Bits_bounds (roundedTo53Bits (rounded * radix) + digit)).2
  rw [show twoTo 53 = 9007199254740992 from rfl] at shifted added
  rw [roundedStep]
  omega

/-- Shortly after `2 ^ 1025` an integer that is read with rounding is too
large. -/
theorem le_roundedNumber_of_lt
    {radix : Nat}
    (radixLarge : 1 < radix)
    {digits : List Nat}
    (le : twoTo 1025 ≤ Text.numberOfDigits radix digits)
    (below : Text.numberOfDigits radix digits < twoTo 1029) :
    Binary64.leastTooLarge ≤ roundedNumber radix digits := by
  have spare : Binary64.leastTooLarge * overSteps (twoTo 53) 1029 ≤
      twoTo 1025 * overSteps (twoTo 53 - 1) 1029 := by
    decide +kernel
  have positive : 0 < overSteps (twoTo 53) 1029 := by decide +kernel
  refine Nat.le_of_mul_le_mul_right ?_ positive
  calc
    Binary64.leastTooLarge * overSteps (twoTo 53) 1029
      ≤ twoTo 1025 * overSteps (twoTo 53 - 1) 1029 := spare
    _ ≤ Text.numberOfDigits radix digits * overSteps (twoTo 53 - 1) 1029 :=
      Nat.mul_le_mul_right _ le
    _ ≤ roundedNumber radix digits * overSteps (twoTo 53) 1029 :=
      (close_roundedNumber radixLarge below).lower

/-- From `2 ^ 1025` on an integer that is read with rounding is too large. The
first digits that reach this bound leave it close behind, and the others do not
lead back. -/
theorem le_roundedNumber
    {radix : Nat}
    (radixLarge : 1 < radix)
    (radixSmall : radix ≤ 16)
    {digits : List Nat}
    (belowRadix : ∀ digit ∈ digits, digit < radix)
    (le : twoTo 1025 ≤ Text.numberOfDigits radix digits) :
    Binary64.leastTooLarge ≤ roundedNumber radix digits := by
  induction digits using List.reverseRecOn with
  | nil => exact absurd le (Nat.not_le.2 (twoTo_pos 1025))
  | append_singleton digits last inductionHypothesis =>
      rcases Nat.lt_or_ge (Text.numberOfDigits radix digits) (twoTo 1025) with
        before | reached
      · refine le_roundedNumber_of_lt radixLarge le ?_
        have last_lt := belowRadix last List.mem_concat_self
        rw [Text.numberOfDigits_append_singleton]
        calc
          Text.numberOfDigits radix digits * radix + last
            < (Text.numberOfDigits radix digits + 1) * radix := by
              rw [Nat.add_one_mul]
              omega
          _ ≤ twoTo 1025 * 16 := Nat.mul_le_mul before radixSmall
          _ = twoTo 1029 := by decide +kernel
      · have others : ∀ digit ∈ digits, digit < radix := fun digit member =>
          belowRadix digit (List.mem_append_left [last] member)
        rw [roundedNumber_append_singleton]
        exact Nat.le_trans (inductionHypothesis others reached)
          (le_roundedStep radixLarge _ last)

end LeadingNumber

end ObjectSpec
