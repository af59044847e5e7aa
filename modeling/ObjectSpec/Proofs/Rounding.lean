import ObjectSpec.Json.Basic

/-!
# Rounding to binary64

A quotient is rounded to the nearest integer at the scale at which it has 53
bits. So an integer of at most 53 bits is kept as it is, and a quotient has no
nearest number in the format exactly if it reaches the middle between the
greatest magnitude and the power of two that follows.
-/

namespace ObjectSpec

theorem twoTo_add (left right : Nat) :
    twoTo (left + right) = twoTo left * twoTo right :=
  Nat.pow_add 2 left right

theorem twoTo_le_twoTo
    {left right : Nat}
    (le : left ≤ right) :
    twoTo left ≤ twoTo right :=
  Nat.pow_le_pow_right (by decide) le

/-! ## Quotients -/

section Quotient

variable
  (numerator : Nat)
  {denominator : Nat}
  (denominator_pos : 0 < denominator)

include denominator_pos

/-- A rounded quotient is off by at most one half. -/
theorem roundedQuotient_bounds :
    2 * (roundedQuotient numerator denominator * denominator) ≤
        2 * numerator + denominator ∧
      2 * numerator ≤
        2 * (roundedQuotient numerator denominator * denominator) +
          denominator := by
  have division := Nat.div_add_mod' numerator denominator
  have remainder_lt := Nat.mod_lt numerator denominator_pos
  have next := Nat.add_one_mul (numerator / denominator) denominator
  unfold roundedQuotient
  simp only
  split
  next above => omega
  next notAbove =>
      split
      next tie =>
          rcases Nat.mod_two_eq_zero_or_one (numerator / denominator) with
            even | odd
          · rw [even, Nat.add_zero]
            omega
          · rw [odd]
            omega
      next notTie => omega

variable {numerator}

theorem roundedQuotient_le
    {bound : Nat}
    (below : numerator ≤ bound * denominator) :
    roundedQuotient numerator denominator ≤ bound := by
  have lower := (roundedQuotient_bounds numerator denominator_pos).1
  refine Nat.le_of_not_lt fun beyond => ?_
  have scaled := Nat.mul_le_mul_right denominator (Nat.succ_le_of_lt beyond)
  rw [Nat.succ_mul] at scaled
  omega

theorem le_roundedQuotient
    {bound : Nat}
    (above : bound * denominator ≤ numerator) :
    bound ≤ roundedQuotient numerator denominator := by
  have upper := (roundedQuotient_bounds numerator denominator_pos).2
  refine Nat.le_of_not_lt fun below => ?_
  have scaled := Nat.mul_le_mul_right denominator (Nat.succ_le_of_lt below)
  rw [Nat.succ_mul] at scaled
  omega

/-- A quotient without remainder is kept. -/
theorem roundedQuotient_eq
    {quotient : Nat}
    (exact : numerator = quotient * denominator) :
    roundedQuotient numerator denominator = quotient :=
  Nat.le_antisymm (roundedQuotient_le denominator_pos (Nat.le_of_eq exact))
    (le_roundedQuotient denominator_pos (Nat.le_of_eq exact.symm))

/-- Above an odd number, what reaches the middle to the next one is rounded
up. -/
theorem lt_roundedQuotient_iff
    {bound : Nat}
    (odd : bound % 2 = 1) :
    bound < roundedQuotient numerator denominator ↔
      2 * (bound * denominator) + denominator ≤ 2 * numerator := by
  have lower := (roundedQuotient_bounds numerator denominator_pos).1
  constructor
  · intro above
    have scaled := Nat.mul_le_mul_right denominator (Nat.succ_le_of_lt above)
    rw [Nat.succ_mul] at scaled
    omega
  · intro reached
    have division := Nat.div_add_mod' numerator denominator
    have remainder_lt := Nat.mod_lt numerator denominator_pos
    rcases Nat.lt_trichotomy bound (numerator / denominator) with
      below | same | beyond
    · refine Nat.lt_of_lt_of_le below ?_
      exact le_roundedQuotient denominator_pos
        (Nat.div_mul_le_self numerator denominator)
    · rw [same] at odd reached ⊢
      unfold roundedQuotient
      simp only
      split
      next => omega
      next => split <;> omega
    · have scaled := Nat.mul_le_mul_right denominator (Nat.succ_le_of_lt beyond)
      rw [Nat.succ_mul] at scaled
      omega

end Quotient

namespace Binary64

/-! ## Scales -/

/-- At its scale a magnitude has at most 53 bits. -/
theorem lt_twoTo_scaleFor (wholeUnits : Nat) :
    wholeUnits < twoTo (53 + scaleFor wholeUnits) := by
  refine Nat.lt_of_lt_of_le Nat.lt_log2_self (twoTo_le_twoTo ?_)
  rw [scaleFor]
  omega

/-- At a scale other than zero it has no less. -/
theorem twoTo_scaleFor_le
    {wholeUnits : Nat}
    (scaled : 0 < scaleFor wholeUnits) :
    twoTo (52 + scaleFor wholeUnits) ≤ wholeUnits := by
  have positive : wholeUnits ≠ 0 := by
    rintro rfl
    exact absurd scaled (by decide)
  have exponent : 52 + scaleFor wholeUnits = wholeUnits.log2 := by
    rw [scaleFor] at scaled ⊢
    omega
  rw [exponent]
  exact Nat.log2_self_le positive

/-! ## Numbers of given parts -/

theorem ofParts?_eq_some
    {significand scale : Nat}
    (negative : Bool)
    (significand_lt : significand < twoTo 53)
    (scale_le : scale ≤ 2045)
    (normal : twoTo 52 ≤ significand ∨ scale = 0) :
    ofParts? negative significand scale =
      some ⟨negative, significand, scale, significand_lt, scale_le,
        normal⟩ := by
  rw [ofParts?, dif_pos ⟨significand_lt, scale_le, normal⟩]

theorem ofParts?_eq_none
    {scale : Nat}
    (negative : Bool)
    (significand : Nat)
    (scale_gt : 2045 < scale) :
    ofParts? negative significand scale = none := by
  rw [ofParts?, dif_neg]
  intro valid
  exact absurd valid.2.1 (Nat.not_le.2 scale_gt)

/-! ## Nearest numbers -/

/-- The scale at which a quotient is rounded. -/
def quotientScale (numerator denominator : Nat) : Nat :=
  scaleFor (numerator * unitsPerOne / denominator)

/-- A quotient rounded at its scale. It may have been rounded up to a power of
two. -/
def quotientSignificand (numerator denominator : Nat) : Nat :=
  roundedQuotient (numerator * unitsPerOne)
    (denominator * twoTo (quotientScale numerator denominator))

theorem ofQuotient?_eq
    (negative : Bool)
    (numerator denominator : Nat) :
    ofQuotient? negative numerator denominator =
      if quotientSignificand numerator denominator = twoTo 53 then
        ofParts? negative (twoTo 52) (quotientScale numerator denominator + 1)
      else
        ofParts? negative (quotientSignificand numerator denominator)
          (quotientScale numerator denominator) := rfl

/-- The least magnitude without a nearest number: the middle between the
greatest magnitude of the format and the next power of two. -/
def leastTooLarge : Nat := twoTo 1024 - twoTo 970

theorem unitsPerOne_pos : 0 < unitsPerOne := twoTo_pos 1074

/-- What is too large, in units of the format. -/
theorem leastTooLarge_mul_le_iff (numerator denominator : Nat) :
    leastTooLarge * denominator ≤ numerator ↔
      (twoTo 54 - 1) * (denominator * twoTo 2044) ≤
        numerator * unitsPerOne := by
  have inUnits : leastTooLarge * unitsPerOne = (twoTo 54 - 1) * twoTo 2044 := by
    decide +kernel
  rw [← Nat.mul_le_mul_right_iff unitsPerOne_pos, Nat.mul_right_comm, inUnits,
    Nat.mul_assoc, Nat.mul_comm (twoTo 2044)]

section Nearest

variable
  (numerator : Nat)
  {denominator : Nat}
  (denominator_pos : 0 < denominator)

include denominator_pos

theorem lt_of_quotientScale :
    numerator * unitsPerOne <
      twoTo 53 * (denominator *
        twoTo (quotientScale numerator denominator)) := by
  have below := lt_twoTo_scaleFor (numerator * unitsPerOne / denominator)
  rw [Nat.div_lt_iff_lt_mul denominator_pos, twoTo_add, Nat.mul_assoc,
    Nat.mul_comm (twoTo _) denominator] at below
  exact below

theorem quotientSignificand_le :
    quotientSignificand numerator denominator ≤ twoTo 53 :=
  roundedQuotient_le (Nat.mul_pos denominator_pos (twoTo_pos _))
    (Nat.le_of_lt (lt_of_quotientScale numerator denominator_pos))

variable {numerator}

theorem le_of_quotientScale_pos
    (scaled : 0 < quotientScale numerator denominator) :
    twoTo 52 * (denominator * twoTo (quotientScale numerator denominator)) ≤
      numerator * unitsPerOne := by
  have above := twoTo_scaleFor_le scaled
  rw [Nat.le_div_iff_mul_le denominator_pos, twoTo_add, Nat.mul_assoc,
    Nat.mul_comm (twoTo _) denominator] at above
  exact above

variable (numerator)

/-- A significand uses all of its bits unless the scale is zero. -/
theorem le_quotientSignificand_or :
    twoTo 52 ≤ quotientSignificand numerator denominator ∨
      quotientScale numerator denominator = 0 := by
  rcases Nat.eq_zero_or_pos (quotientScale numerator denominator) with
    unscaled | scaled
  · exact .inr unscaled
  · exact .inl (le_roundedQuotient (Nat.mul_pos denominator_pos (twoTo_pos _))
      (le_of_quotientScale_pos denominator_pos scaled))

variable {numerator}

/-- A quotient has no nearest number if its scale is too large, or if it is
rounded up to a power of two beyond the greatest scale. -/
theorem ofQuotient?_eq_none_iff_scale (negative : Bool) :
    ofQuotient? negative numerator denominator = none ↔
      2045 < quotientScale numerator denominator ∨
        quotientScale numerator denominator = 2045 ∧
          quotientSignificand numerator denominator = twoTo 53 := by
  have le := quotientSignificand_le numerator denominator_pos
  have normal := le_quotientSignificand_or numerator denominator_pos
  rw [ofQuotient?_eq]
  split
  next carried =>
      rcases Nat.lt_or_ge 2044 (quotientScale numerator denominator) with
        beyond | within
      · rw [ofParts?_eq_none negative _ (by omega)]
        exact iff_of_true rfl (by omega)
      · rw [ofParts?_eq_some negative (by decide) (by omega)
            (.inl (Nat.le_refl _))]
        exact iff_of_false nofun (by omega)
  next notCarried =>
      rcases Nat.lt_or_ge 2045 (quotientScale numerator denominator) with
        beyond | within
      · rw [ofParts?_eq_none negative _ beyond]
        exact iff_of_true rfl (.inl beyond)
      · rw [ofParts?_eq_some negative (Nat.lt_of_le_of_ne le notCarried) within
            normal]
        exact iff_of_false nofun (by omega)

/-- A quotient has no nearest number exactly if it is too large. -/
theorem ofQuotient?_eq_none_iff (negative : Bool) :
    ofQuotient? negative numerator denominator = none ↔
      leastTooLarge * denominator ≤ numerator := by
  rw [ofQuotient?_eq_none_iff_scale denominator_pos, leastTooLarge_mul_le_iff,
    show twoTo 54 - 1 = 18014398509481983 from rfl]
  rcases Nat.lt_trichotomy (quotientScale numerator denominator) 2045 with
    below | greatest | beyond
  · -- The quotient stays below the scale of the greatest magnitudes.
    have lt := lt_of_quotientScale numerator denominator_pos
    have le :=
      Nat.mul_le_mul_left denominator (twoTo_le_twoTo (Nat.le_of_lt_succ below))
    rw [show twoTo 53 = 9007199254740992 from rfl] at lt ⊢
    omega
  · -- Among the greatest magnitudes the middle above the last is rounded up.
    have le := quotientSignificand_le numerator denominator_pos
    have odd : (twoTo 53 - 1) % 2 = 1 := rfl
    have carried : twoTo 53 - 1 <
        roundedQuotient (numerator * unitsPerOne) (denominator * twoTo 2045) ↔
          _ :=
      lt_roundedQuotient_iff (Nat.mul_pos denominator_pos (twoTo_pos 2045)) odd
    have double : denominator * twoTo 2045 = denominator * twoTo 2044 * 2 := by
      rw [twoTo_succ 2044, Nat.mul_assoc]
    rw [quotientSignificand, greatest] at le ⊢
    rw [double, show twoTo 53 = 9007199254740992 from rfl] at le carried ⊢
    omega
  · -- The quotient is at least the power of two that follows.
    have ge :=
      le_of_quotientScale_pos denominator_pos (Nat.zero_lt_of_lt beyond)
    have le := Nat.mul_le_mul_left denominator (twoTo_le_twoTo beyond)
    have quadruple :
        denominator * twoTo 2046 = denominator * twoTo 2044 * 4 := by
      rw [twoTo_add 2044 2, show twoTo 2 = 4 from rfl, Nat.mul_assoc]
    rw [show twoTo 52 = 4503599627370496 from rfl] at ge
    rw [quadruple] at le
    omega

end Nearest

/-! ## Integers of 53 bits -/

theorem scaleFor_le_of_lt
    {magnitude : Nat}
    (exact : magnitude < twoTo 53) :
    scaleFor (magnitude * unitsPerOne) ≤ 1074 := by
  refine Nat.le_of_not_lt fun beyond => ?_
  have reached := twoTo_scaleFor_le (Nat.zero_lt_of_lt beyond)
  have below := (Nat.mul_lt_mul_right unitsPerOne_pos).2 exact
  generalize scaleFor (magnitude * unitsPerOne) = scale at beyond reached
  have bound : twoTo 53 * unitsPerOne ≤ twoTo (52 + scale) := by
    rw [unitsPerOne, ← twoTo_add]
    exact twoTo_le_twoTo (by omega)
  exact absurd below (Nat.not_lt.2 (Nat.le_trans bound reached))

/-- A magnitude below `2 ^ 53` keeps its value, however it is written as a
quotient. -/
theorem ofQuotient?_of_lt
    {magnitude denominator : Nat}
    (negative : Bool)
    (denominator_pos : 0 < denominator)
    (exact : magnitude < twoTo 53) :
    ∃ number : Binary64,
      ofQuotient? negative (magnitude * denominator) denominator = some number ∧
        number.negative = negative ∧
          number.units = magnitude * unitsPerOne := by
  have scale_eq : quotientScale (magnitude * denominator) denominator =
      scaleFor (magnitude * unitsPerOne) := by
    rw [quotientScale, Nat.mul_right_comm, Nat.mul_div_cancel _ denominator_pos]
  have scale_le := scaleFor_le_of_lt exact
  have below := lt_twoTo_scaleFor (magnitude * unitsPerOne)
  have normal :=
    le_quotientSignificand_or (magnitude * denominator) denominator_pos
  rw [ofQuotient?_eq, quotientSignificand]
  rw [quotientSignificand] at normal
  rw [scale_eq] at normal ⊢
  generalize scaleFor (magnitude * unitsPerOne) =
    scale at normal scale_le below ⊢
  -- The scale leaves a power of two in the units of the magnitude.
  have units_eq : magnitude * twoTo (1074 - scale) * twoTo scale =
      magnitude * unitsPerOne := by
    rw [Nat.mul_assoc, ← twoTo_add, Nat.sub_add_cancel scale_le, unitsPerOne]
  have rounded : roundedQuotient (magnitude * denominator * unitsPerOne)
      (denominator * twoTo scale) = magnitude * twoTo (1074 - scale) := by
    refine roundedQuotient_eq (Nat.mul_pos denominator_pos (twoTo_pos scale)) ?_
    rw [Nat.mul_right_comm, ← units_eq]
    ac_rfl
  have significand_lt : magnitude * twoTo (1074 - scale) < twoTo 53 := by
    rw [← units_eq, twoTo_add] at below
    exact Nat.lt_of_mul_lt_mul_right below
  rw [rounded] at normal ⊢
  rw [if_neg (Nat.ne_of_lt significand_lt),
    ofParts?_eq_some negative significand_lt (by omega) normal]
  exact ⟨_, rfl, rfl, units_eq⟩

theorem toNat?_of_units_eq
    {number : Binary64}
    {magnitude : Nat}
    (units_eq : number.units = magnitude * unitsPerOne) :
    number.toNat? = some magnitude := by
  rw [toNat?, units_eq, Nat.mul_mod_left, Nat.mul_div_cancel _ unitsPerOne_pos]
  rfl

end Binary64

/-! ## Numbers of 53 bits -/

/-- Rounding to 53 bits changes a number by at most a part of `2 ^ -53`. -/
theorem roundedTo53Bits_bounds (number : Nat) :
    twoTo 53 * roundedTo53Bits number ≤ (twoTo 53 + 1) * number ∧
      (twoTo 53 - 1) * number ≤ twoTo 53 * roundedTo53Bits number := by
  rw [roundedTo53Bits, show twoTo 53 = 9007199254740992 from rfl]
  rcases Nat.eq_zero_or_pos (Binary64.scaleFor number) with unscaled | scaled
  · have kept : roundedQuotient number 1 = number :=
      roundedQuotient_eq (by decide) (Nat.mul_one number).symm
    rw [unscaled, twoTo_zero, kept]
    omega
  · have bounds :=
      roundedQuotient_bounds number (twoTo_pos (Binary64.scaleFor number))
    have reached := Binary64.twoTo_scaleFor_le scaled
    rw [twoTo_add, show twoTo 52 = 4503599627370496 from rfl] at reached
    omega

end ObjectSpec
