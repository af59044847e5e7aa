import ObjectSpec.Text.Basic

/-!
# Numerals

A number is written with the digits of a radix, and the digits at the start of a
text spell a number. Reading undoes writing, whatever follows the numeral, as
long as it does not go on with a further digit.
-/

namespace ObjectSpec
namespace Text

theorem digitValue?_digitChar
    {radix value : Nat}
    (belowRadix : value < radix)
    (radixSmall : radix ≤ 16) :
    digitValue? radix (Nat.digitChar value) = some value := by
  have hexadecimal :
      ∀ digit < 16, hexValue? (Nat.digitChar digit) = some digit := by
    decide
  rw [digitValue?, hexadecimal value (by omega)]
  exact Option.filter_eq_some_iff.2 ⟨rfl, by simpa using belowRadix⟩

/-! ## Reading digits -/

theorem leadingDigits_cons_of_some
    {radix value : Nat}
    {character : Char}
    (isDigit : digitValue? radix character = some value)
    (rest : List Char) :
    leadingDigits radix (character :: rest) =
      value :: leadingDigits radix rest := by
  rw [leadingDigits, isDigit]

theorem leadingDigits_cons_of_none
    {radix : Nat}
    {character : Char}
    (noDigit : digitValue? radix character = none)
    (rest : List Char) :
    leadingDigits radix (character :: rest) = [] := by
  rw [leadingDigits, noDigit]

theorem leadingDigits_map_digitChar_append
    {radix : Nat}
    (radixSmall : radix ≤ 16)
    {values : List Nat}
    (belowRadix : ∀ value ∈ values, value < radix)
    (rest : List Char) :
    leadingDigits radix (values.map Nat.digitChar ++ rest) =
      values ++ leadingDigits radix rest := by
  induction values with
  | nil => rfl
  | cons value values inductionHypothesis =>
      have isDigit :=
        digitValue?_digitChar (belowRadix value List.mem_cons_self) radixSmall
      rw [List.map_cons, List.cons_append, leadingDigits_cons_of_some isDigit]
      rw [inductionHypothesis fun other member =>
        belowRadix other (List.mem_cons_of_mem value member)]
      rfl

/-! ## Reading numerals -/

theorem numberOfDigits_append_singleton
    (radix : Nat)
    (digits : List Nat)
    (last : Nat) :
    numberOfDigits radix (digits ++ [last]) =
      numberOfDigits radix digits * radix + last := by
  rw [numberOfDigits, List.foldl_append]
  rfl

/-- A number is written by digits of the radix that spell it. -/
theorem exists_toDigits_eq_map_digitChar
    {radix : Nat}
    (radixLarge : 1 < radix)
    (number : Nat) :
    ∃ values : List Nat,
      Nat.toDigits radix number = values.map Nat.digitChar ∧
        (∀ value ∈ values, value < radix) ∧
        numberOfDigits radix values = number := by
  induction number using Nat.strongRecOn with
  | ind number inductionHypothesis =>
      rcases Nat.lt_or_ge number radix with oneDigit | moreDigits
      · refine ⟨[number], Nat.toDigits_of_lt_base oneDigit,
          by simpa using oneDigit, ?_⟩
        simp [numberOfDigits]
      · have smaller : number / radix < number :=
          Nat.div_lt_self (by omega) radixLarge
        obtain ⟨values, written, belowRadix, spelled⟩ :=
          inductionHypothesis (number / radix) smaller
        have lastBelow : number % radix < radix := Nat.mod_lt number (by omega)
        refine ⟨values ++ [number % radix], ?_, ?_, ?_⟩
        · rw [Nat.toDigits_of_base_le radixLarge moreDigits, written,
            List.map_append]
          rfl
        · intro value member
          rcases List.mem_append.1 member with earlier | last
          · exact belowRadix value earlier
          · rwa [List.mem_singleton.1 last]
        · rw [numberOfDigits_append_singleton, spelled]
          exact Nat.div_add_mod' number radix

/-- A numeral is read back from the start of a text that does not go on with a
digit. -/
theorem leadingNumber_toDigits_append
    {radix : Nat}
    (radixLarge : 1 < radix)
    (radixSmall : radix ≤ 16)
    (number : Nat)
    {rest : List Char}
    (noDigitFollows : leadingDigits radix rest = []) :
    leadingNumber radix (Nat.toDigits radix number ++ rest) = number := by
  obtain ⟨values, written, belowRadix, spelled⟩ :=
    exists_toDigits_eq_map_digitChar radixLarge number
  rw [leadingNumber, written,
    leadingDigits_map_digitChar_append radixSmall belowRadix]
  rw [noDigitFollows, List.append_nil, spelled]

theorem eq_of_toDigits_append_eq
    {radix : Nat}
    (radixLarge : 1 < radix)
    (radixSmall : radix ≤ 16)
    {left right : Nat}
    {leftRest rightRest : List Char}
    (leftEnds : leadingDigits radix leftRest = [])
    (rightEnds : leadingDigits radix rightRest = [])
    (equal : Nat.toDigits radix left ++ leftRest =
      Nat.toDigits radix right ++ rightRest) :
    left = right := by
  calc
    left = leadingNumber radix (Nat.toDigits radix left ++ leftRest) :=
      (leadingNumber_toDigits_append radixLarge radixSmall left leftEnds).symm
    _ = leadingNumber radix (Nat.toDigits radix right ++ rightRest) := by
      rw [equal]
    _ = right :=
      leadingNumber_toDigits_append radixLarge radixSmall right rightEnds

end Text
end ObjectSpec
