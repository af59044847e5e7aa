import ObjectSpec.Parser
import ObjectSpec.Proofs.NumberRange
import ObjectSpec.Proofs.NumeralGrammar

/-!
# Texts without a number

The parsers of numbers have no result where no digit stands at its place, and
for one more reason: a number can be too large for the binary format. Digits of
an integer are rounded as they are read, so it is the rounded number that
decides; up to `2 ^ 1023` it is never too large, and from `2 ^ 1025` on it
always is. A decimal is rounded once, so its exact magnitude decides.
-/

namespace ObjectSpec

namespace LeadingNumber

open Text

/-! ## Integers that are too large -/

/-- Digits have no value exactly if the number that is read from them with
rounding is too large. -/
theorem ofDigits?_eq_none_iff
    {radix : Nat}
    (radixLarge : 1 < radix)
    (negative : Bool)
    (digits : List Nat) :
    ofDigits? negative radix digits = none ↔
      Binary64.leastTooLarge ≤ roundedNumber radix digits := by
  rw [ofDigits?]
  split
  next exact =>
      have le : numberOfDigits radix digits ≤ twoTo 1023 :=
        Nat.le_trans exact (by decide +kernel)
      refine iff_of_false nofun ?_
      exact Nat.not_le.2 (roundedNumber_lt radixLarge le)
  next wide =>
      rw [Option.map_eq_none_iff, Binary64.ofNat?,
        Binary64.ofQuotient?_eq_none_iff Nat.one_pos, Nat.mul_one]

/-! ## Forms of decimals -/

/-- The forms that a decimal has apart from its exponent. -/
inductive DecimalForm : List Char → Prop
  /-- Digits without a point. -/
  | whole {negative : Bool} {sign digits : List Char} :
      OptionalSign negative sign →
      digits ≠ [] →
      AllDigits digits →
      DecimalForm (sign ++ digits)
  /-- Digits before a point, and maybe further ones after it. -/
  | point {negative : Bool} {sign digits fraction : List Char} :
      OptionalSign negative sign →
      digits ≠ [] →
      AllDigits digits →
      AllDigits fraction →
      DecimalForm (sign ++ digits ++ '.' :: fraction)
  /-- Digits after a point. -/
  | fraction {negative : Bool} {sign fraction : List Char} :
      OptionalSign negative sign →
      fraction ≠ [] →
      AllDigits fraction →
      DecimalForm (sign ++ '.' :: fraction)

theorem isDigit_of_digitValue?
    {character : Char}
    {value : Nat}
    (hasValue : digitValue? 10 character = some value) :
    character.isDigit = true :=
  digitValue?_ten_ne_none_iff.1 (Option.ne_none_iff_exists'.2 ⟨value, hasValue⟩)

/-- A decimal is taken from a text that starts with one, and from no other. -/
theorem takeDecimal?_eq_none_iff {text : List Char} :
    takeDecimal? text = none ↔ ¬StartsDecimal text := by
  constructor
  · intro none starts
    unfold takeDecimal? at none
    simp only at none
    split at none
    next afterPoint point =>
        split at none
        next empty =>
            rw [empty.1] at point
            cases starts with
            | digit rest isDigit =>
                exact leadingDigits_cons_ne_nil isDigit rest empty.1
            | point rest isDigit =>
                cases point
                exact leadingDigits_cons_ne_nil isDigit rest empty.2
        next => cases none
    next noPoint =>
        split at none
        next empty =>
            rw [empty] at noPoint
            cases starts with
            | digit rest isDigit =>
                exact leadingDigits_cons_ne_nil isDigit rest empty
            | point rest isDigit => exact noPoint _ rfl
        next => cases none
  · intro noStart
    cases found : takeDecimal? text with
    | none => rfl
    | some parts =>
        obtain ⟨whole, fraction, rest⟩ := parts
        refine absurd ?_ noStart
        cases takesDecimal_iff.2 found with
        | whole taken noPoint nonempty =>
            cases taken with
            | done _ => exact absurd rfl nonempty
            | digit isDigit _ => exact .digit _ (isDigit_of_digitValue? isDigit)
        | point taken takenFraction nonempty =>
            cases taken with
            | digit isDigit _ => exact .digit _ (isDigit_of_digitValue? isDigit)
            | done _ =>
                cases takenFraction with
                | done _ => exact absurd rfl (nonempty rfl)
                | digit isDigit _ =>
                    exact .point _ (isDigit_of_digitValue? isDigit)

theorem AfterSign.rest_unique
    {text rest otherRest : List Char}
    {negative otherNegative : Bool}
    (after : AfterSign text negative rest)
    (otherAfter : AfterSign text otherNegative otherRest) :
    rest = otherRest :=
  congrArg Prod.snd
    ((afterSign_iff.1 after).symm.trans (afterSign_iff.1 otherAfter))

theorem AfterSign.exists_optionalSign
    {text unsigned : List Char}
    {negative : Bool}
    (after : AfterSign text negative unsigned) :
    ∃ sign, OptionalSign negative sign ∧ text = sign ++ unsigned := by
  cases after with
  | minus => exact ⟨['-'], .minus, rfl⟩
  | plus => exact ⟨['+'], .plus, rfl⟩
  | unsigned _ => exact ⟨[], .missing, rfl⟩

/-- Behind its sign a form starts with a digit or a point, whatever follows
it. -/
theorem DecimalForm.exists_sign
    {form : List Char}
    (isForm : DecimalForm form) :
    ∃ negative sign unsigned, OptionalSign negative sign ∧
      form = sign ++ unsigned ∧ ∀ rest, StartsDecimal (unsigned ++ rest) := by
  cases isForm with
  | @whole negative sign digits isSign nonempty allDigits =>
      exact ⟨negative, sign, digits, isSign, rfl,
        startsDecimal_append nonempty allDigits⟩
  | @point negative sign digits fraction isSign nonempty allDigits _ =>
      refine ⟨negative, sign, digits ++ '.' :: fraction, isSign,
        List.append_assoc .., ?_⟩
      intro rest
      rw [List.append_assoc]
      exact startsDecimal_append nonempty allDigits _
  | @fraction negative sign fraction isSign nonempty allDigits =>
      refine ⟨negative, sign, '.' :: fraction, isSign, rfl, ?_⟩
      intro rest
      cases fraction with
      | nil => exact absurd rfl nonempty
      | cons first fraction =>
          exact .point _ (allDigits first List.mem_cons_self)

/-- A text has a prefix of a decimal form exactly if a decimal starts behind its
sign. -/
theorem AfterSign.exists_decimalForm_iff
    {text unsigned : List Char}
    {negative : Bool}
    (after : AfterSign text negative unsigned) :
    (∃ form rest, text = form ++ rest ∧ DecimalForm form) ↔
      StartsDecimal unsigned := by
  constructor
  · rintro ⟨form, rest, rfl, isForm⟩
    obtain ⟨_, sign, body, isSign, rfl, starts⟩ := isForm.exists_sign
    rw [List.append_assoc] at after
    rw [after.rest_unique (isSign.afterSign_append (starts rest))]
    exact starts rest
  · intro starts
    obtain ⟨sign, isSign, rfl⟩ := after.exists_optionalSign
    cases starts with
    | @digit first rest isDigit =>
        refine ⟨sign ++ [first], rest, by simp, ?_⟩
        exact .whole isSign (List.cons_ne_nil _ _)
          (by simpa [AllDigits] using isDigit)
    | @point first rest isDigit =>
        refine ⟨sign ++ ['.', first], rest, by simp, ?_⟩
        exact .fraction isSign (List.cons_ne_nil _ _)
          (by simpa [AllDigits] using isDigit)

/-! ## Texts without result -/

theorem IntegerAt.integer?_eq_none_iff
    {text : List Char}
    {negative : Bool}
    {radix : Nat}
    {digits : List Nat}
    (isAt : IntegerAt text negative radix digits) :
    integer? text = none ↔
      digits = [] ∨ Binary64.leastTooLarge ≤ roundedNumber radix digits := by
  rw [isAt.integer?_eq]
  split
  next empty => exact iff_of_true rfl (.inl empty)
  next nonempty =>
      rw [ofDigits?_eq_none_iff isAt.radix_bounds.1, or_iff_right nonempty]

/-- A text has no integer as result exactly if it has no digit in its place, or
if the number that is read from its digits is too large. -/
theorem integer?_eq_none_iff {text : List Char} :
    integer? text = none ↔
      ∃ negative radix digits, IntegerAt text negative radix digits ∧
        (digits = [] ∨
          Binary64.leastTooLarge ≤ roundedNumber radix digits) := by
  constructor
  · intro none
    obtain ⟨negative, radix, digits, isAt⟩ := exists_integerAt text
    exact ⟨negative, radix, digits, isAt, isAt.integer?_eq_none_iff.1 none⟩
  · rintro ⟨negative, radix, digits, isAt, reason⟩
    exact isAt.integer?_eq_none_iff.2 reason

theorem DecimalAt.decimal?_eq_none_iff
    {text : List Char}
    {negative : Bool}
    {numeral : Decimal}
    (isAt : DecimalAt text negative numeral) :
    decimal? text = none ↔ numeral.AtLeast Binary64.leastTooLarge := by
  rw [isAt.decimal?_eq, Option.map_eq_none_iff, Decimal.toBinary64?_eq_none_iff]

/-- A text has no decimal as result exactly if it starts with none, or with one
that is too large. -/
theorem decimal?_eq_none_iff {text : List Char} :
    decimal? text = none ↔
      (∀ form rest, AfterBlanks text (form ++ rest) → ¬DecimalForm form) ∨
        ∃ negative numeral, DecimalAt text negative numeral ∧
          numeral.AtLeast Binary64.leastTooLarge := by
  have blanks : AfterBlanks text (dropBlanks text) := afterBlanks_iff.2 rfl
  have sign : AfterSign (dropBlanks text) (takeSign (dropBlanks text)).1
      (takeSign (dropBlanks text)).2 := afterSign_iff.2 rfl
  constructor
  · intro none
    cases found : takeDecimal? (takeSign (dropBlanks text)).2 with
    | none =>
        refine .inl fun form rest afterBlanks isForm => ?_
        have starts := sign.exists_decimalForm_iff.1
          ⟨form, rest, afterBlanks_iff.1 afterBlanks, isForm⟩
        exact takeDecimal?_eq_none_iff.1 found starts
    | some taken =>
        have isAt := DecimalAt.parts blanks sign (takesDecimal_iff.2 found)
        exact .inr ⟨_, _, isAt, isAt.decimal?_eq_none_iff.1 none⟩
  · rintro (noForm | ⟨negative, numeral, isAt, large⟩)
    · have noDecimal : takeDecimal? (takeSign (dropBlanks text)).2 = none := by
        rw [takeDecimal?_eq_none_iff, ← sign.exists_decimalForm_iff]
        rintro ⟨form, rest, text_eq, isForm⟩
        exact noForm form rest (afterBlanks_iff.2 text_eq) isForm
      rw [decimal?]
      simp only [noDecimal]
    · exact isAt.decimal?_eq_none_iff.2 large

end LeadingNumber

open LeadingNumber in
/-- The parser of integers has no result exactly where there is no digit of the
announced radix behind blanks, a sign and a radix mark, or where the number that
is read with rounding is too large, which it never is up to `2 ^ 1023` and
always is from `2 ^ 1025` on. The parser of decimals has no result exactly where
no prefix has the form of a decimal, or where the exact decimal is too large. -/
theorem unread_iff_no_number_or_too_large (text : String) :
    (Parser.integer.parse text = none ↔
        ∃ negative radix digits, IntegerAt text.toList negative radix digits ∧
          (digits = [] ∨ Binary64.leastTooLarge ≤ roundedNumber radix digits)) ∧
      (∀ negative radix digits, IntegerAt text.toList negative radix digits →
        digits ≠ [] → Text.numberOfDigits radix digits ≤ twoTo 1023 →
        Parser.integer.parse text ≠ none) ∧
      (∀ negative radix digits, IntegerAt text.toList negative radix digits →
        twoTo 1025 ≤ Text.numberOfDigits radix digits →
        Parser.integer.parse text = none) ∧
      (Parser.decimal.parse text = none ↔
        (∀ form rest, Text.AfterBlanks text.toList (form ++ rest) →
            ¬DecimalForm form) ∨
          ∃ negative numeral, DecimalAt text.toList negative numeral ∧
            numeral.AtLeast Binary64.leastTooLarge) := by
  refine ⟨?_, ?_, ?_, ?_⟩
  · rw [Parser.integer_parse, Option.map_eq_none_iff,
      LeadingNumber.integer?_eq_none_iff]
  · intro negative radix digits isAt nonempty le none
    rw [Parser.integer_parse, Option.map_eq_none_iff,
      isAt.integer?_eq_none_iff] at none
    have large := none.resolve_left nonempty
    exact Nat.not_lt.2 large (roundedNumber_lt isAt.radix_bounds.1 le)
  · intro negative radix digits isAt le
    have large := le_roundedNumber isAt.radix_bounds.1 isAt.radix_bounds.2
      isAt.lt_radix_of_mem le
    rw [Parser.integer_parse, Option.map_eq_none_iff, isAt.integer?_eq_none_iff]
    exact .inr large
  · rw [Parser.decimal_parse, Option.map_eq_none_iff,
      LeadingNumber.decimal?_eq_none_iff]

open LeadingNumber in
/-- A number of pixels has a result. -/
theorem pixels_read : Parser.integer.parse "12px" ≠ none := by
  have isAt : IntegerAt "12px".toList false 10 [1, 2] := by
    have text_eq : "12px".toList = ['1', '2', 'p', 'x'] := rfl
    rw [text_eq]
    exact .parts (Text.afterBlanks_iff.2 rfl) (afterSign_iff.2 rfl)
      (afterMark_iff.2 rfl) (Text.takesDigits_iff.2 ⟨rfl, rfl⟩)
  exact (unread_iff_no_number_or_too_large "12px").2.1 false 10 [1, 2] isAt
    (List.cons_ne_nil _ _) (by decide +kernel)

/-- The text of `2 ^ 1028` in hexadecimal digits. -/
def hexadecimalText : String :=
  "0x1" ++ String.ofList (List.replicate 257 '0')

open LeadingNumber in
/-- There is no result for some texts that start with a number. -/
theorem numbers_unread :
    (IntegerAt hexadecimalText.toList false 16 (1 :: List.replicate 257 0) ∧
        Parser.integer.parse hexadecimalText = none) ∧
      Text.AfterBlanks "1e309".toList (['1'] ++ "e309".toList) ∧
        DecimalForm ['1'] ∧ Parser.decimal.parse "1e309" = none := by
  have isAt :
      IntegerAt hexadecimalText.toList false 16
        (1 :: List.replicate 257 0) := by
    have zeros :
        Text.TakesDigits 16 (List.replicate 257 '0' ++ [])
          (List.replicate 257 0) [] :=
      Text.takesDigits_replicate_zero (by decide) 257 nofun
    rw [List.append_nil] at zeros
    rw [hexadecimalText, String.toList_append,
      @String.toList_ofList (List.replicate 257 '0')]
    generalize List.replicate 257 '0' = digits at zeros ⊢
    change IntegerAt ('0' :: 'x' :: '1' :: digits) _ _ _
    exact .parts (Text.afterBlanks_iff.2 rfl) (afterSign_iff.2 rfl) (.lower _)
      (.digit rfl zeros)
  refine ⟨⟨isAt, ?_⟩, ?_, ?_, ?_⟩
  · rw [Parser.integer_parse, Option.map_eq_none_iff, isAt.integer?_eq_none_iff]
    exact .inr (le_roundedNumber (by decide) (by decide) isAt.lt_radix_of_mem
      (by decide +kernel))
  · exact Text.afterBlanks_iff.2 (by decide)
  · exact .whole .missing (List.cons_ne_nil _ _) (by simp [Text.AllDigits])
  · exact Option.isNone_iff_eq_none.1 (by decide +kernel)

end ObjectSpec
