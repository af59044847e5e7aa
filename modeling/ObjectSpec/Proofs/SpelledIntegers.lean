import ObjectSpec.Parser
import ObjectSpec.Proofs.NumberRange
import ObjectSpec.Proofs.NumeralGrammar

/-!
# Spelled integers

A spelling of an integer is an optional sign, any number of zeros and the digits
of its magnitude. Both parsers of numbers read it back, behind blanks and before
whatever does not go on with it: the parser of integers if the magnitude has at
most 63 bits, and the parser of decimals if it has at most 53.
-/

namespace ObjectSpec

namespace Text

theorem not_isBlank_of_isDigit
    {character : Char}
    (isDigit : character.isDigit = true) :
    isBlank character = false := by
  have bounds := isDigit_iff.1 isDigit
  have outside : ∀ range ∈ blankRanges, range.last < 48 ∨ 57 < range.first := by
    decide
  rw [isBlank, inRanges, List.any_eq_false]
  intro range member
  have apart := outside range member
  rw [CharRange.contains, Bool.and_eq_true, decide_eq_true_eq,
    decide_eq_true_eq]
  omega

/-! ## Padded numerals -/

/-- The digits of a number behind further zeros. -/
def padded (zeros magnitude : Nat) : List Char :=
  List.replicate zeros '0' ++ Nat.toDigits 10 magnitude

theorem padded_ne_nil (zeros magnitude : Nat) : padded zeros magnitude ≠ [] :=
  List.append_ne_nil_of_right_ne_nil _ Nat.toDigits_ne_nil

theorem allDigits_padded (zeros magnitude : Nat) :
    AllDigits (padded zeros magnitude) := by
  intro character member
  rcases List.mem_append.1 member with zero | digit
  · rw [List.eq_of_mem_replicate zero]
    rfl
  · exact Nat.isDigit_of_mem_toDigits (by decide) (by decide) digit

theorem leadingDigits_padded_ne_nil (zeros magnitude : Nat) :
    leadingDigits 10 (padded zeros magnitude) ≠ [] := by
  have allDigits := allDigits_padded zeros magnitude
  cases written : padded zeros magnitude with
  | nil => exact absurd written (padded_ne_nil zeros magnitude)
  | cons first digits =>
      rw [written] at allDigits
      exact leadingDigits_cons_ne_nil (allDigits first List.mem_cons_self)
        digits

/-- Zeros in front do not count. -/
theorem numberOfDigits_padded (zeros magnitude : Nat) :
    numberOfDigits 10 (leadingDigits 10 (padded zeros magnitude)) =
      magnitude := by
  induction zeros with
  | zero =>
      have read :=
        leadingNumber_toDigits_append (by decide) (by decide) magnitude
        (leadingDigits_nil 10)
      rwa [List.append_nil] at read
  | succ zeros inductionHypothesis =>
      rw [padded, List.replicate_succ, List.cons_append, ← padded,
        leadingDigits_cons_of_some rfl]
      exact inductionHypothesis

/-- Zeros at the end multiply by ten. -/
theorem numberOfDigits_append_zeros (digits : List Nat) (places : Nat) :
    numberOfDigits 10 (digits ++ List.replicate places 0) =
      numberOfDigits 10 digits * tenTo places := by
  induction places with
  | zero => simp
  | succ places inductionHypothesis =>
      rw [List.replicate_succ', ← List.append_assoc,
        numberOfDigits_append_singleton, inductionHypothesis, tenTo_succ,
        Nat.mul_assoc, Nat.add_zero]

end Text

namespace LeadingNumber

open Text

theorem OptionalSign.not_blank
    {sign text : List Char}
    {negative : Bool}
    (isSign : OptionalSign negative sign)
    (starts : StartsDecimal text) :
    ∀ first ∈ (sign ++ text).head?, isBlank first = false := by
  cases isSign with
  | minus => rintro first ⟨⟩; decide
  | plus => rintro first ⟨⟩; decide
  | missing =>
      cases starts with
      | digit rest isDigit =>
          rintro first ⟨⟩; exact not_isBlank_of_isDigit isDigit
      | point rest _ => rintro first ⟨⟩; decide

/-- Digits are no mark, unless they are a single zero before the letter of a
mark. -/
theorem afterMark_append
    {digits rest : List Char}
    (nonempty : digits ≠ [])
    (allDigits : AllDigits digits)
    (noMark : digits = ['0'] → ∀ next ∈ rest.head?, next ≠ 'x' ∧ next ≠ 'X') :
    AfterMark (digits ++ rest) 10 (digits ++ rest) := by
  refine .unmarked fun behind => ?_
  cases digits with
  | nil => exact absurd rfl nonempty
  | cons first digits =>
      cases digits with
      | nil =>
          constructor
          · rintro ⟨⟩
            exact (noMark rfl 'x' rfl).1 rfl
          · rintro ⟨⟩
            exact (noMark rfl 'X' rfl).2 rfl
      | cons second digits =>
          have isDigit := allDigits second (by simp)
          constructor <;> rintro ⟨⟩ <;> exact absurd isDigit (by decide)

theorem startsDecimal_padded (zeros magnitude : Nat) (rest : List Char) :
    StartsDecimal (padded zeros magnitude ++ rest) :=
  startsDecimal_append (padded_ne_nil zeros magnitude)
    (allDigits_padded zeros magnitude) rest

theorem takesDigits_padded
    (zeros magnitude : Nat)
    {rest : List Char}
    (noDigit : ∀ next ∈ rest.head?, next.isDigit = false) :
    TakesDigits 10 (padded zeros magnitude ++ rest)
      (leadingDigits 10 (padded zeros magnitude)) rest := by
  refine takesDigits_append ?_ ?_
  · intro character member
    exact digitValue?_ten_ne_none_iff.2
      (allDigits_padded zeros magnitude character member)
  · intro next isNext
    exact digitValue?_ten_eq_none_iff.2 (noDigit next isNext)

/-! ## Spellings between blanks and a rest -/

section Spelling

variable {blanks sign rest : List Char} {negative : Bool}
variable (allBlank : ∀ character ∈ blanks, isBlank character = true)
variable (isSign : OptionalSign negative sign)
variable (zeros magnitude : Nat)

include allBlank isSign

theorem afterBlanks_padded (rest : List Char) :
    AfterBlanks (blanks ++ (sign ++ padded zeros magnitude) ++ rest)
      (sign ++ (padded zeros magnitude ++ rest)) := by
  rw [List.append_assoc, List.append_assoc]
  exact afterBlanks_append allBlank
    (isSign.not_blank (startsDecimal_padded zeros magnitude rest))

/-- The digits of a spelling are those of the integer at the start of the
text. -/
theorem integerAt_padded
    (noDigit : ∀ next ∈ rest.head?, next.isDigit = false)
    (noMark : magnitude = 0 → ∀ next ∈ rest.head?, next ≠ 'x' ∧ next ≠ 'X') :
    IntegerAt (blanks ++ (sign ++ padded zeros magnitude) ++ rest) negative 10
      (leadingDigits 10 (padded zeros magnitude)) := by
  refine .parts (afterBlanks_padded allBlank isSign zeros magnitude rest)
    (isSign.afterSign_append (startsDecimal_padded zeros magnitude rest)) ?_
    (takesDigits_padded zeros magnitude noDigit)
  refine afterMark_append (padded_ne_nil zeros magnitude)
    (allDigits_padded zeros magnitude) ?_
  intro single
  refine noMark ?_
  rw [← numberOfDigits_padded zeros magnitude, single]
  rfl

/-- The digits of a spelling are a decimal without a point. -/
theorem decimalAt_padded
    (noDigit : ∀ next ∈ rest.head?, next.isDigit = false)
    (noPoint : ∀ next ∈ rest.head?, next ≠ '.') :
    DecimalAt (blanks ++ (sign ++ padded zeros magnitude) ++ rest) negative
      ⟨magnitude, exponent rest⟩ := by
  have isAt :=
    DecimalAt.parts (afterBlanks_padded allBlank isSign zeros magnitude rest)
    (isSign.afterSign_append (startsDecimal_padded zeros magnitude rest))
    (.whole (takesDigits_padded zeros magnitude noDigit) noPoint
      (leadingDigits_padded_ne_nil zeros magnitude))
  rw [Decimal.ofDigits, List.append_nil, numberOfDigits_padded] at isAt
  simpa using isAt

/-- Zeros behind a point keep the magnitude of a decimal. -/
theorem decimalAt_padded_point
    (places : Nat)
    (noDigit : ∀ next ∈ rest.head?, next.isDigit = false) :
    DecimalAt (blanks ++ (sign ++ padded zeros magnitude) ++
        '.' :: (List.replicate places '0' ++ rest)) negative
      ⟨magnitude * tenTo places, exponent rest - places⟩ := by
  have fraction : TakesDigits 10 (List.replicate places '0' ++ rest)
      (List.replicate places 0) rest :=
    takesDigits_replicate_zero (by decide) places fun next isNext =>
      digitValue?_ten_eq_none_iff.2 (noDigit next isNext)
  have isAt := DecimalAt.parts
    (afterBlanks_padded allBlank isSign zeros magnitude _)
    (isSign.afterSign_append (startsDecimal_padded zeros magnitude _))
    (.point (takesDigits_padded zeros magnitude (by rintro next ⟨⟩; rfl))
      fraction
      fun none => absurd none (leadingDigits_padded_ne_nil zeros magnitude))
  rwa [Decimal.ofDigits, numberOfDigits_append_zeros, numberOfDigits_padded,
    List.length_replicate] at isAt

end Spelling

theorem exponent_eq_zero
    {text : List Char}
    (noMark : ∀ next ∈ text.head?, next ≠ 'e' ∧ next ≠ 'E') :
    exponent text = 0 := by
  cases text with
  | nil => rfl
  | cons next text =>
      obtain ⟨notLower, notUpper⟩ := noMark next rfl
      exact if_neg (not_or.2 ⟨notLower, notUpper⟩)

/-! ## Values -/

theorem ofDigits?_of_le
    {radix : Nat}
    {digits : List Nat}
    (negative : Bool)
    (exact : numberOfDigits radix digits ≤ greatestExact) :
    ofDigits? negative radix digits =
      some (.int (if negative then -(numberOfDigits radix digits : Int)
        else numberOfDigits radix digits)) :=
  if_pos exact

/-- A magnitude below `2 ^ 53` is read as an integer from a decimal. -/
theorem DecimalAt.decimal?_of_lt
    {text : List Char}
    {negative : Bool}
    {magnitude places : Nat}
    (isAt : DecimalAt text negative ⟨magnitude * tenTo places, -places⟩)
    (exact : magnitude < twoTo 53) :
    decimal? text =
      some (.int (if negative then -(magnitude : Int) else magnitude)) := by
  obtain ⟨number, rounded, isNegative, units_eq⟩ :=
    Decimal.toBinary64?_of_lt places negative exact
  rw [isAt.decimal?_eq, rounded, Option.map_some, Number.ofBinary64,
    Binary64.toNat?_of_units_eq units_eq]
  simp only
  rw [if_pos exact, isNegative]

/-- The magnitude `2 ^ 63` has more than 63 bits. Its digits are rounded as they
are read, and the errors add up to `2048`. -/
theorem exists_float_of_least :
    ∃ float : Binary64,
      ofDigits? true 10 (leadingDigits 10 (padded 0 (twoTo 63))) =
          some (.float float) ∧
        float.negative = true ∧ float.toNat? = some (twoTo 63 + 2048) := by
  refine ⟨⟨true, twoTo 52 + 1, 1085, by decide +kernel, by decide,
    .inl (Nat.le_succ _)⟩, ?_, rfl, ?_⟩
  · decide +kernel
  · decide +kernel

/-! ## Spellings of integers -/

/-- The spellings of an integer in decimal digits. -/
inductive Spells : Int → List Char → Prop
  /-- An optional sign, zeros and the digits of the magnitude. -/
  | parts {negative : Bool} {sign : List Char} (zeros magnitude : Nat) :
      OptionalSign negative sign →
      Spells (if negative then -(magnitude : Int) else magnitude)
        (sign ++ padded zeros magnitude)

/-- The text of an integer is its spelling without further zeros. -/
theorem spells_toString (number : Int) :
    Spells number (toString number).toList := by
  rw [Int.toString_eq_repr, Int.repr_eq_if]
  rcases Int.lt_or_le number 0 with negative | nonnegative
  · have spelled := Spells.parts 0 (-number).toNat .minus
    have number_eq : -((-number).toNat : Int) = number := by omega
    rw [if_pos rfl, number_eq] at spelled
    rw [if_neg (Int.not_le.2 negative), String.toList_append, Nat.toList_repr]
    exact spelled
  · have spelled := Spells.parts 0 number.toNat .missing
    rw [if_neg Bool.false_ne_true, Int.toNat_of_nonneg nonnegative] at spelled
    rw [if_pos nonnegative, Nat.toList_repr]
    exact spelled

theorem natAbs_signed (negative : Bool) (magnitude : Nat) :
    (if negative then -(magnitude : Int) else magnitude).natAbs =
      magnitude := by
  cases negative
  · rfl
  · exact Int.natAbs_neg magnitude

namespace Spells

variable {number : Int} {blanks spelling rest : List Char}
variable (spelled : Spells number spelling)
variable (allBlank : ∀ character ∈ blanks, isBlank character = true)
variable (noDigit : ∀ next ∈ rest.head?, next.isDigit = false)

include spelled allBlank noDigit

/-- Up to 63 bits the parser of integers reads a spelling back. -/
theorem integer?_eq
    (exact : number.natAbs ≤ greatestExact)
    (noMark : number = 0 → ∀ next ∈ rest.head?, next ≠ 'x' ∧ next ≠ 'X') :
    integer? (blanks ++ spelling ++ rest) = some (.int number) := by
  cases spelled with
  | @parts negative sign zeros magnitude isSign =>
      rw [natAbs_signed] at exact
      have isAt :=
        integerAt_padded allBlank isSign zeros magnitude noDigit fun zero =>
        noMark (by rw [← Int.natAbs_eq_zero, natAbs_signed, zero])
      rw [isAt.integer?_eq,
        if_neg (leadingDigits_padded_ne_nil zeros magnitude),
        ofDigits?_of_le negative (by rwa [numberOfDigits_padded]),
        numberOfDigits_padded]

/-- Below `2 ^ 53` the parser of decimals reads a spelling back. -/
theorem decimal?_eq
    (exact : number.natAbs < twoTo 53)
    (noPoint : ∀ next ∈ rest.head?, next ≠ '.')
    (noExponent : ∀ next ∈ rest.head?, next ≠ 'e' ∧ next ≠ 'E') :
    decimal? (blanks ++ spelling ++ rest) = some (.int number) := by
  cases spelled with
  | @parts negative sign zeros magnitude isSign =>
      rw [natAbs_signed] at exact
      have isAt :=
        decimalAt_padded allBlank isSign zeros magnitude noDigit noPoint
      rw [exponent_eq_zero noExponent] at isAt
      have withoutPlaces :
          DecimalAt (blanks ++ (sign ++ padded zeros magnitude) ++ rest)
            negative ⟨magnitude * tenTo 0, -(0 : Nat)⟩ := by
        rwa [tenTo_zero, Nat.mul_one]
      exact withoutPlaces.decimal?_of_lt exact

/-- Zeros behind a point make no difference to it. -/
theorem decimal?_point_eq
    (exact : number.natAbs < twoTo 53)
    (noExponent : ∀ next ∈ rest.head?, next ≠ 'e' ∧ next ≠ 'E')
    (places : Nat) :
    decimal? (blanks ++ spelling ++ '.' ::
        (List.replicate places '0' ++ rest)) =
      some (.int number) := by
  cases spelled with
  | @parts negative sign zeros magnitude isSign =>
      rw [natAbs_signed] at exact
      have isAt :=
        decimalAt_padded_point allBlank isSign zeros magnitude places noDigit
      rw [exponent_eq_zero noExponent, Int.zero_sub] at isAt
      exact isAt.decimal?_of_lt exact

end Spells

end LeadingNumber

/-- An integer of 64 bits is read back from its text, with one exception. The
least of them has a magnitude of more than 63 bits, so it becomes a float, and
not even one of its value. -/
theorem integer_read_back_unless_least
    {number : Int}
    (lower : -(twoTo 63 : Int) ≤ number)
    (upper : number < twoTo 63)
    {blanks rest : String}
    (allBlank : ∀ character ∈ blanks.toList, Text.isBlank character = true)
    (noDigit : ∀ next ∈ rest.toList.head?, next.isDigit = false)
    (noMark : number = 0 →
      ∀ next ∈ rest.toList.head?, next ≠ 'x' ∧ next ≠ 'X') :
    (number ≠ -(twoTo 63 : Int) →
        Parser.integer.parse (blanks ++ toString number ++ rest) =
          some (.int number)) ∧
      (number = -(twoTo 63 : Int) →
        ∃ float : Binary64,
          Parser.integer.parse (blanks ++ toString number ++ rest) =
              some (.number (.float float)) ∧
            float.negative = true ∧ float.toNat? = some (twoTo 63 + 2048)) := by
  rw [Parser.integer_parse, String.toList_append, String.toList_append]
  constructor
  · intro notLeast
    have exact : number.natAbs ≤ LeadingNumber.greatestExact := by
      rw [LeadingNumber.greatestExact]
      omega
    rw [(LeadingNumber.spells_toString number).integer?_eq allBlank noDigit
        exact noMark]
    rfl
  · rintro rfl
    have written :
        (toString (-(twoTo 63 : Int))).toList =
          ['-'] ++ Text.padded 0 (twoTo 63) := by
      decide +kernel
    have isAt :=
      LeadingNumber.integerAt_padded allBlank .minus 0 (twoTo 63) noDigit
      fun zero => absurd zero (Nat.ne_of_gt (twoTo_pos 63))
    obtain ⟨float, read, isNegative, value_eq⟩ :=
      LeadingNumber.exists_float_of_least
    rw [written, isAt.integer?_eq,
      if_neg (Text.leadingDigits_padded_ne_nil 0 (twoTo 63)), read]
    exact ⟨float, rfl, isNegative, value_eq⟩

/-- The least integer but one is read back, behind a tabulator and before a
unit. -/
theorem leastButOne_read_back :
    Parser.integer.parse
        ("\t" ++ toString (-9223372036854775807 : Int) ++ "px") =
      some (.int (-9223372036854775807)) := by
  have allBlank : ∀ character ∈ "\t".toList, Text.isBlank character = true :=
    List.all_eq_true.1 (by decide)
  have noDigit : ∀ next ∈ "px".toList.head?, next.isDigit = false := by
    rintro next ⟨⟩
    rfl
  exact (integer_read_back_unless_least (by decide +kernel) (by decide +kernel)
    allBlank noDigit fun zero => absurd zero (by decide)).1 (by decide +kernel)

/-- The least integer is not read back. -/
theorem least_not_read_back :
    Parser.integer.parse (toString (-9223372036854775808 : Int)) ≠
      some (.int (-9223372036854775808)) := by
  intro readBack
  rw [Parser.integer_parse] at readBack
  obtain ⟨number, read, isInteger⟩ := Option.map_eq_some_iff.1 readBack
  cases isInteger
  exact absurd read (by decide +kernel)

/-- Below `2 ^ 53` in magnitude an integer is read from each of its spellings by
both parsers of numbers, and by that of decimals also with zeros behind a
point. -/
theorem number_parsers_agree_on_spelled_integers
    {number : Int}
    (exact : number.natAbs < twoTo 53)
    {blanks spelling rest : String}
    (allBlank : ∀ character ∈ blanks.toList, Text.isBlank character = true)
    (spelled : LeadingNumber.Spells number spelling.toList)
    (noDigit : ∀ next ∈ rest.toList.head?, next.isDigit = false)
    (noPoint : ∀ next ∈ rest.toList.head?, next ≠ '.')
    (noExponent : ∀ next ∈ rest.toList.head?, next ≠ 'e' ∧ next ≠ 'E')
    (noMark : ∀ next ∈ rest.toList.head?, next ≠ 'x' ∧ next ≠ 'X') :
    Parser.integer.parse (blanks ++ spelling ++ rest) = some (.int number) ∧
      Parser.decimal.parse (blanks ++ spelling ++ rest) = some (.int number) ∧
        ∀ places, Parser.decimal.parse
            (blanks ++ spelling ++ "." ++
              String.ofList (List.replicate places '0') ++ rest) =
          some (.int number) := by
  refine ⟨?_, ?_, ?_⟩
  · have exact63 : number.natAbs ≤ LeadingNumber.greatestExact :=
      Nat.le_trans (Nat.le_of_lt exact) (by decide +kernel)
    rw [Parser.integer_parse, String.toList_append, String.toList_append,
      spelled.integer?_eq allBlank noDigit exact63 fun _ => noMark]
    rfl
  · rw [Parser.decimal_parse, String.toList_append, String.toList_append,
      spelled.decimal?_eq allBlank noDigit exact noPoint noExponent]
    rfl
  · intro places
    have text_eq :
        (blanks ++ spelling ++ "." ++
            String.ofList (List.replicate places '0') ++ rest).toList =
          blanks.toList ++ spelling.toList ++
            '.' :: (List.replicate places '0' ++ rest.toList) := by
      simp
    rw [Parser.decimal_parse, text_eq,
      spelled.decimal?_point_eq allBlank noDigit exact noExponent places]
    rfl

/-- A negative number is read from a padded spelling, before a unit. -/
theorem paddedDepth_read_by_both_parsers :
    Parser.integer.parse (" " ++ "-0042" ++ "m") = some (.int (-42)) ∧
      Parser.decimal.parse (" " ++ "-0042" ++ "m") = some (.int (-42)) ∧
        ∀ places, Parser.decimal.parse
            (" " ++ "-0042" ++ "." ++
              String.ofList (List.replicate places '0') ++ "m") =
          some (.int (-42)) :=
  number_parsers_agree_on_spelled_integers (by decide +kernel)
    (List.all_eq_true.1 (by decide)) (.parts 2 42 .minus)
    (by rintro next ⟨⟩; rfl) (by rintro next ⟨⟩; decide)
    (by rintro next ⟨⟩; decide) (by rintro next ⟨⟩; decide)

end ObjectSpec
