import ObjectSpec.Parser
import ObjectSpec.Proofs.Numerals

/-!
# The grammar of numbers in texts

What is read as a number at the start of a text is described part by part:
blanks, a sign, a radix mark, digits, a point. A part that may be missing is
taken if it is there, and digits are taken as long as they go on. The functions
that read numbers follow this grammar.
-/

namespace ObjectSpec

namespace Text

/-! ## Decimal digits -/

theorem isDigit_iff {character : Char} :
    character.isDigit = true ↔ 48 ≤ character.toNat ∧ character.toNat ≤ 57 := by
  rw [Char.isDigit, Bool.and_eq_true, decide_eq_true_eq, decide_eq_true_eq]
  exact Iff.rfl

theorem digitValue?_ten_eq_none_iff {character : Char} :
    digitValue? 10 character = none ↔ character.isDigit = false := by
  rw [digitValue?, Option.filter_eq_none_iff]
  constructor
  · intro noDigit
    rw [Bool.eq_false_iff]
    intro isDigit
    have value : hexValue? character = some (character.toNat - '0'.toNat) := by
      rw [hexValue?, if_pos isDigit]
    have large : ¬character.toNat - 48 < 10 := by
      simpa using noDigit _ value
    have bounds := isDigit_iff.1 isDigit
    omega
  · intro noDigit value isValue
    rw [hexValue?, noDigit] at isValue
    simp only [Bool.false_eq_true, if_false] at isValue
    split at isValue
    next => cases isValue; simp
    next =>
        split at isValue
        next => cases isValue; simp
        next => cases isValue

theorem digitValue?_ten_ne_none_iff {character : Char} :
    digitValue? 10 character ≠ none ↔ character.isDigit = true := by
  rw [Ne, digitValue?_ten_eq_none_iff, Bool.not_eq_false]

theorem leadingDigits_cons_ne_nil
    {first : Char}
    (isDigit : first.isDigit = true)
    (rest : List Char) :
    leadingDigits 10 (first :: rest) ≠ [] := by
  obtain ⟨value, hasValue⟩ :=
    Option.ne_none_iff_exists'.1 (digitValue?_ten_ne_none_iff.2 isDigit)
  rw [leadingDigits_cons_of_some hasValue]
  exact List.cons_ne_nil _ _

/-- Every character is a digit. -/
def AllDigits (text : List Char) : Prop :=
  ∀ character ∈ text, character.isDigit = true

/-! ## Parts of a text -/

/-- The rest of a text behind its leading blanks. -/
inductive AfterBlanks : List Char → List Char → Prop
  /-- Other characters end the blanks. -/
  | done {text : List Char} :
      (∀ first ∈ text.head?, isBlank first = false) →
      AfterBlanks text text
  /-- A blank is passed over. -/
  | blank {first : Char} {text rest : List Char} :
      isBlank first = true →
      AfterBlanks text rest →
      AfterBlanks (first :: text) rest

theorem afterBlanks_iff {text rest : List Char} :
    AfterBlanks text rest ↔ dropBlanks text = rest := by
  unfold dropBlanks
  constructor
  · intro after
    induction after with
    | @done text noBlank =>
        cases text with
        | nil => rfl
        | cons first text =>
            rw [List.dropWhile_cons_of_neg]
            simpa using noBlank
    | blank isBlank _ inductionHypothesis =>
        rw [List.dropWhile_cons_of_pos isBlank, inductionHypothesis]
  · rintro rfl
    induction text with
    | nil => exact .done nofun
    | cons first text inductionHypothesis =>
        by_cases blank : isBlank first = true
        · rw [List.dropWhile_cons_of_pos blank]
          exact .blank blank inductionHypothesis
        · rw [List.dropWhile_cons_of_neg blank]
          refine .done ?_
          simpa using blank

theorem afterBlanks_append
    {blanks text : List Char}
    (allBlank : ∀ character ∈ blanks, isBlank character = true)
    (ends : ∀ first ∈ text.head?, isBlank first = false) :
    AfterBlanks (blanks ++ text) text := by
  induction blanks with
  | nil => exact .done ends
  | cons first blanks inductionHypothesis =>
      obtain ⟨blank, others⟩ := List.forall_mem_cons.1 allBlank
      exact .blank blank (inductionHypothesis others)

/-- The digits of a radix at the start of a text, by their values, and the
rest. -/
inductive TakesDigits (radix : Nat) : List Char → List Nat → List Char → Prop
  /-- Other characters end the digits. -/
  | done {text : List Char} :
      (∀ first ∈ text.head?, digitValue? radix first = none) →
      TakesDigits radix text [] text
  /-- A digit is taken. -/
  | digit {first : Char} {value : Nat} {text : List Char} {values : List Nat}
      {rest : List Char} :
      digitValue? radix first = some value →
      TakesDigits radix text values rest →
      TakesDigits radix (first :: text) (value :: values) rest

theorem takesDigits_iff
    {radix : Nat}
    {text rest : List Char}
    {values : List Nat} :
    TakesDigits radix text values rest ↔
      leadingDigits radix text = values ∧ text.drop values.length = rest := by
  constructor
  · intro takes
    induction takes with
    | @done text noDigit =>
        cases text with
        | nil => exact ⟨rfl, rfl⟩
        | cons first text =>
            exact ⟨leadingDigits_cons_of_none (noDigit first rfl) text, rfl⟩
    | digit isDigit _ inductionHypothesis =>
        obtain ⟨rfl, rfl⟩ := inductionHypothesis
        exact ⟨leadingDigits_cons_of_some isDigit _, rfl⟩
  · rintro ⟨rfl, rfl⟩
    induction text with
    | nil => exact .done nofun
    | cons first text inductionHypothesis =>
        cases found : digitValue? radix first with
        | some value =>
            rw [leadingDigits_cons_of_some found]
            exact .digit found inductionHypothesis
        | none =>
            rw [leadingDigits_cons_of_none found]
            refine .done ?_
            rintro next ⟨⟩
            exact found

theorem TakesDigits.lt_of_mem
    {radix : Nat}
    {text rest : List Char}
    {values : List Nat}
    (taken : TakesDigits radix text values rest) :
    ∀ value ∈ values, value < radix := by
  induction taken with
  | done _ => exact List.forall_mem_nil _
  | digit isDigit _ inductionHypothesis =>
      exact List.forall_mem_cons.2 ⟨digitValue?_lt isDigit, inductionHypothesis⟩

theorem takesDigits_append
    {radix : Nat}
    {digits rest : List Char}
    (allDigits : ∀ character ∈ digits, digitValue? radix character ≠ none)
    (ends : ∀ next ∈ rest.head?, digitValue? radix next = none) :
    TakesDigits radix (digits ++ rest) (leadingDigits radix digits) rest := by
  induction digits with
  | nil => exact .done ends
  | cons first digits inductionHypothesis =>
      obtain ⟨isDigit, others⟩ := List.forall_mem_cons.1 allDigits
      obtain ⟨value, hasValue⟩ := Option.ne_none_iff_exists'.1 isDigit
      rw [leadingDigits_cons_of_some hasValue]
      exact .digit hasValue (inductionHypothesis others)

theorem takesDigits_replicate_zero
    {radix : Nat}
    {rest : List Char}
    (positive : 0 < radix)
    (count : Nat)
    (ends : ∀ next ∈ rest.head?, digitValue? radix next = none) :
    TakesDigits radix (List.replicate count '0' ++ rest)
      (List.replicate count 0) rest := by
  induction count with
  | zero => exact .done ends
  | succ count inductionHypothesis =>
      have isDigit : digitValue? radix '0' = some 0 :=
        Option.filter_eq_some_iff.2 ⟨rfl, decide_eq_true positive⟩
      exact .digit isDigit inductionHypothesis

end Text

namespace LeadingNumber

open Text

/-! ## Signs -/

/-- A sign that may be missing, and whether it is negative. -/
inductive OptionalSign : Bool → List Char → Prop
  | missing : OptionalSign false []
  | minus : OptionalSign true ['-']
  | plus : OptionalSign false ['+']

/-- A text that starts with a digit, or with a point and a digit. -/
inductive StartsDecimal : List Char → Prop
  /-- A digit comes first. -/
  | digit {first : Char} (rest : List Char) :
      first.isDigit = true → StartsDecimal (first :: rest)
  /-- A digit comes after a point. -/
  | point {first : Char} (rest : List Char) :
      first.isDigit = true → StartsDecimal ('.' :: first :: rest)

theorem startsDecimal_append
    {digits : List Char}
    (nonempty : digits ≠ [])
    (allDigits : AllDigits digits)
    (rest : List Char) :
    StartsDecimal (digits ++ rest) := by
  cases digits with
  | nil => exact absurd rfl nonempty
  | cons first digits => exact .digit _ (allDigits first List.mem_cons_self)

/-- Whether a text starts with a minus sign, and the rest behind an optional
sign. -/
inductive AfterSign : List Char → Bool → List Char → Prop
  /-- A minus sign is taken. -/
  | minus (rest : List Char) : AfterSign ('-' :: rest) true rest
  /-- A plus sign is taken. -/
  | plus (rest : List Char) : AfterSign ('+' :: rest) false rest
  /-- There is no sign. -/
  | unsigned {text : List Char} :
      (∀ first ∈ text.head?, first ≠ '-' ∧ first ≠ '+') →
      AfterSign text false text

theorem afterSign_iff
    {text rest : List Char}
    {negative : Bool} :
    AfterSign text negative rest ↔ takeSign text = (negative, rest) := by
  constructor
  · intro after
    cases after with
    | minus rest => rfl
    | plus rest => rfl
    | unsigned noSign =>
        unfold takeSign
        split
        next => exact absurd rfl (noSign '-' rfl).1
        next => exact absurd rfl (noSign '+' rfl).2
        next => rfl
  · intro taken
    unfold takeSign at taken
    split at taken
    next => cases taken; exact .minus _
    next => cases taken; exact .plus _
    next noMinus noPlus =>
        cases taken
        refine .unsigned ?_
        intro first isFirst
        obtain ⟨rest, rfl⟩ := List.head?_eq_some_iff.1 isFirst
        refine ⟨?_, ?_⟩
        · rintro rfl
          exact noMinus rest rfl
        · rintro rfl
          exact noPlus rest rfl

/-- An optional sign is taken from before a decimal. -/
theorem OptionalSign.afterSign_append
    {sign text : List Char}
    {negative : Bool}
    (isSign : OptionalSign negative sign)
    (starts : StartsDecimal text) :
    AfterSign (sign ++ text) negative text := by
  cases isSign with
  | minus => exact .minus text
  | plus => exact .plus text
  | missing =>
      refine .unsigned ?_
      cases starts with
      | digit rest isDigit =>
          rintro first ⟨⟩
          constructor <;> rintro rfl <;> exact absurd isDigit (by decide)
      | point rest _ =>
          rintro first ⟨⟩
          decide

/-! ## Integers -/

/-- The radix that a text announces, and the rest behind an optional radix
mark. -/
inductive AfterMark : List Char → Nat → List Char → Prop
  /-- A mark announces hexadecimal digits. -/
  | lower (rest : List Char) : AfterMark ('0' :: 'x' :: rest) 16 rest
  /-- The mark may be written in upper case. -/
  | upper (rest : List Char) : AfterMark ('0' :: 'X' :: rest) 16 rest
  /-- Without a mark the digits are decimal. -/
  | unmarked {text : List Char} :
      (∀ rest, text ≠ '0' :: 'x' :: rest ∧ text ≠ '0' :: 'X' :: rest) →
      AfterMark text 10 text

theorem afterMark_iff
    {text rest : List Char}
    {radix : Nat} :
    AfterMark text radix rest ↔ takeRadix text = (radix, rest) := by
  constructor
  · intro after
    cases after with
    | lower rest => rfl
    | upper rest => rfl
    | unmarked noMark =>
        unfold takeRadix
        split
        next rest => exact absurd rfl (noMark rest).1
        next rest => exact absurd rfl (noMark rest).2
        next => rfl
  · intro taken
    unfold takeRadix at taken
    split at taken
    next => cases taken; exact .lower _
    next => cases taken; exact .upper _
    next noLower noUpper =>
        cases taken
        exact .unmarked fun rest => ⟨noLower rest, noUpper rest⟩

/-- The sign, the radix and the digits of the integer at the start of a text.
There are no digits where none stands at its place. -/
inductive IntegerAt
    (text : List Char)
    (negative : Bool)
    (radix : Nat)
    (digits : List Nat) :
    Prop
  /-- Digits follow blanks, an optional sign and an optional mark. -/
  | parts {unblanked unsigned numeral rest : List Char} :
      AfterBlanks text unblanked →
      AfterSign unblanked negative unsigned →
      AfterMark unsigned radix numeral →
      TakesDigits radix numeral digits rest →
      IntegerAt text negative radix digits

/-- Every text has these parts. -/
theorem exists_integerAt (text : List Char) :
    ∃ negative radix digits, IntegerAt text negative radix digits :=
  ⟨_, _, _, .parts (afterBlanks_iff.2 rfl) (afterSign_iff.2 rfl)
    (afterMark_iff.2 rfl) (takesDigits_iff.2 ⟨rfl, rfl⟩)⟩

namespace IntegerAt

variable {text : List Char} {negative : Bool} {radix : Nat} {digits : List Nat}
variable (isAt : IntegerAt text negative radix digits)

include isAt

theorem radix_bounds : 1 < radix ∧ radix ≤ 16 := by
  cases isAt with
  | parts _ _ marked _ => cases marked <;> decide

theorem lt_radix_of_mem : ∀ digit ∈ digits, digit < radix := by
  cases isAt with
  | parts _ _ _ taken => exact taken.lt_of_mem

/-- An integer is read from its digits, if there are any. -/
theorem integer?_eq :
    integer? text =
      if digits = [] then none else ofDigits? negative radix digits := by
  cases isAt with
  | parts blanks sign mark taken =>
      rw [integer?, afterBlanks_iff.1 blanks, afterSign_iff.1 sign]
      simp only [afterMark_iff.1 mark, (takesDigits_iff.1 taken).1]
      split
      next => rw [if_pos rfl]
      next nonempty => rw [if_neg nonempty]

end IntegerAt

/-! ## Decimals -/

/-- The digits of a decimal at the start of a text, before and after an optional
point, and the rest. At least one digit is among them. -/
inductive TakesDecimal : List Char → List Nat → List Nat → List Char → Prop
  /-- There is no point. -/
  | whole {text rest : List Char} {whole : List Nat} :
      TakesDigits 10 text whole rest →
      (∀ first ∈ rest.head?, first ≠ '.') →
      whole ≠ [] →
      TakesDecimal text whole [] rest
  /-- Digits stand on either side of a point, or on both. -/
  | point {text afterPoint rest : List Char} {whole fraction : List Nat} :
      TakesDigits 10 text whole ('.' :: afterPoint) →
      TakesDigits 10 afterPoint fraction rest →
      (whole = [] → fraction ≠ []) →
      TakesDecimal text whole fraction rest

theorem takesDecimal_iff
    {text rest : List Char}
    {whole fraction : List Nat} :
    TakesDecimal text whole fraction rest ↔
      takeDecimal? text = some (whole, fraction, rest) := by
  constructor
  · intro takes
    rw [takeDecimal?]
    cases takes with
    | whole taken noPoint nonempty =>
        obtain ⟨rfl, rfl⟩ := takesDigits_iff.1 taken
        simp only
        split
        next point => exact absurd rfl (noPoint '.' (by rw [point]; rfl))
        next => rw [if_neg nonempty]
    | point taken takenFraction nonempty =>
        obtain ⟨rfl, behind⟩ := takesDigits_iff.1 taken
        obtain ⟨rfl, rfl⟩ := takesDigits_iff.1 takenFraction
        simp only [behind]
        rw [if_neg fun empty => nonempty empty.1 empty.2]
  · intro found
    have taken : TakesDigits 10 text (leadingDigits 10 text) _ :=
      takesDigits_iff.2 ⟨rfl, rfl⟩
    unfold takeDecimal? at found
    simp only at found
    split at found
    next afterPoint point =>
        rw [point] at taken
        split at found
        next => cases found
        next nonempty =>
            cases found
            refine .point taken (takesDigits_iff.2 ⟨rfl, rfl⟩) ?_
            exact fun noWhole noFraction => nonempty ⟨noWhole, noFraction⟩
    next noPoint =>
        split at found
        next => cases found
        next nonempty =>
            cases found
            refine .whole taken ?_ nonempty
            rintro first isFirst rfl
            obtain ⟨rest, point⟩ := List.head?_eq_some_iff.1 isFirst
            exact noPoint rest point

/-- The sign of the decimal at the start of a text, and the decimal with the
exponent that follows it. -/
inductive DecimalAt (text : List Char) (negative : Bool) : Decimal → Prop
  /-- Digits follow blanks and an optional sign. -/
  | parts {unblanked unsigned rest : List Char} {whole fraction : List Nat} :
      AfterBlanks text unblanked →
      AfterSign unblanked negative unsigned →
      TakesDecimal unsigned whole fraction rest →
      DecimalAt text negative (.ofDigits whole fraction (exponent rest))

/-- A decimal is rounded once. -/
theorem DecimalAt.decimal?_eq
    {text : List Char}
    {negative : Bool}
    {numeral : Decimal}
    (isAt : DecimalAt text negative numeral) :
    decimal? text = (numeral.toBinary64? negative).map Number.ofBinary64 := by
  cases isAt with
  | parts blanks sign taken =>
      rw [decimal?, afterBlanks_iff.1 blanks, afterSign_iff.1 sign]
      simp only [takesDecimal_iff.1 taken]

end LeadingNumber
end ObjectSpec
