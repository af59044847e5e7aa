import ObjectSpec.Predicate
import ObjectSpec.Proofs.NumeralGrammar

/-!
# Shapes of dates and date-times

A date or date-time is written in one of a few shapes, each a sequence of parts:
years, numerals of some width, separators, fractions and offsets. The shapes are
stated for any style of writing the parts. In the full style every numeral has
all its digits and nothing is blank but a single space between date and time;
the loose style is more liberal with the same parts.
-/

namespace ObjectSpec
namespace Format

open Text (AllDigits)

/-! ## Parts -/

/-- All characters are blank. -/
def AllBlank (text : List Char) : Prop :=
  ∀ character ∈ text, Text.isBlank character = true

/-- A numeral with all the digits of its width. -/
def FullNumeral (width : Nat) (text : List Char) : Prop :=
  text.length = width ∧ AllDigits text

/-- A numeral with at least one and at most all the digits of its width. -/
def ShortNumeral (width : Nat) (text : List Char) : Prop :=
  text ≠ [] ∧ text.length ≤ width ∧ AllDigits text

/-- Nothing, or a point and digits. -/
inductive Fraction : List Char → Prop
  | none : Fraction []
  | some {digits : List Char} :
      digits ≠ [] → AllDigits digits → Fraction ('.' :: digits)

/-- How the parts of a date or date-time are written. -/
structure Style where
  /-- The texts of years. -/
  Year : List Char → Prop
  /-- The texts of numerals of a width, with their digits. -/
  Numeral : (width : Nat) → (digits : List Char) → List Char → Prop
  /-- What separates date and time. -/
  Gap : List Char → Prop
  /-- The texts of offsets. -/
  Offset : List Char → Prop

/-- Years have four digits, or a sign and at least four; other numerals have all
their digits. Date and time are separated by a letter or by one space. An offset
is a letter, or a sign, hours and minutes, with or without a colon; its minus
may be a hyphen or the minus sign. -/
def Style.full : Style where
  Year text :=
    FullNumeral 4 text ∨
      ∃ sign digits, text = sign :: digits ∧ sign ∈ ['+', '-'] ∧
        4 ≤ digits.length ∧ AllDigits digits
  Numeral width digits text := text = digits ∧ FullNumeral width digits
  Gap text := text = ['T'] ∨ text = ['t'] ∨ text = [' ']
  Offset text :=
    text = ['Z'] ∨ text = ['z'] ∨
      ∃ sign hour minute, sign ∈ offsetSigns ∧ FullNumeral 2 hour ∧
        FullNumeral 2 minute ∧
        (text = sign :: hour ++ ':' :: minute ∨ text = sign :: hour ++ minute)

/-- An offset with blanks before it, and with any colons and blanks between its
parts. -/
def LooseOffset (text : List Char) : Prop :=
  ∃ blanks sign hour between minute,
    text = blanks ++ sign :: hour ++ between ++ minute ∧
      AllBlank blanks ∧ sign ∈ offsetSigns ∧ FullNumeral 2 hour ∧
      (∀ character ∈ between, character = ':' ∨ Text.isBlank character = true) ∧
      FullNumeral 2 minute

/-- Any blanks may stand before a numeral and for the separator, which may also
be missing. Numerals may have fewer digits than their width. Offsets are loose
as well. -/
def Style.loose : Style where
  Year text :=
    ∃ blanks rest, text = blanks ++ rest ∧ AllBlank blanks ∧
      (ShortNumeral 4 rest ∨
        ∃ sign digits, rest = sign :: digits ∧ sign ∈ ['+', '-'] ∧ digits ≠ [] ∧
          AllDigits digits)
  Numeral width digits text :=
    ∃ blanks, text = blanks ++ digits ∧ AllBlank blanks ∧
      ShortNumeral width digits
  Gap text := text = ['T'] ∨ AllBlank text
  Offset text := text = ['Z'] ∨ LooseOffset text

/-! ## Shapes -/

section

variable (style : Style)

/-- A numeral of a width. -/
def Style.Padded (width : Nat) (text : List Char) : Prop :=
  ∃ digits, style.Numeral width digits text

/-- The number of a month, from 1 to 12. -/
def Style.Month (text : List Char) : Prop :=
  ∃ digits, style.Numeral 2 digits text ∧ 1 ≤ numberOf digits ∧
    numberOf digits ≤ 12

/-- A day of a month of a year, with hyphens or without. -/
inductive Style.CalendarDate : List Char → Prop
  | separated {year month day : List Char} :
      style.Year year → style.Month month → style.Padded 2 day →
      CalendarDate (year ++ '-' :: month ++ '-' :: day)
  | compact {year month day : List Char} :
      style.Year year → style.Month month → style.Padded 2 day →
      CalendarDate (year ++ month ++ day)

/-- A time of day, to the minute or to the second. -/
inductive Style.TimeOfDay : List Char → Prop
  | short {hour minute : List Char} :
      style.Padded 2 hour → style.Padded 2 minute →
      TimeOfDay (hour ++ ':' :: minute)
  | long {hour minute second : List Char} :
      style.Padded 2 hour → style.Padded 2 minute → style.Padded 2 second →
      TimeOfDay (hour ++ ':' :: minute ++ ':' :: second)
  | compact {hour minute second : List Char} :
      style.Padded 2 hour → style.Padded 2 minute → style.Padded 2 second →
      TimeOfDay (hour ++ minute ++ second)

/-- A date, by the day of its month or of its year, or a date and a time. -/
inductive Style.Complete : List Char → Prop
  | date {date : List Char} : style.CalendarDate date → Complete date
  | ordinal {year day : List Char} :
      style.Year year → style.Padded 3 day → Complete (year ++ '-' :: day)
  | dateTime {date gap time fraction offset : List Char} :
      style.CalendarDate date → style.Gap gap → style.TimeOfDay time →
      Fraction fraction → offset = [] ∨ style.Offset offset →
      Complete (date ++ gap ++ time ++ fraction ++ offset)

/-- A hyphen that may be left out. -/
def OptionalHyphen (text : List Char) : Prop := text = [] ∨ text = ['-']

/-- A date of reduced precision or by the week: a year, a month, a week or a day
of a week. -/
inductive Style.Reduced : List Char → Prop
  | year {year : List Char} : style.Year year → Reduced year
  | month {year month : List Char} :
      style.Year year → style.Month month → Reduced (year ++ '-' :: month)
  | week {year hyphen week : List Char} :
      style.Year year → OptionalHyphen hyphen → style.Padded 2 week →
      Reduced (year ++ hyphen ++ 'W' :: week)
  | weekday {year hyphen week second : List Char} {day : Char} :
      style.Year year → OptionalHyphen hyphen → style.Padded 2 week →
      OptionalHyphen second → '1' ≤ day → day ≤ '7' →
      Reduced (year ++ hyphen ++ 'W' :: week ++ second ++ [day])

/-- A text has one of the shapes of dates and date-times. -/
def Style.HasShape (text : List Char) : Prop :=
  style.Reduced text ∨ style.Complete text

end

end Format
end ObjectSpec
