import ObjectSpec.Json.Basic

/-!
# Parsers

A parser is a named conversion of strings to values. The numeric parsers of the
library have no result where a string starts with no number. The Boolean ones
always have a result: what is not a truth value becomes `null` or the word
`all`.
-/

namespace ObjectSpec

/-!
## Numbers at the start of a text

An integer or a decimal is read from the start of a text, after blanks and an
optional sign; what follows it is ignored. There is none where no digit stands
at its place. Numbers that binary64 arithmetic cannot hold have no value either.
-/

namespace LeadingNumber

open Text

/-- An optional sign at the start of a text: whether it is negative, and the
rest. -/
def takeSign : List Char → Bool × List Char
  | '-' :: rest => (true, rest)
  | '+' :: rest => (false, rest)
  | text => (false, text)

/-- The radix that a text announces, and the rest of the text. -/
def takeRadix : List Char → Nat × List Char
  | '0' :: 'x' :: rest => (16, rest)
  | '0' :: 'X' :: rest => (16, rest)
  | text => (10, text)

/-- The greatest magnitude of an integer that is read exactly. -/
def greatestExact : Nat := twoTo 63 - 1

/-- The number that digits spell if each step of reading them is rounded to 53
bits. -/
def roundedNumber (radix : Nat) (digits : List Nat) : Nat :=
  digits.foldl
    (fun number digit =>
      roundedTo53Bits (roundedTo53Bits (number * radix) + digit))
    0

/-- The integer of a sign and digits. A magnitude beyond 63 bits is read digit
by digit in binary64 arithmetic. -/
def ofDigits? (negative : Bool) (radix : Nat) (digits : List Nat) :
    Option Number :=
  let magnitude := numberOfDigits radix digits
  if magnitude ≤ greatestExact then
    some (.int (if negative then -(magnitude : Int) else magnitude))
  else
    (Binary64.ofNat? negative (roundedNumber radix digits)).map
      Number.ofBinary64

/-- The integer at the start of a text: an optional hexadecimal mark and at
least one digit. -/
def integer? (text : List Char) : Option Number :=
  let (negative, unsigned) := takeSign (dropBlanks text)
  let (radix, numeral) := takeRadix unsigned
  match leadingDigits radix numeral with
  | [] => none
  | digits => ofDigits? negative radix digits

/-- The exponent at the start of a text; zero if there is none, or no digit
in it. -/
def exponent : List Char → Int
  | [] => 0
  | mark :: rest =>
      if mark = 'e' ∨ mark = 'E' then
        let (negative, unsigned) := takeSign rest
        let magnitude : Int := leadingNumber 10 unsigned
        if negative then -magnitude else magnitude
      else 0

/-- The digits of a decimal at the start of a text, those before and those after
the point, and the rest; none if there is no digit. -/
def takeDecimal? (text : List Char) :
    Option (List Nat × List Nat × List Char) :=
  let whole := leadingDigits 10 text
  match text.drop whole.length with
  | '.' :: afterPoint =>
      let fraction := leadingDigits 10 afterPoint
      if whole = [] ∧ fraction = [] then none
      else some (whole, fraction, afterPoint.drop fraction.length)
  | rest => if whole = [] then none else some (whole, [], rest)

/-- The decimal at the start of a text: digits around an optional point, at
least one, and an optional exponent. It is rounded to binary64 once. -/
def decimal? (text : List Char) : Option Number :=
  let (negative, unsigned) := takeSign (dropBlanks text)
  match takeDecimal? unsigned with
  | none => none
  | some (whole, fraction, rest) =>
      let numeral := Decimal.ofDigits whole fraction (exponent rest)
      (numeral.toBinary64? negative).map Number.ofBinary64

end LeadingNumber

/-! ## Named conversions -/

/-- A named conversion of strings. -/
structure Parser where
  /-- The name that describes the conversion. -/
  name : String
  /-- The value that a string stands for, if any. -/
  parse : String → Option Json

namespace Parser

/-- Convert a value: a string is parsed, and any other value is kept. -/
def apply (parser : Parser) : Json → Option Json
  | .string text => parser.parse text
  | value => some value

@[simp] theorem apply_string (parser : Parser) (text : String) :
    parser.apply (.string text) = parser.parse text := rfl

/-- The integer at the start of a string. -/
def integer : Parser where
  name := "string_to_int"
  parse text := (LeadingNumber.integer? text.toList).map .number

theorem integer_parse (text : String) :
    integer.parse text = (LeadingNumber.integer? text.toList).map .number := rfl

/-- The decimal at the start of a string. -/
def decimal : Parser where
  name := "string_to_decimal"
  parse text := (LeadingNumber.decimal? text.toList).map .number

theorem decimal_parse (text : String) :
    decimal.parse text = (LeadingNumber.decimal? text.toList).map .number := rfl

/-- The truth value that a text names, if it does. -/
def truthValue? (text : String) : Option Bool :=
  if text = "true" then some true
  else if text = "false" then some false
  else none

/-- The truth value that a string names, or `null`. -/
def boolean : Parser where
  name := "string_to_boolean"
  parse text := some ((truthValue? text).elim .null .bool)

/-- The truth value that a string names, or the word `all`. -/
def booleanOrAll : Parser where
  name := "string_to_all_boolean"
  parse text := some ((truthValue? text).elim (.string "all") .bool)

/-- The parsers of the library. -/
def builtin : List Parser :=
  [integer, decimal, boolean, booleanOrAll]

end Parser
end ObjectSpec
