/-!
# Characters and texts

A character is blank when it has the Unicode property `White_Space`. The
no-break spaces belong to the class; the zero-width ones and the byte order
mark do not. The digits of a radix up to sixteen are the decimal digits of ASCII
and its letters up to `f` in either case; digits of other scripts are not digits
here. A text is stored in UTF-8, where a character takes one to four bytes and
those of ASCII take one.
-/

namespace ObjectSpec
namespace Text

/-!
## Ranges of characters

Classes of characters that have no shorter description are given as tables of
closed ranges of code points. A table is listed in increasing order, but
membership does not rely on it.
-/

/-- A closed range of code points, by its first and last member. -/
structure CharRange where
  /-- The least code point of the range. -/
  first : Nat
  /-- The greatest code point of the range. -/
  last : Nat
  deriving DecidableEq

/-- Whether a character lies in a range. -/
def CharRange.contains (range : CharRange) (character : Char) : Bool :=
  range.first ≤ character.toNat && character.toNat ≤ range.last

/-- Whether a character lies in one of the ranges of a table. -/
def inRanges (table : List CharRange) (character : Char) : Bool :=
  table.any fun range => range.contains character

@[simp] theorem inRanges_nil (character : Char) :
    inRanges [] character = false := rfl

/-- Read a table of pairs as a table of ranges. -/
def rangesOfPairs (pairs : List (Nat × Nat)) : List CharRange :=
  pairs.map fun pair => ⟨pair.1, pair.2⟩

/-! ## Blanks -/

/-- The ranges of the Unicode property `White_Space`. -/
def blankRanges : List CharRange :=
  rangesOfPairs [
    (0x0009, 0x000D), (0x0020, 0x0020), (0x0085, 0x0085), (0x00A0, 0x00A0),
    (0x1680, 0x1680), (0x2000, 0x200A), (0x2028, 0x2029), (0x202F, 0x202F),
    (0x205F, 0x205F), (0x3000, 0x3000)]

/-- Whether a character is blank. -/
def isBlank (character : Char) : Bool :=
  inRanges blankRanges character

/-- A text without its leading blanks. -/
def dropBlanks (text : List Char) : List Char :=
  text.dropWhile isBlank

@[simp] theorem dropBlanks_nil : dropBlanks [] = [] := rfl

/-! ## Digits -/

/-- The value of a hexadecimal digit. -/
def hexValue? (character : Char) : Option Nat :=
  if character.isDigit then some (character.toNat - '0'.toNat)
  else if 'a' ≤ character ∧ character ≤ 'f' then
    some (character.toNat - 'a'.toNat + 10)
  else if 'A' ≤ character ∧ character ≤ 'F' then
    some (character.toNat - 'A'.toNat + 10)
  else none

/-- The value of a digit of a radix. -/
def digitValue? (radix : Nat) (character : Char) : Option Nat :=
  (hexValue? character).filter (· < radix)

theorem digitValue?_lt
    {radix value : Nat}
    {character : Char}
    (found : digitValue? radix character = some value) :
    value < radix := by
  simpa using (Option.filter_eq_some_iff.1 found).2

/-- The values of the digits at the start of a text. -/
def leadingDigits (radix : Nat) : List Char → List Nat
  | [] => []
  | character :: rest =>
      match digitValue? radix character with
      | some digit => digit :: leadingDigits radix rest
      | none => []

@[simp] theorem leadingDigits_nil (radix : Nat) :
    leadingDigits radix [] = [] := rfl

/-- The number that digits spell, the most significant first. -/
def numberOfDigits (radix : Nat) (digits : List Nat) : Nat :=
  digits.foldl (fun number digit => number * radix + digit) 0

@[simp] theorem numberOfDigits_nil (radix : Nat) :
    numberOfDigits radix [] = 0 := rfl

/-- The number that the digits at the start of a text spell. -/
def leadingNumber (radix : Nat) (text : List Char) : Nat :=
  numberOfDigits radix (leadingDigits radix text)

/-! ## Length in bytes -/

/-- The number of bytes of a text in UTF-8. -/
def byteLength : List Char → Nat
  | [] => 0
  | character :: rest => character.utf8Size + byteLength rest

@[simp] theorem byteLength_nil : byteLength [] = 0 := rfl

@[simp] theorem byteLength_cons (character : Char) (rest : List Char) :
    byteLength (character :: rest) = character.utf8Size + byteLength rest := rfl

end Text
end ObjectSpec
