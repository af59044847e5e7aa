import ObjectSpec.Json.Basic
import ObjectSpec.Json.SyntaxError
import ObjectSpec.Text.Basic

/-!
# Reading numerals

A numeral is scanned byte by byte. It has an optional minus sign, a whole part
without leading zeros, an optional fraction and an optional exponent. A numeral
without fraction and exponent is an integer if it fits 64 bits, unsigned or,
after a minus sign, signed; every other numeral is a binary64 number.
-/

namespace ObjectSpec
namespace Json

/-- The part of a numeral that was scanned last. -/
inductive NumeralPart where
  | sign
  | zero
  | whole
  | point
  | fraction
  | exponentMark
  | exponentSign
  | exponent
  deriving DecidableEq, Repr

namespace NumeralPart

/-- Whether a numeral may end after a part. -/
def mayEnd : NumeralPart → Bool
  | .zero | .whole | .fraction | .exponent => true
  | _ => false

/-- Whether a numeral that ends in a part has neither fraction nor exponent. -/
def isWhole : NumeralPart → Bool
  | .zero | .whole => true
  | _ => false

end NumeralPart

/-- A numeral of which a first part has been scanned. -/
structure Numeral where
  /-- Whether it starts with a minus sign. -/
  negative : Bool
  /-- All digits of the whole part and the fraction, read as one number. -/
  coefficient : Nat
  /-- The number of digits of the fraction. -/
  fractionWidth : Nat
  /-- Whether the exponent has a minus sign. -/
  exponentNegative : Bool
  /-- The digits of the exponent, read as one number. -/
  exponent : Nat
  /-- The part that was scanned last. -/
  part : NumeralPart
  deriving DecidableEq, Repr

namespace Numeral

/-- The greatest integer of 64 bits without sign. -/
def greatestInteger : Nat := twoTo 64 - 1

/-- The magnitude of the least integer of 64 bits with sign. -/
def leastInteger : Nat := twoTo 63

/-- Begin a numeral with a minus sign or a digit. -/
def start? (character : Char) : Option Numeral :=
  match Text.digitValue? 10 character with
  | some 0 => some ⟨false, 0, 0, false, 0, .zero⟩
  | some digit => some ⟨false, digit, 0, false, 0, .whole⟩
  | none =>
      if character = '-' then some ⟨true, 0, 0, false, 0, .sign⟩ else none

/-- Add a digit of the whole part. -/
def addWhole (numeral : Numeral) (digit : Nat) : Numeral :=
  { numeral with
    coefficient := numeral.coefficient * 10 + digit
    part := .whole }

/-- Add a digit of the fraction. -/
def addFraction (numeral : Numeral) (digit : Nat) : Numeral :=
  { numeral with
    coefficient := numeral.coefficient * 10 + digit
    fractionWidth := numeral.fractionWidth + 1
    part := .fraction }

/-- Add a digit of the exponent. -/
def addExponent (numeral : Numeral) (digit : Nat) : Numeral :=
  { numeral with
    exponent := numeral.exponent * 10 + digit
    part := .exponent }

/-- Add a character that is no digit, if the numeral can go on with it. -/
def addMark? (numeral : Numeral) (character : Char) : Option Numeral :=
  match numeral.part with
  | .zero | .whole =>
      if character = '.' then some { numeral with part := .point }
      else if character = 'e' ∨ character = 'E' then
        some { numeral with part := .exponentMark }
      else none
  | .fraction =>
      if character = 'e' ∨ character = 'E' then
        some { numeral with part := .exponentMark }
      else none
  | .exponentMark =>
      if character = '+' then some { numeral with part := .exponentSign }
      else if character = '-' then
        some { numeral with exponentNegative := true, part := .exponentSign }
      else none
  | _ => none

/-- Add a digit; a leading zero is followed by none. -/
def addDigit? (numeral : Numeral) (digit : Nat) : Option Numeral :=
  match numeral.part with
  | .sign =>
      if digit = 0 then some { numeral with part := .zero }
      else some (numeral.addWhole digit)
  | .zero => none
  | .whole => some (numeral.addWhole digit)
  | .point | .fraction => some (numeral.addFraction digit)
  | .exponentMark | .exponentSign | .exponent =>
      some (numeral.addExponent digit)

/-- Scan one more character. The result is the longer numeral, or none if the
numeral has ended before the character. -/
def step (numeral : Numeral) (character : Char) :
    Except SyntaxError (Option Numeral) :=
  match Text.digitValue? 10 character with
  | some digit =>
      match numeral.addDigit? digit with
      | some longer => .ok (some longer)
      | none => .error .badNumeral
  | none =>
      match numeral.addMark? character with
      | some longer => .ok (some longer)
      | none =>
          if numeral.part.mayEnd then .ok none else .error .badNumeral

/-- The integer that a numeral spells, if it is one of 64 bits. Minus zero is no
integer. -/
def integer? (numeral : Numeral) : Option Int :=
  if !numeral.part.isWhole then none
  else if numeral.negative then
    if numeral.coefficient ≠ 0 ∧ numeral.coefficient ≤ leastInteger then
      some (-numeral.coefficient)
    else none
  else if numeral.coefficient ≤ greatestInteger then some numeral.coefficient
  else none

/-- The numeral as a decimal number, apart from its sign. -/
def decimal (numeral : Numeral) : Decimal where
  coefficient := numeral.coefficient
  exponent :=
    (if numeral.exponentNegative then -(numeral.exponent : Int)
      else numeral.exponent) - numeral.fractionWidth

/-- The number that a complete numeral spells. -/
def number (numeral : Numeral) : Except SyntaxError Number :=
  match numeral.integer? with
  | some value => .ok (.int value)
  | none =>
      match numeral.decimal.toBinary64? numeral.negative with
      | some value => .ok (.float value)
      | none => .error .numberTooLarge

/-- The number at the end of the text. -/
def finish (numeral : Numeral) : Except SyntaxError Number :=
  if numeral.part.mayEnd then numeral.number else .error .endInValue

end Numeral
end Json
end ObjectSpec
