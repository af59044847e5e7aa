import ObjectSpec.Json.SyntaxError
import ObjectSpec.Text.Basic

/-!
# Reading strings

A string is scanned byte by byte after its opening quote. Bytes that are not
escaped are kept as they are, so whether they are UTF-8 is judged once, at the
closing quote. An escape by number takes four bytes before it is judged, and a
leading surrogate must be followed by the escape of a trailing one.
-/

namespace ObjectSpec
namespace Json

/-- Where a string stands between two bytes. -/
inductive QuotationPhase where
  /-- Outside of escapes. -/
  | plain
  /-- After a backslash. -/
  | escape
  /-- After so many bytes of an escape by number, the last one first, and maybe
  after the escape of a leading surrogate. -/
  | hexadecimal (bytes : List UInt8) (leading : Option Nat)
  /-- After the escape of a leading surrogate. -/
  | leading (unit : Nat)
  /-- After the escape of a leading surrogate and a backslash. -/
  | leadingEscape (unit : Nat)
  deriving DecidableEq, Repr

/-- A string of which a first part has been scanned. -/
structure Quotation where
  /-- The bytes of the text so far, the last one first. -/
  bytes : List UInt8
  /-- Where the string stands. -/
  phase : QuotationPhase
  deriving DecidableEq, Repr

/-- A string that goes on, or the text of one that has been closed. -/
inductive QuotationStep where
  | more (quotation : Quotation)
  | closed (text : String)

namespace Quotation

/-- A string after its opening quote. -/
def start : Quotation := ⟨[], .plain⟩

/-- The number that hexadecimal digits spell, the last digit coming first. -/
def hexNumber? : List UInt8 → Option Nat
  | [] => some 0
  | byte :: earlier =>
      match Text.hexValue? (Char.ofUInt8 byte), hexNumber? earlier with
      | some digit, some before => some (before * 16 + digit)
      | _, _ => none

/-- Whether a 16-bit unit is a leading surrogate. -/
def isLeading (unit : Nat) : Bool := 0xD800 ≤ unit && unit ≤ 0xDBFF

/-- Whether a 16-bit unit is a trailing surrogate. -/
def isTrailing (unit : Nat) : Bool := 0xDC00 ≤ unit && unit ≤ 0xDFFF

/-- The character that an escape by one letter stands for. -/
def escapedLetter? : Char → Option Char
  | '"' => some '"'
  | '\\' => some '\\'
  | '/' => some '/'
  | 'b' => some '\x08'
  | 'f' => some '\x0c'
  | 'n' => some '\n'
  | 'r' => some '\r'
  | 't' => some '\t'
  | _ => none

/-- Add a byte as it is. -/
def addByte (quotation : Quotation) (byte : UInt8) : Quotation :=
  ⟨byte :: quotation.bytes, .plain⟩

/-- Add a character, encoded. -/
def addChar (quotation : Quotation) (character : Char) : Quotation :=
  ⟨(String.utf8EncodeChar character).reverse ++ quotation.bytes, .plain⟩

/-- Take the unit of an escape by number. -/
def addUnit (quotation : Quotation) (leading : Option Nat) (unit : Nat) :
    Except SyntaxError Quotation :=
  match leading with
  | none =>
      if isTrailing unit then .error .loneSurrogate
      else if isLeading unit then .ok { quotation with phase := .leading unit }
      else .ok (quotation.addChar (Char.ofNat unit))
  | some first =>
      if isTrailing unit then
        .ok (quotation.addChar
          (Char.ofNat (0x10000 + (first - 0xD800) * 0x400 + (unit - 0xDC00))))
      else .error .loneSurrogate

/-- The text of a closed string. -/
def close (quotation : Quotation) : Except SyntaxError String :=
  match String.fromUTF8? ⟨quotation.bytes.reverse.toArray⟩ with
  | some text => .ok text
  | none => .error .notUtf8

/-- Scan a byte that does not close the string. -/
def scan (quotation : Quotation) (byte : UInt8) :
    Except SyntaxError Quotation :=
  let character := Char.ofUInt8 byte
  match quotation.phase with
  | .plain =>
      if character = '\\' then .ok { quotation with phase := .escape }
      else if byte < 0x20 then .error .rawControl
      else .ok (quotation.addByte byte)
  | .escape =>
      if character = 'u' then
        .ok { quotation with phase := .hexadecimal [] none }
      else
        match escapedLetter? character with
        | some escaped => .ok (quotation.addChar escaped)
        | none => .error .badEscape
  | .hexadecimal bytes leading =>
      if bytes.length < 3 then
        .ok { quotation with phase := .hexadecimal (byte :: bytes) leading }
      else
        match hexNumber? (byte :: bytes) with
        | some unit => quotation.addUnit leading unit
        | none => .error .badEscape
  | .leading unit =>
      if character = '\\' then
        .ok { quotation with phase := .leadingEscape unit }
      else .error .unpairedSurrogate
  | .leadingEscape unit =>
      if character = 'u' then
        .ok { quotation with phase := .hexadecimal [] (some unit) }
      else .error .unpairedSurrogate

/-- Scan one more byte. -/
def step (quotation : Quotation) (byte : UInt8) :
    Except SyntaxError QuotationStep :=
  if quotation.phase = .plain ∧ Char.ofUInt8 byte = '"' then
    match quotation.close with
    | .ok text => .ok (.closed text)
    | .error problem => .error problem
  else
    match quotation.scan byte with
    | .ok longer => .ok (.more longer)
    | .error problem => .error problem

end Quotation
end Json
end ObjectSpec
