/-!
# Syntax errors

The ways in which a text can fail to be a JSON document. A reader reports the
first one from left to right.
-/

namespace ObjectSpec
namespace Json

/-- Why a text is not a JSON document. -/
inductive SyntaxError where
  /-- The text ends where a value must start or go on. -/
  | endInValue
  /-- The text ends inside a string. -/
  | endInString
  /-- The text ends inside an array. -/
  | endInArray
  /-- The text ends inside an object. -/
  | endInObject
  /-- A byte starts no value. -/
  | valueExpected
  /-- A literal name is misspelt. -/
  | misspeltLiteral
  /-- A numeral lacks a digit, or has one after a leading zero. -/
  | badNumeral
  /-- A number is too large for the binary format. -/
  | numberTooLarge
  /-- A control stands unescaped in a string. -/
  | rawControl
  /-- An escape has an unknown letter or a digit that is not hexadecimal. -/
  | badEscape
  /-- A surrogate has no partner. -/
  | loneSurrogate
  /-- A leading surrogate is not followed by another escape by number. -/
  | unpairedSurrogate
  /-- The bytes of a string are not UTF-8. -/
  | notUtf8
  /-- An item is followed by neither a comma nor a bracket. -/
  | itemSeparatorExpected
  /-- A member is followed by neither a comma nor a brace. -/
  | memberSeparatorExpected
  /-- A key is not followed by a colon. -/
  | colonExpected
  /-- A member does not start with a string. -/
  | nameExpected
  /-- A comma is followed by the end of its array or object. -/
  | danglingComma
  /-- Something follows the document. -/
  | furtherText
  /-- Arrays and objects are nested too deeply. -/
  | tooDeep
  deriving DecidableEq, Repr

/-- The wording of a syntax error. -/
def SyntaxError.message : SyntaxError → String
  | .endInValue => "EOF while parsing a value"
  | .endInString => "EOF while parsing a string"
  | .endInArray => "EOF while parsing a list"
  | .endInObject => "EOF while parsing an object"
  | .valueExpected => "expected value"
  | .misspeltLiteral => "expected ident"
  | .badNumeral => "invalid number"
  | .numberTooLarge => "number out of range"
  | .rawControl =>
      "control character (\\u0000-\\u001F) found while parsing a string"
  | .badEscape => "invalid escape"
  | .loneSurrogate => "lone leading surrogate in hex escape"
  | .unpairedSurrogate => "unexpected end of hex escape"
  | .notUtf8 => "invalid unicode code point"
  | .itemSeparatorExpected => "expected `,` or `]`"
  | .memberSeparatorExpected => "expected `,` or `\x7d`"
  | .colonExpected => "expected `:`"
  | .nameExpected => "key must be a string"
  | .danglingComma => "trailing comma"
  | .furtherText => "trailing characters"
  | .tooDeep => "recursion limit exceeded"

end Json
end ObjectSpec
