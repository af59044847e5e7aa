import ObjectSpec.Text.Basic

/-!
# Identifiers and addresses

The formats of short texts that name something: UUIDs, phone numbers, domain
names and email addresses. Each is a check on the characters of a text.
-/

namespace ObjectSpec
namespace Format

/-!
## Version 4 UUIDs

A UUID is written as 32 hexadecimal digits in groups of 8, 4, 4, 4 and 12 with
hyphens between them. Version 4 has the digit `4` at the start of the third
group, and the standard variant has one of `8`, `9`, `a` and `b` at the start of
the fourth. Digits may be of either case.
-/

/-- Whether a character is a hexadecimal digit. -/
def isHexDigit (character : Char) : Bool :=
  (Text.hexValue? character).isSome

/-- Whether a character is a hexadecimal digit of the standard variant. -/
def isVariantDigit (character : Char) : Bool :=
  "89abAB".toList.contains character

/-- Whether each character of a text is of the class at its place. -/
def fitsShape : List (Char → Bool) → List Char → Bool
  | [], [] => true
  | allowed :: shape, character :: text =>
      allowed character && fitsShape shape text
  | _, _ => false

/-- The classes of the characters of a version 4 UUID. -/
def uuidShape : List (Char → Bool) :=
  let digits (count : Nat) := List.replicate count isHexDigit
  digits 8 ++ (· == '-') :: digits 4 ++ (· == '-') :: (· == '4') :: digits 3 ++
    (· == '-') :: isVariantDigit :: digits 3 ++ (· == '-') :: digits 12

/-- Whether a text is a version 4 UUID. -/
def isUuid (text : List Char) : Bool :=
  fitsShape uuidShape text

/-!
## International phone numbers

An E.164 phone number is a plus sign and 2 to 15 digits of ASCII, the first of
which is not zero.
-/

/-- Whether a text is an E.164 phone number. -/
def isPhoneNumber : List Char → Bool
  | '+' :: first :: rest =>
      first.isDigit && first != '0' && 1 ≤ rest.length && rest.length ≤ 14 &&
        rest.all Char.isDigit
  | _ => false

/-!
## Domain names

A fully qualified domain name has at least two labels between dots. A label has
1 to 63 letters, digits and hyphens of ASCII and neither starts nor ends with a
hyphen. The last label is the top-level domain and consists of at least two
letters. The whole name has at most 253 characters. Lengths are measured in
bytes, which makes no difference to a name of ASCII.
-/

/-- The labels of a name. -/
def labels (name : List Char) : List (List Char) :=
  name.splitOn '.'

/-- The name of the given labels. -/
def ofLabels (parts : List (List Char)) : List Char :=
  ['.'].intercalate parts

/-- Whether a character may stand in a label. -/
def isLabelChar (character : Char) : Bool :=
  character.isAlphanum || character == '-'

/-- Whether a text is a label. -/
def isLabel (label : List Char) : Bool :=
  !label.isEmpty && Text.byteLength label ≤ 63 && label.head? != some '-' &&
    label.getLast? != some '-' && label.all isLabelChar

/-- Whether a text is a top-level domain. -/
def isTopLevelDomain (label : List Char) : Bool :=
  2 ≤ Text.byteLength label && label.all Char.isAlpha

/-- Whether a text is a fully qualified domain name. -/
def isDomainName (name : List Char) : Bool :=
  !name.isEmpty && Text.byteLength name ≤ 253 && 2 ≤ (labels name).length &&
    (labels name).all isLabel && (labels name).getLast?.any isTopLevelDomain

/-- The name with its labels in reverse order. -/
def reverseLabels (name : List Char) : List Char :=
  ofLabels (labels name).reverse

/-- Whether a text is a domain name that starts with the top-level domain. -/
def isReversedDomainName (name : List Char) : Bool :=
  isDomainName (reverseLabels name)

/-!
## Email addresses

An email address is a local part and a domain name around its last at sign. The
local part has 1 to 64 characters: letters and digits of ASCII, nineteen further
marks, and dots that stand neither at an end nor side by side. Neither part can
contain an at sign, so an address has exactly one.
-/

/-- The marks of a local part other than letters and digits. -/
def localPartMarks : List Char :=
  "!#$%&'*+/=?^_`\x7b|\x7d~.-".toList

/-- Whether a character may stand in a local part. -/
def isLocalPartChar (character : Char) : Bool :=
  character.isAlphanum || localPartMarks.contains character

/-- Whether two dots stand side by side. -/
def hasDoubleDot : List Char → Bool
  | '.' :: '.' :: _ => true
  | _ :: rest => hasDoubleDot rest
  | [] => false

/-- Whether a text is the local part of an address. -/
def isLocalPart (text : List Char) : Bool :=
  !text.isEmpty && Text.byteLength text ≤ 64 && text.head? != some '.' &&
    text.getLast? != some '.' && !hasDoubleDot text &&
    text.all isLocalPartChar

/-- The text before and the text after the last at sign. -/
def cutAtLastAtSign? (text : List Char) : Option (List Char × List Char) :=
  let domain := (text.reverse.takeWhile (· != '@')).reverse
  match text.reverse.dropWhile (· != '@') with
  | [] => none
  | _ :: before => some (before.reverse, domain)

/-- Whether a text is an email address. -/
def isEmailAddress (text : List Char) : Bool :=
  match cutAtLastAtSign? text with
  | none => false
  | some (localPart, domain) => isLocalPart localPart && isDomainName domain

end Format
end ObjectSpec
