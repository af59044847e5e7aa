import ObjectSpec.Format.DateTime.Calendar
import ObjectSpec.Text.Basic

/-!
# Date and time patterns

A pattern is a list of items that are matched one after the other, each taking
as much of the text as it can. Padded numerals are lenient: blanks may stand
before them and they may have fewer digits than their width. A text fits a
pattern if nothing is left over and the components that were read make up a real
moment.
-/

namespace ObjectSpec
namespace Format

/-- A component of a moment that is written as a numeral. -/
inductive Component where
  | year
  | month
  | day
  | dayOfYear
  | hour
  | minute
  | second
  deriving DecidableEq, Repr

namespace Component

/-- The greatest number of digits of a padded numeral without sign. -/
def width : Component → Nat
  | .year => 4
  | .dayOfYear => 3
  | _ => 2

/-- A moment with one component replaced. -/
def set (component : Component) (value : Nat) (moment : Moment) : Moment :=
  match component with
  | .year => { moment with year := value }
  | .month => { moment with month := value }
  | .day => { moment with day := value }
  | .dayOfYear => { moment with dayOfYear := value }
  | .hour => { moment with hour := value }
  | .minute => { moment with minute := value }
  | .second => { moment with second := value }

end Component

/-- An item of a pattern. -/
inductive Item where
  /-- A component after optional blanks, of one digit up to its width. A year
  may have a sign, and then any number of digits. -/
  | padded (component : Component)
  /-- A component of exactly so many digits. -/
  | fixed (width : Nat) (component : Component)
  /-- One of a few characters. -/
  | oneOf (characters : List Char)
  /-- Any number of blanks. -/
  | blanks
  /-- Nothing, or a point and at least one digit. -/
  | fraction
  /-- An offset of any size: after optional blanks a sign and two digits, then
  any colons and blanks, then the minutes. -/
  | looseOffset
  /-- The letter of universal time, or an offset of less than a day with exactly
  one colon. -/
  | zone
  deriving DecidableEq, Repr

/-- The number that decimal digits spell. -/
def numberOf (digits : List Char) : Nat :=
  Text.leadingNumber 10 digits

/-- The digits at the start of a text, at most so many, and the rest. -/
def takeDigits (limit : Nat) (text : List Char) : List Char × List Char :=
  let digits := (text.take limit).takeWhile Char.isDigit
  (digits, text.drop digits.length)

/-- The signs of an offset: plus, hyphen and minus. -/
def offsetSigns : List Char := ['+', '-', '\u2212']

/-- The rest of a text after minutes of two digits below 60. -/
def skipMinutes? : List Char → Option (List Char)
  | tens :: ones :: rest =>
      if '0' ≤ tens ∧ tens ≤ '5' ∧ ones.isDigit then some rest else none
  | _ => none

/-- The rest of a text after an offset of any size. -/
def skipLooseOffset? (text : List Char) : Option (List Char) :=
  match Text.dropBlanks text with
  | sign :: tens :: ones :: rest =>
      if offsetSigns.contains sign ∧ tens.isDigit ∧ ones.isDigit then
        skipMinutes? (rest.dropWhile fun character =>
          character == ':' || Text.isBlank character)
      else none
  | _ => none

/-- The rest of a text after the zone of a timestamp. -/
def skipZone? : List Char → Option (List Char)
  | 'Z' :: rest => some rest
  | 'z' :: rest => some rest
  | sign :: tens :: ones :: ':' :: rest =>
      if offsetSigns.contains sign ∧ tens.isDigit ∧ ones.isDigit ∧
          numberOf [tens, ones] ≤ 23 then
        skipMinutes? rest
      else none
  | _ => none

/-- A moment read so far and the rest of the text. -/
abbrev Scan := Moment × List Char

/-- Read a year with a sign and any number of digits. -/
def scanSignedYear? (moment : Moment) (negative : Bool) (text : List Char) :
    Option Scan :=
  let digits := text.takeWhile Char.isDigit
  if digits = [] then none
  else
    let magnitude : Int := numberOf digits
    some
      ({ moment with year := if negative then -magnitude else magnitude },
        text.drop digits.length)

/-- Read a padded component without sign. -/
def scanPadded? (component : Component) (moment : Moment) (text : List Char) :
    Option Scan :=
  match takeDigits component.width text with
  | ([], _) => none
  | (digits, rest) => some (component.set (numberOf digits) moment, rest)

/-- Read one item. -/
def Item.scan? (item : Item) (moment : Moment) (text : List Char) :
    Option Scan :=
  match item with
  | .padded component =>
      match component, Text.dropBlanks text with
      | .year, '-' :: rest => scanSignedYear? moment true rest
      | .year, '+' :: rest => scanSignedYear? moment false rest
      | _, unblanked => scanPadded? component moment unblanked
  | .fixed width component =>
      let (digits, rest) := takeDigits width text
      if digits.length = width then
        some (component.set (numberOf digits) moment, rest)
      else none
  | .oneOf characters =>
      match text with
      | [] => none
      | character :: rest =>
          if characters.contains character then some (moment, rest) else none
  | .blanks => some (moment, Text.dropBlanks text)
  | .fraction =>
      match text with
      | '.' :: rest =>
          match rest.takeWhile Char.isDigit with
          | [] => none
          | digits => some (moment, rest.drop digits.length)
      | _ => some (moment, text)
  | .looseOffset => (skipLooseOffset? text).map fun rest => (moment, rest)
  | .zone => (skipZone? text).map fun rest => (moment, rest)

/-- Read the items of a pattern in turn. -/
def scan? : List Item → Moment → List Char → Option Scan
  | [], moment, text => some (moment, text)
  | item :: rest, moment, text =>
      match item.scan? moment text with
      | some (further, remainder) => scan? rest further remainder
      | none => none

/-- Whether a text fits a pattern. -/
def fits (pattern : List Item) (text : List Char) : Bool :=
  match scan? pattern Moment.first text with
  | some (moment, []) => moment.isReal
  | _ => false

end Format
end ObjectSpec
