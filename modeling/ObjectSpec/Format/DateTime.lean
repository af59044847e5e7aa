import ObjectSpec.Format.DateTime.Pattern

/-!
# Dates and date-times

A text is accepted as a date or date-time if it is an Internet timestamp, if it
fits one of the looser patterns for dates and date-times, or if it is a date of
reduced precision: a year, a month, a week or a day of a week.
-/

namespace ObjectSpec
namespace Format

/-- An item that is one certain character. -/
def Item.literal (character : Char) : Item := .oneOf [character]

/-- A date with a separator between year, month and day. -/
def separatedDate : List Item :=
  [.padded .year, .literal '-', .padded .month, .literal '-', .padded .day]

/-- A date without separators. -/
def compactDate : List Item :=
  [.padded .year, .padded .month, .padded .day]

/-- A date by the day of its year. -/
def ordinalDate : List Item :=
  [.padded .year, .literal '-', .padded .dayOfYear]

/-- A time of day up to the minute. -/
def shortTime : List Item :=
  [.padded .hour, .literal ':', .padded .minute]

/-- A time of day up to the second. -/
def longTime : List Item :=
  shortTime ++ [.literal ':', .padded .second]

/-- A time of day up to the second without separators. -/
def compactTime : List Item :=
  [.padded .hour, .padded .minute, .padded .second]

/-- A timestamp as used on the Internet, its components being of full width. -/
def timestamp : List Item :=
  [.fixed 4 .year, .literal '-', .fixed 2 .month, .literal '-', .fixed 2 .day,
    .oneOf ['T', 't', ' '],
    .fixed 2 .hour, .literal ':', .fixed 2 .minute, .literal ':',
    .fixed 2 .second, .fraction, .zone]

/-- The patterns of date-times. -/
def dateTimePatterns : List (List Item) := [
  separatedDate ++ .literal 'T' :: longTime,
  separatedDate ++ .literal 'T' :: longTime ++ [.fraction],
  separatedDate ++ .literal 'T' :: longTime ++ [.fraction, .looseOffset],
  separatedDate ++ .literal 'T' :: shortTime ++ [.looseOffset],
  separatedDate ++ .literal 'T' :: shortTime,
  separatedDate ++ .blanks :: longTime ++ [.fraction],
  compactDate ++ .literal 'T' :: compactTime ++ [.fraction],
  compactDate ++ .literal 'T' :: compactTime ++ [.literal 'Z']]

/-- The patterns of dates. -/
def datePatterns : List (List Item) :=
  [separatedDate, compactDate, ordinalDate]

/-- Whether two digits spell a number in a range. -/
def isTwoDigits (least greatest : Nat) (tens ones : Char) : Bool :=
  tens.isDigit && ones.isDigit && least ≤ numberOf [tens, ones] &&
    numberOf [tens, ones] ≤ greatest

/-- Whether a character is the number of a day of a week. -/
def isWeekday (character : Char) : Bool :=
  '1' ≤ character && character ≤ '7'

/-- Whether a text is the number of a week and maybe of one of its days. -/
def isWeek : List Char → Bool
  | tens :: ones :: rest =>
      isTwoDigits 1 53 tens ones &&
        match rest with
        | [] => true
        | [weekday] => isWeekday weekday
        | ['-', weekday] => isWeekday weekday
        | _ => false
  | _ => false

/-- Whether a text can follow the year of a date of reduced precision. -/
def isReducedRest : List Char → Bool
  | [] => true
  | 'W' :: rest => isWeek rest
  | '-' :: 'W' :: rest => isWeek rest
  | ['-', tens, ones] => isTwoDigits 1 12 tens ones
  | _ => false

/-- Whether a text is a date of reduced precision. -/
def isReducedDate (text : List Char) : Bool :=
  let (digits, rest) := takeDigits 4 text
  digits.length = 4 && isReducedRest rest

/-- Whether a text is a date or date-time. -/
def isDateTime (text : List Char) : Bool :=
  fits timestamp text || dateTimePatterns.any (fits · text) ||
    datePatterns.any (fits · text) || isReducedDate text

end Format
end ObjectSpec
