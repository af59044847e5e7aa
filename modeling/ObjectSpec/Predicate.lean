import ObjectSpec.Format.DateTime
import ObjectSpec.Format.Identifier
import ObjectSpec.Json.Basic

/-!
# Predicates

A predicate is a named class of JSON values. Those for text formats hold of
strings only.
-/

namespace ObjectSpec

/-- A named class of values. -/
structure Predicate where
  /-- The name that describes the class. -/
  name : String
  /-- Whether a value belongs to the class. -/
  holds : Json → Bool

namespace Predicate

/-- The strings of a text format. -/
def ofFormat (name : String) (format : List Char → Bool) : Predicate where
  name := name
  holds
    | .string text => format text.toList
    | _ => false

theorem holds_ofFormat
    (name : String)
    (format : List Char → Bool)
    (text : String) :
    (ofFormat name format).holds (.string text) = format text.toList := rfl

/-- All strings. -/
def string : Predicate where
  name := "string"
  holds
    | .string _ => true
    | _ => false

/-- All numbers. -/
def number : Predicate where
  name := "number"
  holds
    | .number _ => true
    | _ => false

/-- The two truth values. -/
def boolean : Predicate where
  name := "boolean"
  holds
    | .bool _ => true
    | _ => false

/-- All objects. -/
def object : Predicate where
  name := "object"
  holds
    | .object _ => true
    | _ => false

/-- Version 4 UUIDs. -/
def uuid : Predicate := ofFormat "uuid" Format.isUuid

/-- Email addresses. -/
def emailAddress : Predicate := ofFormat "email" Format.isEmailAddress

/-- Fully qualified domain names. -/
def domainName : Predicate := ofFormat "fqdn" Format.isDomainName

/-- Domain names that start with the top-level domain. -/
def reversedDomainName : Predicate :=
  ofFormat "rfqdn" Format.isReversedDomainName

/-- Dates and date-times. -/
def dateTime : Predicate := ofFormat "iso8601" Format.isDateTime

/-- International phone numbers. -/
def phoneNumber : Predicate := ofFormat "e164" Format.isPhoneNumber

/-- The two truth values and the word `all`. -/
def booleanOrAll : Predicate where
  name := "all_boolean"
  holds
    | .bool _ => true
    | .string text => text = "all"
    | _ => false

/-- Every value, for fields that are checked elsewhere. -/
def anything : Predicate where
  name := "custom"
  holds _ := true

/-- The predicates of the library. -/
def builtin : List Predicate :=
  [string, number, boolean, object, uuid, emailAddress, domainName,
    reversedDomainName, dateTime, phoneNumber, booleanOrAll, anything]

end Predicate
end ObjectSpec
