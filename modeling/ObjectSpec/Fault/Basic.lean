import ObjectSpec.Json.Printer
import ObjectSpec.Lookup.Basic

/-!
# Faults

The faults that a validation finds form a tree along the validated object. A
field is at fault for a reason of its own, or because of faults inside the
object, map or sequence that it holds. The wording of a fault names the first
field of each object on the way to the first reason.
-/

namespace ObjectSpec

/-- The value that a fault is about, after splitting and conversion. -/
inductive Offender where
  /-- A value. -/
  | value (value : Json)
  /-- What is left of a string that its parser could not convert. -/
  | unparsed

namespace Offender

/-- The result of a conversion as the value of a fault. -/
def ofResult : Option Json → Offender
  | some found => .value found
  | none => .unparsed

/-- The value, if there is one. -/
def value? : Offender → Option Json
  | .value found => some found
  | .unparsed => none

end Offender

mutual

/-- A value inside a message: a string is bare, the items of an array stand
between commas, and all else is compact. -/
def Json.inMessage : Json → String
  | .string text => text
  | .array items => ",".intercalate (Json.itemsInMessage items)
  | .null => Json.compact .null
  | .bool value => Json.compact (.bool value)
  | .number value => Json.compact (.number value)
  | .object members => Json.compact (.object members)

/-- The items of an array inside a message. -/
def Json.itemsInMessage : List Json → List String
  | [] => []
  | item :: rest => Json.inMessage item :: Json.itemsInMessage rest

end

/-- The value of a fault inside a message. -/
def Offender.text : Offender → String
  | .value found => found.inMessage
  | .unparsed => "NaN"

mutual

/-- Why a field is at fault. -/
inductive Fault where
  /-- A required member is absent. -/
  | missing
  /-- The value is `null` where it must not be. -/
  | null
  /-- A value, or the item of a sequence at an index, does not satisfy its
  predicate. -/
  | illTyped (offender : Offender) (index : Option Nat)
  /-- The value is no sequence. -/
  | notSequence (offender : Offender)
  /-- The value is no object. -/
  | notObject (offender : Offender)
  /-- Not as many records exist as were asked for. -/
  | recordsMissing (expected actual : Nat)
  /-- The query for records failed. -/
  | lookup (error : LookupError)
  /-- The member is not declared. -/
  | undeclared
  /-- Items of the sequence are at fault. -/
  | sequence (faults : SequenceFaults)
  /-- The nested object is at fault. -/
  | object (faults : ObjectFaults)
  /-- Values of the map are at fault. -/
  | map (faults : MapFaults)

/-- The faults of an object, by field. -/
structure ObjectFaults where
  /-- The fields at fault, in the order of the spec. -/
  fields : List (String × Fault)

/-- The faults of a map, by key. -/
structure MapFaults where
  /-- The keys of the values at fault, in increasing order. -/
  keys : List (String × ObjectFaults)

/-- The faults of a sequence, by index. -/
structure SequenceFaults where
  /-- The items at fault, in increasing order. -/
  items : List (Nat × Fault)

end

namespace Fault

/-- A fixed word for the kind of fault. -/
def code : Fault → String
  | .missing => "required_missing"
  | .null => "null_not_allowed"
  | .illTyped _ _ => "wrong_type"
  | .notSequence _ => "expected_array"
  | .notObject _ => "expected_object"
  | .recordsMissing _ _ => "not_found"
  | .lookup _ => "fetch_failed"
  | .undeclared => "unknown_field"
  | .sequence _ => "nested_validation"
  | .object _ => "object_validation"
  | .map _ => "map_validation"

/-- The value that the fault is about, if it is about one. -/
def offender? : Fault → Option Offender
  | .illTyped offender _ => some offender
  | .notSequence offender => some offender
  | .notObject offender => some offender
  | _ => none

/-- Whether the fault consists of faults further inside. -/
def isComposite : Fault → Bool
  | .sequence _ => true
  | .object _ => true
  | .map _ => true
  | _ => false

/-- Whether the fault is an undeclared member. -/
def isUndeclared : Fault → Bool
  | .undeclared => true
  | _ => false

/-- The failed query behind the fault, if there is one. -/
def cause? : Fault → Option LookupError
  | .lookup error => some error
  | _ => none

/-- The messages behind the fault: that of the failed query, if there is one. -/
def sources (fault : Fault) : List String :=
  (fault.cause?.map LookupError.message).toList

end Fault

/-- The wording of a value that does not satisfy its predicate. -/
def illTypedMessage (offender : Offender) : Option Nat → String
  | some _ => "The value " ++ offender.text ++ " is of the wrong type"
  | none => offender.text ++ " is the wrong type"

/-- The announcement of the first of several faults of an object. -/
def announcement (count : Nat) : String :=
  "first of " ++ toString count ++
    (if count = 1 then " error: " else " errors: ")

/-- The wording of a field at fault. -/
def fieldMessage (field reason : String) : String :=
  "Error validating " ++ field ++ ": " ++ reason

mutual

/-- The wording of a fault. -/
def Fault.message : Fault → String
  | .missing => "A value is required"
  | .null => "The value can not be null"
  | .illTyped offender index => illTypedMessage offender index
  | .notSequence offender => "Expected " ++ offender.text ++ " to be an array"
  | .notObject offender => "Expected " ++ offender.text ++ " to be an object"
  | .recordsMissing expected actual =>
      "Not all requested records were found. Expected " ++ toString expected ++
        " but got " ++ toString actual
  | .lookup error => "Record lookup failed: " ++ error.message
  | .undeclared => "Field is not present in specification"
  | .sequence faults => faults.message
  | .object faults => faults.message
  | .map faults => faults.message

/-- The wording of the faults of an object: that of its first field. -/
def ObjectFaults.message : ObjectFaults → String
  | ⟨[]⟩ => "Validation failed for fields"
  | ⟨(field, fault) :: rest⟩ =>
      announcement (rest.length + 1) ++ fieldMessage field fault.message

/-- The wording of the faults of a map: that of its first key. -/
def MapFaults.message : MapFaults → String
  | ⟨[]⟩ => "Validation failed for values"
  | ⟨(_, faults) :: _⟩ => faults.message

/-- The wording of the faults of a sequence: that of its first item. -/
def SequenceFaults.message : SequenceFaults → String
  | ⟨[]⟩ => "Validation failed for elements"
  | ⟨(_, fault) :: _⟩ => fault.message

end

namespace ObjectFaults

/-- No fault. -/
def empty : ObjectFaults := ⟨[]⟩

/-- The fault of one field. -/
def single (field : String) (fault : Fault) : ObjectFaults := ⟨[(field, fault)]⟩

/-- The faults with one more at the end. -/
def push (faults : ObjectFaults) (field : String) (fault : Fault) :
    ObjectFaults :=
  ⟨faults.fields ++ [(field, fault)]⟩

/-- The first fault of a field. -/
def get? (faults : ObjectFaults) (field : String) : Option Fault :=
  Entries.get? field faults.fields

/-- Whether some member was refused because it is not declared. -/
def hasUndeclared (faults : ObjectFaults) : Bool :=
  faults.fields.any fun entry => entry.2.isUndeclared

/-- Behind each field at fault its reason, and behind that what caused it. -/
def sources (faults : ObjectFaults) : List (List String) :=
  faults.fields.map fun entry => entry.2.message :: entry.2.sources

end ObjectFaults

namespace MapFaults

/-- No fault. -/
def empty : MapFaults := ⟨[]⟩

/-- The faults with one more at the end. -/
def push (faults : MapFaults) (key : String) (inside : ObjectFaults) :
    MapFaults :=
  ⟨faults.keys ++ [(key, inside)]⟩

/-- The first faults of a key. -/
def get? (faults : MapFaults) (key : String) : Option ObjectFaults :=
  Entries.get? key faults.keys

end MapFaults

namespace SequenceFaults

/-- No fault. -/
def empty : SequenceFaults := ⟨[]⟩

/-- The faults with one more at the end. -/
def push (faults : SequenceFaults) (index : Nat) (fault : Fault) :
    SequenceFaults :=
  ⟨faults.items ++ [(index, fault)]⟩

/-- The first fault at an index. -/
def get? (faults : SequenceFaults) (index : Nat) : Option Fault :=
  (faults.items.find? fun entry => entry.1 = index).map Prod.snd

end SequenceFaults
end ObjectSpec
