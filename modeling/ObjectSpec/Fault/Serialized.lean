import ObjectSpec.Fault.Basic

/-!
# Faults as JSON values

A tree of faults is serialized with the code of each fault and the details that
distinguish it from others of its code. Members stand in increasing order of
their names.
-/

namespace ObjectSpec

/-- The value of a fault as a JSON value. -/
def Offender.toJson : Offender → Json
  | .value found => .object [("Value", found)]
  | .unparsed => .string "NotANumber"

/-- A failed query as a JSON value. -/
def LookupError.toJson : LookupError → Json
  | .unknownName name => .object [("UnknownFetcher", .string name)]
  | .storeFailure text => .object [("Backend", .string text)]

/-- An index as a JSON value. -/
def indexToJson : Option Nat → Json
  | some index => .int index
  | none => .null

/-- A fault of a kind without details. -/
def plainFault (code : String) : Json :=
  .object [("code", .string code)]

/-- A fault of a kind with details. -/
def detailedFault (code : String) (detail : Json) : Json :=
  .object [("code", .string code), ("detail", detail)]

mutual

/-- A fault as a JSON value. -/
def Fault.toJson : Fault → Json
  | .missing => plainFault "required_missing"
  | .null => plainFault "null_not_allowed"
  | .illTyped offender index =>
      detailedFault "wrong_type"
        (.object [("bad_value", offender.toJson), ("index", indexToJson index)])
  | .notSequence offender =>
      detailedFault "expected_array" (.object [("bad_value", offender.toJson)])
  | .notObject offender =>
      detailedFault "expected_object" (.object [("bad_value", offender.toJson)])
  | .recordsMissing expected actual =>
      detailedFault "not_found"
        (.object [("actual", .int actual), ("expected", .int expected)])
  | .lookup error => detailedFault "fetch_failed" error.toJson
  | .undeclared => plainFault "unknown_field"
  | .sequence faults => detailedFault "nested_validation" faults.toJson
  | .object faults => detailedFault "object_validation" faults.toJson
  | .map faults => detailedFault "map_validation" faults.toJson

/-- The faults of an object as a JSON value. -/
def ObjectFaults.toJson : ObjectFaults → Json
  | ⟨fields⟩ => .object [("failures", .array (fieldsToJson fields))]

/-- The faults of a map as a JSON value. -/
def MapFaults.toJson : MapFaults → Json
  | ⟨keys⟩ => .object [("keys", .array (keysToJson keys))]

/-- The faults of a sequence as a JSON value. -/
def SequenceFaults.toJson : SequenceFaults → Json
  | ⟨items⟩ => .object [("elements", .array (itemsToJson items))]

/-- The faults of several fields as JSON values. -/
def fieldsToJson : List (String × Fault) → List Json
  | [] => []
  | (field, fault) :: rest =>
      .object [("error", fault.toJson), ("field", .string field)] ::
        fieldsToJson rest

/-- The faults of several keys as JSON values. -/
def keysToJson : List (String × ObjectFaults) → List Json
  | [] => []
  | (key, faults) :: rest =>
      .object [("error", faults.toJson), ("key", .string key)] ::
        keysToJson rest

/-- The faults of several items as JSON values. -/
def itemsToJson : List (Nat × Fault) → List Json
  | [] => []
  | (index, fault) :: rest =>
      .object [("error", fault.toJson), ("index", .int index)] ::
        itemsToJson rest

end

end ObjectSpec
