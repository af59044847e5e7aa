import ObjectSpec.Fault.Basic

/-!
# Verdicts

The validation of an object is aborted on an undeclared member or checks every
declared field. A checked object has parsed members and faults side by side, and
a field may contribute to both: what is valid inside it is kept.
-/

namespace ObjectSpec

/-- The verdict on a field. -/
structure FieldVerdict where
  /-- The value of the field, if it has one. -/
  parsed : Option Json
  /-- Why the field is at fault, if it is. -/
  fault : Option Fault

namespace FieldVerdict

/-- Neither a value nor a fault. -/
def absent : FieldVerdict := ⟨none, none⟩

/-- A value without fault. -/
def ofValue (value : Json) : FieldVerdict := ⟨some value, none⟩

/-- A fault without value. -/
def ofFault (fault : Fault) : FieldVerdict := ⟨none, some fault⟩

/-- A value or a fault. -/
def ofResult : Except Fault Json → FieldVerdict
  | .ok value => ofValue value
  | .error fault => ofFault fault

/-- Whether the field is not at fault. -/
def isOk (verdict : FieldVerdict) : Bool := verdict.fault.isNone

/-- The value, if there is one, or else the fault: it wins over a value. -/
def toResult (verdict : FieldVerdict) : Except Fault (Option Json) :=
  match verdict.fault with
  | some fault => .error fault
  | none => .ok verdict.parsed

end FieldVerdict

/-- The verdict on an object. -/
inductive Verdict where
  /-- An undeclared member was refused. -/
  | aborted (name : String)
  /-- Every declared field was validated. -/
  | checked (parsed : List (String × Json)) (faults : List (String × Fault))

namespace Verdict

/-- The parsed members, unless the validation was aborted. -/
def parsed? : Verdict → Option Members
  | .aborted _ => none
  | .checked parsed _ => some parsed

@[simp] theorem parsed?_aborted (name : String) :
    (aborted name).parsed? = none := rfl

@[simp] theorem parsed?_checked
    (parsed : List (String × Json))
    (faults : List (String × Fault)) :
    (checked parsed faults).parsed? = some parsed := rfl

/-- The faults, if there are any. -/
def faults? : Verdict → Option ObjectFaults
  | .aborted name => some (.single name .undeclared)
  | .checked _ [] => none
  | .checked _ (first :: rest) => some ⟨first :: rest⟩

@[simp] theorem faults?_aborted (name : String) :
    (aborted name).faults? = some (.single name .undeclared) := rfl

@[simp] theorem faults?_checked_nil (parsed : List (String × Json)) :
    (checked parsed []).faults? = none := rfl

@[simp] theorem faults?_checked_cons
    (parsed : List (String × Json))
    (first : String × Fault)
    (rest : List (String × Fault)) :
    (checked parsed (first :: rest)).faults? = some ⟨first :: rest⟩ := rfl

/-- The parsed object, unless the validation was aborted. -/
def parsedJson? (verdict : Verdict) : Option Json :=
  verdict.parsed?.map .object

/-- Whether there is no fault. -/
def isValid (verdict : Verdict) : Bool := verdict.faults?.isNone

/-- Whether no field was validated. -/
def isAborted (verdict : Verdict) : Bool := verdict.parsed?.isNone

/-- The parsed value of a field. -/
def parsedAt? (verdict : Verdict) (field : String) : Option Json :=
  verdict.parsed?.bind fun parsed => Entries.get? field parsed

/-- The fault of a field. -/
def faultAt? (verdict : Verdict) (field : String) : Option Fault :=
  verdict.faults?.bind fun faults => faults.get? field

/-- The parsed members if there is no fault, or else the faults. -/
def toResult (verdict : Verdict) : Except ObjectFaults Members :=
  match verdict.faults? with
  | some faults => .error faults
  | none => .ok (verdict.parsed?.getD [])

end Verdict
end ObjectSpec
