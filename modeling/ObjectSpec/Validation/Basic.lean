import ObjectSpec.Validation.Pipeline
import ObjectSpec.Validation.Verdict

/-!
# Validation

The fields of an object are validated independently of each other, in the order
of their declaration. Presence and `null` are settled first, whatever the field
holds. A leaf has a value or a fault; an object or a map may have both, since
the valid part inside it is kept. Items of a sequence that follow a spec are
kept only if all of them are valid.

A value of a map that is no object is bare: it is validated as one certain field
of an object without other members.
-/

namespace ObjectSpec

/-- The field that stands for bare values of a map. -/
def bareField : String := "rawValue"

/-- The least name in an object that is not declared. -/
def undeclared? (fields : List (String × Field)) (members : Members) :
    Option String :=
  (Entries.names members).find? fun name => !Entries.has name fields

/-- The parsed members of validated fields. -/
def parsedMembers : List (String × FieldVerdict) → Members
  | [] => []
  | (name, verdict) :: rest =>
      match verdict.parsed with
      | some value => Entries.insert name value (parsedMembers rest)
      | none => parsedMembers rest

/-- The faults of validated fields. -/
def faultsOf : List (String × FieldVerdict) → List (String × Fault)
  | [] => []
  | (name, verdict) :: rest =>
      match verdict.fault with
      | some fault => (name, fault) :: faultsOf rest
      | none => faultsOf rest

/-- The verdict on an object by those on its fields. -/
def Verdict.ofFields (verdicts : List (String × FieldVerdict)) : Verdict :=
  .checked (parsedMembers verdicts) (faultsOf verdicts)

/-- The verdict on a field by that on the object it holds. -/
def FieldVerdict.ofVerdict (verdict : Verdict) : FieldVerdict :=
  ⟨verdict.parsedJson?, verdict.faults?.map .object⟩

/-- The result for one item of a sequence, by the validation of objects. -/
def itemResult (validate : Members → Verdict) : Json → Except Fault Json
  | .object members =>
      match (validate members).toResult with
      | .ok parsed => .ok (.object parsed)
      | .error faults => .error (.object faults)
  | other => .error (.notObject (.value other))

/-- The faults among results, with their indices counted from a first one. -/
def itemFaults : Nat → List (Except Fault Json) → List (Nat × Fault)
  | _, [] => []
  | index, .ok _ :: rest => itemFaults (index + 1) rest
  | index, .error fault :: rest => (index, fault) :: itemFaults (index + 1) rest

/-- The values among results. -/
def itemValues : List (Except Fault Json) → List Json
  | [] => []
  | .ok value :: rest => value :: itemValues rest
  | .error _ :: rest => itemValues rest

/-- Validate the items of a sequence by the validation of objects. -/
def validateItems (validate : Members → Verdict) : Json → Except Fault Json
  | .array items =>
      let results := items.map (itemResult validate)
      match itemFaults 0 results with
      | [] => .ok (.array (itemValues results))
      | faults => .error (.sequence ⟨faults⟩)
  | other => .error (.notSequence (.value other))

/-- The result for one value of a map: a value or faults, or neither. -/
abbrev EntryResult := Except ObjectFaults (Option Json)

/-- The result for one value of a map, by the validations of objects and of bare
values. -/
def entryResult
    (validate : Members → Verdict)
    (validateBare : Json → EntryResult) :
    Json → EntryResult
  | .object members =>
      (validate members).toResult.map fun parsed => some (.object parsed)
  | other => validateBare other

/-- The parsed members of a map. -/
def entryValues : List (String × EntryResult) → Members
  | [] => []
  | (key, .ok (some value)) :: rest => (key, value) :: entryValues rest
  | _ :: rest => entryValues rest

/-- The faults of a map. -/
def entryFaults : List (String × EntryResult) → List (String × ObjectFaults)
  | [] => []
  | (key, .error faults) :: rest => (key, faults) :: entryFaults rest
  | _ :: rest => entryFaults rest

/-- Validate the values of a map, by the validations of objects and of bare
values. -/
def validateEntries
    (validate : Members → Verdict)
    (validateBare : Json → EntryResult)
    (members : Members) :
    FieldVerdict :=
  let results := members.map fun member =>
    (member.1, entryResult validate validateBare member.2)
  let fault :=
    match entryFaults results with
    | [] => none
    | faults => some (.map ⟨faults⟩)
  ⟨some (.object (entryValues results)), fault⟩

/-- Validate an object or refuse what is none. -/
def whenObject (validate : Members → FieldVerdict) : Json → FieldVerdict
  | .object members => validate members
  | other => .ofFault (.notObject (.value other))

/-- Validate the value of a leaf, the items of a sequence by the validation of
objects if there is one. -/
def validateLeaf
    (pipeline : Pipeline)
    (validateItem : Option (Members → Verdict))
    (value : Json) :
    Except Fault Json :=
  match pipeline.checked value with
  | .error fault => .error fault
  | .ok found =>
      match pipeline.lookup, validateItem with
      | some rules, _ => rules.resolve pipeline.delimiter.isSome found
      | none, some validate => validateItems validate found
      | none, none => .ok found

/-- Settle presence and `null`, and validate any other value. -/
def validatePresent
    (required notNull : Bool)
    (validate : Json → FieldVerdict) :
    Option Json → FieldVerdict
  | none => if required then .ofFault .missing else .absent
  | some .null => if notNull then .ofFault .null else .ofValue .null
  | some value => validate value

mutual

/-- Validate an object by a spec. -/
def Spec.validate : Spec → Members → Verdict
  | ⟨fields, strict⟩, members =>
      match if strict then undeclared? fields members else none with
      | some name => .aborted name
      | none =>
          .ofFields (validateFields fields fun name =>
            Entries.get? name members)

/-- Validate a bare value of a map by the spec of its values. -/
def Spec.validateBare : Spec → Json → EntryResult
  | ⟨fields, strict⟩, value =>
      if strict && !Entries.has bareField fields then
        .error (.single bareField .undeclared)
      else
        let verdicts := validateFields fields fun name =>
          if name = bareField then some value else none
        match faultsOf verdicts with
        | [] => .ok ((Entries.get? bareField verdicts).bind FieldVerdict.parsed)
        | faults => .error ⟨faults⟩

/-- Validate the values that fields have. -/
def validateFields :
    List (String × Field) → (String → Option Json) →
      List (String × FieldVerdict)
  | [], _ => []
  | (name, field) :: rest, valueOf =>
      (name, field.validate (valueOf name)) :: validateFields rest valueOf

/-- Validate the value of a field; there is none if its member is absent. -/
def Field.validate : Field → Option Json → FieldVerdict
  | ⟨required, notNull, content⟩, value =>
      validatePresent required notNull content.validate value

/-- Validate a value other than `null`. -/
def Content.validate : Content → Json → FieldVerdict
  | .leaf pipeline none, value => .ofResult (validateLeaf pipeline none value)
  | .leaf pipeline (some spec), value =>
      .ofResult (validateLeaf pipeline (some spec.validate) value)
  | .object spec, value =>
      whenObject (fun members => .ofVerdict (spec.validate members)) value
  | .map values, value =>
      whenObject (validateEntries values.validate values.validateBare) value

end

@[simp] theorem validateFields_nil (valueOf : String → Option Json) :
    validateFields [] valueOf = [] := rfl

@[simp] theorem validateFields_cons
    (name : String)
    (field : Field)
    (rest : List (String × Field))
    (valueOf : String → Option Json) :
    validateFields ((name, field) :: rest) valueOf =
      (name, field.validate (valueOf name)) :: validateFields rest valueOf :=
  rfl

/-- Validation is field by field. -/
theorem validateFields_eq_map
    (fields : List (String × Field))
    (valueOf : String → Option Json) :
    validateFields fields valueOf =
      fields.map fun entry =>
        (entry.1, entry.2.validate (valueOf entry.1)) := by
  induction fields with
  | nil => rfl
  | cons entry rest inductionHypothesis =>
      rw [validateFields_cons, inductionHypothesis, List.map_cons]

end ObjectSpec
