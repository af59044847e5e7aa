import ObjectSpec.Proofs.Leaves
import ObjectSpec.Proofs.SpecInduction
import ObjectSpec.Proofs.Verdicts

/-!
# Conformance of parsed objects

What a validation keeps follows the spec even where the validation as a whole
failed. A kept object need not have every required field, since a field at fault
is left out of it. But an item of a sequence and a value of a map are kept only
if they are without fault, and then nothing required is missing: they are
complete as well.
-/

namespace ObjectSpec

/-! ## Conforming and complete objects -/

/-- A value that is an object with a property. -/
def Json.IsObjectWith (holds : Members → Prop) : Json → Prop
  | .object members => holds members
  | _ => False

/-- A value that is an array of values with a property. -/
def Json.IsArrayOf (holds : Json → Prop) : Json → Prop
  | .array items => ∀ item ∈ items, holds item
  | _ => False

mutual

/-- Every required field is present in an object, and the objects in its fields
are complete as well. -/
def Spec.Complete : Spec → Members → Prop
  | ⟨fields, _⟩, members => FieldsComplete fields members

/-- Several fields are complete in an object. -/
def FieldsComplete : List (String × Field) → Members → Prop
  | [], _ => True
  | (name, field) :: rest, members =>
      field.Complete (Entries.get? name members) ∧ FieldsComplete rest members

/-- The value of a field is not missing, and is complete unless it is `null`. -/
def Field.Complete : Field → Option Json → Prop
  | ⟨required, _, _⟩, none => required = false
  | ⟨_, _, content⟩, some value => value = .null ∨ content.Complete value

/-- An object is complete for its spec; other fields ask for nothing. -/
def Content.Complete : Content → Json → Prop
  | .leaf _ _, _ => True
  | .object spec, value => value.IsObjectWith spec.Complete
  | .map _, _ => True

end

mutual

/-- The members of an object are declared and conform to their fields. -/
def Spec.Conforms : Spec → Members → Prop
  | ⟨fields, _⟩, members =>
      ∀ member ∈ members, FieldsAllow fields member.1 member.2

/-- A name is declared by one of several fields, and a value conforms to it. -/
def FieldsAllow : List (String × Field) → String → Json → Prop
  | [], _, _ => False
  | (declared, field) :: rest, name, value =>
      if declared = name then field.Conforms value
      else FieldsAllow rest name value

/-- A value is `null` where that is allowed, or conforms to what the field
holds. -/
def Field.Conforms : Field → Json → Prop
  | ⟨_, notNull, content⟩, value =>
      value = .null ∧ notNull = false ∨ content.Conforms value

/-- A value conforms to what a field holds. Records are not restricted. -/
def Content.Conforms : Content → Json → Prop
  | .leaf pipeline none, value =>
      pipeline.lookup.isSome = true ∨ pipeline.Admits value
  | .leaf pipeline (some spec), value =>
      pipeline.lookup.isSome = true ∨
        value.IsArrayOf fun item =>
          item.IsObjectWith fun members =>
            spec.Conforms members ∧ spec.Complete members
  | .object spec, value => value.IsObjectWith spec.Conforms
  | .map values, value =>
      value.IsObjectWith fun entries =>
        ∀ entry ∈ entries,
          (entry.2.IsObjectWith fun members =>
            values.Conforms members ∧ values.Complete members) ∨
          values.AllowsBare entry.2

/-- A bare value conforms to the field for bare values. -/
def Spec.AllowsBare : Spec → Json → Prop
  | ⟨fields, _⟩, value => FieldsAllow fields bareField value

end

/-- Allowing a value under a name is conforming to the field that is found
there. -/
theorem fieldsAllow_iff
    {fields : List (String × Field)}
    {name : String}
    {value : Json} :
    FieldsAllow fields name value ↔
      ∃ field, Entries.get? name fields = some field ∧
        field.Conforms value := by
  induction fields with
  | nil => simp [FieldsAllow]
  | cons entry rest inductionHypothesis =>
      obtain ⟨declared, field⟩ := entry
      rw [FieldsAllow, Entries.get?_cons]
      split
      next => simp
      next => exact inductionHypothesis

theorem fieldsComplete_iff
    {fields : List (String × Field)}
    {members : Members} :
    FieldsComplete fields members ↔
      ∀ entry ∈ fields, entry.2.Complete (Entries.get? entry.1 members) := by
  induction fields with
  | nil => simp [FieldsComplete]
  | cons entry rest inductionHypothesis =>
      rw [FieldsComplete, inductionHypothesis, List.forall_mem_cons]

/-! ## Sound verdicts -/

/-- What a verdict on an object keeps conforms to the spec, and is complete if
there is no fault. -/
def Verdict.SoundFor (spec : Spec) : Verdict → Prop
  | .aborted _ => True
  | .checked parsed faults =>
      spec.Conforms parsed ∧ (faults = [] → spec.Complete parsed)

/-- What a verdict on a field keeps conforms to the field, and is complete if
there is no fault. -/
structure FieldVerdict.SoundFor
    (field : Field)
    (verdict : FieldVerdict) : Prop where
  conforms : ∀ value, verdict.parsed = some value → field.Conforms value
  complete : verdict.fault = none → field.Complete verdict.parsed

/-- The validations of objects and of bare values by a spec are sound. -/
structure Spec.Sound (spec : Spec) : Prop where
  object : ∀ members, (spec.validate members).SoundFor spec
  bare : ∀ value kept, spec.validateBare value = .ok (some kept) →
    spec.AllowsBare kept

/-- An object that is kept without fault conforms and is complete. -/
theorem Verdict.SoundFor.of_toResult
    {spec : Spec}
    {verdict : Verdict}
    {parsed : Members}
    (sound : verdict.SoundFor spec)
    (valid : verdict.toResult = .ok parsed) :
    spec.Conforms parsed ∧ spec.Complete parsed := by
  cases verdict with
  | aborted name => cases valid
  | checked members faults =>
      cases faults with
      | nil =>
          obtain rfl : members = parsed := Except.ok.inj valid
          exact ⟨sound.1, sound.2 rfl⟩
      | cons first rest => cases valid

/-- The items that are kept of a sequence conform and are complete. -/
theorem Spec.Sound.validateItems
    {spec : Spec}
    (sound : spec.Sound)
    {found kept : Json}
    (valid : validateItems spec.validate found = .ok kept) :
    kept.IsArrayOf fun item =>
      item.IsObjectWith fun members =>
        spec.Conforms members ∧ spec.Complete members := by
  cases found with
  | array items =>
      rw [ObjectSpec.validateItems] at valid
      split at valid
      next =>
          cases valid
          intro item member
          obtain ⟨origin, _, validated⟩ :=
            List.mem_map.1 (mem_itemValues.1 member)
          cases origin with
          | object members =>
              rw [itemResult] at validated
              split at validated
              next parsed record =>
                  cases validated
                  exact (sound.object members).of_toResult record
              next => cases validated
          | _ => cases validated
      next => cases valid
  | _ => cases valid

/-- The values that are kept of a map conform, and are complete if they are
objects. -/
theorem Spec.Sound.entryResult
    {values : Spec}
    (sound : values.Sound)
    {value kept : Json}
    (valid : entryResult values.validate values.validateBare value =
      .ok (some kept)) :
    (kept.IsObjectWith fun members =>
      values.Conforms members ∧ values.Complete members) ∨
        values.AllowsBare kept := by
  cases value with
  | object members =>
      refine Or.inl ?_
      rw [ObjectSpec.entryResult] at valid
      cases record : (values.validate members).toResult with
      | ok parsed =>
          rw [record] at valid
          cases valid
          exact (sound.object members).of_toResult record
      | error faults => rw [record] at valid; cases valid
  | _ => exact Or.inr (sound.bare _ kept valid)

theorem Content.conforms_of_validateLeaf
    {pipeline : Pipeline}
    {items : Option Spec}
    {value kept : Json}
    (inner : (Content.leaf pipeline items).Inner Spec.Sound)
    (valid : validateLeaf pipeline (items.map Spec.validate) value = .ok kept) :
    (Content.leaf pipeline items).Conforms kept := by
  rw [validateLeaf_eq] at valid
  cases checked : pipeline.checked value with
  | error fault => rw [checked] at valid; cases valid
  | ok found =>
      rw [checked] at valid
      cases lookup : pipeline.lookup with
      | some rules => cases items <;> exact Or.inl (by rw [lookup]; rfl)
      | none =>
          rw [lookup] at valid
          cases items with
          | none =>
              obtain rfl : found = kept := Except.ok.inj valid
              exact Or.inr (Pipeline.admits_of_checked checked)
          | some spec => exact Or.inr (Spec.Sound.validateItems inner valid)

theorem Verdict.SoundFor.conforms
    {spec : Spec}
    {verdict : Verdict}
    {kept : Json}
    (sound : verdict.SoundFor spec)
    (parsed : (FieldVerdict.ofVerdict verdict).parsed = some kept) :
    kept.IsObjectWith spec.Conforms := by
  cases verdict with
  | aborted name => cases parsed
  | checked members faults =>
      cases parsed
      exact sound.1

theorem Verdict.SoundFor.complete
    {spec : Spec}
    {verdict : Verdict}
    (sound : verdict.SoundFor spec)
    (valid : (FieldVerdict.ofVerdict verdict).fault = none) :
    ∃ kept, (FieldVerdict.ofVerdict verdict).parsed = some kept ∧
      kept.IsObjectWith spec.Complete := by
  cases verdict with
  | aborted name => cases valid
  | checked members faults =>
      cases faults with
      | nil => exact ⟨.object members, rfl, sound.2 rfl⟩
      | cons first rest => cases valid

/-- What is kept of a value conforms to what the field holds. -/
theorem Content.conforms_of_validate
    {content : Content}
    (inner : content.Inner Spec.Sound)
    {value kept : Json}
    (parsed : (content.validate value).parsed = some kept) :
    content.Conforms kept := by
  cases content with
  | leaf pipeline items =>
      rw [Content.validate_leaf, parsed_ofResult] at parsed
      exact Content.conforms_of_validateLeaf inner parsed
  | object spec =>
      cases value with
      | object members => exact (inner.object members).conforms parsed
      | _ => cases parsed
  | map values =>
      cases value with
      | object members =>
          cases parsed
          intro entry member
          obtain ⟨origin, _, validated⟩ := mem_entryValues_map.1 member
          exact inner.entryResult validated
      | _ => cases parsed

/-- A value without fault is kept, and what is kept is complete. -/
theorem Content.complete_of_validate
    {content : Content}
    (inner : content.Inner Spec.Sound)
    {value : Json}
    (valid : (content.validate value).fault = none) :
    ∃ kept, (content.validate value).parsed = some kept ∧
      content.Complete kept := by
  cases content with
  | leaf pipeline items =>
      rw [Content.validate_leaf] at valid ⊢
      obtain ⟨kept, passed⟩ := ofResult_of_fault_eq_none valid
      exact ⟨kept, parsed_ofResult.2 passed, trivial⟩
  | object spec =>
      cases value with
      | object members => exact (inner.object members).complete valid
      | _ => cases valid
  | map values =>
      cases value with
      | object members => exact ⟨_, rfl, trivial⟩
      | _ => cases valid

theorem Field.sound_validate
    {field : Field}
    (inner : field.content.Inner Spec.Sound)
    (value : Option Json) :
    (field.validate value).SoundFor field := by
  obtain ⟨required, notNull, content⟩ := field
  cases value with
  | none =>
      cases required with
      | true =>
          exact ⟨fun _ parsed => (nomatch parsed), fun valid => (nomatch valid)⟩
      | false => exact ⟨fun _ parsed => (nomatch parsed), fun _ => rfl⟩
  | some value =>
      by_cases isNull : value = .null
      · subst isNull
        cases notNull with
        | true =>
            exact ⟨fun _ parsed => (nomatch parsed),
              fun valid => (nomatch valid)⟩
        | false =>
            refine ⟨fun kept parsed => ?_, fun _ => Or.inl rfl⟩
            exact Or.inl ⟨(Option.some.inj parsed).symm, rfl⟩
      · rw [Field.validate_some isNull]
        refine ⟨fun kept parsed => ?_, fun valid => ?_⟩
        · exact Or.inr (Content.conforms_of_validate inner parsed)
        · obtain ⟨kept, parsed, complete⟩ :=
            Content.complete_of_validate inner valid
          rw [parsed]
          exact Or.inr complete

/-! ## Sound specs -/

section Fields

variable
  {fields : List (String × Field)}
  (distinct : (Entries.names fields).Nodup)
  (inner : ∀ entry ∈ fields, entry.2.content.Inner Spec.Sound)

include distinct inner

/-- Parsed members are allowed by the fields they come from. -/
theorem fieldsAllow_of_mem_parsedMembers
    {valueOf : String → Option Json}
    {member : String × Json}
    (parsed : member ∈ parsedMembers (validateFields fields valueOf)) :
    FieldsAllow fields member.1 member.2 := by
  obtain ⟨verdict, validated, kept⟩ :=
    Entries.mem_collect.1 (mem_collect_of_mem_parsedMembers parsed)
  obtain ⟨field, declared, rfl⟩ := mem_validateFields.1 validated
  refine fieldsAllow_iff.2 ⟨field, Entries.get?_of_mem distinct declared, ?_⟩
  exact (Field.sound_validate (inner _ declared) _).conforms _ kept

theorem fieldsComplete_of_faultsOf_eq_nil
    {valueOf : String → Option Json}
    (valid : faultsOf (validateFields fields valueOf) = []) :
    FieldsComplete fields (parsedMembers (validateFields fields valueOf)) := by
  refine fieldsComplete_iff.2 fun entry declared => ?_
  have validated : (entry.1, entry.2.validate (valueOf entry.1)) ∈
      validateFields fields valueOf :=
        mem_validateFields.2 ⟨entry.2, declared, rfl⟩
  have verdictsDistinct := nodup_names_validateFields distinct valueOf
  have found := Entries.get?_of_mem verdictsDistinct validated
  rw [faultsOf_eq_collect, Entries.collect_eq_nil_iff] at valid
  rw [get?_parsedMembers, Entries.get?_collect _ verdictsDistinct, found]
  exact (Field.sound_validate (inner entry declared) _).complete
    (valid _ validated)

theorem Spec.soundFor_validate
    (strict : Bool)
    (members : Members) :
    (Spec.validate ⟨fields, strict⟩ members).SoundFor ⟨fields, strict⟩ := by
  rw [Spec.validate]
  cases if strict then undeclared? fields members else none with
  | some name => trivial
  | none =>
      refine ⟨?_, fieldsComplete_of_faultsOf_eq_nil distinct inner⟩
      intro member parsed
      exact fieldsAllow_of_mem_parsedMembers distinct inner parsed

theorem Spec.allowsBare_of_validateBare
    {strict : Bool}
    {value kept : Json}
    (valid : Spec.validateBare ⟨fields, strict⟩ value = .ok (some kept)) :
    Spec.AllowsBare ⟨fields, strict⟩ kept := by
  by_cases refuses : Spec.RefusesBare ⟨fields, strict⟩
  · rw [Spec.validateBare_of_refuses refuses] at valid
    cases valid
  · rw [Spec.validateBare_of_not_refuses refuses] at valid
    cases faults : enclosed ObjectFaults.mk
        (faultsOf (Spec.bareVerdicts ⟨fields, strict⟩ value)) with
    | some found => rw [faults] at valid; cases valid
    | none =>
        rw [faults] at valid
        have parsed := Except.ok.inj valid
        obtain ⟨verdict, validated, keeps⟩ := Option.bind_eq_some_iff.1 parsed
        obtain ⟨field, declared, rfl⟩ :=
          mem_validateFields.1 (Entries.mem_of_get? validated)
        refine fieldsAllow_iff.2
          ⟨field, Entries.get?_of_mem distinct declared, ?_⟩
        exact (Field.sound_validate (inner _ declared) _).conforms _ keeps

end Fields

/-- Every well-formed spec is sound. -/
theorem Spec.WellFormed.sound
    {spec : Spec}
    (wellFormed : spec.WellFormed) :
    spec.Sound := by
  refine wellFormed.inductionOn ?_
  intro fields strict distinct inner
  refine ⟨Spec.soundFor_validate distinct inner strict, ?_⟩
  intro value kept valid
  exact Spec.allowsBare_of_validateBare distinct inner valid

/-- Whatever a validation keeps of an object conforms to the spec, with or
without faults. -/
theorem conforms_of_parsed
    {spec : Spec}
    {members parsed : Members}
    (wellFormed : spec.WellFormed)
    (kept : (spec.validate members).parsed? = some parsed) :
    spec.Conforms parsed := by
  have sound := wellFormed.sound.object members
  cases verdict : spec.validate members with
  | aborted name => rw [verdict] at kept; cases kept
  | checked found faults =>
      rw [verdict] at sound kept
      obtain rfl : found = parsed := Option.some.inj kept
      exact sound.1

/-- A spec for houses: an address must have a street and may tell of a
garage. -/
def houseSpec : Spec :=
  .declare .empty "address" <|
    .nested <|
      .declare (.declare .empty "street" (.leaf .string [.required]))
        "garage" (.leaf .boolean [])

theorem houseSpec_built : houseSpec.Built :=
  .declare "address" .empty <|
    .nested <|
      .declare "garage"
        (.declare "street" .empty (.leaf .string (by simp)))
        (.leaf .boolean (by simp))

/-- A house whose address has no street. -/
def streetless : Members :=
  [("address", .object [("garage", .bool true)])]

/-- What is kept of a house without a street conforms, but is not complete. -/
theorem conforms_of_streetless :
    (houseSpec.validate streetless).faults?.isSome = true ∧
      (houseSpec.validate streetless).parsed? = some streetless ∧
      houseSpec.Conforms streetless ∧ ¬houseSpec.Complete streetless := by
  have kept : (houseSpec.validate streetless).parsed? = some streetless := rfl
  refine ⟨rfl, kept, conforms_of_parsed houseSpec_built.wellFormed kept, ?_⟩
  intro complete
  obtain ⟨isNull | ⟨street, _⟩, _⟩ := complete
  · cases isNull
  · cases street

end ObjectSpec
