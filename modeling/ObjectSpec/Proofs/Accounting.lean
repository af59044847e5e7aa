import ObjectSpec.Proofs.BareValues
import ObjectSpec.Proofs.Leaves

/-!
# Accounting for declared fields

A validation that is not aborted accounts for every declared field. A value that
is present is kept or at fault, and nothing is kept of one that is absent. Both
at once happens only to objects and maps, of which the valid part is kept. The
same holds for every object that is kept inside the validated one, against the
object it comes from.
-/

namespace ObjectSpec

/-! ## Accounts -/

/-- What becomes of the value of a field: how it is kept and how it is at
fault. -/
structure Field.AccountsFor
    (field : Field)
    (value parsed : Option Json)
    (fault : Option Fault) : Prop where
  /-- A value that is present is kept or at fault. -/
  present : value.isSome = true → parsed.isSome = true ∨ fault.isSome = true
  /-- Nothing is kept of an absent value, and it is missed exactly if it is
  required. -/
  absent : value = none →
    parsed = none ∧ fault = if field.required then some .missing else none
  /-- A leaf is not both kept and at fault. -/
  leaf : ∀ pipeline items, field.content = .leaf pipeline items →
    parsed = none ∨ fault = none
  /-- What is kept and at fault comes from an object, and the fault lies inside
  it. -/
  both : parsed.isSome = true → fault.isSome = true →
    ∃ members, value = some (.object members) ∧
      ((∃ spec faults, field.content = .object spec ∧
          fault = some (.object faults)) ∨
        ∃ values faults, field.content = .map values ∧
          fault = some (.map faults))
  /-- What is kept of an object that follows a spec is an object, and its faults
  are those of an object. -/
  object : ∀ spec members kept,
    field.content = .object spec →
    value = some (.object members) →
    parsed = some kept →
    ∃ inner faults, kept = .object inner ∧
      fault = (Verdict.checked inner faults).faults?.map .object
  /-- An object whose validation was aborted is at fault only. -/
  aborted : ∀ spec members,
    field.content = .object spec →
    value = some (.object members) →
    (spec.validate members).isAborted = true →
    parsed = none ∧ fault.isSome = true

/-- An object with a spec and the verdict on it. -/
structure Account where
  /-- The spec that the object should follow. -/
  spec : Spec
  /-- The members of the object. -/
  members : Members
  /-- What was found out about the object. -/
  verdict : Verdict

namespace Account

/-- Every declared field is accounted for by the verdict. -/
def Balanced (account : Account) : Prop :=
  ∀ name field, account.spec.get? name = some field →
    field.AccountsFor (Entries.get? name account.members)
      (account.verdict.parsedAt? name) (account.verdict.faultAt? name)

/-- The accounts of the objects that are kept inside the object of an
account. -/
inductive Within (whole : Account) : Account → Prop
  /-- The object itself. -/
  | whole : Within whole whole
  /-- An object that is kept in a field for an object. -/
  | nested
      {outer : Account}
      {name : String}
      {required notNull : Bool}
      {spec : Spec}
      {members parsed : Members}
      {faults : List (String × Fault)} :
      Within whole outer →
      outer.spec.get? name = some ⟨required, notNull, .object spec⟩ →
      Entries.get? name outer.members = some (.object members) →
      outer.verdict.parsedAt? name = some (.object parsed) →
      outer.verdict.faultAt? name =
        (Verdict.checked parsed faults).faults?.map .object →
      Within whole ⟨spec, members, .checked parsed faults⟩
  /-- An object that is kept at a key of a map. -/
  | value
      {outer : Account}
      {name key : String}
      {required notNull : Bool}
      {values : Spec}
      {entries kept members parsed : Members} :
      Within whole outer →
      outer.spec.get? name = some ⟨required, notNull, .map values⟩ →
      Entries.get? name outer.members = some (.object entries) →
      outer.verdict.parsedAt? name = some (.object kept) →
      Entries.get? key entries = some (.object members) →
      Entries.get? key kept = some (.object parsed) →
      Within whole ⟨values, members, .checked parsed []⟩
  /-- An object that is kept as an item of a sequence. -/
  | item
      {outer : Account}
      {name : String}
      {index : Nat}
      {required notNull : Bool}
      {pipeline : Pipeline}
      {spec : Spec}
      {items kept : List Json}
      {members parsed : Members} :
      Within whole outer →
      outer.spec.get? name =
        some ⟨required, notNull, .leaf pipeline (some spec)⟩ →
      pipeline.lookup = none →
      Entries.get? name outer.members = some (.array items) →
      outer.verdict.parsedAt? name = some (.array kept) →
      items[index]? = some (.object members) →
      kept[index]? = some (.object parsed) →
      Within whole ⟨spec, members, .checked parsed []⟩

end Account

/-! ## Single fields -/

namespace Field.AccountsFor

variable
  {field : Field}
  {value kept : Json}

theorem missing :
    field.AccountsFor none none
      (if field.required then some .missing else none) where
  present isSome := by cases isSome
  absent _ := ⟨rfl, rfl⟩
  leaf _ _ _ := .inl rfl
  both isSome := by cases isSome
  object _ _ _ _ isSome := by cases isSome
  aborted _ _ _ isSome := by cases isSome

theorem ofFault (fault : Fault) :
    field.AccountsFor (some value) none (some fault) where
  present _ := .inr rfl
  absent isNone := by cases isNone
  leaf _ _ _ := .inl rfl
  both isSome := by cases isSome
  object _ _ _ _ _ isSome := by cases isSome
  aborted _ _ _ _ _ := ⟨rfl, rfl⟩

theorem ofValue
    (noObject : ∀ spec members, field.content = .object spec →
      value ≠ .object members) :
    field.AccountsFor (some value) (some kept) none where
  present _ := .inl rfl
  absent isNone := by cases isNone
  leaf _ _ _ := .inr rfl
  both _ isSome := by cases isSome
  object spec members _ content isObject :=
    absurd (Option.some.inj isObject) (noObject spec members content)
  aborted spec members content isObject :=
    absurd (Option.some.inj isObject) (noObject spec members content)

theorem ofObject
    {spec : Spec}
    {members inner : Members}
    {faults : List (String × Fault)}
    (content : field.content = .object spec)
    (validated : spec.validate members = .checked inner faults) :
    field.AccountsFor (some (.object members)) (some (.object inner))
      ((Verdict.checked inner faults).faults?.map .object) where
  present _ := .inl rfl
  absent isNone := by cases isNone
  leaf pipeline items isLeaf := by rw [content] at isLeaf; cases isLeaf
  both _ isSome := by
    cases faults with
    | nil => cases isSome
    | cons first rest => exact ⟨members, rfl, .inl ⟨spec, _, content, rfl⟩⟩
  object _ _ _ _ _ same := ⟨inner, faults, (Option.some.inj same).symm, rfl⟩
  aborted other others isObject same aborted := by
    rw [content] at isObject
    cases isObject
    cases same
    rw [validated] at aborted
    cases aborted

theorem ofMap
    {values : Spec}
    {members : Members}
    (content : field.content = .map values)
    (faults : MapFaults) :
    field.AccountsFor (some (.object members)) (some kept)
      (some (.map faults)) where
  present _ := .inl rfl
  absent isNone := by cases isNone
  leaf pipeline items isLeaf := by rw [content] at isLeaf; cases isLeaf
  both _ _ := ⟨members, rfl, .inr ⟨values, faults, content, rfl⟩⟩
  object spec _ _ isObject := by rw [content] at isObject; cases isObject
  aborted spec _ isObject := by rw [content] at isObject; cases isObject

end Field.AccountsFor

section Content

variable {field : Field}

theorem Field.accountsFor_leaf
    {pipeline : Pipeline}
    {items : Option Spec}
    (content : field.content = .leaf pipeline items)
    (value : Json) :
    field.AccountsFor (some value) (field.content.validate value).parsed
      (field.content.validate value).fault := by
  rw [content, Content.validate_leaf]
  cases validateLeaf pipeline (items.map Spec.validate) value with
  | ok kept =>
      refine .ofValue ?_
      intro spec members isObject
      rw [content] at isObject
      cases isObject
  | error fault => exact .ofFault fault

theorem Field.accountsFor_object
    {spec : Spec}
    (content : field.content = .object spec)
    (value : Json) :
    field.AccountsFor (some value) (field.content.validate value).parsed
      (field.content.validate value).fault := by
  rw [content]
  cases value with
  | object members =>
      rw [Content.validate, whenObject]
      cases verdict : spec.validate members with
      | aborted name => exact .ofFault _
      | checked inner faults => exact .ofObject content verdict
  | _ => exact .ofFault _

theorem Field.accountsFor_map
    {values : Spec}
    (content : field.content = .map values)
    (value : Json) :
    field.AccountsFor (some value) (field.content.validate value).parsed
      (field.content.validate value).fault := by
  rw [content]
  cases value with
  | object members =>
      rw [Content.validate, whenObject, fault_validateEntries]
      cases entryFaults _ with
      | nil =>
          refine .ofValue ?_
          intro spec others isObject
          rw [content] at isObject
          cases isObject
      | cons first rest => exact .ofMap content _
  | _ => exact .ofFault _

/-- A field accounts for every value, present or absent. -/
theorem Field.accountsFor_validate
    (field : Field)
    (value : Option Json) :
    field.AccountsFor value (field.validate value).parsed
      (field.validate value).fault := by
  obtain ⟨required, notNull, content⟩ := field
  cases value with
  | none => cases required <;> exact .missing
  | some value =>
      by_cases isNull : value = .null
      · subst isNull
        cases notNull with
        | true => exact .ofFault .null
        | false => exact .ofValue fun _ _ _ => nofun
      · rw [Field.validate_some isNull]
        cases content with
        | leaf pipeline items => exact Field.accountsFor_leaf rfl value
        | object spec => exact Field.accountsFor_object rfl value
        | map values => exact Field.accountsFor_map rfl value

end Content

/-! ## Objects inside objects -/

namespace Account

/-- The verdict is that of the spec on a well-formed object, and it is not
aborted. -/
structure Validated (account : Account) : Prop where
  spec : account.spec.WellFormed
  members : (Json.object account.members).WellFormed
  verdict : account.spec.validate account.members = account.verdict
  notAborted : account.verdict.isAborted = false

section Validated

variable
  {account : Account}
  (validated : account.Validated)
  {name : String}
  {field : Field}
  (declared : account.spec.get? name = some field)

include validated declared

theorem Validated.parsedAt?_eq :
    account.verdict.parsedAt? name =
      (field.validate (Entries.get? name account.members)).parsed := by
  obtain ⟨wellFormed, _, same, notAborted⟩ := validated
  rw [← same] at notAborted ⊢
  rw [Spec.parsedAt?_validate wellFormed.names_nodup notAborted, declared,
    Option.bind_some]

theorem Validated.faultAt?_eq :
    account.verdict.faultAt? name =
      (field.validate (Entries.get? name account.members)).fault := by
  obtain ⟨wellFormed, _, same, notAborted⟩ := validated
  rw [← same] at notAborted ⊢
  rw [Spec.faultAt?_validate wellFormed.names_nodup notAborted, declared,
    Option.bind_some]

theorem Validated.accountsFor :
    field.AccountsFor (Entries.get? name account.members)
      (account.verdict.parsedAt? name) (account.verdict.faultAt? name) := by
  rw [validated.parsedAt?_eq declared, validated.faultAt?_eq declared]
  exact field.accountsFor_validate _

/-- The spec inside a declared field is well formed. -/
theorem Validated.inner : field.content.Inner Spec.WellFormed := by
  obtain ⟨⟨fields, strict⟩, members, verdict⟩ := account
  obtain ⟨_, inside⟩ := Spec.wellFormed_iff.1 validated.spec
  exact inside (name, field) (Entries.mem_of_get? declared)

end Validated

theorem eq_checked_of_ofVerdict
    {verdict : Verdict}
    {parsed : Members}
    {faults : List (String × Fault)}
    (kept : (FieldVerdict.ofVerdict verdict).parsed = some (.object parsed))
    (fault : (FieldVerdict.ofVerdict verdict).fault =
      (Verdict.checked parsed faults).faults?.map .object) :
    verdict = .checked parsed faults := by
  cases verdict with
  | aborted name => cases kept
  | checked members found =>
      cases kept
      cases found <;> cases faults <;> cases fault <;> rfl

/-- A valid array is kept item by item, after the conversion of its items. -/
theorem items_of_validateLeaf
    {pipeline : Pipeline}
    {validate : Members → Verdict}
    {items kept : List Json}
    (noLookup : pipeline.lookup = none)
    (valid : validateLeaf pipeline (some validate) (.array items) =
      .ok (.array kept)) :
    ∃ values : List Json, items.map pipeline.convert = values.map some ∧
      values.map (itemResult validate) = kept.map .ok := by
  rw [validateLeaf_eq, Pipeline.checked_array] at valid
  cases checked : pipeline.checkSequence (items.map pipeline.convert) with
  | error fault => rw [checked] at valid; cases valid
  | ok found =>
      obtain ⟨values, converted, rfl, _⟩ :=
        Pipeline.checkSequence_eq_ok_iff.1 checked
      rw [checked, noLookup] at valid
      obtain ⟨others, same, results⟩ := validateItems_eq_ok_iff.1 valid
      cases same
      exact ⟨values, converted, results⟩

section Within

variable
  {account : Account}
  {name : String}
  {required notNull : Bool}
  {spec : Spec}
  {members parsed : Members}
  (validated : account.Validated)

include validated

theorem Validated.member
    {value : Json}
    (found : Entries.get? name account.members = some value) :
    value.WellFormed :=
  validated.members.member (Entries.mem_of_get? found)

theorem Validated.nested
    {faults : List (String × Fault)}
    (declared : account.spec.get? name = some ⟨required, notNull, .object spec⟩)
    (found : Entries.get? name account.members = some (.object members))
    (kept : account.verdict.parsedAt? name = some (.object parsed))
    (fault : account.verdict.faultAt? name =
      (Verdict.checked parsed faults).faults?.map .object) :
    Validated ⟨spec, members, .checked parsed faults⟩ := by
  rw [validated.parsedAt?_eq declared, found] at kept
  rw [validated.faultAt?_eq declared, found] at fault
  exact ⟨validated.inner declared, validated.member found,
    eq_checked_of_ofVerdict kept fault, rfl⟩

theorem Validated.value
    {key : String}
    {entries kept : Members}
    (declared : account.spec.get? name = some ⟨required, notNull, .map spec⟩)
    (found : Entries.get? name account.members = some (.object entries))
    (keptEntries : account.verdict.parsedAt? name = some (.object kept))
    (foundAtKey : Entries.get? key entries = some (.object members))
    (keptAtKey : Entries.get? key kept = some (.object parsed)) :
    Validated ⟨spec, members, .checked parsed []⟩ := by
  rw [validated.parsedAt?_eq declared, found] at keptEntries
  have entriesWellFormed := validated.member found
  have atKey := valueAtKey?_validateEntries entriesWellFormed.sorted.nodup
    spec.validate spec.validateBare key
  have whole :
      (validateEntries spec.validate spec.validateBare entries).parsed =
        some (.object kept) := keptEntries
  rw [foundAtKey, Option.bind_some, FieldVerdict.valueAtKey?, whole,
    Option.bind_some, Json.member?, keptAtKey] at atKey
  have valid := EntryResult.value?_eq_some_iff.1 atKey.symm
  obtain ⟨record, same, verdict⟩ := entryResult_object_eq_ok_iff.1 valid
  cases same
  exact ⟨validated.inner declared,
    entriesWellFormed.member (Entries.mem_of_get? foundAtKey), verdict, rfl⟩

theorem Validated.item
    {index : Nat}
    {pipeline : Pipeline}
    {items kept : List Json}
    (declared : account.spec.get? name =
      some ⟨required, notNull, .leaf pipeline (some spec)⟩)
    (noLookup : pipeline.lookup = none)
    (found : Entries.get? name account.members = some (.array items))
    (keptItems : account.verdict.parsedAt? name = some (.array kept))
    (foundAtIndex : items[index]? = some (.object members))
    (keptAtIndex : kept[index]? = some (.object parsed)) :
    Validated ⟨spec, members, .checked parsed []⟩ := by
  rw [validated.parsedAt?_eq declared, found] at keptItems
  have valid : validateLeaf pipeline (some spec.validate) (.array items) =
      .ok (.array kept) := parsed_ofResult.1 keptItems
  obtain ⟨values, converted, results⟩ := items_of_validateLeaf noLookup valid
  have value : values[index]? = some (.object members) := by
    have same := congrArg (·[index]?) converted
    simp only [List.getElem?_map, foundAtIndex, Option.map_some,
      Pipeline.convert_object] at same
    obtain ⟨value, seen, equal⟩ := Option.map_eq_some_iff.1 same.symm
    rw [seen]
    exact equal
  have result :
      itemResult spec.validate (.object members) = .ok (.object parsed) := by
    have same := congrArg (·[index]?) results
    simp only [List.getElem?_map, value, keptAtIndex, Option.map_some,
      Option.some.injEq] at same
    exact same
  obtain ⟨_, _, isObject, same, verdict⟩ := itemResult_eq_ok_iff.1 result
  cases isObject
  cases same
  exact ⟨validated.inner declared,
    (validated.member found).item (List.mem_of_getElem? foundAtIndex), verdict,
    rfl⟩

end Within

/-- Every object that is kept inside a validated one is validated. -/
theorem Within.validated
    {whole inner : Account}
    (within : whole.Within inner)
    (validated : whole.Validated) :
    inner.Validated := by
  induction within with
  | whole => exact validated
  | nested _ declared found kept fault outer =>
      exact outer.nested declared found kept fault
  | value _ declared found kept foundAtKey keptAtKey outer =>
      exact outer.value declared found kept foundAtKey keptAtKey
  | item _ declared noLookup found kept foundAtIndex keptAtIndex outer =>
      exact outer.item declared noLookup found kept foundAtIndex keptAtIndex

end Account

/-- A validation that is not aborted accounts for every declared field of the
object and of every object that is kept inside it. -/
theorem declared_fields_accounted_for
    {spec : Spec}
    {members : Members}
    {inner : Account}
    (specWellFormed : spec.WellFormed)
    (membersWellFormed : (Json.object members).WellFormed)
    (notAborted : (spec.validate members).isAborted = false)
    (within : Account.Within ⟨spec, members, spec.validate members⟩ inner) :
    inner.Balanced := by
  have validated := within.validated
    ⟨specWellFormed, membersWellFormed, rfl, notAborted⟩
  intro name field declared
  exact validated.accountsFor declared

/-- A spec for boxes, which must have a label. -/
def boxSpec : Spec :=
  .declare (.declare .empty "label" (.leaf .string [.required]))
    "weight" (.leaf .number [])

/-- A spec for shelves, which hold one box. -/
def shelfSpec : Spec :=
  .declare .empty "box" (.nested boxSpec)

theorem shelfSpec_built : shelfSpec.Built :=
  .declare "box" .empty <|
    .nested <|
      .declare "weight"
        (.declare "label" .empty (.leaf .string (by simp)))
        (.leaf .number (by simp))

/-- A box that has no label. -/
def unlabelledBox : Members :=
  [("weight", .int 2)]

/-- A shelf with that box. -/
def unlabelledShelf : Members :=
  [("box", .object unlabelledBox)]

/-- The box is kept with its weight, and its missing label is accounted for. -/
theorem unlabelledBox_accounted_for :
    ∃ box : Account,
      Account.Within
          ⟨shelfSpec, unlabelledShelf, shelfSpec.validate unlabelledShelf⟩ box ∧
        box.members = unlabelledBox ∧
        box.verdict = .checked unlabelledBox [("label", .missing)] ∧
        box.Balanced := by
  have declared : shelfSpec.get? "box" = some ⟨false, false, .object boxSpec⟩ :=
    rfl
  have wellFormed : (Json.object unlabelledShelf).WellFormed := by
    simp [unlabelledShelf, unlabelledBox, Json.WellFormed,
      Json.WellFormedMembers, Entries.Sorted, Json.int]
  have within : Account.Within
      ⟨shelfSpec, unlabelledShelf, shelfSpec.validate unlabelledShelf⟩
      ⟨boxSpec, unlabelledBox, .checked unlabelledBox [("label", .missing)]⟩ :=
    .nested .whole declared rfl rfl rfl
  have balanced :=
    declared_fields_accounted_for shelfSpec_built.wellFormed wellFormed
    rfl within
  exact ⟨_, within, rfl, rfl, balanced⟩

end ObjectSpec
