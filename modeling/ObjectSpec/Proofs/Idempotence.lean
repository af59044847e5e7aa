import ObjectSpec.Proofs.BuiltinPipelines
import ObjectSpec.Proofs.SpecInduction
import ObjectSpec.Proofs.Verdicts

/-!
# Validating what was parsed

A valid object is parsed into one that is valid again and parsed into itself, as
long as no records replace values and the predicates and parsers are those of
the library. What its pipelines, its items, the values of its maps and its own
fields make of values they leave alone, and a field that kept nothing keeps
nothing again.
-/

namespace ObjectSpec

/-! ## Specs that leave their results alone -/

/-- A field uses the library only: a leaf has a pipeline without lookup and with
a predicate and a parser of the library, and where `null` is refused the parser
does not make it. -/
def Field.UsesLibrary (field : Field) : Prop :=
  ∀ pipeline items, field.content = .leaf pipeline items →
    pipeline.BuiltinOnly ∧
      (field.notNull = true → pipeline.parser ≠ some .boolean)

/-- Valid objects, and valid bare values of a map, are parsed into values that
are parsed into themselves. What is kept of a bare value is bare. -/
structure Spec.Stable (spec : Spec) : Prop where
  object : ∀ members parsed,
    spec.validate members = .checked parsed [] →
    spec.validate parsed = .checked parsed []
  bare : ∀ value kept,
    (∀ members, value ≠ .object members) →
    spec.validateBare value = .ok (some kept) →
    (∀ members, kept ≠ .object members) ∧
      spec.validateBare kept = .ok (some kept)

/-- A value is kept as it is. It is an object only if the original was one, and
`null` only if a parser made it. -/
structure Content.KeepsAgain
    (content : Content)
    (original kept : Json) : Prop where
  again : content.validate kept = .ofValue kept
  bare : (∀ members, original ≠ .object members) →
    ∀ members, kept ≠ .object members
  null : kept = .null →
    ∃ pipeline items, content = .leaf pipeline items ∧
      pipeline.parser = some .boolean

section Items

variable
  {spec : Spec}
  (stable : spec.Stable)
  {items kept : List Json}
  (results : items.map (itemResult spec.validate) = kept.map .ok)

include results

/-- Every item that is kept is what a valid object was parsed into. -/
theorem origin_of_mem_kept
    {item : Json}
    (member : item ∈ kept) :
    ∃ members parsed, .object members ∈ items ∧ item = .object parsed ∧
      spec.validate members = .checked parsed [] := by
  have result : .ok item ∈ items.map (itemResult spec.validate) :=
    results ▸ List.mem_map_of_mem member
  obtain ⟨origin, originMember, valid⟩ := List.mem_map.1 result
  obtain ⟨members, parsed, rfl, rfl, validated⟩ := itemResult_eq_ok_iff.1 valid
  exact ⟨members, parsed, originMember, rfl, validated⟩

include stable in
theorem Spec.Stable.itemResults :
    kept.map (itemResult spec.validate) = kept.map .ok := by
  refine List.map_congr_left ?_
  intro item member
  obtain ⟨members, parsed, _, rfl, validated⟩ :=
    origin_of_mem_kept results member
  exact itemResult_eq_ok_iff.2
    ⟨parsed, parsed, rfl, rfl, stable.object members parsed validated⟩

/-- The kept items pass the pipeline that the original ones passed. -/
theorem Pipeline.BuiltinOnly.checked_kept
    {pipeline : Pipeline}
    (builtin : pipeline.BuiltinOnly)
    (admitted : pipeline.Admits (.array items)) :
    pipeline.checked (.array kept) = .ok (.array kept) := by
  rw [Pipeline.checked_array, Pipeline.checkSequence_eq_ok_iff]
  refine ⟨kept, ?_, rfl, ?_⟩
  · refine List.map_congr_left ?_
    intro item member
    obtain ⟨members, parsed, _, rfl, _⟩ := origin_of_mem_kept results member
    exact pipeline.convert_object parsed
  · intro item member
    obtain ⟨members, parsed, originMember, rfl, _⟩ :=
      origin_of_mem_kept results member
    rw [Predicate.holds_object_of_mem_builtin builtin.predicate parsed members]
    exact admitted _ originMember

end Items

theorem Content.keepsAgain_leaf
    {pipeline : Pipeline}
    {items : Option Spec}
    {value kept : Json}
    (builtin : pipeline.BuiltinOnly)
    (inner : (Content.leaf pipeline items).Inner Spec.Stable)
    (present : value ≠ .null)
    (valid : validateLeaf pipeline (items.map Spec.validate) value = .ok kept) :
    (Content.leaf pipeline items).KeepsAgain value kept := by
  rw [validateLeaf_eq] at valid
  cases passed : pipeline.checked value with
  | error fault => rw [passed] at valid; cases valid
  | ok found =>
      rw [passed, builtin.noLookup] at valid
      cases items with
      | none =>
          obtain rfl : found = kept := Except.ok.inj valid
          refine ⟨?_, builtin.no_object_of_checked passed, ?_⟩
          · rw [Content.validate_leaf, validateLeaf_eq,
              builtin.checked_again passed, builtin.noLookup]
            rfl
          · rintro rfl
            exact ⟨pipeline, none, rfl,
              builtin.parser_of_checked_null passed present⟩
      | some spec =>
          change validateItems spec.validate found = .ok kept at valid
          cases found with
          | array values =>
              obtain ⟨keptItems, rfl, results⟩ :=
                validateItems_eq_ok_iff.1 valid
              have admitted := Pipeline.admits_of_checked passed
              refine ⟨?_, fun _ => nofun, nofun⟩
              rw [Content.validate_leaf, validateLeaf_eq,
                builtin.checked_kept results admitted, builtin.noLookup]
              have again := validateItems_eq_ok_iff.2
                ⟨keptItems, rfl, Spec.Stable.itemResults inner results⟩
              change FieldVerdict.ofResult
                (validateItems spec.validate (.array keptItems)) = _
              rw [again]
              rfl
          | _ => cases valid

theorem Content.keepsAgain_object
    {spec : Spec}
    {value : Json}
    {parsed : Option Json}
    (stable : spec.Stable)
    (valid : (Content.object spec).validate value = ⟨parsed, none⟩) :
    ∃ kept, parsed = some kept ∧
      (Content.object spec).KeepsAgain value kept := by
  cases value with
  | object members =>
      change FieldVerdict.ofVerdict (spec.validate members) = _ at valid
      cases verdict : spec.validate members with
      | aborted name => rw [verdict] at valid; cases valid
      | checked found faults =>
          rw [verdict] at valid
          cases faults with
          | nil =>
              cases valid
              have again := stable.object members found verdict
              refine ⟨.object found, rfl, ?_,
                fun bare => absurd rfl (bare members), nofun⟩
              change FieldVerdict.ofVerdict (spec.validate found) = _
              rw [again]
              rfl
          | cons first rest => cases valid
  | _ => cases valid

theorem Spec.Stable.entryResult
    {values : Spec}
    {value kept : Json}
    (stable : values.Stable)
    (valid : entryResult values.validate values.validateBare value =
      .ok (some kept)) :
    entryResult values.validate values.validateBare kept = .ok (some kept) := by
  by_cases isObject : ∃ members, value = .object members
  · obtain ⟨members, rfl⟩ := isObject
    obtain ⟨parsed, rfl, validated⟩ := entryResult_object_eq_ok_iff.1 valid
    exact entryResult_object_eq_ok_iff.2
      ⟨parsed, rfl, stable.object members parsed validated⟩
  · have bare : ∀ members, value ≠ .object members :=
      fun members same => isObject ⟨members, same⟩
    rw [entryResult_of_bare _ _ bare] at valid
    obtain ⟨keptBare, again⟩ := stable.bare value kept bare valid
    rw [entryResult_of_bare _ _ keptBare, again]

theorem Content.keepsAgain_map
    {values : Spec}
    {value : Json}
    {parsed : Option Json}
    (stable : values.Stable)
    (valid : (Content.map values).validate value = ⟨parsed, none⟩) :
    ∃ kept, parsed = some kept ∧
      (Content.map values).KeepsAgain value kept := by
  cases value with
  | object members =>
      obtain rfl := congrArg FieldVerdict.parsed valid
      refine ⟨_, rfl, ?_, fun bare => absurd rfl (bare members), nofun⟩
      refine validateEntries_eq_ofValue ?_
      intro entry member
      obtain ⟨origin, _, validated⟩ := mem_entryValues_map.1 member
      exact stable.entryResult validated
  | _ => cases valid

theorem Field.keepsAgain
    {field : Field}
    {value : Json}
    {parsed : Option Json}
    (library : field.UsesLibrary)
    (inner : field.content.Inner Spec.Stable)
    (present : value ≠ .null)
    (valid : field.content.validate value = ⟨parsed, none⟩) :
    ∃ kept, parsed = some kept ∧ field.content.KeepsAgain value kept := by
  obtain ⟨required, notNull, content⟩ := field
  cases content with
  | leaf pipeline items =>
      obtain ⟨builtin, _⟩ := library pipeline items rfl
      rw [Content.validate_leaf] at valid
      obtain ⟨kept, passed⟩ :=
        ofResult_of_fault_eq_none (congrArg FieldVerdict.fault valid)
      rw [passed] at valid
      obtain rfl : some kept = parsed := congrArg FieldVerdict.parsed valid
      exact ⟨kept, rfl, Content.keepsAgain_leaf builtin inner present passed⟩
  | object spec => exact Content.keepsAgain_object inner valid
  | map values => exact Content.keepsAgain_map inner valid

/-- What a field keeps without fault it keeps again, and it makes no object of a
bare value. -/
structure Field.Stable (field : Field) : Prop where
  again : ∀ value parsed,
    field.validate value = ⟨parsed, none⟩ →
    field.validate parsed = ⟨parsed, none⟩
  bare : ∀ value kept,
    (∀ members, value ≠ .object members) →
    field.validate (some value) = ⟨some kept, none⟩ →
    ∀ members, kept ≠ .object members

section UsesLibrary

variable
  {field : Field}
  (library : field.UsesLibrary)
  (inner : field.content.Inner Spec.Stable)

include library inner

theorem Field.UsesLibrary.validate_again
    {value parsed : Option Json}
    (valid : field.validate value = ⟨parsed, none⟩) :
    field.validate parsed = ⟨parsed, none⟩ := by
  obtain ⟨required, notNull, content⟩ := field
  cases value with
  | none =>
      cases required with
      | true => cases valid
      | false =>
          cases valid
          rfl
  | some value =>
      by_cases isNull : value = .null
      · subst isNull
        cases notNull with
        | true => cases valid
        | false =>
            cases valid
            rfl
      · rw [Field.validate_some isNull] at valid
        obtain ⟨kept, rfl, keeps⟩ := Field.keepsAgain library inner isNull valid
        by_cases keptNull : kept = .null
        · obtain ⟨pipeline, items, rfl, makesNull⟩ := keeps.null keptNull
          cases notNull with
          | true => exact absurd makesNull ((library pipeline items rfl).2 rfl)
          | false =>
              subst keptNull
              rfl
        · rw [Field.validate_some keptNull]
          exact keeps.again

theorem Field.UsesLibrary.validate_bare
    {value kept : Json}
    (bare : ∀ members, value ≠ .object members)
    (valid : field.validate (some value) = ⟨some kept, none⟩) :
    ∀ members, kept ≠ .object members := by
  obtain ⟨required, notNull, content⟩ := field
  by_cases isNull : value = .null
  · subst isNull
    cases notNull <;> cases valid
    nofun
  · rw [Field.validate_some isNull] at valid
    obtain ⟨_, same, keeps⟩ := Field.keepsAgain library inner isNull valid
    cases same
    exact keeps.bare bare

theorem Field.UsesLibrary.stable : field.Stable where
  again _ _ valid := library.validate_again inner valid
  bare _ _ bare valid := library.validate_bare inner bare valid

end UsesLibrary

/-! ## Results of specs -/

section Fields

variable
  {fields : List (String × Field)}
  {strict : Bool}
  (distinct : (Entries.names fields).Nodup)
  (stable : ∀ entry ∈ fields, entry.2.Stable)

include stable in
/-- Fields without fault have the same verdicts on what they keep. -/
theorem validateFields_again
    {valueOf again : String → Option Json}
    (valid : faultsOf (validateFields fields valueOf) = [])
    (kept : ∀ entry ∈ fields,
      again entry.1 = (entry.2.validate (valueOf entry.1)).parsed) :
    validateFields fields again = validateFields fields valueOf := by
  rw [validateFields_eq_map, validateFields_eq_map]
  refine List.map_congr_left ?_
  intro entry member
  have faultless := faultsOf_validateFields_eq_nil_iff.1 valid entry member
  have verdict : entry.2.validate (valueOf entry.1) =
      ⟨(entry.2.validate (valueOf entry.1)).parsed, none⟩ := by
    rw [← faultless]
  rw [kept entry member, (stable entry member).again _ _ verdict, ← verdict]

include distinct stable in
theorem Spec.validate_again
    {members parsed : Members}
    (valid : Spec.validate ⟨fields, strict⟩ members = .checked parsed []) :
    Spec.validate ⟨fields, strict⟩ parsed = .checked parsed [] := by
  have namesDistinct : (Spec.names ⟨fields, strict⟩).Nodup := distinct
  have notAborted :
      (Spec.validate ⟨fields, strict⟩ members).isAborted = false := by
    rw [valid]
    rfl
  have found := Spec.parsedAt?_validate namesDistinct notAborted
  rw [valid] at found
  have verdict := Spec.validate_of_not_aborted notAborted
  rw [valid, Verdict.ofFields] at verdict
  obtain ⟨values, faultless⟩ := Verdict.checked.inj verdict
  have kept : ∀ entry ∈ fields, Entries.get? entry.1 parsed =
      (entry.2.validate (Entries.get? entry.1 members)).parsed := by
    intro entry member
    have atName := found entry.1
    rw [Spec.get?, Entries.get?_of_mem distinct member] at atName
    exact atName
  have sameVerdicts : Spec.fieldVerdicts ⟨fields, strict⟩ parsed =
      Spec.fieldVerdicts ⟨fields, strict⟩ members :=
    validateFields_again stable faultless.symm kept
  have declared :
      ∀ name ∈ Entries.names parsed, name ∈ Entries.names fields := by
    intro name member
    exact Spec.mem_names_of_mem_names_parsed valid member
  have noneRefused : Spec.refused? ⟨fields, strict⟩ parsed = none := by
    rw [Spec.refused?, undeclared?_eq_none_iff.2 declared, ite_self]
  rw [Spec.validate_eq, noneRefused, sameVerdicts, Verdict.ofFields, ← values,
    ← faultless]

include distinct stable in
theorem Spec.validateBare_again
    {value kept : Json}
    (bare : ∀ members, value ≠ .object members)
    (valid : Spec.validateBare ⟨fields, strict⟩ value = .ok (some kept)) :
    (∀ members, kept ≠ .object members) ∧
      Spec.validateBare ⟨fields, strict⟩ kept = .ok (some kept) := by
  obtain ⟨accepts, faultless, found⟩ := Spec.validateBare_eq_ok_iff.1 valid
  obtain ⟨verdict, verdictAt, keeps⟩ := Option.bind_eq_some_iff.1 found
  obtain ⟨field, declared, rfl⟩ :=
    mem_validateFields.1 (Entries.mem_of_get? verdictAt)
  rw [if_pos rfl] at keeps
  have fieldFaultless :=
    faultsOf_validateFields_eq_nil_iff.1 faultless _ declared
  rw [if_pos rfl] at fieldFaultless
  have again : Spec.bareVerdicts ⟨fields, strict⟩ kept =
      Spec.bareVerdicts ⟨fields, strict⟩ value := by
    refine validateFields_again stable faultless ?_
    intro entry member
    by_cases isBare : entry.1 = bareField
    · have entryFound := Entries.get?_of_mem distinct member
      rw [isBare, Entries.get?_of_mem distinct declared] at entryFound
      rw [if_pos isBare, if_pos isBare, ← Option.some.inj entryFound, keeps]
    · rw [if_neg isBare, if_neg isBare, Field.parsed_validate_none]
  refine ⟨?_, ?_⟩
  · refine (stable _ declared).bare value kept bare ?_
    rw [← keeps, ← fieldFaultless]
  · rw [Spec.validateBare_eq_ok_iff, again]
    exact ⟨accepts, faultless, found⟩

end Fields

theorem Spec.WellFormed.stable
    {spec : Spec}
    (wellFormed : spec.WellFormed)
    (library : spec.Everywhere Field.UsesLibrary) :
    spec.Stable := by
  revert library
  refine Spec.WellFormed.inductionOn
    (motive := fun spec => spec.Everywhere Field.UsesLibrary → spec.Stable)
    wellFormed ?_
  intro fields strict distinct inner library
  have stable : ∀ entry ∈ fields, entry.2.Stable := by
    intro entry member
    obtain ⟨entryLibrary, insideLibrary⟩ :=
      Spec.everywhere_iff.1 library entry member
    exact entryLibrary.stable ((inner entry member).mp insideLibrary)
  constructor
  · intro members parsed valid
    exact Spec.validate_again distinct stable valid
  · intro value kept bare valid
    exact Spec.validateBare_again distinct stable bare valid

/-- If every field uses the library only, a valid object is parsed into one that
is valid and parsed into itself. -/
theorem parsed_object_validates_to_itself
    {spec : Spec}
    {members parsed : Members}
    (wellFormed : spec.WellFormed)
    (library : spec.Everywhere Field.UsesLibrary)
    (valid : (spec.validate members).isValid = true)
    (kept : (spec.validate members).parsed? = some parsed) :
    (spec.validate parsed).isValid = true ∧
      (spec.validate parsed).parsed? = some parsed := by
  have stable := wellFormed.stable library
  have verdict := isValid_and_parsed?_iff.1 ⟨valid, kept⟩
  exact isValid_and_parsed?_iff.2 (stable.object members parsed verdict)

/-- A spec for ballots: digits that are split and read, and votes by name. -/
def ballotSpec : Spec :=
  .refuseUndeclared <|
    .declare
      (.declare .empty
        "choices" (.leaf .number [.delimiter "", .parser .integer, .notNull]))
      "votes" (.values (.declare .empty bareField
        (.leaf .booleanOrAll [.parser .booleanOrAll])))

theorem ballotSpec_built : ballotSpec.Built :=
  .refuseUndeclared <|
    .declare "votes"
      (.declare "choices" .empty (.leaf .number (by simp)))
      (.values (.declare bareField .empty (.leaf .booleanOrAll (by simp))))

/-- A ballot as it is filled in. -/
def ballot : Members :=
  [("choices", .string "31"),
    ("votes", .object [("ann", .string "true"), ("bob", .string "any")])]

/-- The ballot as it is parsed. -/
def parsedBallot : Members :=
  [("choices", .array [.int 3, .int 1]),
    ("votes", .object [("ann", .bool true), ("bob", .string "all")])]

theorem ballotSpec_usesLibrary : ballotSpec.Everywhere Field.UsesLibrary := by
  have number : Predicate.number ∈ Predicate.builtin := by
    simp [Predicate.builtin]
  have vote : Predicate.booleanOrAll ∈ Predicate.builtin := by
    simp [Predicate.builtin]
  have readNumber : Parser.integer ∈ Parser.builtin := by simp [Parser.builtin]
  have readVote : Parser.booleanOrAll ∈ Parser.builtin := by
    simp [Parser.builtin]
  have noNull : some Parser.integer ≠ some Parser.boolean := by
    simp [Parser.integer, Parser.boolean]
  refine ⟨⟨?choices, trivial⟩, ⟨?votes, ⟨?vote, trivial⟩, trivial⟩, trivial⟩
  case choices =>
    intro pipeline items content
    cases content
    refine ⟨⟨rfl, number, ?_⟩, fun _ => noNull⟩
    intro parser same
    cases same
    exact readNumber
  case votes =>
    intro pipeline items content
    cases content
  case vote =>
    intro pipeline items content
    cases content
    refine ⟨⟨rfl, vote, ?_⟩, fun refused => absurd refused Bool.false_ne_true⟩
    intro parser same
    cases same
    exact readVote

/-- The parsed ballot is parsed into itself, though no string is left to
split. -/
theorem parsedBallot_validates_to_itself :
    (ballotSpec.validate ballot).parsed? = some parsedBallot ∧
      (ballotSpec.validate parsedBallot).isValid = true ∧
      (ballotSpec.validate parsedBallot).parsed? = some parsedBallot := by
  have kept : (ballotSpec.validate ballot).parsed? = some parsedBallot := rfl
  exact ⟨kept, parsed_object_validates_to_itself ballotSpec_built.wellFormed
    ballotSpec_usesLibrary rfl kept⟩

end ObjectSpec
