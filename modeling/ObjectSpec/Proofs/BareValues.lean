import ObjectSpec.Proofs.SpecInduction
import ObjectSpec.Proofs.Verdicts

/-!
# Bare values

A bare value of a map has a validation of its own, but it could as well be
boxed: made the only member of an object, validated like any other object of the
map, and taken out of what is kept. Both ways agree in what is at fault and in
what is kept.
-/

namespace ObjectSpec

/-- An object with a bare value as its only member. -/
def boxed (value : Json) : Members := [(bareField, value)]

/-- The result for a bare value by the verdict on the object it was boxed in. -/
def Verdict.unboxed (verdict : Verdict) : EntryResult :=
  match verdict.faults? with
  | some faults => .error faults
  | none => .ok (verdict.parsedAt? bareField)

theorem Verdict.errorOf?_unboxed (verdict : Verdict) :
    errorOf? verdict.unboxed = verdict.faults? := by
  rw [unboxed]
  cases verdict.faults? <;> rfl

theorem Verdict.value?_unboxed (verdict : Verdict) :
    EntryResult.value? verdict.unboxed =
      if verdict.faults?.isSome then none else verdict.parsedAt? bareField := by
  rw [unboxed]
  cases verdict.faults? <;> rfl

theorem Verdict.unboxed_eq_map (verdict : Verdict) :
    verdict.unboxed = verdict.toResult.map (Entries.get? bareField) := by
  cases verdict with
  | aborted name => rfl
  | checked parsed faults => cases faults <;> rfl

/-! ## Boxing -/

/-- The only member that can be refused is the one in the box. -/
theorem undeclared?_boxed
    (fields : List (String × Field))
    (value : Json) :
    undeclared? fields (boxed value) =
      if Entries.has bareField fields then none else some bareField := by
  cases declared : Entries.has bareField fields <;>
    simp [undeclared?, boxed, declared]

theorem Spec.refused?_boxed_of_refuses
    {spec : Spec}
    (refuses : spec.RefusesBare)
    (value : Json) :
    spec.refused? (boxed value) = some bareField := by
  obtain ⟨isStrict, absent⟩ := refuses
  have undeclared : Entries.has bareField spec.fields = false :=
    Entries.has_eq_false_iff.2 absent
  rw [refused?, if_pos isStrict, undeclared?_boxed, undeclared]
  rfl

theorem Spec.refused?_boxed_of_not_refuses
    {spec : Spec}
    (accepts : ¬spec.RefusesBare)
    (value : Json) :
    spec.refused? (boxed value) = none := by
  rw [refused?]
  split
  next isStrict =>
      have declared : Entries.has bareField spec.fields = true := by
        rw [Entries.has_eq_true_iff]
        exact Decidable.not_not.1 fun absent => accepts ⟨isStrict, absent⟩
      rw [undeclared?_boxed, if_pos declared]
  next => rfl

/-- The fields find in the box what they find for a bare value. -/
theorem Spec.fieldVerdicts_boxed
    (spec : Spec)
    (value : Json) :
    spec.fieldVerdicts (boxed value) = spec.bareVerdicts value := by
  have same : (fun name => Entries.get? name (boxed value)) =
      fun name => if name = bareField then some value else none := by
    funext name
    simp only [boxed, Entries.get?_cons, Entries.get?_nil, eq_comm]
  rw [fieldVerdicts, bareVerdicts, same]

/-- Under distinct names the validation of a bare value is that of its box. -/
theorem Spec.validateBare_eq_unboxed
    {spec : Spec}
    (distinct : spec.names.Nodup)
    (value : Json) :
    spec.validateBare value = (spec.validate (boxed value)).unboxed := by
  rw [spec.validate_eq]
  by_cases refuses : spec.RefusesBare
  · rw [Spec.validateBare_of_refuses refuses, refused?_boxed_of_refuses refuses]
    rfl
  · have verdictsDistinct : (Entries.names (spec.bareVerdicts value)).Nodup :=
      nodup_names_validateFields distinct _
    have parsed :
        Entries.get? bareField (parsedMembers (spec.bareVerdicts value)) =
          (Entries.get? bareField (spec.bareVerdicts value)).bind
            FieldVerdict.parsed := by
      rw [get?_parsedMembers, Entries.get?_collect _ verdictsDistinct]
    rw [Spec.validateBare_of_not_refuses refuses,
      refused?_boxed_of_not_refuses refuses]
    simp only [fieldVerdicts_boxed, Verdict.ofFields, Verdict.unboxed,
      faults?_checked]
    cases enclosed ObjectFaults.mk (faultsOf (spec.bareVerdicts value)) with
    | some faults => rfl
    | none => exact congrArg Except.ok parsed.symm

/-- The object by which a value of a map is validated: the value itself, or the
box of a bare value. -/
def recordOf : Json → Members
  | .object members => members
  | bare => boxed bare

theorem Json.WellFormed.recordOf
    {value : Json}
    (wellFormed : value.WellFormed) :
    (Json.object (recordOf value)).WellFormed := by
  cases value with
  | object members => exact wellFormed
  | _ => exact ⟨List.pairwise_singleton _ _, wellFormed, trivial⟩

/-- Under distinct names the faults at a key of a map are those of one object,
bare values included. -/
theorem Spec.errorOf?_entryResult
    {spec : Spec}
    (distinct : spec.names.Nodup)
    (value : Json) :
    errorOf? (entryResult spec.validate spec.validateBare value) =
      (spec.validate (recordOf value)).faults? := by
  cases value with
  | object members => exact errorOf?_entryResult_object _ _ members
  | _ =>
      rw [← Verdict.errorOf?_unboxed]
      exact congrArg errorOf? (Spec.validateBare_eq_unboxed distinct _)

/-! ## Results by key -/

/-- The faults of a map at one of its keys. -/
def FieldVerdict.faultsAtKey? (verdict : FieldVerdict) (key : String) :
    Option ObjectFaults :=
  match verdict.fault with
  | some (.map faults) => Entries.get? key faults.keys
  | _ => none

/-- What is kept of a map at one of its keys. -/
def FieldVerdict.valueAtKey? (verdict : FieldVerdict) (key : String) :
    Option Json :=
  verdict.parsed.bind (Json.member? key)

section Entries

variable
  {members : Members}
  (distinct : (Entries.names members).Nodup)
  (validate : Members → Verdict)
  (validateBare : Json → EntryResult)
  (key : String)

include distinct

/-- What is found at a key among converted results is the conversion of the
result for the value of the key. -/
theorem get?_collect_entryResult
    {α : Type}
    (convert : EntryResult → Option α) :
    Entries.get? key
        (Entries.collect convert
          (members.map fun member =>
            (member.1, entryResult validate validateBare member.2))) =
      (Entries.get? key members).bind fun value =>
        convert (entryResult validate validateBare value) := by
  have resultsDistinct : (Entries.names (members.map fun member =>
      (member.1, entryResult validate validateBare member.2))).Nodup := by
    rw [Entries.names_map_snd]
    exact distinct
  rw [Entries.get?_collect convert resultsDistinct,
    Entries.get?_map_snd fun _ value => entryResult validate validateBare value]
  cases Entries.get? key members <;> rfl

theorem faultsAtKey?_validateEntries :
    (validateEntries validate validateBare members).faultsAtKey? key =
      (Entries.get? key members).bind fun value =>
        errorOf? (entryResult validate validateBare value) := by
  have found :=
    get?_collect_entryResult distinct validate validateBare key errorOf?
  rw [← found, ← entryFaults_eq_collect, FieldVerdict.faultsAtKey?,
    fault_validateEntries]
  cases entryFaults (members.map fun member =>
    (member.1, entryResult validate validateBare member.2)) <;> rfl

theorem valueAtKey?_validateEntries :
    (validateEntries validate validateBare members).valueAtKey? key =
      (Entries.get? key members).bind fun value =>
        EntryResult.value? (entryResult validate validateBare value) := by
  have found := get?_collect_entryResult distinct validate validateBare key
    EntryResult.value?
  rw [← found, ← entryValues_eq_collect]
  rfl

end Entries

/-- The field of a map treats a bare value at one of its keys like the object
that the value is boxed in: the faults at the key are the faults of the box, and
without them the value that is kept at the key is the one that is kept in the
box. -/
theorem bare_value_agrees_with_boxed
    {values : Spec}
    {members : Members}
    {key : String}
    {value : Json}
    (required notNull : Bool)
    (wellFormed : values.WellFormed)
    (distinct : (Entries.names members).Nodup)
    (found : Entries.get? key members = some value)
    (bare : ∀ inside, value ≠ .object inside) :
    ((Field.validate ⟨required, notNull, .map values⟩
          (some (.object members))).faultsAtKey? key =
        (values.validate (boxed value)).faults?) ∧
      ((Field.validate ⟨required, notNull, .map values⟩
          (some (.object members))).valueAtKey? key =
        if (values.validate (boxed value)).faults?.isSome then none
        else (values.validate (boxed value)).parsedAt? bareField) := by
  have namesDistinct : values.names.Nodup := by
    obtain ⟨fields, strict⟩ := values
    exact (Spec.wellFormed_iff.1 wellFormed).1
  have result : entryResult values.validate values.validateBare value =
      (values.validate (boxed value)).unboxed := by
    rw [← Spec.validateBare_eq_unboxed namesDistinct]
    cases value with
    | object inside => exact absurd rfl (bare inside)
    | _ => rfl
  rw [← Verdict.value?_unboxed, ← Verdict.errorOf?_unboxed, ← result]
  constructor
  · have faults := faultsAtKey?_validateEntries distinct values.validate
      values.validateBare key
    rw [found] at faults
    exact faults
  · have kept := valueAtKey?_validateEntries distinct values.validate
      values.validateBare key
    rw [found] at kept
    exact kept

/-- A spec for answers: bare ones are truth values, others may have a note. -/
def answerSpec : Spec :=
  .refuseUndeclared <|
    .declare (.declare .empty bareField (.leaf .boolean []))
      "note" (.leaf .string [])

theorem answerSpec_built : answerSpec.Built :=
  .refuseUndeclared <|
    .declare "note"
      (.declare bareField .empty (.leaf .boolean (by simp)))
      (.leaf .string (by simp))

/-- Two bare answers, the second of which is no truth value. -/
def bareAnswers : Members :=
  [("first", .bool true), ("second", .string "perhaps")]

/-- The first of the answers is kept and the second is at fault, as in their
boxes. -/
theorem bareAnswers_agree_with_boxed :
    (Field.validate ⟨false, false, .map answerSpec⟩
        (some (.object bareAnswers))).valueAtKey? "first" =
      some (.bool true) ∧
      (Field.validate ⟨false, false, .map answerSpec⟩
          (some (.object bareAnswers))).faultsAtKey? "second" =
        some (.single bareField
          (.illTyped (.value (.string "perhaps")) none)) := by
  have distinct : (Entries.names bareAnswers).Nodup := by decide
  have wellFormed := answerSpec_built.wellFormed
  have first : Entries.get? "first" bareAnswers = some (.bool true) := rfl
  have second : Entries.get? "second" bareAnswers = some (.string "perhaps") :=
    rfl
  obtain ⟨_, kept⟩ :=
    bare_value_agrees_with_boxed false false wellFormed distinct first
      (by simp)
  obtain ⟨faults, _⟩ :=
    bare_value_agrees_with_boxed false false wellFormed distinct second
      (by simp)
  rw [kept, faults]
  exact ⟨rfl, rfl⟩

end ObjectSpec
