import ObjectSpec.Lookup.MemoryStore
import ObjectSpec.Proofs.Verdicts
import ObjectSpec.Spec.LeafDraft

/-!
# Required records

A leaf that requires records compares the number of records found with the
number of records that must exist. Where its value counts as several keys, every
key must have a record. But the query for several keys may also be chosen where
the value counts as one key: then exactly one of the keys must have a record,
and a missing record can go unnoticed.
-/

namespace ObjectSpec

/-! ## Records of a table -/

/-- Whether some record of a table has a key. -/
def Table.holds (table : Table) (key : Json) : Bool :=
  table.records.any (hasMember table.keyField key)

theorem Table.isSome_find? (table : Table) (key : Json) :
    (table.find? key).isSome = table.holds key := by
  rw [find?, holds, List.isSome_find?]

/-- One record is found for each key that has any, as often as the key is asked
for. -/
theorem Table.length_findAll (table : Table) (keys : List Json) :
    (table.findAll keys).length = keys.countP table.holds := by
  rw [findAll, List.length_filterMap_eq_countP]
  exact congrArg (List.countP · keys) (funext table.isSome_find?)

/-! ## The query for several keys -/

section Several

variable
  {rules : LookupRules}
  {store : MemoryStore}
  {delimited : Bool}
  (inMemory : rules.store = store.toRecordStore)
  (several : rules.effectiveMethod delimited = .many)

include inMemory several

/-- A memory store answers the query for several keys by the records it
finds. -/
theorem LookupRules.answer_of_many (value : Json) :
    rules.answer delimited value =
      .ok (.many (store.table.findAll (keysOf value))) := by
  rw [answer, several, inMemory]
  rfl

/-- Where records are required, the number of keys with a record decides. -/
theorem LookupRules.resolve_of_many
    (mustExist : rules.mustExist = true)
    (value : Json) :
    rules.resolve delimited value =
      if (keysOf value).countP store.table.holds =
        rules.expectedCount delimited value then
        .ok (.array (store.table.findAll (keysOf value)))
      else
        .error (.recordsMissing (rules.expectedCount delimited value)
          ((keysOf value).countP store.table.holds)) := by
  rw [resolve, LookupRules.answer_of_many inMemory several]
  simp only [mustExist, true_and, Answer.count_many, Answer.value_many,
    Table.length_findAll, ne_eq, ite_not]

end Several

/-! ## Fields with required records -/

/-- What the requirement of records promises: a field is without fault exactly
if every key has a record, and it reports missing records if some key has
none. -/
structure FieldVerdict.RequiresRecords
    (table : Table)
    (keys : List Json)
    (verdict : FieldVerdict) : Prop where
  faultless_iff : verdict.fault = none ↔ ∀ key ∈ keys, table.holds key = true
  reports : (∃ key ∈ keys, table.holds key = false) →
    ∃ expected actual, verdict.fault = some (.recordsMissing expected actual)

/-- Comparing the number of keys that have a record with an expected number
keeps the promise exactly if the comparison decides whether all of them have
one. -/
theorem FieldVerdict.requiresRecords_iff_of_fault
    {table : Table}
    {keys : List Json}
    {verdict : FieldVerdict}
    {expected : Nat}
    (compared : verdict.fault =
      if keys.countP table.holds = expected then none
      else some (.recordsMissing expected (keys.countP table.holds))) :
    verdict.RequiresRecords table keys ↔
      (keys.countP table.holds = expected ↔
        keys.countP table.holds = keys.length) := by
  have faultless :
      verdict.fault = none ↔ keys.countP table.holds = expected := by
    rw [compared]
    split
    next equal => simp [equal]
    next different => simp [different]
  rw [List.countP_eq_length, ← faultless]
  constructor
  · exact RequiresRecords.faultless_iff
  · intro decides
    refine ⟨decides, ?_⟩
    rintro ⟨key, member, missing⟩
    have different : keys.countP table.holds ≠ expected := by
      intro equal
      have held := decides.1 (faultless.2 equal) key member
      rw [missing] at held
      cases held
    exact ⟨expected,
      keys.countP table.holds, by rw [compared, if_neg different]⟩

/-- A leaf that requires the records of several keys compares their number. -/
theorem Field.fault_validate_of_many
    {pipeline : Pipeline}
    {rules : LookupRules}
    {store : MemoryStore}
    {value found : Json}
    (required notNull : Bool)
    (items : Option Spec)
    (present : value ≠ .null)
    (passed : pipeline.checked value = .ok found)
    (lookup : pipeline.lookup = some rules)
    (inMemory : rules.store = store.toRecordStore)
    (several : rules.effectiveMethod pipeline.delimiter.isSome = .many)
    (mustExist : rules.mustExist = true) :
    (Field.validate ⟨required, notNull, .leaf pipeline items⟩
        (some value)).fault =
      if (LookupRules.keysOf found).countP store.table.holds =
          rules.expectedCount pipeline.delimiter.isSome found then none
      else
        some (.recordsMissing
          (rules.expectedCount pipeline.delimiter.isSome found)
          ((LookupRules.keysOf found).countP store.table.holds)) := by
  rw [Field.validate_some present, Content.validate_leaf, fault_ofResult,
    validateLeaf_eq, passed]
  simp only [lookup, LookupRules.resolve_of_many inMemory several mustExist]
  split <;> rfl

/-- The requirement of records on a leaf whose records are found by the query
for several keys keeps its promise in these cases and no others: the value
counts as several keys, or it is one key, or a key without record does not go
unnoticed. -/
theorem requiresRecords_iff
    {pipeline : Pipeline}
    {items : Option Spec}
    {rules : LookupRules}
    {store : MemoryStore}
    {value found : Json}
    (required notNull : Bool)
    (present : value ≠ .null)
    (passed : pipeline.checked value = .ok found)
    (lookup : pipeline.lookup = some rules)
    (inMemory : rules.store = store.toRecordStore)
    (several : rules.effectiveMethod pipeline.delimiter.isSome = .many)
    (mustExist : rules.mustExist = true) :
    (Field.validate ⟨required, notNull, .leaf pipeline items⟩
        (some value)).RequiresRecords store.table (LookupRules.keysOf found) ↔
      rules.isSeveral pipeline.delimiter.isSome = true ∨
        (LookupRules.keysOf found).length = 1 ∨
        (LookupRules.keysOf found).countP store.table.holds ≠ 1 ∧
          ∃ key ∈ LookupRules.keysOf found, store.table.holds key = false := by
  have compared :=
    Field.fault_validate_of_many required notNull items present passed
    lookup inMemory several mustExist
  have missing :
      (∃ key ∈ LookupRules.keysOf found, store.table.holds key = false) ↔
        (LookupRules.keysOf found).countP store.table.holds ≠
          (LookupRules.keysOf found).length := by
    simp only [ne_eq, List.countP_eq_length, Classical.not_forall, exists_prop,
      Bool.not_eq_true]
  rw [FieldVerdict.requiresRecords_iff_of_fault compared, missing,
    LookupRules.expectedCount]
  split
  next isSeveral => simp [isSeveral]
  next isOne =>
      simp only [isOne, Bool.false_eq_true, false_or]
      omega

/-- A store with a record of the key `a` alone. -/
def singleRecord : MemoryStore :=
  (MemoryStore.empty "id").insert (.object [("id", .string "a")])

/-- Rules that require records and choose the query for several keys, without
counting the value as such. -/
def manyAsOne : LookupRules where
  store := singleRecord.toRecordStore
  method := some .many
  many := false
  mustExist := true

/-- Strings that are replaced by these rules. -/
def manyAsOnePipeline : Pipeline where
  delimiter := none
  parser := none
  sequenceOnly := false
  predicate := .string
  lookup := some manyAsOne

/-- The promise is kept for one key, but not for two keys of which one has a
record. -/
theorem requiresRecords_manyAsOne :
    (Field.validate ⟨false, false, .leaf manyAsOnePipeline none⟩
        (some (.string "b"))).RequiresRecords singleRecord.table
          (LookupRules.keysOf (.string "b")) ∧
      ¬(Field.validate ⟨false, false, .leaf manyAsOnePipeline none⟩
        (some (.array [.string "a", .string "b"]))).RequiresRecords
          singleRecord.table
          (LookupRules.keysOf (.array [.string "a", .string "b"])) := by
  constructor
  · rw [requiresRecords_iff false false (by simp) rfl rfl rfl rfl rfl]
    decide
  · rw [requiresRecords_iff false false (by simp) rfl rfl rfl rfl rfl]
    decide

/-- A leaf that requires records lets a key without record pass: the query for
several keys is chosen, but only one record is expected. -/
theorem fault_eq_none_of_record_missing :
    manyAsOne.effectiveMethod manyAsOnePipeline.delimiter.isSome = .many ∧
      (Field.validate
        (.leaf .string
          [.store singleRecord.toRecordStore, .method .many, .mustExist])
        (some (.array [.string "a", .string "b"]))).fault = none ∧
      singleRecord.table.holds (.string "b") = false :=
  ⟨rfl, rfl, rfl⟩

end ObjectSpec
