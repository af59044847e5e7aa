import ObjectSpec.Proofs.CheckedKeys
import ObjectSpec.Proofs.RequiredRecords

/-!
# Lookups of several keys

The query for several keys asks a memory store for each key on its own. Each key
that some inserted record has contributes the earliest such record, once for
every time it is asked for, and a key that no record has contributes nothing. A
leaf with a single key is replaced by the same record, or by `null` where there
is none.
-/

namespace ObjectSpec

/-! ## Records of single keys -/

/-- A record has a key if it is an object whose identifying member equals the
key. -/
def HasKey (keyField : String) (key record : Json) : Prop :=
  ∃ held, record.member? keyField = some held ∧ held.sameValue key = true

/-- What a key stands for among records in the order of their insertion. -/
inductive StandsFor (keyField : String) (inserted : List Json) (key : Json) :
    Option Json → Prop
  /-- The earliest record that has the key. -/
  | earliest {before after : List Json} {record : Json} :
      inserted = before ++ record :: after →
      HasKey keyField key record →
      (∀ other ∈ before, ¬HasKey keyField key other) →
      StandsFor keyField inserted key (some record)
  /-- Nothing if no record has it. -/
  | nothing :
      (∀ record ∈ inserted, ¬HasKey keyField key record) →
      StandsFor keyField inserted key none

/-- The records that keys stand for, key by key. Keys that stand for nothing are
left out. -/
inductive StandInTurn (keyField : String) (inserted : List Json) :
    List Json → List Json → Prop
  /-- No keys stand for no records. -/
  | nil : StandInTurn keyField inserted [] []
  /-- The record of a key comes before those of the following keys. -/
  | found {key record : Json} {keys records : List Json} :
      StandsFor keyField inserted key (some record) →
      StandInTurn keyField inserted keys records →
      StandInTurn keyField inserted (key :: keys) (record :: records)
  /-- A key without record adds nothing to those of the following keys. -/
  | skipped {key : Json} {keys records : List Json} :
      StandsFor keyField inserted key none →
      StandInTurn keyField inserted keys records →
      StandInTurn keyField inserted (key :: keys) records

namespace Table

theorem hasMember_eq_true_iff
    {keyField : String}
    {key record : Json} :
    hasMember keyField key record = true ↔ HasKey keyField key record := by
  rw [hasMember, Option.any_eq_true]
  rfl

/-- A table finds for each key what it stands for. -/
theorem find?_eq_iff
    {keyField : String}
    {inserted : List Json}
    {key : Json}
    {answer : Option Json} :
    find? ⟨keyField, inserted⟩ key = answer ↔
      StandsFor keyField inserted key answer := by
  rw [find?]
  constructor
  · rintro rfl
    cases found : inserted.find? (hasMember keyField key) with
    | none =>
        refine .nothing ?_
        intro record member has
        exact List.find?_eq_none.1 found record member
          (hasMember_eq_true_iff.2 has)
    | some record =>
        obtain ⟨has, before, after, inserted_eq, noneBefore⟩ :=
          List.find?_eq_some_iff_append.1 found
        refine .earliest inserted_eq (hasMember_eq_true_iff.1 has) ?_
        intro other member otherHas
        have refused := noneBefore other member
        rw [hasMember_eq_true_iff.2 otherHas] at refused
        cases refused
  · intro stands
    cases stands with
    | nothing noneHas =>
        refine List.find?_eq_none.2 ?_
        intro record member has
        exact noneHas record member (hasMember_eq_true_iff.1 has)
    | @earliest before after record inserted_eq has noneBefore =>
        refine List.find?_eq_some_iff_append.2
          ⟨hasMember_eq_true_iff.2 has, before, after, inserted_eq, ?_⟩
        intro other member
        rw [Bool.not_eq_true', Bool.eq_false_iff]
        exact fun otherHas =>
          noneBefore other member (hasMember_eq_true_iff.1 otherHas)

/-- The records of several keys are those of the single keys in turn. -/
theorem standInTurn_findAll
    (keyField : String)
    (inserted keys : List Json) :
    StandInTurn keyField inserted keys (findAll ⟨keyField, inserted⟩ keys) := by
  induction keys with
  | nil => exact .nil
  | cons key keys inductionHypothesis =>
      rw [findAll, List.filterMap_cons]
      split
      next missing =>
          exact .skipped (find?_eq_iff.1 missing) inductionHypothesis
      next record found =>
          exact .found (find?_eq_iff.1 found) inductionHypothesis

end Table

/-! ## Stores that were filled -/

/-- A store into which the given records were inserted one after the other.
Custom queries may have been registered at any time. -/
inductive MemoryStore.Filled (keyField : String) :
    List Json → MemoryStore → Prop
  /-- A store is empty at first. -/
  | empty : MemoryStore.Filled keyField [] (.empty keyField)
  /-- A record joins those inserted before it. -/
  | insert {inserted : List Json} {store : MemoryStore} (record : Json) :
      MemoryStore.Filled keyField inserted store →
      MemoryStore.Filled keyField (inserted ++ [record]) (store.insert record)
  /-- A custom query leaves the records as they are. -/
  | register {inserted : List Json} {store : MemoryStore}
      (name : String) (query : CustomQuery) :
      MemoryStore.Filled keyField inserted store →
      MemoryStore.Filled keyField inserted (store.register name query)

/-- A store holds the inserted records in their order, and no others. -/
theorem MemoryStore.Filled.table_eq
    {keyField : String}
    {inserted : List Json}
    {store : MemoryStore}
    (filled : store.Filled keyField inserted) :
    store.table = ⟨keyField, inserted⟩ := by
  induction filled with
  | empty => rfl
  | insert record filled inductionHypothesis =>
      rw [MemoryStore.insert, inductionHypothesis]
      rfl
  | register name query filled inductionHypothesis => exact inductionHypothesis

/-! ## Leaves with one key and with several keys -/

/-- Values that are keys of a store, each of them being replaced by its
record. -/
def Pipeline.singleKey (predicate : Predicate) (store : RecordStore) :
    Pipeline where
  delimiter := none
  parser := none
  sequenceOnly := false
  predicate := predicate
  lookup := some ⟨store, none, false, false⟩

/-- A key that satisfies the predicate is replaced by its record, and by `null`
if it has none. -/
theorem Field.validate_singleKey
    {predicate : Predicate}
    {store : MemoryStore}
    {key : Json}
    (required notNull : Bool)
    (items : Option Spec)
    (present : key ≠ .null)
    (noArray : ∀ items, key ≠ .array items)
    (holds : predicate.holds key = true) :
    Field.validate
        ⟨required, notNull,
          .leaf (.singleKey predicate store.toRecordStore) items⟩
        (some key) =
      .ofValue ((store.table.find? key).getD .null) := by
  have passed :
      (Pipeline.singleKey predicate store.toRecordStore).checked key =
        .ok key := by
    rw [Pipeline.checked, Pipeline.prepare_scalar rfl noArray]
    exact (Pipeline.check_scalar _ noArray).trans
      (Pipeline.checkScalar_eq_ok_iff.2 ⟨rfl, rfl, holds⟩)
  rw [Field.validate_some present, Content.validate_leaf, validateLeaf_eq,
    passed]
  cases found : store.table.find? key <;>
    simp [Pipeline.singleKey, LookupRules.resolve, LookupRules.answer,
      LookupRules.effectiveMethod, LookupRules.isSeveral,
      MemoryStore.toRecordStore, found, Except.map, Answer.value,
      FieldVerdict.ofResult]

/-- A leaf without required records keeps what the query for several keys
finds. -/
theorem Field.validate_of_many
    {pipeline : Pipeline}
    {rules : LookupRules}
    {store : MemoryStore}
    {value found : Json}
    (required notNull : Bool)
    (items : Option Spec)
    (present : value ≠ .null)
    (passed : pipeline.checked value = .ok found)
    (lookup : pipeline.lookup = some rules)
    (inMemory : rules.store = store.toRecordStore)
    (several : rules.effectiveMethod pipeline.delimiter.isSome = .many)
    (optional : rules.mustExist = false) :
    Field.validate ⟨required, notNull, .leaf pipeline items⟩ (some value) =
      .ofValue (.array (store.table.findAll (LookupRules.keysOf found))) := by
  rw [Field.validate_some present, Content.validate_leaf, validateLeaf_eq,
    passed]
  simp only [lookup, LookupRules.resolve,
    LookupRules.answer_of_many inMemory several]
  simp [optional, FieldVerdict.ofResult]

/-- A leaf that looks several keys up without requiring their records is
replaced by the records that its keys stand for, key by key. A key that is
neither `null` nor an array is replaced by the same record where it is the whole
value of a leaf with the same predicate and store, and by `null` if it has been
left out. -/
theorem several_keys_looked_up_one_by_one
    {pipeline : Pipeline}
    {rules : LookupRules}
    {store : MemoryStore}
    {keyField : String}
    {inserted : List Json}
    {value found : Json}
    (required notNull : Bool)
    (items : Option Spec)
    (filled : store.Filled keyField inserted)
    (present : value ≠ .null)
    (passed : pipeline.checked value = .ok found)
    (lookup : pipeline.lookup = some rules)
    (inMemory : rules.store = store.toRecordStore)
    (several : rules.effectiveMethod pipeline.delimiter.isSome = .many)
    (optional : rules.mustExist = false) :
    ∃ records : List Json,
      Field.validate ⟨required, notNull, .leaf pipeline items⟩ (some value) =
          .ofValue (.array records) ∧
        StandInTurn keyField inserted (LookupRules.keysOf found) records ∧
        ∀ key ∈ LookupRules.keysOf found, key ≠ .null →
          (∀ parts, key ≠ .array parts) →
          ∀ answer, StandsFor keyField inserted key answer →
            ∀ (required notNull : Bool) (items : Option Spec),
              Field.validate
                  ⟨required, notNull,
                    .leaf (.singleKey pipeline.predicate rules.store) items⟩
                  (some key) =
                .ofValue (answer.getD .null) := by
  have table := filled.table_eq
  refine ⟨store.table.findAll (LookupRules.keysOf found), ?verdict, ?inTurn,
    ?alone⟩
  case verdict =>
    exact Field.validate_of_many required notNull items present passed lookup
      inMemory several optional
  case inTurn =>
    rw [table]
    exact Table.standInTurn_findAll keyField inserted _
  case alone =>
    intro key member keyPresent noArray answer stands required notNull items
    have admitted := (Pipeline.admits_of_checked passed).admitsKey
    have holds := admitted.holds_of_mem_keysOf member
    have found : store.table.find? key = answer := by
      rw [table]
      exact Table.find?_eq_iff.2 stands
    rw [inMemory,
      Field.validate_singleKey required notNull items keyPresent noArray holds,
      found]

/-- Records of seats, the third of them without a number. One number was given
twice, and the text among them has no key. -/
def seatRecords : List Json :=
  [.string "row 1", .object [("seat", .int 1), ("side", .string "aisle")],
    .object [("seat", .null)],
    .object [("seat", .int 1), ("side", .string "window")]]

/-- A store of these records with a custom query. -/
def seatStore : MemoryStore :=
  ((MemoryStore.empty "seat").insertAll seatRecords).register "all"
    fun table _ => .ok (.many table.records)

/-- The query for several keys, without counting the value as such. -/
def seatRules : LookupRules where
  store := seatStore.toRecordStore
  method := some .many
  many := false
  mustExist := false

/-- Seats by their numbers, which may be written as strings. -/
def seatNumbers : Pipeline where
  delimiter := none
  parser := some .integer
  sequenceOnly := true
  predicate := .number
  lookup := some seatRules

theorem seatStore_filled : seatStore.Filled "seat" seatRecords :=
  .register "all" _ (.insert _ (.insert _ (.insert _ (.insert _ .empty))))

/-- The earlier record of a number counts, as often as the number is asked for.
A number without record is left out, and alone it is replaced by `null`. -/
theorem seats_looked_up_one_by_one :
    Field.validate ⟨true, false, .leaf seatNumbers none⟩
          (some (.array [.string "1", .int 2, .string "1"])) =
        .ofValue (.array [.object [("seat", .int 1), ("side", .string "aisle")],
          .object [("seat", .int 1), ("side", .string "aisle")]]) ∧
      StandInTurn "seat" seatRecords [.int 1, .int 2, .int 1]
        [.object [("seat", .int 1), ("side", .string "aisle")],
          .object [("seat", .int 1), ("side", .string "aisle")]] ∧
      Field.validate
          ⟨true, false, .leaf (.singleKey .number seatStore.toRecordStore) none⟩
          (some (.int 2)) =
        .ofValue .null := by
  have passed :
      seatNumbers.checked (.array [.string "1", .int 2, .string "1"]) =
        .ok (.array [.int 1, .int 2, .int 1]) := rfl
  have lookup : seatNumbers.lookup = some seatRules := rfl
  obtain ⟨records, verdict, inTurn, alone⟩ :=
    several_keys_looked_up_one_by_one true false none seatStore_filled
      (fun isNull => Json.noConfusion isNull) passed lookup rfl rfl rfl
  have kept : [Json.object [("seat", .int 1), ("side", .string "aisle")],
      .object [("seat", .int 1), ("side", .string "aisle")]] = records :=
    Json.array.inj (Option.some.inj (congrArg FieldVerdict.parsed verdict))
  subst kept
  have missing : StandsFor "seat" seatRecords (.int 2) none :=
    Table.find?_eq_iff.1 rfl
  exact ⟨verdict, inTurn,
    alone (.int 2) (.tail _ (.head _)) nofun nofun none missing true false
      none⟩

end ObjectSpec
