import ObjectSpec.Proofs.Accounting

/-!
# Keys of a map

The validation of a map accounts for every key. Its value is kept, is at fault
or, where it is bare and the spec has nothing to say about bare values, is
dropped. What becomes of a key does not depend on the other keys: it is what
becomes of it in a map without them.
-/

namespace ObjectSpec

/-! ## Values of a map -/

namespace Spec

/-- A bare value is dropped where nothing is declared for bare values,
undeclared members are not refused, and no declared field is required. -/
structure Drops (values : Spec) (value : Json) : Prop where
  bare : ∀ members, value ≠ .object members
  lenient : values.strict = false
  undeclared : bareField ∉ values.names
  optional : ∀ entry ∈ values.fields, entry.2.required = false

/-- A value fails where the object that it is, or the bare value, is at
fault. -/
def Fails (values : Spec) (value : Json) : Prop :=
  ∃ faults,
    entryResult values.validate values.validateBare value = .error faults

section

variable
  {values : Spec}
  {value : Json}

/-- Where no field is declared for bare values, every declared one finds its
value absent, so only required ones are at fault. -/
theorem faultsOf_bareVerdicts_eq_nil_iff
    (undeclared : bareField ∉ values.names) :
    faultsOf (values.bareVerdicts value) = [] ↔
      ∀ entry ∈ values.fields, entry.2.required = false := by
  rw [bareVerdicts, faultsOf_validateFields_eq_nil_iff]
  refine forall₂_congr fun entry member => ?_
  have differs : entry.1 ≠ bareField := fun same =>
    undeclared (same ▸ Entries.mem_names_of_mem member)
  rw [if_neg differs, Field.fault_validate_none_iff]

/-- The field for bare values makes something of every bare value that is not at
fault. -/
theorem exists_parsed_of_faultsOf_bareVerdicts_eq_nil
    (declared : bareField ∈ values.names)
    (faultless : faultsOf (values.bareVerdicts value) = []) :
    ∃ kept,
      (Entries.get? bareField (values.bareVerdicts value)).bind
        FieldVerdict.parsed =
      some kept := by
  rw [bareVerdicts, faultsOf_validateFields_eq_nil_iff] at faultless
  obtain ⟨field, found⟩ := Entries.exists_get?_of_mem_names declared
  have fault := faultless (bareField, field) (Entries.mem_of_get? found)
  rw [if_pos rfl] at fault
  rw [bareVerdicts, get?_validateFields, found, if_pos rfl, Option.map_some,
    Option.bind_some, ← Option.isSome_iff_exists]
  have accounted := (field.accountsFor_validate (some value)).present rfl
  rw [fault] at accounted
  exact accounted.resolve_right Bool.false_ne_true

/-- Nothing is made of a bare value exactly if undeclared members are not
refused, no field is declared for it, and no declared one misses its own
value. -/
theorem validateBare_eq_ok_none_iff :
    values.validateBare value = .ok none ↔
      values.strict = false ∧ bareField ∉ values.names ∧
        ∀ entry ∈ values.fields, entry.2.required = false := by
  rw [validateBare_eq_ok_iff]
  constructor
  · rintro ⟨notRefused, faultless, nothingKept⟩
    have undeclared : bareField ∉ values.names := by
      intro declared
      obtain ⟨kept, isKept⟩ :=
        exists_parsed_of_faultsOf_bareVerdicts_eq_nil declared faultless
      rw [nothingKept] at isKept
      cases isKept
    have lenient : values.strict = false :=
      Bool.eq_false_iff.2 fun isStrict => notRefused ⟨isStrict, undeclared⟩
    exact ⟨lenient, undeclared,
      (faultsOf_bareVerdicts_eq_nil_iff undeclared).1 faultless⟩
  · rintro ⟨lenient, undeclared, optional⟩
    have notRefused : ¬values.RefusesBare := by
      rintro ⟨isStrict, _⟩
      rw [lenient] at isStrict
      cases isStrict
    have nothingFound :
        Entries.get? bareField (values.bareVerdicts value) = none := by
      rw [Entries.get?_eq_none_iff, bareVerdicts, names_validateFields]
      exact undeclared
    refine ⟨notRefused,
      (faultsOf_bareVerdicts_eq_nil_iff undeclared).2 optional, ?_⟩
    rw [nothingFound]
    rfl

/-- Neither a value nor faults come of a value of a map exactly if it is
dropped. -/
theorem entryResult_eq_ok_none_iff :
    entryResult values.validate values.validateBare value = .ok none ↔
      values.Drops value := by
  constructor
  · intro nothing
    cases value with
    | object members =>
        rw [entryResult] at nothing
        cases record : (values.validate members).toResult <;>
          rw [record] at nothing <;> cases nothing
    | _ =>
        obtain ⟨lenient, undeclared, optional⟩ :=
          validateBare_eq_ok_none_iff.1 nothing
        exact ⟨fun _ => Json.noConfusion, lenient, undeclared, optional⟩
  · rintro ⟨bare, lenient, undeclared, optional⟩
    rw [entryResult_of_bare _ _ bare]
    exact validateBare_eq_ok_none_iff.2 ⟨lenient, undeclared, optional⟩

end

end Spec

/-! ## Keys of a verdict -/

namespace FieldVerdict

/-- The keys of a map whose values are kept. -/
def keptKeys (verdict : FieldVerdict) : List String :=
  match verdict.parsed with
  | some (.object members) => Entries.names members
  | _ => []

/-- The keys of a map whose values are at fault. -/
def faultyKeys (verdict : FieldVerdict) : List String :=
  match verdict.fault with
  | some (.map faults) => Entries.names faults.keys
  | _ => []

theorem mem_keptKeys_iff
    {verdict : FieldVerdict}
    {key : String} :
    key ∈ verdict.keptKeys ↔ ∃ value, verdict.valueAtKey? key = some value := by
  obtain ⟨parsed, fault⟩ := verdict
  cases parsed with
  | none => simp [keptKeys, valueAtKey?]
  | some kept =>
      cases kept with
      | object members => exact Entries.mem_names_iff
      | _ => simp [keptKeys, valueAtKey?, Json.member?]

theorem mem_faultyKeys_iff
    {verdict : FieldVerdict}
    {key : String} :
    key ∈ verdict.faultyKeys ↔
      ∃ faults, verdict.faultsAtKey? key = some faults := by
  obtain ⟨parsed, fault⟩ := verdict
  cases fault with
  | none => simp [faultyKeys, faultsAtKey?]
  | some fault =>
      cases fault with
      | map faults => exact Entries.mem_names_iff
      | _ => simp [faultyKeys, faultsAtKey?]

end FieldVerdict

/-! ## Verdicts on maps -/

/-- The verdict on a map whose values follow a spec. -/
def Spec.mapVerdict (values : Spec) (members : Members) : FieldVerdict :=
  validateEntries values.validate values.validateBare members

theorem Field.validate_map
    {field : Field}
    {values : Spec}
    (content : field.content = .map values)
    (members : Members) :
    field.validate (some (.object members)) = values.mapVerdict members := by
  obtain ⟨required, notNull, _⟩ := field
  subst content
  rfl

namespace Spec

variable
  {values : Spec}
  {members : Members}

/-- The fault of a map is the one around the faults at its keys. -/
theorem isOk_mapVerdict_eq_false_iff :
    (values.mapVerdict members).isOk = false ↔
      ∃ key, key ∈ (values.mapVerdict members).faultyKeys := by
  rw [mapVerdict, FieldVerdict.isOk, FieldVerdict.faultyKeys,
    fault_validateEntries]
  cases entryFaults _ with
  | nil => simp [enclosed]
  | cons first rest =>
      exact ⟨fun _ => ⟨first.1, List.mem_cons_self⟩, fun _ => rfl⟩

section

variable
  {key : String}
  (distinct : (Entries.names members).Nodup)

include distinct

/-- The keys that are kept are those of values of which a value comes. -/
theorem mem_keptKeys_mapVerdict_iff :
    key ∈ (values.mapVerdict members).keptKeys ↔
      ∃ value kept, (key, value) ∈ members ∧
        entryResult values.validate values.validateBare value =
          .ok (some kept) := by
  rw [FieldVerdict.mem_keptKeys_iff, mapVerdict]
  simp only [valueAtKey?_validateEntries distinct, Option.bind_eq_some_iff,
    EntryResult.value?_eq_some_iff, ← Entries.mem_iff_get?_eq_some distinct]
  exact exists_comm

/-- The keys at fault are those of values that fail. -/
theorem mem_faultyKeys_mapVerdict_iff :
    key ∈ (values.mapVerdict members).faultyKeys ↔
      ∃ value, (key, value) ∈ members ∧ values.Fails value := by
  rw [FieldVerdict.mem_faultyKeys_iff, mapVerdict]
  simp only [faultsAtKey?_validateEntries distinct, Option.bind_eq_some_iff,
    errorOf?_eq_some_iff, ← Entries.mem_iff_get?_eq_some distinct, Fails,
    ← exists_and_left]
  exact exists_comm

/-- A key is kept or at fault unless its value is dropped. -/
theorem mem_keptKeys_or_mem_faultyKeys_iff :
    key ∈ (values.mapVerdict members).keptKeys ∨
        key ∈ (values.mapVerdict members).faultyKeys ↔
      ∃ value, (key, value) ∈ members ∧ ¬values.Drops value := by
  simp only [mem_keptKeys_mapVerdict_iff distinct,
    mem_faultyKeys_mapVerdict_iff distinct, ← entryResult_eq_ok_none_iff]
  constructor
  · rintro (⟨value, kept, member, result⟩ | ⟨value, member, faults, result⟩)
    · exact ⟨value, member, by rw [result]; exact nofun⟩
    · exact ⟨value, member, by rw [result]; exact nofun⟩
  · rintro ⟨value, member, notDropped⟩
    cases result : entryResult values.validate values.validateBare value with
    | error faults => exact .inr ⟨value, member, faults, result⟩
    | ok kept? =>
        cases kept? with
        | none => exact absurd result notDropped
        | some kept => exact .inl ⟨value, kept, member, result⟩

/-- No key is both kept and at fault, since it has one value. -/
theorem not_mem_faultyKeys_of_mem_keptKeys
    (isKept : key ∈ (values.mapVerdict members).keptKeys) :
    key ∉ (values.mapVerdict members).faultyKeys := by
  intro isFaulty
  obtain ⟨value, kept, member, result⟩ :=
    (mem_keptKeys_mapVerdict_iff distinct).1 isKept
  obtain ⟨other, otherMember, faults, otherResult⟩ :=
    (mem_faultyKeys_mapVerdict_iff distinct).1 isFaulty
  have found := Entries.get?_of_mem distinct member
  have otherFound := Entries.get?_of_mem distinct otherMember
  obtain rfl : value = other := Option.some.inj (found.symm.trans otherFound)
  rw [result] at otherResult
  cases otherResult

/-- What becomes of a key is what becomes of it in a map without the other
keys. -/
theorem mapVerdict_at_key_eq_alone
    {value : Json}
    (member : (key, value) ∈ members) :
    (values.mapVerdict members).valueAtKey? key =
        (values.mapVerdict [(key, value)]).valueAtKey? key ∧
      (values.mapVerdict members).faultsAtKey? key =
        (values.mapVerdict [(key, value)]).faultsAtKey? key := by
  have single : (Entries.names [(key, value)]).Nodup :=
    List.pairwise_singleton _ _
  have alone : Entries.get? key [(key, value)] = some value := if_pos rfl
  have found := Entries.get?_of_mem distinct member
  simp only [mapVerdict, valueAtKey?_validateEntries distinct,
    valueAtKey?_validateEntries single, faultsAtKey?_validateEntries distinct,
    faultsAtKey?_validateEntries single, found, alone, and_self]

end

end Spec

/-- The verdict on a map has each key among those kept or among those at fault,
unless its value is dropped, and none among both. What becomes of a key is what
becomes of it alone. A parsed object is there in any case, and the map is at
fault exactly if some key is. -/
theorem map_accounts_for_every_key
    {field : Field}
    {values : Spec}
    {members : Members}
    (content : field.content = .map values)
    (distinct : (Entries.names members).Nodup) :
    let verdict := field.validate (some (.object members))
    (∀ key ∈ verdict.keptKeys, key ∉ verdict.faultyKeys) ∧
      (∀ key, key ∈ verdict.keptKeys ∨ key ∈ verdict.faultyKeys ↔
        ∃ value, (key, value) ∈ members ∧ ¬values.Drops value) ∧
      (∀ key, key ∈ verdict.faultyKeys ↔
        ∃ value, (key, value) ∈ members ∧ values.Fails value) ∧
      (∀ key value, (key, value) ∈ members →
        let alone := field.validate (some (.object [(key, value)]))
        verdict.valueAtKey? key = alone.valueAtKey? key ∧
          verdict.faultsAtKey? key = alone.faultsAtKey? key) ∧
      (∃ kept, verdict.parsed = some (.object kept)) ∧
      (verdict.isOk = false ↔ ∃ key, key ∈ verdict.faultyKeys) := by
  simp only [Field.validate_map content]
  refine ⟨?disjoint, ?covering, ?faulty, ?alone, ⟨_, rfl⟩, ?fault⟩
  case disjoint =>
    exact fun _ => Spec.not_mem_faultyKeys_of_mem_keptKeys distinct
  case covering =>
    exact fun _ => Spec.mem_keptKeys_or_mem_faultyKeys_iff distinct
  case faulty => exact fun _ => Spec.mem_faultyKeys_mapVerdict_iff distinct
  case alone =>
    intro key value member
    exact Spec.mapVerdict_at_key_eq_alone distinct member
  case fault => exact Spec.isOk_mapVerdict_eq_false_iff

/-- A spec for fares that have a price. -/
def fareSpec : Spec :=
  .declare .empty "price" (.leaf .number [])

/-- Fares of which one has a price, one is a bare value, and one has a price
that is no number. -/
def fares : Members :=
  [("adult", .object [("price", .int 12)]), ("child", .string "free"),
    ("senior", .object [("price", .string "half")])]

theorem fareSpec_drops : fareSpec.Drops (.string "free") := by
  refine ⟨fun _ => Json.noConfusion, rfl, by decide, ?_⟩
  intro entry member
  obtain rfl := List.mem_singleton.1 member
  rfl

/-- The bare fare is dropped without a fault, and the other two are accounted
for. -/
theorem fares_accounted_for :
    let verdict := (Field.values fareSpec).validate (some (.object fares))
    "adult" ∈ verdict.keptKeys ∧ "adult" ∉ verdict.faultyKeys ∧
      "child" ∉ verdict.keptKeys ∧ "child" ∉ verdict.faultyKeys ∧
      "senior" ∈ verdict.faultyKeys ∧ verdict.isOk = false ∧
      verdict.faultsAtKey? "senior" =
        some (.single "price" (.illTyped (.value (.string "half")) none)) := by
  intro verdict
  have distinct : (Entries.names fares).Nodup := by decide
  have content : (Field.values fareSpec).content = .map fareSpec := rfl
  obtain ⟨disjoint, covering, _, alone, _, fault⟩ :=
    map_accounts_for_every_key content distinct
  have adultKept : "adult" ∈ verdict.keptKeys := by decide
  have seniorFaulty : "senior" ∈ verdict.faultyKeys := by decide
  have childLost :
      ¬("child" ∈ verdict.keptKeys ∨ "child" ∈ verdict.faultyKeys) := by
    rw [covering]
    rintro ⟨value, member, notDropped⟩
    have found := Entries.get?_of_mem distinct member
    obtain rfl : Json.string "free" = value := Option.some.inj found
    exact notDropped fareSpec_drops
  obtain ⟨childNotKept, childNotFaulty⟩ := not_or.1 childLost
  have senior :
      ("senior", Json.object [("price", .string "half")]) ∈ fares := by
    simp [fares]
  obtain ⟨_, seniorAlone⟩ := alone _ _ senior
  exact ⟨adultKept, disjoint _ adultKept, childNotKept, childNotFaulty,
    seniorFaulty, fault.2 ⟨_, seniorFaulty⟩, seniorAlone⟩

end ObjectSpec
