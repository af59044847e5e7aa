import ObjectSpec.Proofs.Entries
import ObjectSpec.Proofs.Leaves
import ObjectSpec.Validation.Basic

/-!
# Assembling verdicts

A validation puts together the verdicts on fields, on the items of a sequence
and on the values of a map. What it puts together is characterised here, each
time by what is found at one place, so that no later proof repeats the
recursion.
-/

namespace ObjectSpec

/-! ## Verdicts on fields -/

/-- A value other than `null` is validated by what the field holds. -/
theorem Field.validate_some
    {required notNull : Bool}
    {content : Content}
    {value : Json}
    (present : value ≠ .null) :
    Field.validate ⟨required, notNull, content⟩ (some value) =
      content.validate value := by
  cases value with
  | null => exact absurd rfl present
  | _ => rfl

/-- A field is at fault because its value is absent or `null`, or for what it
holds. -/
theorem Field.fault_cases
    {field : Field}
    {value : Option Json}
    {fault : Fault}
    (found : fault ∈ (field.validate value).fault) :
    fault = .missing ∨ fault = .null ∨
      ∃ present, value = some present ∧
        fault ∈ (field.content.validate present).fault := by
  obtain ⟨required, notNull, content⟩ := field
  cases value with
  | none =>
      cases required with
      | true => exact .inl (Option.some.inj found).symm
      | false => cases found
  | some value =>
      by_cases isNull : value = .null
      · subst isNull
        cases notNull with
        | true => exact .inr (.inl (Option.some.inj found).symm)
        | false => cases found
      · rw [Field.validate_some isNull] at found
        exact .inr (.inr ⟨value, rfl, found⟩)

/-- Nothing is kept of an absent value. -/
theorem Field.parsed_validate_none (field : Field) :
    (field.validate none).parsed = none := by
  obtain ⟨required, notNull, content⟩ := field
  cases required <;> rfl

/-- Nothing is at fault about an absent value exactly if it is not required. -/
theorem Field.fault_validate_none_iff {field : Field} :
    (field.validate none).fault = none ↔ field.required = false := by
  obtain ⟨required, notNull, content⟩ := field
  cases required with
  | true => exact ⟨nofun, nofun⟩
  | false => exact ⟨fun _ => rfl, fun _ => rfl⟩

theorem names_validateFields
    (fields : List (String × Field))
    (valueOf : String → Option Json) :
    Entries.names (validateFields fields valueOf) = Entries.names fields := by
  rw [validateFields_eq_map, Entries.names_map_snd]

theorem nodup_names_validateFields
    {fields : List (String × Field)}
    (distinct : (Entries.names fields).Nodup)
    (valueOf : String → Option Json) :
    (Entries.names (validateFields fields valueOf)).Nodup := by
  rw [names_validateFields]
  exact distinct

theorem mem_validateFields
    {fields : List (String × Field)}
    {valueOf : String → Option Json}
    {name : String}
    {verdict : FieldVerdict} :
    (name, verdict) ∈ validateFields fields valueOf ↔
      ∃ field, (name, field) ∈ fields ∧
        field.validate (valueOf name) = verdict := by
  simp only [validateFields_eq_map, List.mem_map, Prod.mk.injEq]
  constructor
  · rintro ⟨⟨_, field⟩, member, rfl, validated⟩
    exact ⟨field, member, validated⟩
  · rintro ⟨field, member, validated⟩
    exact ⟨(name, field), member, rfl, validated⟩

/-- The verdict found under a declared name is that on the value of the name. -/
theorem get?_validateFields
    (fields : List (String × Field))
    (valueOf : String → Option Json)
    (name : String) :
    Entries.get? name (validateFields fields valueOf) =
      (Entries.get? name fields).map fun field =>
        field.validate (valueOf name) := by
  rw [validateFields_eq_map]
  exact Entries.get?_map_snd (fun name field => field.validate (valueOf name))
    name fields

theorem mem_collect_of_mem_parsedMembers
    {verdicts : List (String × FieldVerdict)}
    {entry : String × Json}
    (member : entry ∈ parsedMembers verdicts) :
    entry ∈ Entries.collect FieldVerdict.parsed verdicts := by
  induction verdicts with
  | nil => cases member
  | cons first rest inductionHypothesis =>
      obtain ⟨name, verdict⟩ := first
      cases parsed : verdict.parsed with
      | some value =>
          rw [Entries.collect_cons_of_some parsed]
          simp only [parsedMembers, parsed] at member
          rcases Entries.mem_insert member with inserted | inside
          · exact inserted ▸ List.mem_cons_self
          · exact List.mem_cons_of_mem _ (inductionHypothesis inside)
      | none =>
          rw [Entries.collect_cons_of_none parsed]
          simp only [parsedMembers, parsed] at member
          exact inductionHypothesis member

/-- Sorting the values that fields have does not change what is found. -/
theorem get?_parsedMembers
    (verdicts : List (String × FieldVerdict))
    (name : String) :
    Entries.get? name (parsedMembers verdicts) =
      Entries.get? name (Entries.collect FieldVerdict.parsed verdicts) := by
  induction verdicts with
  | nil => rfl
  | cons first rest inductionHypothesis =>
      obtain ⟨other, verdict⟩ := first
      cases parsed : verdict.parsed with
      | some value =>
          rw [Entries.collect_cons_of_some parsed, Entries.get?_cons,
            ← inductionHypothesis]
          simp only [parsedMembers, parsed, Entries.get?_insert]
      | none =>
          rw [Entries.collect_cons_of_none parsed, ← inductionHypothesis]
          simp only [parsedMembers, parsed]

theorem sorted_parsedMembers (verdicts : List (String × FieldVerdict)) :
    Entries.Sorted (parsedMembers verdicts) := by
  induction verdicts with
  | nil => exact List.Pairwise.nil
  | cons first rest inductionHypothesis =>
      rw [parsedMembers]
      split
      next value _ => exact inductionHypothesis.insert first.1 value
      next => exact inductionHypothesis

theorem faultsOf_eq_collect (verdicts : List (String × FieldVerdict)) :
    faultsOf verdicts = Entries.collect FieldVerdict.fault verdicts := by
  induction verdicts with
  | nil => rfl
  | cons first rest inductionHypothesis =>
      obtain ⟨name, verdict⟩ := first
      cases fault : verdict.fault with
      | some found =>
          rw [Entries.collect_cons_of_some fault, ← inductionHypothesis]
          simp only [faultsOf, fault]
      | none =>
          rw [Entries.collect_cons_of_none fault, ← inductionHypothesis]
          simp only [faultsOf, fault]

theorem faultsOf_validateFields
    (fields : List (String × Field))
    (valueOf : String → Option Json) :
    faultsOf (validateFields fields valueOf) =
      fields.filterMap fun entry =>
        (entry.2.validate (valueOf entry.1)).fault.map fun fault =>
          (entry.1, fault) := by
  rw [faultsOf_eq_collect, validateFields_eq_map, Entries.collect,
    List.filterMap_map]
  rfl

theorem faultsOf_validateFields_eq_nil_iff
    {fields : List (String × Field)}
    {valueOf : String → Option Json} :
    faultsOf (validateFields fields valueOf) = [] ↔
      ∀ entry ∈ fields, (entry.2.validate (valueOf entry.1)).fault = none := by
  simp [faultsOf_validateFields]

/-! ## Faults around others -/

/-- Several faults as one that encloses them; no fault encloses none. -/
def enclosed {α β : Type} (enclose : List α → β) : List α → Option β
  | [] => none
  | first :: rest => some (enclose (first :: rest))

theorem enclosed_eq_some_iff
    {α β : Type}
    {enclose : List α → β}
    {list : List α}
    {whole : β} :
    enclosed enclose list = some whole ↔ list ≠ [] ∧ enclose list = whole := by
  cases list <;> simp [enclosed]

theorem enclosed_eq_none_iff
    {α β : Type}
    {enclose : List α → β}
    {list : List α} :
    enclosed enclose list = none ↔ list = [] := by
  cases list <;> simp [enclosed]

/-- The keys of the results of a search are keys that were searched, in their
order. -/
theorem sublist_keys_filterMap
    {α γ κ : Type}
    (find : γ → Option α)
    (key : γ → κ)
    (list : List γ) :
    ((list.filterMap fun value =>
        (find value).map fun found => (key value, found)).map Prod.fst).Sublist
      (list.map key) := by
  induction list with
  | nil => exact .slnil
  | cons value rest inductionHypothesis =>
      cases found : find value with
      | none =>
          rw [List.filterMap_cons_none (by rw [found]; rfl)]
          exact inductionHypothesis.cons _
      | some result =>
          rw [List.filterMap_cons_some (by rw [found]; rfl)]
          exact inductionHypothesis.cons_cons _

/-- What encloses the results of a search encloses some, with keys that were
searched in their order. -/
theorem exists_keyed_results_of_enclosed
    {α β γ κ : Type}
    {enclose : List (κ × α) → β}
    {list : List γ}
    {find : γ → Option α}
    {key : γ → κ}
    {whole : β}
    (isWhole : whole ∈ enclosed enclose
      (list.filterMap fun value => (find value).map fun found =>
        (key value, found))) :
    ∃ results, results ≠ [] ∧ enclose results = whole ∧
      (results.map Prod.fst).Sublist (list.map key) ∧
      ∀ result ∈ results, ∃ value ∈ list, key value = result.1 ∧
        find value = some result.2 := by
  obtain ⟨nonempty, same⟩ := enclosed_eq_some_iff.1 isWhole
  refine ⟨_, nonempty, same, sublist_keys_filterMap find key list, ?_⟩
  intro result member
  obtain ⟨value, inList, mapped⟩ := List.mem_filterMap.1 member
  obtain ⟨found, isFound, rfl⟩ := Option.map_eq_some_iff.1 mapped
  exact ⟨value, inList, rfl, isFound⟩

/-- The error of a result, if it is one. -/
def errorOf? {ε α : Type} : Except ε α → Option ε
  | .ok _ => none
  | .error error => some error

theorem errorOf?_eq_none_iff
    {ε α : Type}
    {result : Except ε α} :
    errorOf? result = none ↔ ∃ value, result = .ok value := by
  cases result <;> simp [errorOf?]

theorem errorOf?_eq_some_iff
    {ε α : Type}
    {result : Except ε α}
    {error : ε} :
    errorOf? result = some error ↔ result = .error error := by
  cases result <;> simp [errorOf?]

theorem fault_ofResult (result : Except Fault Json) :
    (FieldVerdict.ofResult result).fault = errorOf? result := by
  cases result <;> rfl

theorem parsed_ofResult
    {result : Except Fault Json}
    {value : Json} :
    (FieldVerdict.ofResult result).parsed = some value ↔
      result = .ok value := by
  cases result <;>
    simp [FieldVerdict.ofResult, FieldVerdict.ofValue, FieldVerdict.ofFault]

theorem ofResult_of_fault_eq_none
    {result : Except Fault Json}
    (valid : (FieldVerdict.ofResult result).fault = none) :
    ∃ value, result = .ok value := by
  cases result with
  | ok value => exact ⟨value, rfl⟩
  | error fault => cases valid

theorem isOk_ofResult_eq_true_iff {result : Except Fault Json} :
    (FieldVerdict.ofResult result).isOk = true ↔
      ∃ value, result = .ok value := by
  cases result with
  | ok value => exact ⟨fun _ => ⟨value, rfl⟩, fun _ => rfl⟩
  | error fault => exact ⟨nofun, nofun⟩

theorem isOk_ofResult_eq_false_iff {result : Except Fault Json} :
    (FieldVerdict.ofResult result).isOk = false ↔
      ∃ fault, result = .error fault := by
  cases result with
  | ok value => exact ⟨nofun, nofun⟩
  | error fault => exact ⟨fun _ => ⟨fault, rfl⟩, fun _ => rfl⟩

/-! ## Verdicts on objects -/

theorem faults?_checked
    (parsed : Members)
    (faults : List (String × Fault)) :
    (Verdict.checked parsed faults).faults? =
      enclosed ObjectFaults.mk faults := by
  cases faults <;> rfl

theorem faultAt?_checked
    (parsed : Members)
    (faults : List (String × Fault))
    (name : String) :
    (Verdict.checked parsed faults).faultAt? name =
      Entries.get? name faults := by
  cases faults <;> rfl

theorem errorOf?_toResult (verdict : Verdict) :
    errorOf? verdict.toResult = verdict.faults? := by
  rw [Verdict.toResult]
  split
  next faults found => exact found.symm
  next valid => exact valid.symm

theorem toResult_eq_ok_iff
    {verdict : Verdict}
    {parsed : Members} :
    verdict.toResult = .ok parsed ↔ verdict = .checked parsed [] := by
  constructor
  · intro valid
    cases verdict with
    | aborted name => cases valid
    | checked members faults =>
        cases faults with
        | nil =>
            obtain rfl : members = parsed := Except.ok.inj valid
            rfl
        | cons first rest => cases valid
  · rintro rfl
    rfl

theorem isValid_and_parsed?_iff
    {verdict : Verdict}
    {parsed : Members} :
    verdict.isValid = true ∧ verdict.parsed? = some parsed ↔
      verdict = .checked parsed [] := by
  constructor
  · rintro ⟨valid, kept⟩
    cases verdict with
    | aborted name => cases kept
    | checked members faults =>
        cases kept
        cases faults with
        | nil => rfl
        | cons first rest => cases valid
  · rintro rfl
    exact ⟨rfl, rfl⟩

theorem undeclared?_eq_none_iff
    {fields : List (String × Field)}
    {members : Members} :
    undeclared? fields members = none ↔
      ∀ name ∈ Entries.names members, name ∈ Entries.names fields := by
  simp only [undeclared?, List.find?_eq_none, Bool.not_eq_true',
    Bool.not_eq_false, Entries.has_eq_true_iff]

/-- Which member is undeclared depends on the set of the declared names only. -/
theorem undeclared?_congr
    {left right : List (String × Field)}
    (same : ∀ name, name ∈ Entries.names left ↔ name ∈ Entries.names right)
    (members : Members) :
    undeclared? left members = undeclared? right members := by
  have declared (name : String) :
      Entries.has name left = Entries.has name right := by
    rw [Bool.eq_iff_iff, Entries.has_eq_true_iff, Entries.has_eq_true_iff, same]
  simp only [undeclared?, declared]

/-- The member on which the validation of an object is aborted, if there is
one. -/
def Spec.refused? (spec : Spec) (members : Members) : Option String :=
  if spec.strict then undeclared? spec.fields members else none

/-- The verdicts on the fields of an object. -/
def Spec.fieldVerdicts (spec : Spec) (members : Members) :
    List (String × FieldVerdict) :=
  validateFields spec.fields fun name => Entries.get? name members

/-- The verdicts on the fields for a bare value. -/
def Spec.bareVerdicts (spec : Spec) (value : Json) :
    List (String × FieldVerdict) :=
  validateFields spec.fields fun name =>
    if name = bareField then some value else none

theorem Spec.validate_eq
    (spec : Spec)
    (members : Members) :
    spec.validate members =
      match spec.refused? members with
      | some name => .aborted name
      | none => .ofFields (spec.fieldVerdicts members) := by
  obtain ⟨fields, strict⟩ := spec
  rfl

/-- What is not aborted has a verdict on every declared field. -/
theorem Spec.validate_of_not_aborted
    {spec : Spec}
    {members : Members}
    (notAborted : (spec.validate members).isAborted = false) :
    spec.validate members = .ofFields (spec.fieldVerdicts members) := by
  rw [spec.validate_eq] at notAborted ⊢
  cases refused : spec.refused? members with
  | some name => rw [refused] at notAborted; cases notAborted
  | none => rfl

/-- Nothing is kept under a name that is not declared. -/
theorem Spec.mem_names_of_mem_names_parsed
    {spec : Spec}
    {members parsed : Members}
    {faults : List (String × Fault)}
    {name : String}
    (validated : spec.validate members = .checked parsed faults)
    (kept : name ∈ Entries.names parsed) :
    name ∈ spec.names := by
  have notAborted : (spec.validate members).isAborted = false := by
    rw [validated]
    rfl
  have verdict := Spec.validate_of_not_aborted notAborted
  rw [validated] at verdict
  obtain ⟨rfl, _⟩ := Verdict.checked.inj verdict
  obtain ⟨entry, member, rfl⟩ := List.mem_map.1 kept
  have collected := mem_collect_of_mem_parsedMembers member
  obtain ⟨fieldVerdict, inside, _⟩ := Entries.mem_collect.1 collected
  have named := Entries.mem_names_of_mem inside
  rw [fieldVerdicts, names_validateFields] at named
  exact named

section Declared

variable
  {spec : Spec}
  {members : Members}
  (distinct : spec.names.Nodup)
  (notAborted : (spec.validate members).isAborted = false)
  (name : String)

include distinct notAborted

/-- What is kept under a name is what the declared field keeps of its value. -/
theorem Spec.parsedAt?_validate :
    (spec.validate members).parsedAt? name =
      (spec.get? name).bind fun field =>
        (field.validate (Entries.get? name members)).parsed := by
  have verdictsDistinct : (Entries.names (spec.fieldVerdicts members)).Nodup :=
    nodup_names_validateFields distinct _
  rw [Spec.validate_of_not_aborted notAborted, Verdict.ofFields,
    Verdict.parsedAt?, Verdict.parsed?_checked, Option.bind_some,
    get?_parsedMembers, Entries.get?_collect _ verdictsDistinct, fieldVerdicts,
    get?_validateFields, Option.bind_map]
  rfl

/-- What is at fault under a name is what the declared field finds at fault. -/
theorem Spec.faultAt?_validate :
    (spec.validate members).faultAt? name =
      (spec.get? name).bind fun field =>
        (field.validate (Entries.get? name members)).fault := by
  have verdictsDistinct : (Entries.names (spec.fieldVerdicts members)).Nodup :=
    nodup_names_validateFields distinct _
  rw [Spec.validate_of_not_aborted notAborted, Verdict.ofFields,
    faultAt?_checked, faultsOf_eq_collect,
    Entries.get?_collect _ verdictsDistinct, fieldVerdicts, get?_validateFields,
    Option.bind_map]
  rfl

end Declared

/-- Whether bare values are refused: members that are not declared are, and the
field for bare values is such a member. -/
def Spec.RefusesBare (spec : Spec) : Prop :=
  spec.strict = true ∧ bareField ∉ spec.names

theorem Spec.validateBare_of_refuses
    {spec : Spec}
    (refuses : spec.RefusesBare)
    (value : Json) :
    spec.validateBare value = .error (.single bareField .undeclared) := by
  obtain ⟨fields, strict⟩ := spec
  obtain ⟨isStrict, absent⟩ := refuses
  have undeclared : Entries.has bareField fields = false :=
    Entries.has_eq_false_iff.2 absent
  simp only at isStrict
  simp [Spec.validateBare, isStrict, undeclared]

/-- A bare value that is not refused is validated as the field for bare
values. -/
theorem Spec.validateBare_of_not_refuses
    {spec : Spec}
    (accepts : ¬spec.RefusesBare)
    (value : Json) :
    spec.validateBare value =
      (enclosed ObjectFaults.mk (faultsOf (spec.bareVerdicts value))).elim
        (.ok ((Entries.get? bareField (spec.bareVerdicts value)).bind
          FieldVerdict.parsed))
        .error := by
  obtain ⟨fields, strict⟩ := spec
  have notRefused : (strict && !Entries.has bareField fields) = false := by
    refine Bool.eq_false_iff.2 fun refused => accepts ?_
    rw [Bool.and_eq_true, Bool.not_eq_true',
      Entries.has_eq_false_iff] at refused
    exact refused
  rw [Spec.validateBare, notRefused, if_neg Bool.false_ne_true,
    Spec.bareVerdicts]
  dsimp only
  cases faultsOf (validateFields fields fun name =>
    if name = bareField then some value else none) <;> rfl

theorem Spec.errorOf?_validateBare_of_not_refuses
    {spec : Spec}
    (accepts : ¬spec.RefusesBare)
    (value : Json) :
    errorOf? (spec.validateBare value) =
      enclosed ObjectFaults.mk (faultsOf (spec.bareVerdicts value)) := by
  rw [spec.validateBare_of_not_refuses accepts]
  cases enclosed ObjectFaults.mk (faultsOf (spec.bareVerdicts value)) <;> rfl

/-- A bare value is kept exactly if it is not refused and no field is at
fault. -/
theorem Spec.validateBare_eq_ok_iff
    {spec : Spec}
    {value : Json}
    {kept : Option Json} :
    spec.validateBare value = .ok kept ↔
      ¬spec.RefusesBare ∧ faultsOf (spec.bareVerdicts value) = [] ∧
        (Entries.get? bareField (spec.bareVerdicts value)).bind
            FieldVerdict.parsed =
          kept := by
  by_cases refuses : spec.RefusesBare
  · rw [Spec.validateBare_of_refuses refuses]
    simp [refuses]
  · rw [Spec.validateBare_of_not_refuses refuses]
    cases faultsOf (spec.bareVerdicts value) with
    | nil => simp [enclosed, refuses]
    | cons first rest => simp [enclosed]

/-! ## Results for items and values -/

theorem errorOf?_itemResult_object
    (validate : Members → Verdict)
    (members : Members) :
    errorOf? (itemResult validate (.object members)) =
      (validate members).faults?.map .object := by
  rw [← errorOf?_toResult, itemResult]
  cases (validate members).toResult <;> rfl

theorem errorOf?_entryResult_object
    (validate : Members → Verdict)
    (validateBare : Json → EntryResult)
    (members : Members) :
    errorOf? (entryResult validate validateBare (.object members)) =
      (validate members).faults? := by
  rw [← errorOf?_toResult, entryResult]
  cases (validate members).toResult <;> rfl

/-- The faults among results are their errors, each with its index. -/
theorem itemFaults_eq_filterMap
    (start : Nat)
    (results : List (Except Fault Json)) :
    itemFaults start results =
      (results.zipIdx start).filterMap fun entry =>
        (errorOf? entry.1).map fun fault => (entry.2, fault) := by
  induction results generalizing start with
  | nil => rfl
  | cons result rest inductionHypothesis =>
      have tail := inductionHypothesis (start + 1)
      cases result with
      | ok value => exact tail
      | error fault => exact congrArg (List.cons (start, fault)) tail

theorem mem_itemValues
    {value : Json}
    {results : List (Except Fault Json)} :
    value ∈ itemValues results ↔ .ok value ∈ results := by
  induction results with
  | nil => simp [itemValues]
  | cons result rest inductionHypothesis =>
      cases result with
      | ok first => simp [itemValues, inductionHypothesis]
      | error fault => simp [itemValues, inductionHypothesis]

theorem itemResult_eq_ok_iff
    {validate : Members → Verdict}
    {item kept : Json} :
    itemResult validate item = .ok kept ↔
      ∃ members parsed, item = .object members ∧ kept = .object parsed ∧
        validate members = .checked parsed [] := by
  constructor
  · intro valid
    cases item with
    | object members =>
        rw [itemResult] at valid
        split at valid
        next parsed record =>
            cases valid
            exact ⟨members, parsed, rfl, rfl, toResult_eq_ok_iff.1 record⟩
        next => cases valid
    | _ => cases valid
  · rintro ⟨members, parsed, rfl, rfl, validated⟩
    rw [itemResult, validated]
    rfl

theorem itemFaults_eq_nil_iff
    {start : Nat}
    {results : List (Except Fault Json)} :
    itemFaults start results = [] ↔ results = (itemValues results).map .ok := by
  induction results generalizing start with
  | nil => simp [itemFaults, itemValues]
  | cons result rest inductionHypothesis =>
      cases result with
      | ok value => simp [itemFaults, itemValues, inductionHypothesis]
      | error fault =>
          simp only [itemFaults, itemValues, List.cons_ne_nil, false_iff]
          intro same
          have headOk : (.error fault : Except Fault Json) ∈
              (itemValues rest).map .ok := same ▸ List.mem_cons_self
          obtain ⟨value, _, equal⟩ := List.mem_map.1 headOk
          cases equal

@[simp] theorem itemValues_map_ok (values : List Json) :
    itemValues (values.map .ok) = values := by
  induction values with
  | nil => rfl
  | cons value rest inductionHypothesis =>
      rw [List.map_cons, itemValues, inductionHypothesis]

/-- The items of an array are kept exactly if each of them is valid. -/
theorem validateItems_eq_ok_iff
    {validate : Members → Verdict}
    {items : List Json}
    {kept : Json} :
    validateItems validate (.array items) = .ok kept ↔
      ∃ values, kept = .array values ∧
        items.map (itemResult validate) = values.map .ok := by
  rw [validateItems]
  constructor
  · intro valid
    split at valid
    next faultless =>
        cases valid
        exact ⟨_, rfl, itemFaults_eq_nil_iff.1 faultless⟩
    next => cases valid
  · rintro ⟨values, rfl, valid⟩
    have faultless : itemFaults 0 (values.map .ok) = [] := by
      rw [itemFaults_eq_nil_iff, itemValues_map_ok]
    simp only [valid, faultless, itemValues_map_ok]

/-- The value for one key of a map, if there is one. -/
def EntryResult.value? : EntryResult → Option Json
  | .ok value => value
  | .error _ => none

theorem EntryResult.value?_eq_some_iff
    {result : EntryResult}
    {value : Json} :
    result.value? = some value ↔ result = .ok (some value) := by
  cases result with
  | ok found => exact ⟨congrArg Except.ok, Except.ok.inj⟩
  | error faults => exact ⟨nofun, nofun⟩

/-- An object is kept in a map exactly if it is valid. -/
theorem entryResult_object_eq_ok_iff
    {validate : Members → Verdict}
    {validateBare : Json → EntryResult}
    {members : Members}
    {kept : Json} :
    entryResult validate validateBare (.object members) = .ok (some kept) ↔
      ∃ parsed, kept = .object parsed ∧
        validate members = .checked parsed [] := by
  rw [entryResult]
  constructor
  · intro valid
    cases record : (validate members).toResult with
    | ok parsed =>
        rw [record] at valid
        cases valid
        exact ⟨parsed, rfl, toResult_eq_ok_iff.1 record⟩
    | error faults => rw [record] at valid; cases valid
  · rintro ⟨parsed, rfl, validated⟩
    rw [validated]
    rfl

theorem entryFaults_eq_collect (results : List (String × EntryResult)) :
    entryFaults results = Entries.collect errorOf? results := by
  induction results with
  | nil => rfl
  | cons first rest inductionHypothesis =>
      obtain ⟨key, result⟩ := first
      match result with
      | .error faults =>
          exact congrArg (List.cons (key, faults)) inductionHypothesis
      | .ok value => exact inductionHypothesis

theorem entryValues_eq_collect (results : List (String × EntryResult)) :
    entryValues results = Entries.collect EntryResult.value? results := by
  induction results with
  | nil => rfl
  | cons first rest inductionHypothesis =>
      obtain ⟨key, result⟩ := first
      match result with
      | .ok (some value) =>
          exact congrArg (List.cons (key, value)) inductionHypothesis
      | .ok none => exact inductionHypothesis
      | .error faults => exact inductionHypothesis

/-- The values of a parsed map are those that its values have. -/
theorem mem_entryValues_map
    {result : Json → EntryResult}
    {members : Members}
    {entry : String × Json} :
    entry ∈ entryValues
        (members.map fun member => (member.1, result member.2)) ↔
      ∃ value, (entry.1, value) ∈ members ∧
        result value = .ok (some entry.2) := by
  rw [entryValues_eq_collect, Entries.mem_collect]
  simp only [List.mem_map, Prod.mk.injEq]
  constructor
  · rintro ⟨_, ⟨⟨_, value⟩, member, rfl, rfl⟩, kept⟩
    refine ⟨value, member, ?_⟩
    cases validated : result value with
    | ok found =>
        rw [validated] at kept
        exact congrArg Except.ok kept
    | error faults => rw [validated] at kept; cases kept
  · rintro ⟨value, member, kept⟩
    exact ⟨result value,
      ⟨(entry.1, value), member, rfl, rfl⟩, by rw [kept]; rfl⟩

theorem entryFaults_map
    (result : Json → EntryResult)
    (members : Members) :
    entryFaults (members.map fun member => (member.1, result member.2)) =
      members.filterMap fun member =>
        (errorOf? (result member.2)).map fun faults => (member.1, faults) := by
  rw [entryFaults_eq_collect, Entries.collect, List.filterMap_map]
  rfl

theorem itemFaults_map
    (result : Json → Except Fault Json)
    (items : List Json) :
    itemFaults 0 (items.map result) =
      items.zipIdx.filterMap fun entry =>
        (errorOf? (result entry.1)).map fun fault => (entry.2, fault) := by
  rw [itemFaults_eq_filterMap, List.zipIdx_map, List.filterMap_map]
  rfl

theorem errorOf?_validateItems
    (validate : Members → Verdict)
    (items : List Json) :
    errorOf? (validateItems validate (.array items)) =
      enclosed (fun faults => .sequence ⟨faults⟩)
        (itemFaults 0 (items.map (itemResult validate))) := by
  rw [validateItems]
  cases itemFaults 0 (items.map (itemResult validate)) <;> rfl

theorem fault_validateEntries
    (validate : Members → Verdict)
    (validateBare : Json → EntryResult)
    (members : Members) :
    (validateEntries validate validateBare members).fault =
      enclosed (fun faults => .map ⟨faults⟩)
        (entryFaults (members.map fun member =>
          (member.1, entryResult validate validateBare member.2))) := by
  rw [validateEntries]
  cases entryFaults _ <;> rfl

theorem entryResult_of_bare
    {value : Json}
    (validate : Members → Verdict)
    (validateBare : Json → EntryResult)
    (bare : ∀ members, value ≠ .object members) :
    entryResult validate validateBare value = validateBare value := by
  cases value with
  | object members => exact absurd rfl (bare members)
  | _ => rfl

/-- A map whose values are all kept as they are is kept as it is. -/
theorem validateEntries_eq_ofValue
    {validate : Members → Verdict}
    {validateBare : Json → EntryResult}
    {members : Members}
    (kept : ∀ member ∈ members,
      entryResult validate validateBare member.2 = .ok (some member.2)) :
    validateEntries validate validateBare members =
      .ofValue (.object members) := by
  have results : (members.map fun member =>
      (member.1, entryResult validate validateBare member.2)) =
        members.map fun member => (member.1, .ok (some member.2)) :=
    List.map_congr_left fun member inside => by rw [kept member inside]
  have values :
      entryValues (members.map fun member => (member.1, .ok (some member.2))) =
        members := by
    rw [entryValues_eq_collect, Entries.collect, List.filterMap_map]
    exact List.filterMap_some
  have faults : entryFaults (members.map fun member =>
      (member.1, .ok (some member.2))) = [] := by
    rw [entryFaults_eq_collect, Entries.collect_eq_nil_iff, List.forall_mem_map]
    intro member _
    rfl
  simp only [validateEntries, results, values, faults]
  rfl

/-! ## Leaves -/

/-- What becomes of a checked value that no records replace: its items are
validated if they must follow a spec. -/
def keptResult (validateItem : Option (Members → Verdict)) (found : Json) :
    Except Fault Json :=
  match validateItem with
  | some validate => validateItems validate found
  | none => .ok found

/-- A leaf is checked by its pipeline first, and only what passes is looked up
or kept. -/
theorem validateLeaf_eq
    (pipeline : Pipeline)
    (validateItem : Option (Members → Verdict))
    (value : Json) :
    validateLeaf pipeline validateItem value =
      match pipeline.checked value with
      | .error fault => .error fault
      | .ok found =>
          match pipeline.lookup with
          | some rules => rules.resolve pipeline.delimiter.isSome found
          | none => keptResult validateItem found := by
  rw [validateLeaf]
  cases pipeline.checked value with
  | error fault => rfl
  | ok found => cases pipeline.lookup <;> cases validateItem <;> rfl

/-- A fault in a leaf is one of the value as a whole, or one of the items that
are kept of it. -/
theorem isOfLeaf_or_of_kept_of_validateLeaf
    {pipeline : Pipeline}
    {validateItem : Option (Members → Verdict)}
    {value : Json}
    {fault : Fault}
    (found : fault ∈ errorOf? (validateLeaf pipeline validateItem value)) :
    fault.isOfLeaf = true ∨
      ∃ passed, pipeline.checked value = .ok passed ∧
        fault ∈ errorOf? (keptResult validateItem passed) := by
  rw [validateLeaf_eq] at found
  cases checked : pipeline.checked value with
  | error refused =>
      rw [checked] at found
      cases found
      exact .inl (Pipeline.checked_error checked)
  | ok passed =>
      rw [checked] at found
      cases lookup : pipeline.lookup with
      | none =>
          rw [lookup] at found
          exact .inr ⟨passed, rfl, found⟩
      | some rules =>
          rw [lookup] at found
          cases resolved : rules.resolve pipeline.delimiter.isSome passed with
          | error refused =>
              simp only [resolved] at found
              cases found
              exact .inl (LookupRules.resolve_error resolved)
          | ok records =>
              simp only [resolved] at found
              cases found

theorem Content.validate_leaf
    (pipeline : Pipeline)
    (items : Option Spec)
    (value : Json) :
    (Content.leaf pipeline items).validate value =
      .ofResult (validateLeaf pipeline (items.map Spec.validate) value) := by
  cases items <;> rfl

end ObjectSpec
