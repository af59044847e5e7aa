import ObjectSpec.Proofs.ByteOrder
import ObjectSpec.Proofs.Violations

/-!
# Aborted validations

A validation is aborted exactly if its spec refuses undeclared members and there
is one, and this can be read off the faults: an undeclared member is the only
fault of the object that has it, there and wherever objects inside are at fault.
The faults that validations find follow a grammar from which all this can be
seen: a declared field is never at fault for being undeclared, so that an abort
inside it stays inside.
-/

namespace ObjectSpec

/-! ## The grammar of faults -/

mutual

/-- The faults that a declared field can have. -/
inductive Fault.OfField : Fault → Prop
  /-- A fault that consists of no others. -/
  | simple {fault : Fault} :
      fault.isComposite = false → fault ≠ .undeclared → Fault.OfField fault
  /-- Faults of the object that the field holds. -/
  | object {faults : ObjectFaults} :
      ObjectFaults.OfObject faults → Fault.OfField (.object faults)
  /-- Faults of some values of the map that the field holds. -/
  | map {faults : List (String × ObjectFaults)} :
      faults ≠ [] →
      (∀ entry ∈ faults, ObjectFaults.OfObject entry.2) →
      Fault.OfField (.map ⟨faults⟩)
  /-- Faults of some items of the sequence that the field holds. -/
  | sequence {faults : List (Nat × Fault)} :
      faults ≠ [] →
      (∀ entry ∈ faults, Fault.OfField entry.2) →
      Fault.OfField (.sequence ⟨faults⟩)

/-- The faults that an object can have. -/
inductive ObjectFaults.OfObject : ObjectFaults → Prop
  /-- An undeclared member. -/
  | undeclared (name : String) :
      ObjectFaults.OfObject (.single name .undeclared)
  /-- Faults of some declared fields. -/
  | fields {faults : List (String × Fault)} :
      faults ≠ [] →
      (∀ entry ∈ faults, Fault.OfField entry.2) →
      ObjectFaults.OfObject ⟨faults⟩

end

theorem Fault.OfField.ne_undeclared
    {fault : Fault}
    (ofField : fault.OfField) :
    fault ≠ .undeclared := by
  cases ofField with
  | simple _ declared => exact declared
  | object _ => exact nofun
  | map _ _ => exact nofun
  | sequence _ _ => exact nofun

theorem ObjectFaults.hasUndeclared_eq_false_of_ofField
    {faults : ObjectFaults}
    (each : ∀ entry ∈ faults.fields, entry.2.OfField) :
    faults.hasUndeclared = false := by
  rw [hasUndeclared, List.any_eq_false]
  intro entry member isUndeclared
  have declared := (each entry member).ne_undeclared
  cases fault : entry.2 with
  | undeclared => exact declared fault
  | _ => rw [fault] at isUndeclared; cases isUndeclared

/-- An undeclared member is the only fault of an object. -/
theorem ObjectFaults.OfObject.eq_single
    {faults : ObjectFaults}
    (ofObject : faults.OfObject)
    (undeclared : faults.hasUndeclared = true) :
    ∃ name, faults = .single name .undeclared := by
  cases ofObject with
  | undeclared name => exact ⟨name, rfl⟩
  | fields _ each =>
      rw [ObjectFaults.hasUndeclared_eq_false_of_ofField each] at undeclared
      cases undeclared

/-! ## Faults inside others -/

/-- A fault encloses faults of an object if no other faults of an object stand
in between. -/
inductive Fault.Encloses (inner : ObjectFaults) : Fault → Prop
  /-- Those of a nested object. -/
  | object : Fault.Encloses inner (.object inner)
  /-- Those of a value of a map. -/
  | map {faults : MapFaults} {key : String} :
      (key, inner) ∈ faults.keys → Fault.Encloses inner (.map faults)
  /-- Those inside the fault of an item of a sequence. -/
  | sequence {faults : SequenceFaults} {entry : Nat × Fault} :
      entry ∈ faults.items →
      Fault.Encloses inner entry.2 →
      Fault.Encloses inner (.sequence faults)

/-- The faults of objects in a tree of faults, at any depth. -/
inductive ObjectFaults.Within (root : ObjectFaults) : ObjectFaults → Prop
  /-- Those of the whole object. -/
  | whole : ObjectFaults.Within root root
  /-- Those that the fault of a field encloses. -/
  | inside {outer inner : ObjectFaults} {entry : String × Fault} :
      ObjectFaults.Within root outer →
      entry ∈ outer.fields →
      Fault.Encloses inner entry.2 →
      ObjectFaults.Within root inner

/-- What the fault of a declared field encloses are faults that an object can
have. -/
theorem Fault.Encloses.ofObject
    {inner : ObjectFaults}
    {fault : Fault}
    (encloses : Fault.Encloses inner fault)
    (ofField : fault.OfField) :
    inner.OfObject := by
  induction encloses with
  | object =>
      cases ofField with
      | simple isSimple _ => cases isSimple
      | object ofObject => exact ofObject
  | map member =>
      cases ofField with
      | simple isSimple _ => cases isSimple
      | map _ each => exact each _ member
  | sequence member _ inductionHypothesis =>
      cases ofField with
      | simple isSimple _ => cases isSimple
      | sequence _ each => exact inductionHypothesis (each _ member)

/-- Nothing is enclosed where an undeclared member is the only fault. -/
theorem Fault.Encloses.not_mem_single
    {inner : ObjectFaults}
    {name : String}
    {entry : String × Fault}
    (encloses : Fault.Encloses inner entry.2) :
    entry ∉ (ObjectFaults.single name .undeclared).fields := by
  intro member
  obtain rfl := List.mem_singleton.1 member
  cases encloses

/-- A field whose fault encloses others is declared, and so are all fields at
fault beside it. -/
theorem ObjectFaults.OfObject.each_ofField
    {faults inner : ObjectFaults}
    {entry : String × Fault}
    (ofObject : faults.OfObject)
    (member : entry ∈ faults.fields)
    (encloses : Fault.Encloses inner entry.2) :
    ∀ other ∈ faults.fields, other.2.OfField := by
  cases ofObject with
  | undeclared name => exact absurd member encloses.not_mem_single
  | fields _ each => exact each

/-- The faults of all objects in a tree are faults that an object can have if
the whole tree is. -/
theorem ObjectFaults.Within.ofObject
    {root inner : ObjectFaults}
    (within : root.Within inner)
    (ofObject : root.OfObject) :
    inner.OfObject := by
  induction within with
  | whole => exact ofObject
  | inside _ member encloses inductionHypothesis =>
      have ofField := inductionHypothesis.each_ofField member encloses _ member
      exact encloses.ofObject ofField

theorem ObjectFaults.Within.eq_single
    {inner : ObjectFaults}
    {name : String}
    (within : (ObjectFaults.single name .undeclared).Within inner) :
    inner = .single name .undeclared := by
  induction within with
  | whole => rfl
  | inside _ member encloses inductionHypothesis =>
      rw [inductionHypothesis] at member
      exact absurd member encloses.not_mem_single

/-! ## Faults that validations find -/

/-- What encloses the results of a search consists of results. -/
theorem exists_results_of_enclosed
    {α β γ κ : Type}
    {enclose : List (κ × α) → β}
    {list : List γ}
    {find : γ → Option α}
    {key : γ → κ}
    {holds : α → Prop}
    {whole : β}
    (each : ∀ value ∈ list, ∀ found ∈ find value, holds found)
    (isWhole : whole ∈ enclosed enclose
      (list.filterMap fun value => (find value).map fun found =>
        (key value, found))) :
    ∃ results, results ≠ [] ∧ (∀ result ∈ results, holds result.2) ∧
      enclose results = whole := by
  obtain ⟨results, nonempty, same, _, origin⟩ :=
    exists_keyed_results_of_enclosed isWhole
  refine ⟨results, nonempty, ?_, same⟩
  intro result member
  obtain ⟨value, inList, _, isFound⟩ := origin result member
  exact each value inList result.2 isFound

section Inside

variable
  {validate : Members → Verdict}
  (object : ∀ members, ∀ faults ∈ (validate members).faults?, faults.OfObject)

include object

theorem ofField_of_itemResult
    (item : Json) :
    ∀ fault ∈ errorOf? (itemResult validate item), fault.OfField := by
  intro fault found
  cases item with
  | object members =>
      rw [errorOf?_itemResult_object] at found
      obtain ⟨faults, isFaults, rfl⟩ := Option.map_eq_some_iff.1 found
      exact .object (object members faults isFaults)
  | _ =>
      cases found
      exact .simple rfl nofun

theorem ofField_of_validateItems
    (value : Json) :
    ∀ fault ∈ errorOf? (validateItems validate value), fault.OfField := by
  intro fault found
  cases value with
  | array items =>
      rw [errorOf?_validateItems, itemFaults_map] at found
      obtain ⟨faults, nonempty, each, rfl⟩ := exists_results_of_enclosed
        (fun entry _ => ofField_of_itemResult object entry.1) found
      exact .sequence nonempty each
  | _ =>
      cases found
      exact .simple rfl nofun

theorem ofField_of_validateEntries
    {validateBare : Json → EntryResult}
    (bare : ∀ value, ∀ faults ∈ errorOf? (validateBare value), faults.OfObject)
    (members : Members) :
    ∀ fault ∈ (validateEntries validate validateBare members).fault,
      fault.OfField := by
  intro fault found
  rw [fault_validateEntries, entryFaults_map] at found
  have each : ∀ member ∈ members,
      ∀ faults ∈ errorOf? (entryResult validate validateBare member.2),
        faults.OfObject := by
    intro member _ faults isFaults
    cases value : member.2 with
    | object record =>
        rw [value, errorOf?_entryResult_object] at isFaults
        exact object record faults isFaults
    | _ =>
        rw [value] at isFaults
        exact bare _ faults isFaults
  obtain ⟨faults, nonempty, ofObjects, rfl⟩ :=
    exists_results_of_enclosed each found
  exact .map nonempty ofObjects

end Inside

theorem ofField_of_validateLeaf
    {pipeline : Pipeline}
    {validateItem : Option (Members → Verdict)}
    (kept : ∀ found, ∀ fault ∈ errorOf? (keptResult validateItem found),
      fault.OfField)
    (value : Json) :
    ∀ fault ∈ errorOf? (validateLeaf pipeline validateItem value),
      fault.OfField := by
  intro fault found
  rcases isOfLeaf_or_of_kept_of_validateLeaf found with
    ofLeaf | ⟨passed, _, inside⟩
  · exact .simple (Fault.isComposite_of_isOfLeaf ofLeaf)
      (Fault.ne_undeclared_of_isOfLeaf ofLeaf)
  · exact kept passed fault inside

/-- The faults that a spec finds are faults that an object can have. -/
structure Spec.FindsOfObject (spec : Spec) : Prop where
  object : ∀ members, ∀ faults ∈ (spec.validate members).faults?,
    faults.OfObject
  bare : ∀ value, ∀ faults ∈ errorOf? (spec.validateBare value), faults.OfObject

theorem Content.ofField_of_validate
    {content : Content}
    (inner : content.Inner Spec.FindsOfObject)
    (value : Json) :
    ∀ fault ∈ (content.validate value).fault, fault.OfField := by
  intro fault found
  cases content with
  | leaf pipeline items =>
      rw [Content.validate_leaf, fault_ofResult] at found
      cases items with
      | none =>
          refine ofField_of_validateLeaf ?_ value fault found
          intro kept refused isRefused
          cases isRefused
      | some spec =>
          refine ofField_of_validateLeaf ?_ value fault found
          intro kept
          exact ofField_of_validateItems inner.object kept
  | object spec =>
      cases value with
      | object members =>
          obtain ⟨faults, isFaults, rfl⟩ := Option.map_eq_some_iff.1 found
          exact .object (inner.object members faults isFaults)
      | _ =>
          cases found
          exact .simple rfl nofun
  | map values =>
      cases value with
      | object members =>
          exact ofField_of_validateEntries inner.object inner.bare members fault
            found
      | _ =>
          cases found
          exact .simple rfl nofun

theorem Field.ofField_of_validate
    {field : Field}
    (inner : field.content.Inner Spec.FindsOfObject)
    (value : Option Json) :
    ∀ fault ∈ (field.validate value).fault, fault.OfField := by
  intro fault found
  rcases Field.fault_cases found with rfl | rfl | ⟨present, _, inside⟩
  · exact .simple rfl nofun
  · exact .simple rfl nofun
  · exact Content.ofField_of_validate inner present fault inside

/-- The faults of validated fields are faults that declared fields can have. -/
theorem ofObject_of_validateFields
    {fields : List (String × Field)}
    (inner : ∀ entry ∈ fields, entry.2.content.Inner Spec.FindsOfObject)
    (valueOf : String → Option Json) :
    ∀ faults ∈ enclosed ObjectFaults.mk
        (faultsOf (validateFields fields valueOf)),
      (∀ entry ∈ faults.fields, entry.2.OfField) ∧ faults.OfObject := by
  intro faults found
  rw [faultsOf_validateFields] at found
  obtain ⟨results, nonempty, each, rfl⟩ := exists_results_of_enclosed
    (fun entry member =>
      Field.ofField_of_validate (inner entry member) (valueOf entry.1))
    found
  exact ⟨each, .fields nonempty each⟩

theorem Spec.findsOfObject (spec : Spec) : spec.FindsOfObject := by
  induction spec using Spec.inductionOn with
  | step fields strict inner =>
      constructor
      · intro members faults found
        rw [Spec.validate_eq] at found
        cases refused : Spec.refused? ⟨fields, strict⟩ members with
        | some name =>
            rw [refused] at found
            cases found
            exact .undeclared name
        | none =>
            rw [refused] at found
            simp only [Verdict.ofFields, faults?_checked] at found
            exact (ofObject_of_validateFields inner _ faults found).2
      · intro value faults found
        by_cases refuses : Spec.RefusesBare ⟨fields, strict⟩
        · rw [Spec.validateBare_of_refuses refuses] at found
          cases found
          exact .undeclared bareField
        · rw [Spec.errorOf?_validateBare_of_not_refuses refuses] at found
          exact (ofObject_of_validateFields inner _ faults found).2

/-! ## Aborts -/

/-- A name is the least undeclared one in an object, in the order of UTF-8
bytes. -/
structure Spec.IsLeastUndeclared
    (spec : Spec)
    (members : Members)
    (name : String) : Prop where
  present : name ∈ Entries.names members
  undeclared : name ∉ spec.names
  before : ∀ other ∈ Entries.names members, other ∉ spec.names → other ≠ name →
    Text.BytesBefore name other

/-- Among sorted members the first undeclared one is the least. -/
theorem Spec.isLeastUndeclared_of_refused?
    {spec : Spec}
    {members : Members}
    {name : String}
    (sorted : Entries.Sorted members)
    (refused : spec.refused? members = some name) :
    spec.IsLeastUndeclared members name := by
  have found : (undeclaredNames spec.fields members).head? = some name := by
    rw [refused?, undeclared?_eq_head?] at refused
    split at refused
    next => exact refused
    next => cases refused
  obtain ⟨others, names⟩ := List.head?_eq_some_iff.1 found
  have inNames {other : String} :
      other ∈ name :: others ↔
        other ∈ Entries.names members ∧ other ∉ spec.names := by
    rw [← names, undeclaredNames, List.mem_filter, decide_eq_true_iff]
    rfl
  have increasing : (undeclaredNames spec.fields members).Pairwise (· < ·) :=
    sorted.filter _
  rw [names, List.pairwise_cons] at increasing
  obtain ⟨present, undeclared⟩ := inNames.1 List.mem_cons_self
  refine ⟨present, undeclared, ?_⟩
  intro other otherPresent otherUndeclared different
  have member := inNames.2 ⟨otherPresent, otherUndeclared⟩
  have behind := (List.mem_cons.1 member).resolve_left different
  exact Text.bytesBefore_iff_lt.2 (increasing.1 other behind)

theorem Spec.isAborted_validate
    (spec : Spec)
    (members : Members) :
    (spec.validate members).isAborted = (spec.refused? members).isSome := by
  rw [Spec.validate_eq]
  cases spec.refused? members <;> rfl

theorem Spec.exists_refused?_of_isAborted
    {spec : Spec}
    {members : Members}
    (aborted : (spec.validate members).isAborted = true) :
    ∃ name, spec.refused? members = some name ∧
      spec.validate members = .aborted name := by
  rw [spec.isAborted_validate] at aborted
  obtain ⟨name, refused⟩ := Option.isSome_iff_exists.1 aborted
  refine ⟨name, refused, ?_⟩
  rw [spec.validate_eq, refused]

theorem Spec.isSome_refused?_iff
    {spec : Spec}
    {members : Members} :
    (spec.refused? members).isSome = true ↔
      spec.strict = true ∧
        ∃ name ∈ Entries.names members, name ∉ spec.names := by
  rw [refused?]
  cases strict : spec.strict with
  | false => simp
  | true =>
      rw [if_pos rfl, ← Option.ne_none_iff_isSome, Ne, undeclared?_eq_none_iff]
      simp [Spec.names]

/-- The faults of an object have an undeclared member among them exactly if the
validation was aborted. -/
theorem Spec.hasUndeclared_eq_isAborted
    {spec : Spec}
    {members : Members}
    {faults : ObjectFaults}
    (found : (spec.validate members).faults? = some faults) :
    faults.hasUndeclared = (spec.validate members).isAborted := by
  rw [Spec.isAborted_validate]
  rw [Spec.validate_eq] at found
  cases refused : spec.refused? members with
  | some name =>
      rw [refused] at found
      cases found
      rfl
  | none =>
      rw [refused] at found
      simp only [Verdict.ofFields, faults?_checked] at found
      have inner :
          ∀ entry ∈ spec.fields, entry.2.content.Inner Spec.FindsOfObject :=
        fun entry _ => entry.2.content.inner_of_forall Spec.findsOfObject
      obtain ⟨each, _⟩ := ofObject_of_validateFields inner _ faults found
      exact ObjectFaults.hasUndeclared_eq_false_of_ofField each

/-- A validation is aborted exactly if the spec refuses undeclared members and
there is one, and exactly if the faults of the object have an undeclared member
among them. The least such member is then the only fault. In the faults of every
object, at any depth, an undeclared member stands alone, and faults of an object
that are enclosed in others abort neither the validation that found those nor
the whole one. -/
theorem aborted_exactly_on_undeclared_member
    (spec : Spec)
    {members : Members}
    (sorted : Entries.Sorted members) :
    ((spec.validate members).isAborted = true ↔
      spec.strict = true ∧ ∃ name ∈ Entries.names members, name ∉ spec.names) ∧
    ((spec.validate members).isAborted = true ↔
      ∃ faults, (spec.validate members).faults? = some faults ∧
        faults.hasUndeclared = true) ∧
    ((spec.validate members).isAborted = true →
      ∃ name,
        (spec.validate members).faults? = some (.single name .undeclared) ∧
        spec.IsLeastUndeclared members name) ∧
    ∀ faults, (spec.validate members).faults? = some faults →
      (∀ inner, faults.Within inner → inner.hasUndeclared = true →
        ∃ name, inner = .single name .undeclared) ∧
      (∀ outer inner entry, faults.Within outer → entry ∈ outer.fields →
        Fault.Encloses inner entry.2 →
        outer.hasUndeclared = false ∧
          (spec.validate members).isAborted = false) := by
  refine ⟨?_, ?_, ?_, ?_⟩
  · rw [spec.isAborted_validate, Spec.isSome_refused?_iff]
  · constructor
    · intro aborted
      obtain ⟨name, _, verdict⟩ := Spec.exists_refused?_of_isAborted aborted
      rw [verdict]
      exact ⟨_, rfl, rfl⟩
    · rintro ⟨faults, found, undeclared⟩
      rw [← Spec.hasUndeclared_eq_isAborted found, undeclared]
  · intro aborted
    obtain ⟨name, refused, verdict⟩ := Spec.exists_refused?_of_isAborted aborted
    refine ⟨name, ?_, Spec.isLeastUndeclared_of_refused? sorted refused⟩
    rw [verdict]
    rfl
  · intro faults found
    have ofObject := spec.findsOfObject.object members faults found
    refine ⟨fun inner within => (within.ofObject ofObject).eq_single, ?_⟩
    intro outer inner entry within member encloses
    have each := (within.ofObject ofObject).each_ofField member encloses
    refine ⟨ObjectFaults.hasUndeclared_eq_false_of_ofField each, ?_⟩
    rw [← Spec.hasUndeclared_eq_isAborted found, Bool.eq_false_iff]
    intro undeclared
    obtain ⟨name, rfl⟩ := ofObject.eq_single undeclared
    rw [within.eq_single] at member
    exact encloses.not_mem_single member

/-- A spec for engines, which must have a name and nothing else. -/
def engineSpec : Spec :=
  .refuseUndeclared (.declare .empty "name" (.leaf .string [.required]))

/-- A spec for trains, which have one engine and cars that are like engines. -/
def trainSpec : Spec :=
  .refuseUndeclared
    (.declare (.declare .empty "engine" (.nested engineSpec)) "cars"
      (.values engineSpec))

/-- A train with a bell and a whistle on its engine and a car that is no
object. -/
def loudTrain : Members :=
  [("cars", .object
      [("first", .object [("name", .bool true)]), ("second", .bool true)]),
    ("engine", .object [("bell", .null), ("whistle", .null)])]

/-- The train with two lights, the second of which has a name that is not
ASCII. -/
def litTrain : Members :=
  loudTrain ++ [("light", .null), ("éclairage", .null)]

/-- What is undeclared inside the train is refused there, without an end to its
validation, while the first of the lights ends it. -/
theorem loudTrain_not_aborted :
    (trainSpec.validate loudTrain).isAborted = false ∧
      (trainSpec.validate loudTrain).faults? =
        some ⟨[("engine", .object (.single "bell" .undeclared)),
          ("cars", .map ⟨[
            ("first", .single "name" (.illTyped (.value (.bool true)) none)),
            ("second", .single bareField .undeclared)]⟩)]⟩ ∧
      (trainSpec.validate litTrain).isAborted = true ∧
      trainSpec.IsLeastUndeclared litTrain "light" := by
  have sorted : Entries.Sorted loudTrain := by
    unfold Entries.Sorted
    decide
  have litSorted : Entries.Sorted litTrain := by
    unfold Entries.Sorted
    decide
  obtain ⟨_, _, _, depths⟩ :=
    aborted_exactly_on_undeclared_member trainSpec sorted
  have notAborted := (depths _ rfl).2 _ (.single "bell" .undeclared) _ .whole
    List.mem_cons_self .object
  obtain ⟨_, _, least, _⟩ :=
    aborted_exactly_on_undeclared_member trainSpec litSorted
  obtain ⟨name, found, isLeast⟩ := least rfl
  cases found
  exact ⟨notAborted.2, rfl, rfl, isLeast⟩

end ObjectSpec
