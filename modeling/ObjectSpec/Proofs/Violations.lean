import ObjectSpec.Fault.Located
import ObjectSpec.Proofs.Leaves
import ObjectSpec.Proofs.SpecInduction
import ObjectSpec.Proofs.Verdicts

/-!
# Violations

What is wrong with an object can be listed without building a tree of faults:
the violations of a spec are enumerated place by place, in the order of the
declarations, of the keys of a map and of the items of a sequence. The faults
that a validation finds, located by their paths, are exactly this list, and a
validation without violations finds no fault.
-/

namespace ObjectSpec

/-! ## The enumeration -/

/-- The members of an object that are not declared, in the order of the
object. -/
def undeclaredNames (fields : List (String × Field)) (members : Members) :
    List String :=
  (Entries.names members).filter fun name => name ∉ Entries.names fields

/-- Violations by a value that must be an object, given those by objects. -/
def objectViolations (inside : Members → List LocatedFault) :
    Json → List LocatedFault
  | .object members => inside members
  | other => [.here (.notObject (.value other))]

/-- Violations by a value that must be a sequence of objects, given those by
objects. -/
def sequenceViolations (inside : Members → List LocatedFault) :
    Json → List LocatedFault
  | .array items =>
      items.zipIdx.flatMap fun entry =>
        (objectViolations inside entry.1).map (.under (.index entry.2))
  | other => [.here (.notSequence (.value other))]

/-- Violations by a value of a map, given those by objects and by bare
values. -/
def entryViolations
    (inside : Members → List LocatedFault)
    (insideBare : Json → List LocatedFault) :
    Json → List LocatedFault
  | .object members => inside members
  | bare => insideBare bare

/-- Violations by the value of a leaf, given those by a checked value that no
records replace. A leaf that its pipeline or its lookup refuses has that one
violation. -/
def leafViolations
    (pipeline : Pipeline)
    (inside : Json → List LocatedFault)
    (value : Json) :
    List LocatedFault :=
  match pipeline.checked value with
  | .error fault => [.here fault]
  | .ok found =>
      match pipeline.lookup with
      | some rules =>
          match rules.resolve pipeline.delimiter.isSome found with
          | .error fault => [.here fault]
          | .ok _ => []
      | none => inside found

/-- Violations of presence and of the refusal of `null`, or else those by the
value. -/
def presenceViolations
    (required notNull : Bool)
    (inside : Json → List LocatedFault) :
    Option Json → List LocatedFault
  | none => if required then [.here .missing] else []
  | some .null => if notNull then [.here .null] else []
  | some value => inside value

mutual

/-- The violations of a spec by an object. -/
def Spec.violations : Spec → Members → List LocatedFault
  | ⟨fields, strict⟩, members =>
      match if strict then (undeclaredNames fields members).head? else none with
      | some name => [⟨[.field name], .undeclared⟩]
      | none => fieldViolations fields fun name => Entries.get? name members

/-- The violations of the spec of a map by a bare value: it is the field for
bare values of an object without other members. -/
def Spec.bareViolations : Spec → Json → List LocatedFault
  | ⟨fields, strict⟩, value =>
      if strict ∧ bareField ∉ Entries.names fields then
        [⟨[.field bareField], .undeclared⟩]
      else
        fieldViolations fields fun name =>
          if name = bareField then some value else none

/-- The violations of fields by the values they have. -/
def fieldViolations :
    List (String × Field) → (String → Option Json) → List LocatedFault
  | [], _ => []
  | (name, field) :: rest, valueOf =>
      (field.violations (valueOf name)).map (.under (.field name)) ++
        fieldViolations rest valueOf

/-- The violations of a field by its value, if there is one. -/
def Field.violations : Field → Option Json → List LocatedFault
  | ⟨required, notNull, content⟩, value =>
      presenceViolations required notNull content.violations value

/-- The violations of what a field holds by a value other than `null`. -/
def Content.violations : Content → Json → List LocatedFault
  | .leaf pipeline none, value => leafViolations pipeline (fun _ => []) value
  | .leaf pipeline (some spec), value =>
      leafViolations pipeline (sequenceViolations spec.violations) value
  | .object spec, value => objectViolations spec.violations value
  | .map values, value =>
      objectViolations
        (fun members => members.flatMap fun entry =>
          (entryViolations values.violations values.bareViolations entry.2).map
            (.under (.key entry.1)))
        value

end

/-- The violations of a field by a value other than `null` are those of what it
holds. -/
theorem Field.violations_some
    {required notNull : Bool}
    {content : Content}
    {value : Json}
    (present : value ≠ .null) :
    Field.violations ⟨required, notNull, content⟩ (some value) =
      content.violations value := by
  cases value with
  | null => exact absurd rfl present
  | _ => rfl

theorem fieldViolations_eq_flatMap
    (fields : List (String × Field))
    (valueOf : String → Option Json) :
    fieldViolations fields valueOf =
      fields.flatMap fun entry =>
        (entry.2.violations (valueOf entry.1)).map
          (.under (.field entry.1)) := by
  induction fields with
  | nil => rfl
  | cons entry rest inductionHypothesis =>
      rw [fieldViolations, inductionHypothesis, List.flatMap_cons]

/-! ## Faults that report violations -/

/-- A fault, if there is one, reports exactly some violations, and there is none
only if there are no violations. -/
inductive Reports {α : Type} (located : α → List LocatedFault) :
    Option α → List LocatedFault → Prop
  /-- No fault reports no violations. -/
  | nothing : Reports located none []
  /-- A fault reports what is located inside it. -/
  | fault (found : α) :
      located found ≠ [] → Reports located (some found) (located found)

namespace Reports

variable {α β : Type} {located : α → List LocatedFault}

/-- The violations that a fault reports are what is located inside it. -/
theorem located_eq
    {fault? : Option α}
    {violations : List LocatedFault}
    (reports : Reports located fault? violations) :
    fault?.elim [] located = violations ∧
      (fault? = none ↔ violations = []) := by
  cases reports with
  | nothing => exact ⟨rfl, by simp⟩
  | fault found nonempty => exact ⟨rfl, by simp [nonempty]⟩

/-- What a fault reports is reported with one step before it where the fault is
kept under that step. -/
theorem under
    {fault? : Option α}
    {violations : List LocatedFault}
    (reports : Reports located fault? violations)
    (stepTo : β → Step)
    (place : β) :
    Reports
      (fun entry : β × α => (located entry.2).map (.under (stepTo entry.1)))
      (fault?.map fun fault => (place, fault))
      (violations.map (.under (stepTo place))) := by
  cases reports with
  | nothing => exact .nothing
  | fault found nonempty =>
      exact .fault (place, found) (by simpa using nonempty)

/-- What the faults of several items report is the violations of each in
turn. -/
theorem filterMap
    {items : List β}
    {fault? : β → Option α}
    {violations : β → List LocatedFault}
    (each : ∀ item ∈ items, Reports located (fault? item) (violations item)) :
    (items.filterMap fault?).flatMap located = items.flatMap violations ∧
      (items.filterMap fault? = [] ↔ items.flatMap violations = []) := by
  induction items with
  | nil => simp
  | cons item rest inductionHypothesis =>
      obtain ⟨same, bothEmpty⟩ := inductionHypothesis
        fun other member => each other (List.mem_cons_of_mem _ member)
      have head := each item List.mem_cons_self
      rw [List.flatMap_cons]
      generalize found : fault? item = itemFault at head
      generalize violations item = itemViolations at head
      cases head with
      | nothing =>
          rw [List.filterMap_cons_none found, List.nil_append]
          exact ⟨same, bothEmpty⟩
      | fault fault nonempty =>
          rw [List.filterMap_cons_some found, List.flatMap_cons, same]
          refine ⟨rfl, by simp [nonempty]⟩

/-- A fault around the faults of several items reports the violations of each in
turn. -/
theorem enclosed
    {γ : Type}
    {whole : γ → List LocatedFault}
    {enclose : List α → γ}
    {items : List β}
    {fault? : β → Option α}
    {violations : β → List LocatedFault}
    (parts : ∀ faults, whole (enclose faults) = faults.flatMap located)
    (each : ∀ item ∈ items, Reports located (fault? item) (violations item)) :
    Reports whole (ObjectSpec.enclosed enclose (items.filterMap fault?))
      (items.flatMap violations) := by
  obtain ⟨same, bothEmpty⟩ := filterMap each
  cases faults : items.filterMap fault? with
  | nil =>
      rw [bothEmpty.1 faults]
      exact .nothing
  | cons first rest =>
      rw [← same, ← parts, faults]
      refine .fault _ ?_
      rw [parts, ← faults, same]
      intro empty
      rw [bothEmpty.2 empty] at faults
      cases faults

end Reports

/-! ## Leaves -/

theorem Reports.here
    {fault : Fault}
    (simple : fault.isComposite = false) :
    Reports Fault.located (some fault) [.here fault] := by
  rw [← Fault.located_of_not_composite simple]
  exact .fault fault (by simp [Fault.located_of_not_composite simple])

/-- The faults of an object, taken as the fault of a field, report the same. -/
theorem Reports.object
    {faults? : Option ObjectFaults}
    {violations : List LocatedFault}
    (reports : Reports ObjectFaults.located faults? violations) :
    Reports Fault.located (faults?.map Fault.object) violations := by
  cases reports with
  | nothing => exact .nothing
  | fault faults nonempty => exact .fault (Fault.object faults) nonempty

section Inside

variable
  {validate : Members → Verdict}
  {inside : Members → List LocatedFault}

theorem Reports.itemResult
    (object : ∀ members,
      Reports ObjectFaults.located (validate members).faults? (inside members))
    (item : Json) :
    Reports Fault.located (errorOf? (itemResult validate item))
      (objectViolations inside item) := by
  cases item with
  | object members =>
      rw [errorOf?_itemResult_object]
      exact (object members).object
  | _ => exact .here rfl

theorem Reports.validateItems
    (object : ∀ members,
      Reports ObjectFaults.located (validate members).faults? (inside members))
    (value : Json) :
    Reports Fault.located (errorOf? (validateItems validate value))
      (sequenceViolations inside value) := by
  cases value with
  | array items =>
      rw [errorOf?_validateItems, itemFaults_map]
      refine .enclosed locatedInItems_eq_flatMap ?_
      intro entry _
      exact (Reports.itemResult object entry.1).under Step.index entry.2
  | _ => exact .here rfl

theorem Reports.validateLeaf
    {pipeline : Pipeline}
    {validateItem : Option (Members → Verdict)}
    {insideKept : Json → List LocatedFault}
    (kept : ∀ found,
      Reports Fault.located (errorOf? (keptResult validateItem found))
        (insideKept found))
    (value : Json) :
    Reports Fault.located (errorOf? (validateLeaf pipeline validateItem value))
      (leafViolations pipeline insideKept value) := by
  rw [validateLeaf_eq, leafViolations]
  cases checked : pipeline.checked value with
  | error fault =>
      exact .here (Fault.isComposite_of_isOfLeaf
        (Pipeline.checked_error checked))
  | ok found =>
      cases pipeline.lookup with
      | none => exact kept found
      | some rules =>
          simp only
          cases resolved : rules.resolve pipeline.delimiter.isSome found with
          | error fault =>
              have ofLeaf := LookupRules.resolve_error resolved
              exact .here (Fault.isComposite_of_isOfLeaf ofLeaf)
          | ok value => exact .nothing

theorem Reports.validateEntries
    {validateBare : Json → EntryResult}
    {insideBare : Json → List LocatedFault}
    (object : ∀ members,
      Reports ObjectFaults.located (validate members).faults? (inside members))
    (bare : ∀ value,
      Reports ObjectFaults.located (errorOf? (validateBare value))
        (insideBare value))
    (members : Members) :
    Reports Fault.located (validateEntries validate validateBare members).fault
      (members.flatMap fun entry =>
        (entryViolations inside insideBare entry.2).map
          (.under (.key entry.1))) := by
  rw [fault_validateEntries, entryFaults_map]
  refine .enclosed locatedInKeys_eq_flatMap ?_
  intro entry _
  refine Reports.under ?_ Step.key entry.1
  cases entry.2 with
  | object record =>
      rw [errorOf?_entryResult_object]
      exact object record
  | _ => exact bare _

end Inside

/-! ## Specs -/

/-- The validations of objects and of bare values by a spec report its
violations. -/
structure Spec.Reported (spec : Spec) : Prop where
  object : ∀ members,
    Reports ObjectFaults.located (spec.validate members).faults?
      (spec.violations members)
  bare : ∀ value,
    Reports ObjectFaults.located (errorOf? (spec.validateBare value))
      (spec.bareViolations value)

/-- What a field holds reports its violations if the spec inside it does. -/
theorem Content.reports_validate
    {content : Content}
    (inner : content.Inner Spec.Reported)
    (value : Json) :
    Reports Fault.located (content.validate value).fault
      (content.violations value) := by
  cases content with
  | leaf pipeline items =>
      rw [Content.validate_leaf, fault_ofResult]
      cases items with
      | none => exact .validateLeaf (fun _ => .nothing) value
      | some spec =>
          refine .validateLeaf ?_ value
          intro found
          exact Reports.validateItems inner.object found
  | object spec =>
      cases value with
      | object members => exact (inner.object members).object
      | _ => exact .here rfl
  | map values =>
      cases value with
      | object members => exact .validateEntries inner.object inner.bare members
      | _ => exact .here rfl

theorem Field.reports_validate
    {field : Field}
    (inner : field.content.Inner Spec.Reported)
    (value : Option Json) :
    Reports Fault.located (field.validate value).fault
      (field.violations value) := by
  obtain ⟨required, notNull, content⟩ := field
  cases value with
  | none =>
      cases required with
      | true => exact .here rfl
      | false => exact .nothing
  | some value =>
      cases value with
      | null =>
          cases notNull with
          | true => exact .here rfl
          | false => exact .nothing
      | _ => exact Content.reports_validate inner _

/-- Fields report their violations in the order of their declaration. -/
theorem Reports.validateFields
    {fields : List (String × Field)}
    (inner : ∀ entry ∈ fields, entry.2.content.Inner Spec.Reported)
    (valueOf : String → Option Json) :
    Reports ObjectFaults.located
      (ObjectSpec.enclosed ObjectFaults.mk
        (faultsOf (validateFields fields valueOf)))
      (fieldViolations fields valueOf) := by
  rw [faultsOf_validateFields, fieldViolations_eq_flatMap]
  refine .enclosed locatedInFields_eq_flatMap ?_
  intro entry member
  have field := Field.reports_validate (inner entry member) (valueOf entry.1)
  exact field.under Step.field entry.1

theorem Reports.undeclared (name : String) :
    Reports ObjectFaults.located (some (.single name .undeclared))
      [⟨[.field name], .undeclared⟩] :=
  .fault (ObjectFaults.single name .undeclared) (List.cons_ne_nil _ _)

/-- The refused member is the first of the undeclared ones. -/
theorem undeclared?_eq_head?
    (fields : List (String × Field))
    (members : Members) :
    undeclared? fields members = (undeclaredNames fields members).head? := by
  have same : (fun name => !Entries.has name fields) =
      fun name => decide (name ∉ Entries.names fields) := by
    funext name
    rw [Bool.eq_iff_iff, Bool.not_eq_true', Entries.has_eq_false_iff,
      decide_eq_true_iff]
  rw [undeclared?, undeclaredNames, List.head?_filter, same]

/-- An undeclared member that is refused is the only violation of a spec. -/
theorem Spec.violations_eq
    (spec : Spec)
    (members : Members) :
    spec.violations members =
      (spec.refused? members).elim
        (fieldViolations spec.fields fun name => Entries.get? name members)
        fun name => [⟨[.field name], .undeclared⟩] := by
  obtain ⟨fields, strict⟩ := spec
  rw [Spec.violations, Spec.refused?, undeclared?_eq_head?]
  cases if strict then (undeclaredNames fields members).head? else none <;> rfl

theorem Spec.bareViolations_of_refuses
    {spec : Spec}
    (refuses : spec.RefusesBare)
    (value : Json) :
    spec.bareViolations value = [⟨[.field bareField], .undeclared⟩] := by
  obtain ⟨fields, strict⟩ := spec
  exact if_pos refuses

theorem Spec.bareViolations_of_not_refuses
    {spec : Spec}
    (accepts : ¬spec.RefusesBare)
    (value : Json) :
    spec.bareViolations value =
      fieldViolations spec.fields fun name =>
        if name = bareField then some value else none := by
  obtain ⟨fields, strict⟩ := spec
  exact if_neg accepts

theorem Reports.validate
    {fields : List (String × Field)}
    (inner : ∀ entry ∈ fields, entry.2.content.Inner Spec.Reported)
    (strict : Bool)
    (members : Members) :
    Reports ObjectFaults.located
      (Spec.validate ⟨fields, strict⟩ members).faults?
      (Spec.violations ⟨fields, strict⟩ members) := by
  have declared := validateFields inner fun name => Entries.get? name members
  rw [← faults?_checked (parsedMembers _)] at declared
  rw [Spec.validate_eq, Spec.violations_eq]
  cases Spec.refused? ⟨fields, strict⟩ members with
  | some name => exact .undeclared name
  | none => exact declared

theorem Reports.validateBare
    {fields : List (String × Field)}
    (inner : ∀ entry ∈ fields, entry.2.content.Inner Spec.Reported)
    (strict : Bool)
    (value : Json) :
    Reports ObjectFaults.located
      (errorOf? (Spec.validateBare ⟨fields, strict⟩ value))
      (Spec.bareViolations ⟨fields, strict⟩ value) := by
  by_cases refuses : Spec.RefusesBare ⟨fields, strict⟩
  · rw [Spec.bareViolations_of_refuses refuses,
      Spec.validateBare_of_refuses refuses]
    exact .undeclared bareField
  · rw [Spec.bareViolations_of_not_refuses refuses,
      Spec.errorOf?_validateBare_of_not_refuses refuses]
    exact validateFields inner _

/-- Every spec reports its violations. -/
theorem Spec.reported (spec : Spec) : spec.Reported := by
  induction spec using Spec.inductionOn with
  | step fields strict inner =>
      exact ⟨Reports.validate inner strict, Reports.validateBare inner strict⟩

/-- The faults that a validation finds, located by their paths, are the
violations of the spec one by one, and no fault is found exactly if there are no
violations. The undeclared names from which a strict spec refuses the first are
in increasing order if the members are. -/
theorem located_faults_eq_violations
    (spec : Spec)
    (members : Members) :
    (spec.validate members).faults?.elim [] ObjectFaults.located =
        spec.violations members ∧
      ((spec.validate members).faults? = none ↔ spec.violations members = []) ∧
      (Entries.Sorted members →
        (undeclaredNames spec.fields members).Pairwise (· < ·)) := by
  obtain ⟨located, noneIff⟩ := (spec.reported.object members).located_eq
  exact ⟨located, noneIff, fun sorted => sorted.filter _⟩

end ObjectSpec
