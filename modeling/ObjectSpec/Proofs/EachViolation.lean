import ObjectSpec.Proofs.Violations

/-!
# Properties of each violation

Violations are found in place and take one step for each level on the way out.
So a property of located faults that holds in place and is kept by steps
outwards holds of each violation of a value. Undeclared members are found by
specs only, which are left to the one who has the property, and the steps to
fields go by declared names.
-/

namespace ObjectSpec

/-- A property of located faults holds of faults that are found in place, other
than undeclared members, and is kept by steps outwards, where those to fields
need a name with a property. -/
structure LocatedFault.ClosedOutwards
    (named : String → Prop)
    (holds : LocatedFault → Prop) : Prop where
  /-- The property holds in place. -/
  here : ∀ {fault}, fault ≠ .undeclared → holds (.here fault)
  /-- The property is kept by a step outwards. -/
  under : ∀ {located step}, holds located →
    (∀ name, step = .field name → named name) → holds (located.under step)

/-- The violations of a spec by objects and by bare values each have a
property. -/
structure Spec.EachViolation
    (holds : LocatedFault → Prop)
    (spec : Spec) : Prop where
  /-- The violations by an object have the property. -/
  object : ∀ members, ∀ located ∈ spec.violations members, holds located
  /-- The violations by a bare value have the property. -/
  bare : ∀ value, ∀ located ∈ spec.bareViolations value, holds located

section

variable
  {named : String → Prop}
  {holds : LocatedFault → Prop}
  (closed : LocatedFault.ClosedOutwards named holds)

include closed

namespace LocatedFault.ClosedOutwards

theorem forall_here
    {fault : Fault}
    (declared : fault ≠ .undeclared) :
    ∀ located ∈ [LocatedFault.here fault], holds located :=
  List.forall_mem_singleton.2 (closed.here declared)

theorem forall_under
    {violations : List LocatedFault}
    (each : ∀ located ∈ violations, holds located)
    {step : Step}
    (stepNamed : ∀ name, step = .field name → named name) :
    ∀ located ∈ violations.map (.under step), holds located :=
  List.forall_mem_map.2 fun located member =>
    closed.under (each located member) stepNamed

section Inside

variable
  {inside : Members → List LocatedFault}
  (object : ∀ members, ∀ located ∈ inside members, holds located)

include object

theorem forall_objectViolations (value : Json) :
    ∀ located ∈ objectViolations inside value, holds located := by
  cases value with
  | object members => exact object members
  | _ => exact closed.forall_here nofun

theorem forall_sequenceViolations (value : Json) :
    ∀ located ∈ sequenceViolations inside value, holds located := by
  cases value with
  | array items =>
      refine List.forall_mem_flatMap.2 ?_
      intro entry _
      exact closed.forall_under (closed.forall_objectViolations object entry.1)
        nofun
  | _ => exact closed.forall_here nofun

end Inside

theorem forall_leafViolations
    {inside : Json → List LocatedFault}
    (kept : ∀ found, ∀ located ∈ inside found, holds located)
    (pipeline : Pipeline)
    (value : Json) :
    ∀ located ∈ leafViolations pipeline inside value, holds located := by
  rw [leafViolations]
  cases checked : pipeline.checked value with
  | error fault =>
      have ofLeaf := Pipeline.checked_error checked
      exact closed.forall_here (Fault.ne_undeclared_of_isOfLeaf ofLeaf)
  | ok found =>
      cases pipeline.lookup with
      | none => exact kept found
      | some rules =>
          simp only
          cases resolved : rules.resolve pipeline.delimiter.isSome found with
          | error fault =>
              have ofLeaf := LookupRules.resolve_error resolved
              exact closed.forall_here (Fault.ne_undeclared_of_isOfLeaf ofLeaf)
          | ok records => exact List.forall_mem_nil _

end LocatedFault.ClosedOutwards

theorem Content.forall_violations
    {content : Content}
    (inner : content.Inner (Spec.EachViolation holds))
    (value : Json) :
    ∀ located ∈ content.violations value, holds located := by
  cases content with
  | leaf pipeline items =>
      cases items with
      | none =>
          exact closed.forall_leafViolations (fun _ => List.forall_mem_nil _)
            pipeline value
      | some spec =>
          exact closed.forall_leafViolations
            (closed.forall_sequenceViolations inner.object)
            pipeline value
  | object spec => exact closed.forall_objectViolations inner.object value
  | map values =>
      refine closed.forall_objectViolations ?_ value
      intro members
      refine List.forall_mem_flatMap.2 ?_
      rintro ⟨key, entryValue⟩ _
      refine closed.forall_under ?_ nofun
      cases entryValue with
      | object members => exact inner.object members
      | _ => exact inner.bare _

theorem Field.forall_violations
    {field : Field}
    (inner : field.content.Inner (Spec.EachViolation holds))
    (value : Option Json) :
    ∀ located ∈ field.violations value, holds located := by
  obtain ⟨required, notNull, content⟩ := field
  cases value with
  | none =>
      cases required with
      | true => exact closed.forall_here nofun
      | false => exact List.forall_mem_nil _
  | some value =>
      by_cases isNull : value = .null
      · subst isNull
        cases notNull with
        | true => exact closed.forall_here nofun
        | false => exact List.forall_mem_nil _
      · rw [Field.violations_some isNull]
        exact Content.forall_violations closed inner value

/-- The violations of fields with proper names have a property if those of the
specs inside them have it. -/
theorem forall_fieldViolations
    {fields : List (String × Field)}
    (names : ∀ name ∈ Entries.names fields, named name)
    (inner : ∀ entry ∈ fields, entry.2.content.Inner (Spec.EachViolation holds))
    (valueOf : String → Option Json) :
    ∀ located ∈ fieldViolations fields valueOf, holds located := by
  rw [fieldViolations_eq_flatMap]
  refine List.forall_mem_flatMap.2 ?_
  intro entry member
  refine closed.forall_under
    (Field.forall_violations closed (inner entry member) _) ?_
  rintro name ⟨⟩
  exact names entry.1 (Entries.mem_names_of_mem member)

end

end ObjectSpec
