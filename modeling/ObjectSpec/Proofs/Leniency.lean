import ObjectSpec.Proofs.EachViolation
import ObjectSpec.Proofs.Relaxation

/-!
# Lenient versions of specs

The lenient version of a spec refuses no undeclared members, neither in the
validated object nor in any object inside it, and so it never reports one. Its
verdict is that of the spec exactly where the spec reports none either: refusing
undeclared members keeps nothing else out and changes nothing else in what is
kept or found at fault.
-/

namespace ObjectSpec

/-! ## Lenient versions -/

mutual

/-- The spec that refuses no undeclared members, at any depth. -/
def Spec.lenient : Spec → Spec
  | ⟨fields, _⟩ => ⟨Fields.lenient fields, false⟩

/-- Fields that refuse no undeclared members inside them. -/
def Fields.lenient : List (String × Field) → List (String × Field)
  | [] => []
  | (name, field) :: rest => (name, field.lenient) :: Fields.lenient rest

/-- A field that refuses no undeclared members inside it. -/
def Field.lenient : Field → Field
  | ⟨required, notNull, content⟩ => ⟨required, notNull, content.lenient⟩

/-- What a field holds, with lenient specs inside. -/
def Content.lenient : Content → Content
  | .leaf pipeline none => .leaf pipeline none
  | .leaf pipeline (some spec) => .leaf pipeline (some spec.lenient)
  | .object spec => .object spec.lenient
  | .map values => .map values.lenient

end

/-- The rule that lenient versions drop. -/
def Rule.IsStrict (rule : Rule) : Prop := rule = .strict

mutual

theorem Spec.relaxed_lenient :
    (spec : Spec) → spec.Relaxed Rule.IsStrict spec.lenient
  | ⟨fields, _⟩ => .fields (Fields.relaxed_lenient fields) (.inr ⟨rfl, rfl⟩)

theorem Fields.relaxed_lenient :
    (fields : List (String × Field)) →
      Entrywise (Field.Relaxed Rule.IsStrict) fields (Fields.lenient fields)
  | [] => .nil
  | (name, field) :: rest =>
      .cons name (Field.relaxed_lenient field) (Fields.relaxed_lenient rest)

theorem Field.relaxed_lenient :
    (field : Field) → field.Relaxed Rule.IsStrict field.lenient
  | ⟨_, _, content⟩ =>
      .content (.inl rfl) (.inl rfl) (Content.relaxed_lenient content)

theorem Content.relaxed_lenient :
    (content : Content) → content.Relaxed Rule.IsStrict content.lenient
  | .leaf pipeline none => .leaf (.refl pipeline)
  | .leaf pipeline (some spec) =>
      .items (.refl pipeline) (Spec.relaxed_lenient spec)
  | .object spec => .object (Spec.relaxed_lenient spec)
  | .map values => .map (Spec.relaxed_lenient values)

end

/-! ## Violations of lenient versions -/

theorem Fault.breaksNone_isStrict_iff {fault : Fault} :
    fault.BreaksNone Rule.IsStrict ↔ fault ≠ .undeclared := by
  rw [Ne, ← Fault.brokenRule?_eq_strict_iff]
  constructor
  · intro breaksNone broken
    exact breaksNone .strict broken rfl
  · rintro notStrict rule broken rfl
    exact notStrict broken

/-- Only undeclared members break the rule that lenient versions drop, and steps
outwards change no fault. -/
theorem closedOutwards_breaksNone_isStrict :
    LocatedFault.ClosedOutwards (fun _ => True)
      fun located => located.fault.BreaksNone Rule.IsStrict where
  here := Fault.breaksNone_isStrict_iff.2
  under spared _ := spared

/-- The lenient version of a spec reports no undeclared member. -/
structure Spec.LenientReportsNone (spec : Spec) : Prop where
  object : ∀ members, NoneBroken Rule.IsStrict (spec.lenient.violations members)
  bare : ∀ value, NoneBroken Rule.IsStrict (spec.lenient.bareViolations value)

theorem Content.inner_lenient
    {content : Content}
    (inner : content.Inner Spec.LenientReportsNone) :
    content.lenient.Inner
      (Spec.EachViolation fun located =>
        located.fault.BreaksNone Rule.IsStrict) := by
  cases content with
  | leaf pipeline items =>
      cases items with
      | none => trivial
      | some spec => exact ⟨inner.object, inner.bare⟩
  | object spec => exact ⟨inner.object, inner.bare⟩
  | map values => exact ⟨inner.object, inner.bare⟩

theorem Fields.lenient_eq_map (fields : List (String × Field)) :
    Fields.lenient fields = fields.map fun entry =>
      (entry.1, entry.2.lenient) := by
  induction fields with
  | nil => rfl
  | cons entry rest inductionHypothesis =>
      rw [Fields.lenient, inductionHypothesis, List.map_cons]

theorem Fields.noneBroken_violations_lenient
    {fields : List (String × Field)}
    (inner : ∀ entry ∈ fields, entry.2.content.Inner Spec.LenientReportsNone)
    (valueOf : String → Option Json) :
    NoneBroken Rule.IsStrict
      (fieldViolations (Fields.lenient fields) valueOf) := by
  refine forall_fieldViolations closedOutwards_breaksNone_isStrict
    (fun _ _ => trivial) ?_ valueOf
  rw [Fields.lenient_eq_map]
  refine List.forall_mem_map.2 ?_
  rintro ⟨name, required, notNull, content⟩ member
  exact Content.inner_lenient (inner _ member)

theorem Spec.lenientReportsNone (spec : Spec) : spec.LenientReportsNone := by
  induction spec using Spec.inductionOn with
  | step fields strict inner =>
      constructor
      · intro members
        rw [Spec.lenient, Spec.violations_eq]
        exact Fields.noneBroken_violations_lenient inner _
      · intro value
        have accepts : ¬Spec.RefusesBare (Spec.lenient ⟨fields, strict⟩) := by
          rintro ⟨isStrict, _⟩
          cases isStrict
        rw [Spec.bareViolations_of_not_refuses accepts]
        exact Fields.noneBroken_violations_lenient inner _

/-! ## Verdicts of lenient versions -/

/-- A spec and its lenient version come to the same verdict on an object exactly
if the spec finds no undeclared member at fault, wherever in the object. -/
theorem lenient_verdict_same_iff
    (spec : Spec)
    (members : Members) :
    spec.lenient.validate members = spec.validate members ↔
      ∀ located ∈ (spec.validate members).faults?.elim [] ObjectFaults.located,
        located.fault ≠ .undeclared := by
  simp only [← Fault.breaksNone_isStrict_iff]
  change _ ↔ NoneBroken Rule.IsStrict _
  constructor
  · intro same
    obtain ⟨located, _⟩ := (spec.lenient.reported.object members).located_eq
    rw [← same, located]
    exact spec.lenientReportsNone.object members
  · intro spared
    obtain ⟨located, _⟩ := (spec.reported.object members).located_eq
    rw [located] at spared
    exact spec.relaxed_lenient.validate_eq spared

end ObjectSpec
