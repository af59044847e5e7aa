import ObjectSpec.Proofs.Entries
import ObjectSpec.Spec.LeafDraft

/-!
# Induction on specs

A property of specs is proved by passing from the specs inside the fields of a
spec to the spec itself. For the specs that come from building, the declared
names may be taken to be distinct at every step: `Spec.Built` describes what
building can reach, and all of it is well formed.
-/

namespace ObjectSpec

/-- A property of the spec inside what a field holds, if there is one. -/
def Content.Inner (holds : Spec → Prop) : Content → Prop
  | .leaf _ none => True
  | .leaf _ (some spec) => holds spec
  | .object spec => holds spec
  | .map values => holds values

/-- A property of all specs is one of the inner spec. -/
theorem Content.inner_of_forall
    {holds : Spec → Prop}
    (everySpec : ∀ spec, holds spec)
    (content : Content) :
    content.Inner holds := by
  cases content with
  | leaf pipeline items =>
      cases items with
      | none => trivial
      | some spec => exact everySpec spec
  | object spec => exact everySpec spec
  | map values => exact everySpec values

/-- A property that implies another is that other one where it holds of the
inner spec. -/
theorem Content.Inner.mp
    {left right : Spec → Prop}
    {content : Content}
    (implication : content.Inner fun spec => left spec → right spec)
    (premise : content.Inner left) :
    content.Inner right := by
  cases content with
  | leaf pipeline items =>
      cases items with
      | none => trivial
      | some spec => exact implication premise
  | object spec => exact implication premise
  | map values => exact implication premise

section

variable {motive : Spec → Prop}

mutual

/-- A property holds of every spec if it passes from the specs inside the fields
of a spec to the spec. -/
theorem Spec.inductionOn
    (step : ∀ fields strict,
      (∀ entry ∈ fields, entry.2.content.Inner motive) →
        motive ⟨fields, strict⟩) :
    ∀ spec, motive spec
  | ⟨fields, strict⟩ => step fields strict (Fields.inductionOn step fields)

theorem Fields.inductionOn
    (step : ∀ fields strict,
      (∀ entry ∈ fields, entry.2.content.Inner motive) →
        motive ⟨fields, strict⟩) :
    ∀ fields : List (String × Field),
      ∀ entry ∈ fields, entry.2.content.Inner motive
  | [] => fun _ member => absurd member List.not_mem_nil
  | (_, ⟨_, _, content⟩) :: rest => fun entry member =>
      match List.mem_cons.1 member with
      | .inl same => same ▸ Content.inductionOn step content
      | .inr inside => Fields.inductionOn step rest entry inside

theorem Content.inductionOn
    (step : ∀ fields strict,
      (∀ entry ∈ fields, entry.2.content.Inner motive) →
        motive ⟨fields, strict⟩) :
    ∀ content : Content, content.Inner motive
  | .leaf _ none => trivial
  | .leaf _ (some spec) => Spec.inductionOn step spec
  | .object spec => Spec.inductionOn step spec
  | .map values => Spec.inductionOn step values

end

end

theorem Content.wellFormed_iff {content : Content} :
    content.WellFormed ↔ content.Inner Spec.WellFormed := by
  cases content with
  | leaf pipeline items => cases items <;> exact Iff.rfl
  | object spec => exact Iff.rfl
  | map values => exact Iff.rfl

theorem Fields.wellFormed_iff {fields : List (String × Field)} :
    Fields.WellFormed fields ↔
      ∀ entry ∈ fields, entry.2.content.Inner Spec.WellFormed := by
  induction fields with
  | nil => simp [Fields.WellFormed]
  | cons entry rest inductionHypothesis =>
      obtain ⟨name, required, notNull, content⟩ := entry
      rw [Fields.WellFormed, Field.WellFormed, Content.wellFormed_iff,
        inductionHypothesis, List.forall_mem_cons]

/-- A spec is well formed if its names are distinct and the specs inside its
fields are well formed. -/
theorem Spec.wellFormed_iff
    {fields : List (String × Field)}
    {strict : Bool} :
    Spec.WellFormed ⟨fields, strict⟩ ↔
      (Entries.names fields).Nodup ∧
        ∀ entry ∈ fields, entry.2.content.Inner Spec.WellFormed := by
  rw [Spec.WellFormed, Fields.wellFormed_iff]

theorem Spec.WellFormed.names_nodup
    {spec : Spec}
    (wellFormed : spec.WellFormed) :
    spec.names.Nodup := by
  obtain ⟨fields, strict⟩ := spec
  exact (Spec.wellFormed_iff.1 wellFormed).1

/-- A property holds of every well-formed spec if it passes from the specs
inside the fields of a spec with distinct names to the spec. -/
theorem Spec.WellFormed.inductionOn
    {motive : Spec → Prop}
    {spec : Spec}
    (wellFormed : spec.WellFormed)
    (step : ∀ fields strict,
      (Entries.names fields).Nodup →
      (∀ entry ∈ fields, entry.2.content.Inner motive) →
        motive ⟨fields, strict⟩) :
    motive spec := by
  induction spec using Spec.inductionOn with
  | step fields strict inductionHypothesis =>
      obtain ⟨distinct, inside⟩ := Spec.wellFormed_iff.1 wellFormed
      refine step fields strict distinct ?_
      intro entry member
      have implication := inductionHypothesis entry member
      have premise := inside entry member
      exact implication.mp premise

/-! ## Properties of every field -/

section

variable (holds : Field → Prop)

mutual

/-- Every field of a spec, at any depth, has a property. -/
def Spec.Everywhere : Spec → Prop
  | ⟨fields, _⟩ => Fields.Everywhere fields

/-- Every one of several fields, and every field inside them, has a property. -/
def Fields.Everywhere : List (String × Field) → Prop
  | [] => True
  | (_, field) :: rest => field.Everywhere ∧ Fields.Everywhere rest

/-- A field and every field inside it has a property. -/
def Field.Everywhere : Field → Prop
  | ⟨required, notNull, content⟩ =>
      holds ⟨required, notNull, content⟩ ∧ content.Everywhere

/-- Every field of the spec inside has a property, if there is one. -/
def Content.Everywhere : Content → Prop
  | .leaf _ none => True
  | .leaf _ (some spec) => spec.Everywhere
  | .object spec => spec.Everywhere
  | .map values => values.Everywhere

end

end

theorem Content.everywhere_iff
    {holds : Field → Prop}
    {content : Content} :
    content.Everywhere holds ↔ content.Inner (Spec.Everywhere holds) := by
  cases content with
  | leaf pipeline items => cases items <;> exact Iff.rfl
  | object spec => exact Iff.rfl
  | map values => exact Iff.rfl

/-- A property holds everywhere in a spec if it holds of its fields and
everywhere in the specs inside them. -/
theorem Spec.everywhere_iff
    {holds : Field → Prop}
    {fields : List (String × Field)}
    {strict : Bool} :
    Spec.Everywhere holds ⟨fields, strict⟩ ↔
      ∀ entry ∈ fields,
        holds entry.2 ∧ entry.2.content.Inner (Spec.Everywhere holds) := by
  rw [Spec.Everywhere]
  induction fields with
  | nil => simp [Fields.Everywhere]
  | cons entry rest inductionHypothesis =>
      obtain ⟨name, required, notNull, content⟩ := entry
      rw [Fields.Everywhere, Field.Everywhere, Content.everywhere_iff,
        inductionHypothesis, List.forall_mem_cons]

/-! ## Specs that building reaches -/

mutual

/-- The specs that building reaches. -/
inductive Spec.Built : Spec → Prop
  /-- The spec that declares nothing. -/
  | empty : Spec.Built .empty
  /-- A spec with one more declaration. -/
  | declare {spec : Spec} {field : Field} (name : String) :
      Spec.Built spec → Field.Built field → Spec.Built (spec.declare name field)
  /-- A spec that refuses undeclared members. -/
  | refuseUndeclared {spec : Spec} :
      Spec.Built spec → Spec.Built spec.refuseUndeclared

/-- The fields that building reaches. -/
inductive Field.Built : Field → Prop
  /-- A leaf with modifiers. -/
  | leaf (predicate : Predicate) {modifiers : List Modifier} :
      (∀ spec, .items spec ∈ modifiers → Spec.Built spec) →
      Field.Built (.leaf predicate modifiers)
  /-- An object that follows a spec. -/
  | nested {spec : Spec} : Spec.Built spec → Field.Built (.nested spec)
  /-- An object each of whose values follows a spec. -/
  | values {spec : Spec} : Spec.Built spec → Field.Built (.values spec)
  /-- A field as a required one. -/
  | require {field : Field} : Field.Built field → Field.Built field.require
  /-- A field without `null`. -/
  | refuseNull {field : Field} :
      Field.Built field → Field.Built field.refuseNull

end

/-- The spec of the items of a drafted leaf comes from one of its modifiers. -/
theorem LeafDraft.mem_of_items_modifyAll
    {draft : LeafDraft}
    {modifiers : List Modifier}
    {spec : Spec}
    (drafted : (draft.modifyAll modifiers).items = some spec) :
    draft.items = some spec ∨ .items spec ∈ modifiers := by
  induction modifiers generalizing draft with
  | nil => exact Or.inl drafted
  | cons modifier rest inductionHypothesis =>
      rcases inductionHypothesis drafted with before | inside
      · cases modifier with
        | items other =>
            obtain rfl : other = spec := Option.some.inj before
            exact Or.inr List.mem_cons_self
        | _ => exact Or.inl before
      · exact Or.inr (List.mem_cons_of_mem _ inside)

theorem Field.wellFormed_leaf
    {predicate : Predicate}
    {modifiers : List Modifier}
    (items : ∀ spec, .items spec ∈ modifiers → spec.WellFormed) :
    (Field.leaf predicate modifiers).WellFormed := by
  generalize drafted :
    ((LeafDraft.ofPredicate predicate).modifyAll modifiers).items = found
  rw [Field.leaf, LeafDraft.toField, drafted]
  cases found with
  | none => trivial
  | some spec =>
      rcases LeafDraft.mem_of_items_modifyAll drafted with before | member
      · cases before
      · exact items spec member

/-- A declaration keeps a spec well formed. -/
theorem Spec.WellFormed.declare
    {spec : Spec}
    {field : Field}
    (wellFormed : spec.WellFormed)
    (fieldWellFormed : field.WellFormed)
    (name : String) :
    (spec.declare name field).WellFormed := by
  obtain ⟨fields, strict⟩ := spec
  obtain ⟨required, notNull, content⟩ := field
  rw [Spec.wellFormed_iff] at wellFormed
  obtain ⟨distinct, inside⟩ := wellFormed
  refine Spec.wellFormed_iff.2 ⟨Entries.nodup_names_assign name _ distinct, ?_⟩
  intro entry member
  rcases Entries.mem_assign member with assigned | kept
  · subst assigned
    exact Content.wellFormed_iff.1 fieldWellFormed
  · exact inside entry kept

theorem Spec.WellFormed.refuseUndeclared
    {spec : Spec}
    (wellFormed : spec.WellFormed) :
    spec.refuseUndeclared.WellFormed := by
  obtain ⟨fields, strict⟩ := spec
  exact wellFormed

theorem Field.WellFormed.require
    {field : Field}
    (wellFormed : field.WellFormed) :
    field.require.WellFormed := by
  obtain ⟨required, notNull, content⟩ := field
  exact wellFormed

theorem Field.WellFormed.refuseNull
    {field : Field}
    (wellFormed : field.WellFormed) :
    field.refuseNull.WellFormed := by
  obtain ⟨required, notNull, content⟩ := field
  exact wellFormed

mutual

/-- What building reaches is well formed. -/
theorem Spec.Built.wellFormed : {spec : Spec} → spec.Built → spec.WellFormed
  | _, .empty => ⟨List.nodup_nil, trivial⟩
  | _, .declare name spec field => spec.wellFormed.declare field.wellFormed name
  | _, .refuseUndeclared spec => spec.wellFormed.refuseUndeclared

theorem Field.Built.wellFormed :
    {field : Field} → field.Built → field.WellFormed
  | _, .leaf _ items => Field.wellFormed_leaf fun spec member =>
      (items spec member).wellFormed
  | _, .nested spec => spec.wellFormed
  | _, .values spec => spec.wellFormed
  | _, .require field => field.wellFormed.require
  | _, .refuseNull field => field.wellFormed.refuseNull

end

end ObjectSpec
