import ObjectSpec.Fault.Located

/-!
# Trees of faults

A composite fault is a node of a tree. Its branches are the faults directly
inside it, each under the step that leads to it: a field, a key or an index.
Objects, maps and sequences differ in the kind of their steps only, so what is
listed, worded or compared along a tree is treated for the three of them at
once.

A tree in which no composite fault is empty has located faults. If in addition
no two branches of a node share their step, the paths to them are distinct, and
none leads through the place of another.
-/

namespace ObjectSpec

/-! ## Branches -/

namespace Fault

/-- The faults directly inside a fault, each with the step that leads to it. -/
def branches : Fault → List (Step × Fault)
  | .object faults => faults.fields.map fun entry => (.field entry.1, entry.2)
  | .map faults => faults.keys.map fun entry => (.key entry.1, .object entry.2)
  | .sequence faults => faults.items.map fun entry => (.index entry.1, entry.2)
  | _ => []

/-- The steps to the faults directly inside a fault. -/
def steps (fault : Fault) : List Step :=
  fault.branches.map Prod.fst

@[simp] theorem steps_object (fields : List (String × Fault)) :
    (Fault.object ⟨fields⟩).steps = (Entries.names fields).map .field := by
  simp [steps, branches, Entries.names]

@[simp] theorem steps_map (keys : List (String × ObjectFaults)) :
    (Fault.map ⟨keys⟩).steps = (Entries.names keys).map .key := by
  simp [steps, branches, Entries.names]

@[simp] theorem steps_sequence (items : List (Nat × Fault)) :
    (Fault.sequence ⟨items⟩).steps = (items.map Prod.fst).map .index := by
  simp [steps, branches]

/-- Only a composite fault has others inside it. -/
theorem branches_of_not_composite
    {fault : Fault}
    (simple : fault.isComposite = false) :
    fault.branches = [] := by
  cases fault with
  | sequence faults => cases simple
  | object faults => cases simple
  | map faults => cases simple
  | _ => rfl

/-- The located faults of a composite fault are those of each branch in turn,
seen from further out. -/
theorem located_of_composite
    {fault : Fault}
    (composite : fault.isComposite = true) :
    fault.located =
      fault.branches.flatMap fun branch =>
        branch.2.located.map (LocatedFault.under branch.1) := by
  cases fault with
  | sequence faults =>
      obtain ⟨items⟩ := faults
      rw [branches, List.flatMap_map]
      exact locatedInItems_eq_flatMap items
  | object faults =>
      obtain ⟨fields⟩ := faults
      rw [branches, List.flatMap_map]
      exact locatedInFields_eq_flatMap fields
  | map faults =>
      obtain ⟨keys⟩ := faults
      rw [branches, List.flatMap_map]
      exact locatedInKeys_eq_flatMap keys
  | _ => cases composite

end Fault

/-! ## Induction on trees -/

section

variable {motive : Fault → Prop}

mutual

/-- A property holds of every fault if it passes from the faults directly inside
a fault to the fault. -/
theorem Fault.inductionOn
    (step : ∀ fault, (∀ branch ∈ fault.branches, motive branch.2) →
      motive fault) :
    ∀ fault, motive fault
  | .sequence ⟨items⟩ =>
      step (.sequence ⟨items⟩)
        (List.forall_mem_map.2 (itemsInductionOn step items))
  | .object faults => ObjectFaults.inductionOn step faults
  | .map ⟨keys⟩ =>
      step (.map ⟨keys⟩) (List.forall_mem_map.2 (keysInductionOn step keys))
  | .missing => step .missing nofun
  | .null => step .null nofun
  | .illTyped offender index => step (.illTyped offender index) nofun
  | .notSequence offender => step (.notSequence offender) nofun
  | .notObject offender => step (.notObject offender) nofun
  | .recordsMissing expected actual =>
      step (.recordsMissing expected actual) nofun
  | .lookup error => step (.lookup error) nofun
  | .undeclared => step .undeclared nofun

theorem ObjectFaults.inductionOn
    (step : ∀ fault, (∀ branch ∈ fault.branches, motive branch.2) →
      motive fault) :
    ∀ faults : ObjectFaults, motive (.object faults)
  | ⟨fields⟩ =>
      step (.object ⟨fields⟩)
        (List.forall_mem_map.2 (fieldsInductionOn step fields))

theorem fieldsInductionOn
    (step : ∀ fault, (∀ branch ∈ fault.branches, motive branch.2) →
      motive fault) :
    ∀ fields : List (String × Fault), ∀ entry ∈ fields, motive entry.2
  | [] => nofun
  | (_, fault) :: rest =>
      List.forall_mem_cons.2
        ⟨Fault.inductionOn step fault, fieldsInductionOn step rest⟩

theorem keysInductionOn
    (step : ∀ fault, (∀ branch ∈ fault.branches, motive branch.2) →
      motive fault) :
    ∀ keys : List (String × ObjectFaults), ∀ entry ∈ keys,
      motive (.object entry.2)
  | [] => nofun
  | (_, faults) :: rest =>
      List.forall_mem_cons.2
        ⟨ObjectFaults.inductionOn step faults, keysInductionOn step rest⟩

theorem itemsInductionOn
    (step : ∀ fault, (∀ branch ∈ fault.branches, motive branch.2) →
      motive fault) :
    ∀ items : List (Nat × Fault), ∀ entry ∈ items, motive entry.2
  | [] => nofun
  | (_, fault) :: rest =>
      List.forall_mem_cons.2
        ⟨Fault.inductionOn step fault, itemsInductionOn step rest⟩

end

end

/-! ## Conditions at every node -/

/-- At every composite fault in a tree the steps to the faults directly inside
it satisfy a condition. -/
inductive Fault.Everywhere (holds : List Step → Prop) : Fault → Prop
  /-- A fault that consists of no others. -/
  | simple {fault : Fault} :
      fault.isComposite = false → Fault.Everywhere holds fault
  /-- A composite fault. -/
  | composite {fault : Fault} :
      fault.isComposite = true →
      holds fault.steps →
      (∀ branch ∈ fault.branches, Fault.Everywhere holds branch.2) →
      Fault.Everywhere holds fault

/-- No composite fault in a tree is empty. -/
def Fault.Filled : Fault → Prop :=
  Fault.Everywhere (· ≠ [])

/-- In no composite fault of a tree do two faults share their field, key or
index. -/
def Fault.Distinct : Fault → Prop :=
  Fault.Everywhere List.Nodup

/-- The condition holds at a composite fault and everywhere inside it. -/
theorem Fault.Everywhere.of_composite
    {holds : List Step → Prop}
    {fault : Fault}
    (everywhere : fault.Everywhere holds)
    (composite : fault.isComposite = true) :
    holds fault.steps ∧
      ∀ branch ∈ fault.branches, branch.2.Everywhere holds := by
  cases everywhere with
  | simple simple => rw [simple] at composite; cases composite
  | composite _ here inside => exact ⟨here, inside⟩

/-- A tree of faults in which no composite fault is empty or repeats a step. -/
structure Fault.Proper (fault : Fault) : Prop where
  filled : fault.Filled
  distinct : fault.Distinct

namespace Fault.Proper

theorem simple
    {fault : Fault}
    (simple : fault.isComposite = false) :
    fault.Proper :=
  ⟨.simple simple, .simple simple⟩

theorem composite
    {fault : Fault}
    (composite : fault.isComposite = true)
    (nonempty : fault.steps ≠ [])
    (distinct : fault.steps.Nodup)
    (inside : ∀ branch ∈ fault.branches, branch.2.Proper) :
    fault.Proper where
  filled :=
    .composite composite nonempty fun branch member =>
      (inside branch member).filled
  distinct := .composite composite distinct fun branch member =>
    (inside branch member).distinct

/-- A proper composite fault has branches, which have steps of their own and are
proper. -/
theorem of_composite
    {fault : Fault}
    (proper : fault.Proper)
    (composite : fault.isComposite = true) :
    fault.branches ≠ [] ∧ (fault.branches.map Prod.fst).Nodup ∧
      ∀ branch ∈ fault.branches, branch.2.Proper := by
  obtain ⟨nonempty, filled⟩ := proper.filled.of_composite composite
  obtain ⟨nodup, distinct⟩ := proper.distinct.of_composite composite
  refine ⟨mt List.map_eq_nil_iff.2 nonempty, nodup, ?_⟩
  intro branch member
  exact ⟨filled branch member, distinct branch member⟩

theorem object
    {fields : List (String × Fault)}
    (nonempty : fields ≠ [])
    (distinct : (Entries.names fields).Nodup)
    (inside : ∀ entry ∈ fields, entry.2.Proper) :
    (Fault.object ⟨fields⟩).Proper := by
  apply composite rfl
  · simpa [Entries.names] using nonempty
  · rw [steps_object]
    apply List.Pairwise.map Step.field _ distinct
    intro _ _ different same
    exact different (Step.field.inj same)
  · exact List.forall_mem_map.2 inside

theorem single
    {fault : Fault}
    (field : String)
    (inside : fault.Proper) :
    (Fault.object (.single field fault)).Proper := by
  apply object
  · exact List.cons_ne_nil _ _
  · exact List.pairwise_singleton _ _
  · exact List.forall_mem_singleton.2 inside

theorem map
    {keys : List (String × ObjectFaults)}
    (nonempty : keys ≠ [])
    (distinct : (Entries.names keys).Nodup)
    (inside : ∀ entry ∈ keys, (Fault.object entry.2).Proper) :
    (Fault.map ⟨keys⟩).Proper := by
  apply composite rfl
  · simpa [Entries.names] using nonempty
  · rw [steps_map]
    apply List.Pairwise.map Step.key _ distinct
    intro _ _ different same
    exact different (Step.key.inj same)
  · exact List.forall_mem_map.2 inside

theorem sequence
    {items : List (Nat × Fault)}
    (nonempty : items ≠ [])
    (distinct : (items.map Prod.fst).Nodup)
    (inside : ∀ entry ∈ items, entry.2.Proper) :
    (Fault.sequence ⟨items⟩).Proper := by
  apply composite rfl
  · simpa using nonempty
  · rw [steps_sequence]
    apply List.Pairwise.map Step.index _ distinct
    intro _ _ different same
    exact different (Step.index.inj same)
  · exact List.forall_mem_map.2 inside

end Fault.Proper

/-- The faults of a team without a name, one of whose members has a number for a
phone. -/
def teamFaults : ObjectFaults :=
  ⟨[("team", .object (.single "members" (.map ⟨[
      ("ann", .single "phones"
        (.sequence ⟨[(3, .notObject (.value (.int 7)))]⟩))]⟩))),
    ("name", .missing)]⟩

theorem teamFaults_proper : (Fault.object teamFaults).Proper := by
  have phones :
      (Fault.sequence ⟨[(3, .notObject (.value (.int 7)))]⟩).Proper := by
    apply Fault.Proper.sequence
    · exact List.cons_ne_nil _ _
    · exact List.pairwise_singleton _ _
    · exact List.forall_mem_singleton.2 (.simple rfl)
  have members : (Fault.map ⟨[("ann", .single "phones" (.sequence
      ⟨[(3, .notObject (.value (.int 7)))]⟩))]⟩).Proper := by
    apply Fault.Proper.map
    · exact List.cons_ne_nil _ _
    · exact List.pairwise_singleton _ _
    · exact List.forall_mem_singleton.2 (.single "phones" phones)
  apply Fault.Proper.object
  · exact List.cons_ne_nil _ _
  · decide
  · exact List.forall_mem_cons.2
      ⟨.single "members" members, List.forall_mem_singleton.2 (.simple rfl)⟩

/-! ## Located faults -/

/-- Every tree without empty composite faults has located faults. -/
theorem Fault.Filled.located_ne_nil
    {fault : Fault}
    (filled : fault.Filled) :
    fault.located ≠ [] := by
  induction filled with
  | simple simple => simp [Fault.located_of_not_composite simple]
  | composite composite nonempty _ inductionHypothesis =>
      rw [Fault.located_of_composite composite]
      intro empty
      rw [Fault.steps, Ne, List.map_eq_nil_iff] at nonempty
      obtain ⟨branch, member⟩ := List.exists_mem_of_ne_nil _ nonempty
      have noneInside := List.flatMap_eq_nil_iff.1 empty branch member
      exact inductionHypothesis branch member (List.map_eq_nil_iff.1 noneInside)

/-- The path to a fault in an object begins with a field. -/
theorem ObjectFaults.exists_path_eq_of_mem_located
    {faults : ObjectFaults}
    {located : LocatedFault}
    (member : located ∈ faults.located) :
    ∃ name rest, located.path = .field name :: rest := by
  obtain ⟨fields⟩ := faults
  rw [ObjectFaults.located, locatedInFields_eq_flatMap] at member
  obtain ⟨entry, _, inField⟩ := List.mem_flatMap.1 member
  obtain ⟨inside, _, rfl⟩ := List.mem_map.1 inField
  exact ⟨entry.1, inside.path, rfl⟩

/-- Neither of two paths leads through the end of the other, nor do they lead to
the same place. -/
def Path.Apart (left right : Path) : Prop :=
  ¬left <+: right ∧ ¬right <+: left

namespace Path

theorem Apart.ne
    {left right : Path}
    (apart : left.Apart right) :
    left ≠ right := by
  rintro rfl
  exact apart.1 List.prefix_rfl

@[simp] theorem apart_cons_cons
    {step other : Step}
    {left right : Path} :
    Apart (step :: left) (other :: right) ↔
      step = other → left.Apart right := by
  by_cases same : step = other
  · simp [Apart, List.cons_prefix_cons, same]
  · simp [Apart, List.cons_prefix_cons, same, Ne.symm same]

end Path

/-- Where no two faults of a node share their step, the paths to the located
faults are apart from each other. -/
theorem Fault.Distinct.paths_apart
    {fault : Fault}
    (distinct : fault.Distinct) :
    (fault.located.map LocatedFault.path).Pairwise Path.Apart := by
  induction distinct with
  | simple simple => simp [Fault.located_of_not_composite simple]
  | composite composite distinct _ inductionHypothesis =>
      rw [Fault.located_of_composite composite, List.pairwise_map,
        List.pairwise_flatMap]
      constructor
      · intro branch member
        have inside := inductionHypothesis branch member
        rw [List.pairwise_map] at inside ⊢
        exact inside.imp fun apart => Path.apart_cons_cons.2 fun _ => apart
      · refine (List.pairwise_map.1 distinct).imp ?_
        intro branch other different located inBranch otherLocated inOther
        obtain ⟨inside, _, rfl⟩ := List.mem_map.1 inBranch
        obtain ⟨otherInside, _, rfl⟩ := List.mem_map.1 inOther
        exact Path.apart_cons_cons.2 fun same => absurd same different

end ObjectSpec
