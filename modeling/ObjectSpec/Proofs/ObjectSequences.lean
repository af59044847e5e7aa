import ObjectSpec.Proofs.Verdicts
import ObjectSpec.Spec.LeafDraft

/-!
# Sequences of objects

A leaf whose items must follow a spec keeps all of them or none. If each item is
a valid object, their parsed objects take their places. Otherwise nothing is
kept, and every item that is no object or is at fault as one is reported under
its index; a valid item beside it leaves no trace.
-/

namespace ObjectSpec
namespace Spec

/-- What is wrong with an item that must follow a spec. -/
inductive BlamesItem (spec : Spec) : Json → Fault → Prop
  /-- The item is no object. -/
  | notObject {item : Json} :
      (∀ members, item ≠ .object members) →
      spec.BlamesItem item (.notObject (.value item))
  /-- The object is at fault, or its validation is aborted. -/
  | object {members : Members} {faults : ObjectFaults} :
      (spec.validate members).faults? = some faults →
      spec.BlamesItem (.object members) (.object faults)

/-- The faults of a sequence: under each index exactly what is wrong with the
item there, in the order of the indices. -/
structure BlamesItems
    (spec : Spec)
    (items : List Json)
    (faults : SequenceFaults) :
    Prop where
  increasing : (faults.items.map Prod.fst).Pairwise (· < ·)
  mem_iff : ∀ index fault,
    (index, fault) ∈ faults.items ↔
      ∃ item, items[index]? = some item ∧ spec.BlamesItem item fault

/-- What is kept of a sequence: in the place of each object its parsed
object. -/
structure KeepsItems (spec : Spec) (items kept : List Json) : Prop where
  length : kept.length = items.length
  item : ∀ (index : Nat) (members : Members),
      items[index]? = some (.object members) →
    ∃ parsed, (spec.validate members).parsed? = some parsed ∧
      kept[index]? = some (.object parsed)

/-! ## Single items -/

theorem errorOf?_itemResult_eq_some_iff
    {spec : Spec}
    {item : Json}
    {fault : Fault} :
    errorOf? (itemResult spec.validate item) = some fault ↔
      spec.BlamesItem item fault := by
  constructor
  · intro found
    cases item with
    | object members =>
        rw [errorOf?_itemResult_object] at found
        obtain ⟨faults, isFaults, rfl⟩ := Option.map_eq_some_iff.1 found
        exact .object isFaults
    | _ =>
        cases found
        exact .notObject fun _ => Json.noConfusion
  · rintro (noObject | isFaults)
    · cases item with
      | object members => exact absurd rfl (noObject members)
      | _ => rfl
    · rw [errorOf?_itemResult_object, isFaults]
      rfl

theorem errorOf?_itemResult_eq_none_iff
    {spec : Spec}
    {item : Json} :
    errorOf? (itemResult spec.validate item) = none ↔
      ∃ members, item = .object members ∧
        (spec.validate members).faults? = none := by
  cases item with
  | object members => simp [errorOf?_itemResult_object]
  | _ => exact ⟨nofun, nofun⟩

/-! ## Whole sequences -/

section

variable
  {spec : Spec}
  {items : List Json}

/-- A sequence is valid exactly if each item is a valid object. -/
theorem exists_validateItems_eq_ok_iff :
    (∃ kept, validateItems spec.validate (.array items) = .ok kept) ↔
      ∀ item ∈ items,
        ∃ members, item = .object members ∧
          (spec.validate members).faults? = none := by
  rw [← errorOf?_eq_none_iff, errorOf?_validateItems, enclosed_eq_none_iff,
    itemFaults_map, List.filterMap_eq_nil_iff]
  simp only [Option.map_eq_none_iff, errorOf?_itemResult_eq_none_iff]
  constructor
  · intro valid item member
    obtain ⟨index, present⟩ := List.getElem?_of_mem member
    exact valid (item, index) (List.mk_mem_zipIdx_iff_getElem?.2 present)
  · intro valid entry member
    exact valid entry.1 (List.fst_mem_of_mem_zipIdx member)

/-- What a valid sequence is replaced by has the parsed objects in their
places. -/
theorem exists_keepsItems_of_validateItems
    {found : Json}
    (valid : validateItems spec.validate (.array items) = .ok found) :
    ∃ kept, found = .array kept ∧ spec.KeepsItems items kept := by
  obtain ⟨kept, rfl, results⟩ := validateItems_eq_ok_iff.1 valid
  refine ⟨kept, rfl, ?length, ?item⟩
  case length =>
    have lengths := congrArg List.length results
    rw [List.length_map, List.length_map] at lengths
    exact lengths.symm
  case item =>
    intro index members present
    have atIndex := congrArg (·[index]?) results
    simp only [List.getElem?_map, present, Option.map_some] at atIndex
    obtain ⟨value, keptAtIndex, same⟩ := Option.map_eq_some_iff.1 atIndex.symm
    obtain ⟨_, parsed, isObject, rfl, validated⟩ :=
      itemResult_eq_ok_iff.1 same.symm
    cases isObject
    exact ⟨parsed, by rw [validated]; rfl, keptAtIndex⟩

/-- A sequence that is not valid is refused for its items at fault. -/
theorem exists_blamesItems_of_validateItems
    {fault : Fault}
    (refused : validateItems spec.validate (.array items) = .error fault) :
    ∃ faults, fault = .sequence faults ∧ spec.BlamesItems items faults := by
  have found := errorOf?_validateItems spec.validate items
  rw [refused, itemFaults_map] at found
  obtain ⟨_, rfl⟩ := enclosed_eq_some_iff.1 found.symm
  refine ⟨_, rfl, ?increasing, ?mem_iff⟩
  case increasing =>
    have indices := sublist_keys_filterMap
      (fun entry : Json × Nat => errorOf? (itemResult spec.validate entry.1))
      Prod.snd items.zipIdx
    rw [List.zipIdx_map_snd] at indices
    exact List.Pairwise.sublist indices List.pairwise_lt_range'
  case mem_iff =>
    intro index fault
    rw [List.mem_filterMap]
    constructor
    · rintro ⟨⟨item, _⟩, inside, mapped⟩
      obtain ⟨_, isFault, same⟩ := Option.map_eq_some_iff.1 mapped
      cases same
      exact ⟨item, List.mk_mem_zipIdx_iff_getElem?.1 inside,
        errorOf?_itemResult_eq_some_iff.1 isFault⟩
    · rintro ⟨item, present, blamed⟩
      refine ⟨(item, index), List.mk_mem_zipIdx_iff_getElem?.2 present, ?_⟩
      rw [errorOf?_itemResult_eq_some_iff.2 blamed]
      rfl

end

end Spec

/-- Without records, the verdict on a checked value whose items follow a spec is
that of the validation of its items. -/
theorem Field.validate_of_items
    {pipeline : Pipeline}
    {spec : Spec}
    {value found : Json}
    (required notNull : Bool)
    (noLookup : pipeline.lookup = none)
    (present : value ≠ .null)
    (passed : pipeline.checked value = .ok found) :
    Field.validate ⟨required, notNull, .leaf pipeline (some spec)⟩
        (some value) =
      .ofResult (validateItems spec.validate found) := by
  rw [Field.validate_some present, Content.validate_leaf, validateLeaf_eq,
    passed]
  simp only [noLookup]
  rfl

/-- A leaf whose items follow a spec is valid on a checked sequence exactly if
each item is an object without faults, and then the parsed objects are kept in
their places. Otherwise nothing is kept, and exactly the items that are no
objects or have faults are at fault, each under its index. A checked value that
is no sequence is refused as such. -/
theorem object_sequence_kept_whole_or_blamed
    {pipeline : Pipeline}
    {spec : Spec}
    {value found : Json}
    (required notNull : Bool)
    (noLookup : pipeline.lookup = none)
    (present : value ≠ .null)
    (passed : pipeline.checked value = .ok found) :
    let verdict :=
      Field.validate ⟨required, notNull, .leaf pipeline (some spec)⟩
        (some value)
    (∀ items, found = .array items →
        (verdict.isOk = true ↔
            ∀ item ∈ items,
              ∃ members, item = .object members ∧
                (spec.validate members).faults? = none) ∧
          (verdict.isOk = true →
            ∃ kept, verdict.parsed = some (.array kept) ∧
              spec.KeepsItems items kept) ∧
          (verdict.isOk = false →
            verdict.parsed = none ∧
              ∃ faults, verdict.fault = some (.sequence faults) ∧
                spec.BlamesItems items faults)) ∧
      ((∀ items, found ≠ .array items) →
        verdict = .ofFault (.notSequence (.value found))) := by
  intro verdict
  have isItems : verdict = .ofResult (validateItems spec.validate found) :=
    Field.validate_of_items required notNull noLookup present passed
  refine ⟨?sequence, ?noSequence⟩
  case sequence =>
    rintro items rfl
    refine ⟨?valid, ?kept, ?blamed⟩
    case valid =>
      rw [isItems, isOk_ofResult_eq_true_iff,
        Spec.exists_validateItems_eq_ok_iff]
    case kept =>
      intro isOk
      rw [isItems, isOk_ofResult_eq_true_iff] at isOk
      obtain ⟨_, valid⟩ := isOk
      obtain ⟨kept, rfl, keeps⟩ := Spec.exists_keepsItems_of_validateItems valid
      rw [isItems, valid]
      exact ⟨kept, rfl, keeps⟩
    case blamed =>
      intro isFault
      rw [isItems, isOk_ofResult_eq_false_iff] at isFault
      obtain ⟨_, refused⟩ := isFault
      obtain ⟨faults, rfl, blames⟩ :=
        Spec.exists_blamesItems_of_validateItems refused
      rw [isItems, refused]
      exact ⟨rfl, faults, rfl, blames⟩
  case noSequence =>
    intro noArray
    rw [isItems]
    cases found with
    | array items => exact absurd rfl (noArray items)
    | _ => rfl

/-- A spec for the legs of a trip, which have a length and nothing else. -/
def legSpec : Spec :=
  .refuseUndeclared (.declare .empty "km" (.leaf .number [.required]))

/-- Any values, which are not converted. -/
def legValues : Pipeline where
  delimiter := none
  parser := none
  sequenceOnly := false
  predicate := .anything
  lookup := none

/-- A leg without faults. -/
def walk : Json :=
  .object [("km", .int 3)]

/-- Legs of a trip: the second is no object, the third has another member, and
the last has no length. -/
def legs : List Json :=
  [walk, .int 5, .object [("by", .string "bus"), ("km", .int 8)], .object []]

/-- The faults of the legs. -/
def legFaults : SequenceFaults :=
  ⟨[(1, .notObject (.value (.int 5))), (2, .object (.single "by" .undeclared)),
    (3, .object (.single "km" .missing))]⟩

/-- Nothing is kept of the legs, since each leg but the first is at fault. The
first leg is kept as the only item of a sequence, and refused where it is no
item of one. -/
theorem legs_kept_or_blamed :
    let field : Field := ⟨false, false, .leaf legValues (some legSpec)⟩
    (field.validate (some (.array legs))).parsed = none ∧
      (field.validate (some (.array legs))).fault = some (.sequence legFaults) ∧
      legSpec.BlamesItems legs legFaults ∧
      (∃ kept,
          (field.validate (some (.array [walk]))).parsed = some (.array kept) ∧
        legSpec.KeepsItems [walk] kept) ∧
      field.validate (some walk) = .ofFault (.notSequence (.value walk)) := by
  intro field
  have legsChecked : legValues.checked (.array legs) = .ok (.array legs) := rfl
  have walkChecked : legValues.checked (.array [walk]) = .ok (.array [walk]) :=
    rfl
  have bareChecked : legValues.checked walk = .ok walk := rfl
  obtain ⟨allLegs, _⟩ :=
    @object_sequence_kept_whole_or_blamed _ legSpec _ _ false false rfl
    Json.noConfusion legsChecked
  obtain ⟨oneLeg, _⟩ :=
    @object_sequence_kept_whole_or_blamed _ legSpec _ _ false false rfl
    Json.noConfusion walkChecked
  obtain ⟨_, noSequence⟩ :=
    @object_sequence_kept_whole_or_blamed _ legSpec _ _ false false
    rfl Json.noConfusion bareChecked
  obtain ⟨_, _, blamed⟩ := allLegs legs rfl
  obtain ⟨_, kept, _⟩ := oneLeg [walk] rfl
  obtain ⟨nothing, faults, isFault, blames⟩ := blamed rfl
  obtain rfl : legFaults = faults :=
    Fault.sequence.inj (Option.some.inj isFault)
  exact ⟨nothing, isFault, blames, kept rfl,
    noSequence fun _ => Json.noConfusion⟩

end ObjectSpec
