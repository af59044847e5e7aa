import ObjectSpec.Proofs.SpecInduction
import ObjectSpec.Proofs.Verdicts

/-!
# Pruned objects

Members that a spec does not declare can be removed before an object is
validated: from the object itself, from the objects that its fields hold and
from the values of its maps, however deep. Values of leaves are not touched, and
neither are the keys of maps. Where a spec refuses no undeclared members in any
of these objects, the pruned object has the same verdict as the object itself.
Two objects that are pruned into the same one are thus not told apart, neither
by what is kept of them nor by their faults.
-/

namespace ObjectSpec

/-! ## Pruning -/

/-- The value with its members changed, if it is an object. -/
def Json.mapMembers (change : Members → Members) : Json → Json
  | .object members => .object (change members)
  | other => other

theorem Json.mapMembers_eq_null_iff
    {change : Members → Members}
    {value : Json} :
    value.mapMembers change = .null ↔ value = .null := by
  cases value <;> simp [mapMembers]

mutual

/-- The members that are declared, each pruned by its field. -/
def Spec.prune : Spec → Members → Members
  | ⟨fields, _⟩, members =>
      members.filterMap fun member =>
        (Fields.pruneAt? fields member.1 member.2).map fun value =>
          (member.1, value)

/-- The value of a member, pruned by the field with its name if there is one. -/
def Fields.pruneAt? : List (String × Field) → String → Json → Option Json
  | [], _, _ => none
  | (other, field) :: rest, name, value =>
      if other = name then some (field.prune value)
      else Fields.pruneAt? rest name value

/-- The value of a field without undeclared members inside it. -/
def Field.prune : Field → Json → Json
  | ⟨_, _, content⟩, value => content.prune value

/-- A value without undeclared members inside it. Leaves are left alone, and so
are the keys of a map and all its values that are no objects. -/
def Content.prune : Content → Json → Json
  | .leaf _ _, value => value
  | .object spec, value => value.mapMembers spec.prune
  | .map values, value =>
      value.mapMembers fun members =>
        members.map fun member => (member.1, member.2.mapMembers values.prune)

end

theorem Fields.pruneAt?_eq
    (fields : List (String × Field))
    (name : String)
    (value : Json) :
    Fields.pruneAt? fields name value =
      (Entries.get? name fields).map fun field => field.prune value := by
  induction fields with
  | nil => rfl
  | cons entry rest inductionHypothesis =>
      obtain ⟨other, field⟩ := entry
      rw [pruneAt?, Entries.get?_cons, inductionHypothesis]
      split <;> rfl

/-- After pruning, a declared name has its pruned value and any other name has
none. -/
theorem Spec.get?_prune
    (spec : Spec)
    (members : Members)
    (name : String) :
    Entries.get? name (spec.prune members) =
      (spec.get? name).bind fun field =>
        (Entries.get? name members).map field.prune := by
  obtain ⟨fields, strict⟩ := spec
  rw [prune, get?]
  induction members with
  | nil => cases Entries.get? name fields <;> rfl
  | cons member rest inductionHypothesis =>
      obtain ⟨other, value⟩ := member
      rw [List.filterMap_cons, Entries.get?_cons, Fields.pruneAt?_eq]
      by_cases same : other = name
      · subst same
        cases declared : Entries.get? other fields with
        | none =>
            rw [declared] at inductionHypothesis
            exact inductionHypothesis
        | some field => simp [Entries.get?_cons]
      · rw [if_neg same]
        cases Entries.get? other fields with
        | none => exact inductionHypothesis
        | some field =>
            simp only [Option.map_some]
            rw [Entries.get?_cons, if_neg same]
            exact inductionHypothesis

theorem Content.prune_eq_null_iff
    {content : Content}
    {value : Json} :
    content.prune value = .null ↔ value = .null := by
  cases content with
  | leaf pipeline items => rw [prune]
  | object spec => rw [prune, Json.mapMembers_eq_null_iff]
  | map values => rw [prune, Json.mapMembers_eq_null_iff]

/-! ## Open specs -/

mutual

/-- Undeclared members are not refused in the object, nor in any object inside
it that is no part of a leaf. -/
def Spec.Open : Spec → Prop
  | ⟨fields, strict⟩ => strict = false ∧ Fields.Open fields

/-- Undeclared members are not refused in the objects inside the fields. -/
def Fields.Open : List (String × Field) → Prop
  | [] => True
  | (_, field) :: rest => field.Open ∧ Fields.Open rest

/-- Undeclared members are not refused in the objects inside the field. -/
def Field.Open : Field → Prop
  | ⟨_, _, content⟩ => content.Open

/-- Undeclared members are not refused in what a field holds, unless that is a
leaf, whose items may follow any spec. -/
def Content.Open : Content → Prop
  | .leaf _ _ => True
  | .object spec => spec.Open
  | .map values => values.Open

end

theorem Spec.open_iff
    {fields : List (String × Field)}
    {strict : Bool} :
    Spec.Open ⟨fields, strict⟩ ↔
      strict = false ∧ ∀ entry ∈ fields, entry.2.content.Open := by
  rw [Spec.Open]
  refine and_congr_right fun _ => ?_
  induction fields with
  | nil => simp [Fields.Open]
  | cons entry rest inductionHypothesis =>
      obtain ⟨name, required, notNull, content⟩ := entry
      rw [Fields.Open, Field.Open, inductionHypothesis, List.forall_mem_cons]

/-! ## Verdicts on pruned objects -/

/-- If a spec is open, an object and the pruned object have the same verdict. -/
def Spec.IgnoresPruning (spec : Spec) : Prop :=
  spec.Open → ∀ members,
    spec.validate (spec.prune members) = spec.validate members

theorem entryResult_mapMembers
    {validate : Members → Verdict}
    {change : Members → Members}
    (same : ∀ members, validate (change members) = validate members)
    (validateBare : Json → EntryResult)
    (value : Json) :
    entryResult validate validateBare (value.mapMembers change) =
      entryResult validate validateBare value := by
  cases value with
  | object members => rw [Json.mapMembers, entryResult, entryResult, same]
  | _ => rfl

theorem Content.validate_prune
    {content : Content}
    (isOpen : content.Open)
    (inner : content.Inner Spec.IgnoresPruning)
    (value : Json) :
    content.validate (content.prune value) = content.validate value := by
  cases content with
  | leaf pipeline items => rfl
  | object spec =>
      cases value with
      | object members =>
          exact congrArg FieldVerdict.ofVerdict (inner isOpen members)
      | _ => rfl
  | map values =>
      cases value with
      | object members =>
          change validateEntries _ _ (members.map _) =
            validateEntries _ _ members
          simp only [validateEntries, List.map_map, Function.comp_def,
            entryResult_mapMembers (inner isOpen)]
      | _ => rfl

theorem Field.validate_prune
    {field : Field}
    (isOpen : field.content.Open)
    (inner : field.content.Inner Spec.IgnoresPruning)
    (value : Option Json) :
    field.validate (value.map field.prune) = field.validate value := by
  obtain ⟨required, notNull, content⟩ := field
  cases value with
  | none => rfl
  | some value =>
      rw [Option.map_some, Field.prune]
      by_cases isNull : value = .null
      · rw [Content.prune_eq_null_iff.2 isNull, isNull]
      · have present : content.prune value ≠ .null :=
          fun pruned => isNull (Content.prune_eq_null_iff.1 pruned)
        rw [Field.validate_some present, Field.validate_some isNull]
        exact Content.validate_prune isOpen inner value

/-- Validation reads an object at its declared names only, and what a field
finds there it finds in the pruned value as well. -/
theorem Spec.WellFormed.validate_prune
    {spec : Spec}
    (wellFormed : spec.WellFormed) :
    spec.IgnoresPruning := by
  refine wellFormed.inductionOn ?_
  intro fields strict distinct inner isOpen members
  obtain ⟨rfl, fieldsOpen⟩ := Spec.open_iff.1 isOpen
  refine congrArg Verdict.ofFields ?_
  rw [validateFields_eq_map, validateFields_eq_map]
  refine List.map_congr_left ?_
  rintro ⟨name, field⟩ member
  have declared : Spec.get? ⟨fields, false⟩ name = some field :=
    Entries.get?_of_mem distinct member
  rw [Spec.get?_prune, declared, Option.bind_some,
    Field.validate_prune (fieldsOpen _ member) (inner _ member)]

/-- Objects that differ in undeclared members only, wherever these are, have the
same verdict by an open spec: the same is kept of them, and they have the same
faults. -/
theorem undeclared_members_are_invisible
    {spec : Spec}
    {left right : Members}
    (wellFormed : spec.WellFormed)
    (isOpen : spec.Open)
    (same : spec.prune left = spec.prune right) :
    spec.validate left = spec.validate right :=
  calc spec.validate left
      = spec.validate (spec.prune left) :=
        (wellFormed.validate_prune isOpen left).symm
    _ = spec.validate (spec.prune right) := congrArg spec.validate same
    _ = spec.validate right := wellFormed.validate_prune isOpen right

/-- A spec for anchors, which refuses undeclared members. -/
def anchorSpec : Spec :=
  .refuseUndeclared (.declare .empty "weight" (.leaf .number []))

/-- A spec for ships, which have a home port, cabins and anchors. -/
def shipSpec : Spec :=
  .declare
    (.declare
      (.declare .empty
        "anchors" (.leaf .anything [.items anchorSpec]))
      "cabins" (.values (.declare .empty "berths" (.leaf .number [.required]))))
    "home" (.nested (.declare .empty "port" (.leaf .string [.required])))

theorem shipSpec_built : shipSpec.Built :=
  .declare "home"
    (.declare "cabins"
      (.declare "anchors" .empty (.leaf .anything fun spec member => by
        simp only [List.mem_singleton, Modifier.items.injEq] at member
        exact member ▸ .refuseUndeclared
          (.declare "weight" .empty (.leaf .number (by simp)))))
      (.values (.declare "berths" .empty (.leaf .number (by simp)))))
    (.nested (.declare "port" .empty (.leaf .string (by simp))))

/-- A ship with a flag on itself, on its home port and in a cabin, that shares
with the unflagged one an anchor with a flag, a cabin without berths and one
that is no object. -/
def flaggedShip : Members :=
  [("anchors", .array [.object [("flag", .null)]]),
    ("cabins", .object [
      ("fore", .object [("berths", .int 4), ("flag", .string "red")]),
      ("hold", .object [("flag", .bool true)]),
      ("stern", .bool true)]),
    ("flag", .string "blue"),
    ("home", .object [("flag", .int 7), ("port", .bool false)])]

/-- The same ship without those flags. -/
def unflaggedShip : Members :=
  [("anchors", .array [.object [("flag", .null)]]),
    ("cabins", .object [
      ("fore", .object [("berths", .int 4)]),
      ("hold", .object []),
      ("stern", .bool true)]),
    ("home", .object [("port", .bool false)])]

/-- The two ships have one verdict, with a cabin that is kept and faults at
every other place. -/
theorem flaggedShip_verdict_eq :
    shipSpec.prune flaggedShip = shipSpec.prune unflaggedShip ∧
      shipSpec.validate flaggedShip = shipSpec.validate unflaggedShip ∧
      shipSpec.validate unflaggedShip =
        .checked
          [("cabins", .object [("fore", .object [("berths", .int 4)])]),
            ("home", .object [])]
          [("anchors", .sequence ⟨[(0, .object (.single "flag" .undeclared))]⟩),
            ("cabins", .map ⟨[
              ("hold", .single "berths" .missing),
              ("stern", .single "berths" .missing)]⟩),
            ("home", .object
              (.single "port" (.illTyped (.value (.bool false)) none)))] := by
  have isOpen : shipSpec.Open := by
    refine ⟨rfl, ?_⟩
    exact ⟨trivial, ⟨rfl, trivial, trivial⟩, ⟨rfl, trivial, trivial⟩, trivial⟩
  have same : shipSpec.prune flaggedShip = shipSpec.prune unflaggedShip := rfl
  have verdicts :=
    undeclared_members_are_invisible shipSpec_built.wellFormed isOpen same
  exact ⟨same, verdicts, rfl⟩

end ObjectSpec
