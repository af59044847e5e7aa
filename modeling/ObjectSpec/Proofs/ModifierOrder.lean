import ObjectSpec.Lookup.MemoryStore
import ObjectSpec.Proofs.Verdicts
import ObjectSpec.Spec.LeafDraft

/-!
# Orders of modifiers

The draft of a leaf is a map: under each kind of modifier it holds the last one
of that kind. So the order of the modifiers and all but the last of each kind
leave no trace in the finished field. It reads the settings of a lookup only
where a store is among the modifiers, and its validation reads the spec of the
items only where none is.
-/

namespace ObjectSpec
namespace Modifier

/-! ## Kinds of modifiers -/

/-- What a modifier is about. -/
inductive Kind where
  | required
  | notNull
  | delimiter
  | parser
  | sequenceOnly
  | store
  | many
  | method
  | mustExist
  | items
  deriving DecidableEq

namespace Kind

/-- Whether the modifiers of a kind have an argument. -/
def hasArgument : Kind → Bool
  | .delimiter | .parser | .store | .method | .items => true
  | _ => false

/-- Whether the modifiers of a kind take effect only if there is a store. -/
def needsStore : Kind → Bool
  | .many | .method | .mustExist => true
  | _ => false

end Kind

/-- The kind of a modifier. -/
def kind : Modifier → Kind
  | .required => .required
  | .notNull => .notNull
  | .delimiter _ => .delimiter
  | .parser _ => .parser
  | .sequenceOnly => .sequenceOnly
  | .store _ => .store
  | .many => .many
  | .method _ => .method
  | .mustExist => .mustExist
  | .items _ => .items

/-- Modifiers without argument are determined by their kind. -/
theorem eq_of_kind_eq
    {left right : Modifier}
    (same : left.kind = right.kind)
    (noArgument : left.kind.hasArgument = false) :
    left = right := by
  cases left <;> cases right <;> simp_all [kind, Kind.hasArgument]

/-- The last modifier of a kind in a sequence. -/
def last? (kind : Kind) (modifiers : List Modifier) : Option Modifier :=
  (modifiers.filter (·.kind = kind)).getLast?

theorem last?_append (kind : Kind) (first second : List Modifier) :
    last? kind (first ++ second) =
      (last? kind second).or (last? kind first) := by
  rw [last?, List.filter_append, List.getLast?_append]
  rfl

theorem last?_singleton (kind : Kind) (modifier : Modifier) :
    last? kind [modifier] =
      if modifier.kind = kind then some modifier else none := by
  by_cases same : modifier.kind = kind <;> simp [last?, same]

theorem kind_of_last?
    {kind : Kind}
    {modifiers : List Modifier}
    {modifier : Modifier}
    (isLast : last? kind modifiers = some modifier) :
    modifier.kind = kind := by
  have member := List.mem_of_getLast? isLast
  exact of_decide_eq_true (List.mem_filter.1 member).2

theorem last?_eq_none_iff {kind : Kind} {modifiers : List Modifier} :
    last? kind modifiers = none ↔ kind ∉ modifiers.map Modifier.kind := by
  simp [last?]

/-- A sequence without its modifiers of some kinds. -/
def without (dropped : Kind → Bool) (modifiers : List Modifier) :
    List Modifier :=
  modifiers.filter fun modifier => !dropped modifier.kind

/-- Leaving out the modifiers of some kinds keeps the last ones of the
others. -/
theorem last?_without
    (dropped : Kind → Bool)
    (kind : Kind)
    (modifiers : List Modifier) :
    last? kind (without dropped modifiers) =
      if dropped kind then none else last? kind modifiers := by
  rw [last?, last?, without, List.filter_filter]
  split
  next isDropped =>
      rw [List.getLast?_eq_none_iff, List.filter_eq_nil_iff]
      intro modifier _
      by_cases same : modifier.kind = kind <;> simp [same, isDropped]
  next isKept =>
      congr 1
      refine List.filter_congr ?_
      intro modifier _
      by_cases same : modifier.kind = kind <;> simp [same, isKept]

/-- Two sequences use modifiers of the same kinds, and of each kind that has an
argument the last modifier is the same. -/
structure SameInEffect (first second : List Modifier) : Prop where
  /-- The kinds of the modifiers are the same. -/
  kinds : ∀ kind, kind ∈ first.map Modifier.kind ↔
    kind ∈ second.map Modifier.kind
  /-- The last arguments are the same. -/
  arguments : ∀ kind, kind.hasArgument = true →
    last? kind first = last? kind second

/-- Sequences of the same effect have the same last modifier of every kind. -/
theorem SameInEffect.last?_eq
    {first second : List Modifier}
    (same : SameInEffect first second)
    (kind : Kind) :
    last? kind first = last? kind second := by
  cases argument : kind.hasArgument with
  | true => exact same.arguments kind argument
  | false =>
      have bothMissing :
          last? kind first = none ↔ last? kind second = none := by
        rw [last?_eq_none_iff, last?_eq_none_iff, same.kinds]
      cases inSecond : last? kind second with
      | none => exact bothMissing.2 inSecond
      | some other =>
          have present : last? kind first ≠ none := by
            rw [Ne, bothMissing, inSecond]
            exact Option.some_ne_none other
          obtain ⟨modifier, inFirst⟩ := Option.ne_none_iff_exists'.1 present
          have modifierKind := kind_of_last? inFirst
          have sameKind := modifierKind.trans (kind_of_last? inSecond).symm
          rw [inFirst, eq_of_kind_eq sameKind (modifierKind ▸ argument)]

end Modifier

/-! ## Drafts as maps -/

namespace LeafDraft

open Modifier (Kind last?)

/-- The modifier that a draft holds under a kind, if there is one. -/
def held? (draft : LeafDraft) : Kind → Option Modifier
  | .required => if draft.required then some .required else none
  | .notNull => if draft.notNull then some .notNull else none
  | .delimiter => draft.delimiter.map .delimiter
  | .parser => draft.parser.map .parser
  | .sequenceOnly => if draft.sequenceOnly then some .sequenceOnly else none
  | .store => draft.lookup.store.map .store
  | .many => if draft.lookup.many then some .many else none
  | .method => draft.lookup.method.map .method
  | .mustExist => if draft.lookup.mustExist then some .mustExist else none
  | .items => draft.items.map .items

/-- A modifier is held under its kind, and what is held under other kinds
stays. -/
theorem held?_modify (draft : LeafDraft) (modifier : Modifier) (kind : Kind) :
    (draft.modify modifier).held? kind =
      if modifier.kind = kind then some modifier else draft.held? kind := by
  cases modifier <;> cases kind <;> rfl

/-- After several modifiers in turn the last one of each kind is held. -/
theorem held?_modifyAll
    (draft : LeafDraft)
    (modifiers : List Modifier)
    (kind : Kind) :
    (draft.modifyAll modifiers).held? kind =
      (last? kind modifiers).or (draft.held? kind) := by
  induction modifiers generalizing draft with
  | nil => rfl
  | cons modifier rest inductionHypothesis =>
      calc
        (draft.modifyAll (modifier :: rest)).held? kind =
            (last? kind rest).or ((draft.modify modifier).held? kind) :=
          inductionHypothesis (draft.modify modifier)
        _ = (last? kind rest).or
            ((last? kind [modifier]).or (draft.held? kind)) := by
          rw [held?_modify, Modifier.last?_singleton]
          by_cases same : modifier.kind = kind <;> simp [same]
        _ = (last? kind (modifier :: rest)).or (draft.held? kind) := by
          rw [← Option.or_assoc, ← Modifier.last?_append, List.singleton_append]

theorem predicate_modifyAll (draft : LeafDraft) (modifiers : List Modifier) :
    (draft.modifyAll modifiers).predicate = draft.predicate := by
  induction modifiers generalizing draft with
  | nil => rfl
  | cons modifier rest inductionHypothesis =>
      have kept : (draft.modify modifier).predicate = draft.predicate := by
        cases modifier <;> rfl
      exact (inductionHypothesis (draft.modify modifier)).trans kept

/-! ## Finished fields -/

theorem eq_of_flag_eq
    {left right : Bool}
    {modifier : Modifier}
    (same : (if left then some modifier else none) =
      if right then some modifier else none) :
    left = right := by
  cases left <;> cases right <;> simp at same ⊢

section

variable
  {left right : LeafDraft}
  (same : ∀ kind, (kind.needsStore = true → left.held? .store ≠ none) →
    left.held? kind = right.held? kind)

include same

/-- Drafts that hold the same have the same lookup, where the settings of a
lookup count only if there is a store. -/
theorem rules?_eq_of_held? : left.lookup.rules? = right.lookup.rules? := by
  have sameStore : left.lookup.store = right.lookup.store :=
    (Option.map_inj_right fun _ _ => Modifier.store.inj).1 (same .store nofun)
  rw [LookupDraft.rules?, LookupDraft.rules?, ← sameStore]
  cases stored : left.lookup.store with
  | none => rfl
  | some store =>
      have present : left.held? .store ≠ none := by simp [held?, stored]
      have sameMany := eq_of_flag_eq (same .many fun _ => present)
      have sameMethod : left.lookup.method = right.lookup.method :=
        (Option.map_inj_right fun _ _ => Modifier.method.inj).1
          (same .method fun _ => present)
      have sameMustExist := eq_of_flag_eq (same .mustExist fun _ => present)
      rw [Option.map_some, Option.map_some, sameMany, sameMethod, sameMustExist]

/-- Drafts with the same predicate that hold the same, in this sense, make the
same field. -/
theorem toField_eq_of_held?
    (samePredicate : left.predicate = right.predicate) :
    left.toField = right.toField := by
  have sameRequired := eq_of_flag_eq (same .required nofun)
  have sameNotNull := eq_of_flag_eq (same .notNull nofun)
  have sameDelimiter : left.delimiter = right.delimiter :=
    (Option.map_inj_right fun _ _ => Modifier.delimiter.inj).1
      (same .delimiter nofun)
  have sameParser : left.parser = right.parser :=
    (Option.map_inj_right fun _ _ => Modifier.parser.inj).1 (same .parser nofun)
  have sameSequenceOnly := eq_of_flag_eq (same .sequenceOnly nofun)
  have sameItems : left.items = right.items :=
    (Option.map_inj_right fun _ _ => Modifier.items.inj).1 (same .items nofun)
  have sameRules := rules?_eq_of_held? same
  rw [toField, toField, pipeline, pipeline, sameRequired, sameNotNull,
    sameDelimiter, sameParser, sameSequenceOnly, samePredicate, sameRules,
    sameItems]

end

/-- The draft without a spec of the items. -/
def dropItems (draft : LeafDraft) : LeafDraft := { draft with items := none }

theorem held?_dropItems (draft : LeafDraft) (kind : Kind) :
    draft.dropItems.held? kind =
      if kind = .items then none else draft.held? kind := by
  cases kind <;> rfl

/-- Where records replace the value, the spec of the items is never asked. -/
theorem validate_dropItems
    {draft : LeafDraft}
    (stored : draft.held? .store ≠ none)
    (value : Option Json) :
    draft.dropItems.toField.validate value = draft.toField.validate value := by
  have sameContent : (Content.leaf draft.pipeline none).validate =
      (Content.leaf draft.pipeline draft.items).validate := by
    obtain ⟨modifier, isHeld⟩ := Option.ne_none_iff_exists'.1 stored
    obtain ⟨store, isStore, _⟩ := Option.map_eq_some_iff.1 isHeld
    have lookup : draft.pipeline.lookup =
        some ⟨store, draft.lookup.method, draft.lookup.many,
          draft.lookup.mustExist⟩ := by
      rw [pipeline, LookupDraft.rules?, isStore, Option.map_some]
    funext found
    rw [Content.validate_leaf, Content.validate_leaf, validateLeaf_eq,
      validateLeaf_eq, lookup]
  exact congrArg (validatePresent draft.required draft.notNull · value)
    sameContent

end LeafDraft

/-! ## Fields of modifiers -/

section

open Modifier (Kind last?)

variable {first second : List Modifier}

/-- The draft of a predicate and modifiers holds the last modifier of each
kind. -/
theorem LeafDraft.held?_ofPredicate_modifyAll
    (predicate : Predicate)
    (modifiers : List Modifier)
    (kind : Kind) :
    ((ofPredicate predicate).modifyAll modifiers).held? kind =
      last? kind modifiers := by
  have nothing : (ofPredicate predicate).held? kind = none := by
    cases kind <;> rfl
  rw [held?_modifyAll, nothing, Option.or_none]

theorem LeafDraft.predicate_modifyAll_eq
    (predicate : Predicate)
    (first second : List Modifier) :
    ((ofPredicate predicate).modifyAll first).predicate =
      ((ofPredicate predicate).modifyAll second).predicate := by
  rw [predicate_modifyAll, predicate_modifyAll]

/-- A field depends on the last modifier of each kind, where those that need a
store count only if there is one. -/
theorem Field.leaf_eq_of_last?_eq
    (predicate : Predicate)
    (same : ∀ kind, (kind.needsStore = true → last? .store first ≠ none) →
      last? kind first = last? kind second) :
    leaf predicate first = leaf predicate second := by
  refine LeafDraft.toField_eq_of_held? ?held ?predicate
  case predicate =>
    exact LeafDraft.predicate_modifyAll_eq predicate first second
  intro kind
  rw [LeafDraft.held?_ofPredicate_modifyAll,
    LeafDraft.held?_ofPredicate_modifyAll,
    LeafDraft.held?_ofPredicate_modifyAll]
  exact same kind

/-- With a store, the validation of a field does not depend on the modifiers
about items. -/
theorem Field.validate_leaf_eq_of_last?_eq
    (predicate : Predicate)
    (stored : last? .store first ≠ none)
    (same : ∀ kind, kind ≠ .items → last? kind first = last? kind second)
    (value : Option Json) :
    (leaf predicate first).validate value =
      (leaf predicate second).validate value := by
  have storedSecond : last? .store second ≠ none := by
    rwa [same .store (by decide)] at stored
  have sameWithoutItems :
      ((LeafDraft.ofPredicate predicate).modifyAll first).dropItems.toField =
        ((LeafDraft.ofPredicate predicate).modifyAll
          second).dropItems.toField := by
    -- Without the specs of items the drafts hold the same, so the same field
    -- comes of them.
    refine LeafDraft.toField_eq_of_held? ?held ?predicate
    case predicate =>
      exact LeafDraft.predicate_modifyAll_eq predicate first second
    intro kind _
    rw [LeafDraft.held?_dropItems, LeafDraft.held?_dropItems]
    split
    next => rfl
    next notItems =>
        rw [LeafDraft.held?_ofPredicate_modifyAll,
          LeafDraft.held?_ofPredicate_modifyAll, same kind notItems]
  rw [← LeafDraft.held?_ofPredicate_modifyAll predicate] at stored storedSecond
  calc
    (leaf predicate first).validate value =
        ((LeafDraft.ofPredicate predicate).modifyAll
          first).dropItems.toField.validate value :=
      (LeafDraft.validate_dropItems stored value).symm
    _ = ((LeafDraft.ofPredicate predicate).modifyAll
          second).dropItems.toField.validate value := by
      rw [sameWithoutItems]
    _ = (leaf predicate second).validate value :=
      LeafDraft.validate_dropItems storedSecond value

end

/-- Modifiers may be chained in any order: sequences that use modifiers of the
same kinds, with the same last argument of each kind, make the same field.
Without a store, the modifiers that need one may be left out of a sequence
without a change to the field. With a store, those about items may be left out
without a change to any verdict. -/
theorem modifiers_chain_in_any_order (predicate : Predicate) :
    (∀ first second, Modifier.SameInEffect first second →
      Field.leaf predicate first = Field.leaf predicate second) ∧
    (∀ modifiers : List Modifier, .store ∉ modifiers.map Modifier.kind →
      Field.leaf predicate
          (Modifier.without Modifier.Kind.needsStore modifiers) =
        Field.leaf predicate modifiers) ∧
    ∀ modifiers : List Modifier, .store ∈ modifiers.map Modifier.kind →
      ∀ value : Option Json,
        (Field.leaf predicate
            (Modifier.without (· = .items) modifiers)).validate value =
          (Field.leaf predicate modifiers).validate value := by
  refine ⟨?order, ?noStore, ?store⟩
  case order =>
    intro first second same
    exact Field.leaf_eq_of_last?_eq predicate fun kind _ => same.last?_eq kind
  case noStore =>
    intro modifiers noStore
    refine (Field.leaf_eq_of_last?_eq predicate ?_).symm
    intro kind counts
    rw [Modifier.last?_without, if_neg]
    exact fun needsStore =>
      counts needsStore (Modifier.last?_eq_none_iff.2 noStore)
  case store =>
    intro modifiers hasStore value
    refine (Field.validate_leaf_eq_of_last?_eq predicate ?_ ?_ value).symm
    · exact fun missing => Modifier.last?_eq_none_iff.1 missing hasStore
    · intro kind notItems
      rw [Modifier.last?_without, if_neg (by simpa using notItems)]

/-- A store of the berths of a harbour. -/
def berthStore : RecordStore :=
  ((MemoryStore.empty "berth").insert
    (.object [("berth", .string "B1")])).toRecordStore

/-- Modifiers of a list of berths, some of them before the store and some given
twice. -/
def berthModifiers : List Modifier :=
  [.mustExist, .delimiter ";", .required, .items .empty, .delimiter ",",
    .store berthStore, .required]

/-- The same modifiers in another order, each given once. -/
def orderedBerthModifiers : List Modifier :=
  [.required, .delimiter ",", .store berthStore, .mustExist, .items .empty]

theorem berthModifiers_sameInEffect :
    Modifier.SameInEffect berthModifiers orderedBerthModifiers where
  kinds kind := by cases kind <;> decide
  arguments kind _ := by cases kind <;> rfl

/-- Without the store, a required leaf with a delimiter and items is left of
them. -/
theorem berthModifiers_chain_in_any_order :
    Field.leaf .string berthModifiers =
        Field.leaf .string orderedBerthModifiers ∧
      Field.leaf .string [.required, .delimiter ",", .items .empty] =
        Field.leaf .string
          [.mustExist, .required, .many, .delimiter ",", .items .empty] ∧
      (Field.leaf .string
          [.required, .delimiter ",", .store berthStore, .mustExist]).validate
          (some (.string "B1,B2")) =
        (Field.leaf .string orderedBerthModifiers).validate
          (some (.string "B1,B2")) := by
  obtain ⟨order, noStore, store⟩ := modifiers_chain_in_any_order .string
  refine ⟨order _ _ berthModifiers_sameInEffect, ?_, ?_⟩
  · exact noStore [.mustExist, .required, .many, .delimiter ",", .items .empty]
      (by decide)
  · exact store orderedBerthModifiers (by decide) (some (.string "B1,B2"))

end ObjectSpec
