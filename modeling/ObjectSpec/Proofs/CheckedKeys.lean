import Mathlib.Data.List.Basic
import ObjectSpec.Lookup.MemoryStore
import ObjectSpec.Proofs.Entrywise
import ObjectSpec.Proofs.SpecInduction
import ObjectSpec.Proofs.Verdicts

/-!
# Keys that stores are asked for

A store is asked for keys that the predicate of its leaf has accepted, and for
no others. So the stores of a spec, at any depth, can be replaced by stores that
answer alike for such keys, and no object is judged differently. A value that is
refused before the lookup is judged without any store: there the stores can be
replaced by arbitrary ones.
-/

namespace ObjectSpec

/-! ## Stores that answer alike -/

/-- A key that is accepted by a predicate: a sequence of values that satisfy it,
or one such value that is no sequence. -/
def Predicate.AdmitsKey (predicate : Predicate) : Json → Prop
  | .array items => ∀ item ∈ items, predicate.holds item = true
  | value => predicate.holds value = true

/-- A custom query is made for keys that are accepted by a predicate. -/
def Predicate.AdmitsQuery (predicate : Predicate) : LookupKey → Prop
  | .one key => predicate.AdmitsKey key
  | .many keys => ∀ key ∈ keys, predicate.holds key = true

/-- Two stores give the same answers for all keys that are accepted by a
predicate. -/
structure RecordStore.AgreeOn
    (predicate : Predicate)
    (left right : RecordStore) :
    Prop where
  find : ∀ key, predicate.AdmitsKey key → left.find key = right.find key
  findAll : ∀ keys, (∀ key ∈ keys, predicate.holds key = true) →
    left.findAll keys = right.findAll keys
  ask : ∀ name key, predicate.AdmitsQuery key →
    left.ask name key = right.ask name key

/-- What passes a pipeline is a key that its predicate accepts. -/
theorem Pipeline.Admits.admitsKey
    {pipeline : Pipeline}
    {value : Json}
    (admits : pipeline.Admits value) :
    pipeline.predicate.AdmitsKey value := by
  cases value with
  | array items => exact admits
  | _ => exact admits.2

/-- The keys of an accepted value satisfy the predicate one by one. -/
theorem Predicate.AdmitsKey.holds_of_mem_keysOf
    {predicate : Predicate}
    {value key : Json}
    (admits : predicate.AdmitsKey value)
    (member : key ∈ LookupRules.keysOf value) :
    predicate.holds key = true := by
  cases value with
  | array items => exact admits key member
  | _ => exact List.mem_singleton.1 member ▸ admits

/-! ## Replaced stores -/

section

variable (agree : Predicate → RecordStore → RecordStore → Prop)

/-- The same lookup in another store, which is related to the first one with
respect to the predicate of the leaf. -/
inductive LookupRules.Restocked (predicate : Predicate) :
    LookupRules → LookupRules → Prop
  /-- Another store. -/
  | store {rules : LookupRules} {store : RecordStore} :
      agree predicate rules.store store →
      LookupRules.Restocked predicate rules { rules with store := store }

/-- The same pipeline with another store for its lookup. -/
inductive Pipeline.Restocked : Pipeline → Pipeline → Prop
  /-- The same lookup in another store, if there is one. -/
  | lookup {pipeline : Pipeline} {lookup : Option LookupRules} :
      Option.Rel (LookupRules.Restocked agree pipeline.predicate)
        pipeline.lookup lookup →
      Pipeline.Restocked pipeline { pipeline with lookup := lookup }

mutual

/-- Two specs that differ in the stores of their leaves only, at any depth. -/
inductive Spec.Restocked : Spec → Spec → Prop
  /-- The same fields in the same order, with other stores one by one. -/
  | fields {before after : List (String × Field)} (strict : Bool) :
      Entrywise Field.Restocked before after →
      Spec.Restocked ⟨before, strict⟩ ⟨after, strict⟩

/-- Two fields that differ in stores only. -/
inductive Field.Restocked : Field → Field → Prop
  /-- Fields with the same rules. -/
  | content {before after : Content} (required notNull : Bool) :
      Content.Restocked before after →
      Field.Restocked ⟨required, notNull, before⟩ ⟨required, notNull, after⟩

/-- Contents of fields that differ in stores only. -/
inductive Content.Restocked : Content → Content → Prop
  /-- Leaves without a spec for items. -/
  | leaf {before after : Pipeline} :
      Pipeline.Restocked agree before after →
      Content.Restocked (.leaf before none) (.leaf after none)
  /-- Leaves with specs for items. -/
  | items {before after : Pipeline} {spec restocked : Spec} :
      Pipeline.Restocked agree before after →
      Spec.Restocked spec restocked →
      Content.Restocked (.leaf before (some spec))
        (.leaf after (some restocked))
  /-- Objects. -/
  | object {spec restocked : Spec} :
      Spec.Restocked spec restocked →
      Content.Restocked (.object spec) (.object restocked)
  /-- Maps. -/
  | map {spec restocked : Spec} :
      Spec.Restocked spec restocked →
      Content.Restocked (.map spec) (.map restocked)

end

end

/-! ## Leaves -/

section LookupRules

variable
  {predicate : Predicate}
  {before after : LookupRules}
  {value : Json}
  (restocked : before.Restocked RecordStore.AgreeOn predicate after)
  (admits : predicate.AdmitsKey value)
  (delimited : Bool)

include restocked admits

/-- The keys of an accepted value are accepted, whichever query is made. -/
theorem LookupRules.Restocked.answer_eq :
    after.answer delimited value = before.answer delimited value := by
  have keys : ∀ key ∈ keysOf value, predicate.holds key = true :=
    fun key member => admits.holds_of_mem_keysOf member
  cases restocked with
  | @store store agree =>
      have method :
          LookupRules.effectiveMethod { before with store := store } delimited =
            before.effectiveMethod delimited := rfl
      rw [answer, answer, method]
      cases before.effectiveMethod delimited with
      | one =>
          exact congrArg (Except.map Answer.one) (agree.find value admits).symm
      | many =>
          exact congrArg (Except.map Answer.many) (agree.findAll _ keys).symm
      | named name =>
          refine (agree.ask name _ ?_).symm
          split
          next => exact keys
          next => exact admits

theorem LookupRules.Restocked.resolve_eq :
    after.resolve delimited value = before.resolve delimited value := by
  have answers := restocked.answer_eq admits delimited
  rw [LookupRules.resolve, LookupRules.resolve, answers]
  cases restocked
  rfl

end LookupRules

/-- Nothing before the lookup depends on a store. -/
theorem Pipeline.Restocked.checked_eq
    {agree : Predicate → RecordStore → RecordStore → Prop}
    {before after : Pipeline}
    (restocked : before.Restocked agree after) :
    after.checked = before.checked := by
  cases restocked
  exact Pipeline.checked_congr rfl rfl rfl rfl

theorem validateLeaf_eq_of_restocked
    {before after : Pipeline}
    (restocked : before.Restocked RecordStore.AgreeOn after)
    (validateItem : Option (Members → Verdict))
    (value : Json) :
    validateLeaf after validateItem value =
      validateLeaf before validateItem value := by
  rw [validateLeaf_eq, validateLeaf_eq, restocked.checked_eq]
  cases passed : before.checked value with
  | error fault => rfl
  | ok found =>
      have admits := (Pipeline.admits_of_checked passed).admitsKey
      cases restocked with
      | lookup lookups =>
          dsimp only
          generalize before.lookup = rules? at lookups ⊢
          cases lookups with
          | none => rfl
          | some rules => exact rules.resolve_eq admits _

/-- A refused value is refused in the same way whatever stores there are, and
whatever becomes of items. -/
theorem validateLeaf_eq_of_refused
    {agree : Predicate → RecordStore → RecordStore → Prop}
    {before after : Pipeline}
    {value : Json}
    {fault : Fault}
    (restocked : before.Restocked agree after)
    (refused : before.checked value = .error fault)
    (validateItem otherItem : Option (Members → Verdict)) :
    validateLeaf after otherItem value =
      validateLeaf before validateItem value := by
  rw [validateLeaf_eq, validateLeaf_eq, restocked.checked_eq, refused]

theorem Content.Restocked.validate_eq_of_refused
    {agree : Predicate → RecordStore → RecordStore → Prop}
    {pipeline : Pipeline}
    {items : Option Spec}
    {after : Content}
    {value : Json}
    {fault : Fault}
    (restocked : Content.Restocked agree (.leaf pipeline items) after)
    (refused : pipeline.checked value = .error fault) :
    after.validate value = (Content.leaf pipeline items).validate value := by
  cases restocked with
  | leaf pipelines =>
      rw [Content.validate_leaf, Content.validate_leaf,
        validateLeaf_eq_of_refused pipelines refused]
  | items pipelines specs =>
      rw [Content.validate_leaf, Content.validate_leaf,
        validateLeaf_eq_of_refused pipelines refused]

/-! ## Specs -/

/-- A spec judges objects and bare values as it does with stores that answer
alike. -/
structure Spec.AsksForChecked (spec : Spec) : Prop where
  validate : ∀ restocked, spec.Restocked RecordStore.AgreeOn restocked →
    restocked.validate = spec.validate
  validateBare : ∀ restocked, spec.Restocked RecordStore.AgreeOn restocked →
    restocked.validateBare = spec.validateBare

theorem Content.Restocked.validate_eq
    {before after : Content}
    (restocked : before.Restocked RecordStore.AgreeOn after)
    (inside : before.Inner Spec.AsksForChecked)
    (value : Json) :
    after.validate value = before.validate value := by
  cases restocked with
  | leaf pipelines =>
      rw [Content.validate_leaf, Content.validate_leaf,
        validateLeaf_eq_of_restocked pipelines]
  | items pipelines specs =>
      rw [Content.validate_leaf, Content.validate_leaf,
        validateLeaf_eq_of_restocked pipelines, Option.map_some,
        Option.map_some, inside.validate _ specs]
  | object specs =>
      rw [Content.validate, Content.validate, inside.validate _ specs]
  | map specs =>
      rw [Content.validate, Content.validate, inside.validate _ specs,
        inside.validateBare _ specs]

theorem Field.Restocked.validate_eq
    {before after : Field}
    (restocked : before.Restocked RecordStore.AgreeOn after)
    (inside : before.content.Inner Spec.AsksForChecked)
    (value : Option Json) :
    after.validate value = before.validate value := by
  cases restocked with
  | content required notNull contents =>
      rw [Field.validate, Field.validate, funext (contents.validate_eq inside)]

theorem Entrywise.validateFields_eq_of_restocked
    {before after : List (String × Field)}
    (restocked : Entrywise (Field.Restocked RecordStore.AgreeOn) before after)
    (inside : ∀ entry ∈ before, entry.2.content.Inner Spec.AsksForChecked)
    (valueOf : String → Option Json) :
    ObjectSpec.validateFields after valueOf =
      ObjectSpec.validateFields before valueOf := by
  induction restocked with
  | nil => rfl
  | cons name field rest inductionHypothesis =>
      obtain ⟨fieldInside, restInside⟩ := List.forall_mem_cons.1 inside
      rw [validateFields_cons, validateFields_cons,
        field.validate_eq fieldInside, inductionHypothesis restInside]

/-- The same names are declared, so the same members and bare values are
refused. -/
theorem Spec.asksForChecked (spec : Spec) : spec.AsksForChecked := by
  induction spec using Spec.inductionOn with
  | step fields strict inside =>
      constructor
      · rintro _ (⟨_, entrywise⟩ : Spec.Restocked _ _ _)
        funext members
        have undeclared := undeclared?_congr
          (fun name => iff_of_eq (congrArg (name ∈ ·) entrywise.names_eq))
          members
        rw [Spec.validate, Spec.validate, undeclared,
          entrywise.validateFields_eq_of_restocked inside]
      · rintro _ (⟨_, entrywise⟩ : Spec.Restocked _ _ _)
        funext value
        have declared := Bool.eq_iff_iff.2
          (Entries.has_eq_true_iff.trans <|
            (iff_of_eq (congrArg (bareField ∈ ·) entrywise.names_eq)).trans
              Entries.has_eq_true_iff.symm)
        rw [Spec.validateBare, Spec.validateBare, declared,
          entrywise.validateFields_eq_of_restocked inside]

/-- The stores of a spec, at any depth, may be replaced by stores that give the
same answers for the keys that the predicates of their leaves accept, and every
object is judged as before. A value that is refused on the way to its lookup is
judged as before with any other stores. -/
theorem stores_see_checked_keys_only :
    (∀ {before after : Spec},
      before.Restocked RecordStore.AgreeOn after →
        ∀ members, after.validate members = before.validate members) ∧
      ∀ {before after : Field} {pipeline : Pipeline} {items : Option Spec}
          {value : Json} {fault : Fault},
        before.Restocked (fun _ _ _ => True) after →
        before.content = .leaf pipeline items →
        pipeline.checked value = .error fault →
          after.validate (some value) = before.validate (some value) := by
  constructor
  · intro before after restocked members
    rw [before.asksForChecked.validate after restocked]
  · intro before after pipeline items value fault restocked isLeaf refused
    cases restocked with
    | content required notNull contents =>
        by_cases isNull : value = .null
        · subst isNull
          rfl
        · obtain rfl : _ = Content.leaf pipeline items := isLeaf
          rw [Field.validate_some isNull, Field.validate_some isNull]
          exact contents.validate_eq_of_refused refused

/-- Two ports, one of which goes by a number. -/
def numberedPorts : MemoryStore :=
  (MemoryStore.empty "id").insertAll
    [.object [("id", .string "oslo")], .object [("id", .int 7)]]

/-- The port that goes by a name. -/
def namedPorts : MemoryStore :=
  (MemoryStore.empty "id").insertAll [.object [("id", .string "oslo")]]

/-- Only a number can tell the two stores apart. -/
theorem numberedPorts_agreeOn :
    RecordStore.AgreeOn .string numberedPorts.toRecordStore
      namedPorts.toRecordStore := by
  have find (key : Json) (noNumber : ∀ number, key ≠ .number number) :
      numberedPorts.table.find? key = namedPorts.table.find? key := by
    cases key with
    | number number => exact absurd rfl (noNumber number)
    | _ => rfl
  constructor
  · intro key admits
    refine congrArg Except.ok (find key ?_)
    rintro number rfl
    cases admits
  · intro keys holds
    refine congrArg Except.ok (List.filterMap_congr ?_)
    intro key member
    refine find key ?_
    rintro number rfl
    cases holds (.number number) member
  · intro name key _
    rfl

/-- A stop at a port on record. -/
def stopField (ports : RecordStore) : Field :=
  .leaf .string [.required, .store ports, .mustExist]

/-- A spec for lines, each of which lists its stops. -/
def lineSpec (ports : RecordStore) : Spec :=
  .declare .empty "lines" <| .values <|
    .declare .empty "stops" <| .leaf .object
      [.items (.declare .empty "port" (stopField ports))]

theorem stopField_restocked
    {agree : Predicate → RecordStore → RecordStore → Prop}
    {left right : RecordStore}
    (agrees : agree .string left right) :
    (stopField left).Restocked agree (stopField right) :=
  .content true false (.leaf (.lookup (.some (.store agrees))))

theorem lineSpec_restocked
    {agree : Predicate → RecordStore → RecordStore → Prop}
    {left right : RecordStore}
    (agrees : agree .string left right) :
    (lineSpec left).Restocked agree (lineSpec right) := by
  have stops := Spec.Restocked.fields false
    (.cons "port" (stopField_restocked agrees) .nil)
  have sequence : Pipeline.Restocked agree
      (LeafDraft.ofPredicate .object).pipeline
      (LeafDraft.ofPredicate .object).pipeline :=
    .lookup .none
  have line := Spec.Restocked.fields false
    (.cons "stops" (.content false false (.items sequence stops)) .nil)
  exact .fields false (.cons "lines" (.content false false (.map line)) .nil)

/-- A line with a stop at a port on record and a stop at a number. -/
def northLine : Members :=
  [("lines", .object [("north", .object [("stops", .array
    [.object [("port", .string "oslo")], .object [("port", .int 7)]])])])]

/-- The number is refused before either store is asked, also the one that has a
record for it. -/
theorem northLine_verdict_same :
    numberedPorts.table.find? (.int 7) = some (.object [("id", .int 7)]) ∧
      namedPorts.table.find? (.int 7) = none ∧
      (lineSpec namedPorts.toRecordStore).validate northLine =
        (lineSpec numberedPorts.toRecordStore).validate northLine ∧
      (lineSpec numberedPorts.toRecordStore).validate northLine =
        .checked [("lines", .object [])]
          [("lines", .map ⟨[("north", .single "stops" (.sequence ⟨[(1, .object
            (.single "port" (.illTyped (.value (.int 7)) none)))]⟩))]⟩)] ∧
      (stopField namedPorts.toRecordStore).validate (some (.int 7)) =
        (stopField numberedPorts.toRecordStore).validate (some (.int 7)) := by
  obtain ⟨sameVerdict, sameRefusal⟩ := stores_see_checked_keys_only
  have lines := sameVerdict (lineSpec_restocked numberedPorts_agreeOn) northLine
  have stop : (stopField namedPorts.toRecordStore).validate (some (.int 7)) =
      (stopField numberedPorts.toRecordStore).validate (some (.int 7)) :=
    sameRefusal (stopField_restocked trivial) rfl rfl
  exact ⟨rfl, rfl, lines, rfl, stop⟩

end ObjectSpec
