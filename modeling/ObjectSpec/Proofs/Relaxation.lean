import ObjectSpec.Lookup.MemoryStore
import ObjectSpec.Proofs.Entrywise
import ObjectSpec.Proofs.Violations

/-!
# Relaxed specs

A spec is relaxed by dropping some of its rules, at any depth: that a member is
present, that a value is not `null`, that it is a sequence, that its records
exist, or that no member is undeclared. Breaking each of these rules has its own
kind of fault, and a relaxed spec comes to the same verdict wherever none of the
violations is of the kind of a dropped rule. So a valid object stays valid and
is parsed into the same object, and a spec that refuses undeclared members
differs from its lenient version only where it finds some.
-/

namespace ObjectSpec

/-! ## Rules and their violations -/

/-- The rules of a spec that can be dropped while all else stays. -/
inductive Rule where
  /-- A member is present. -/
  | required
  /-- A value is not `null`. -/
  | notNull
  /-- The value of a leaf is a sequence. -/
  | sequenceOnly
  /-- Every key of a lookup has a record. -/
  | mustExist
  /-- No member is undeclared. -/
  | strict
  deriving DecidableEq, Repr

/-- The rule that a fault breaks, if it is one that can be dropped. -/
def Fault.brokenRule? : Fault → Option Rule
  | .missing => some .required
  | .null => some .notNull
  | .notSequence _ => some .sequenceOnly
  | .recordsMissing _ _ => some .mustExist
  | .undeclared => some .strict
  | _ => none

theorem Fault.brokenRule?_eq_strict_iff {fault : Fault} :
    fault.brokenRule? = some .strict ↔ fault = .undeclared := by
  cases fault <;> simp [brokenRule?]

section

variable (dropped : Rule → Prop)

/-- A flag is as before, or it is cleared because its rule may be dropped. -/
def Rule.Clears (rule : Rule) (before after : Bool) : Prop :=
  after = before ∨ dropped rule ∧ after = false

/-- None of the dropped rules is broken by a fault. -/
def Fault.BreaksNone (fault : Fault) : Prop :=
  ∀ rule, fault.brokenRule? = some rule → ¬dropped rule

/-- None of the dropped rules is broken by violations. -/
def NoneBroken (violations : List LocatedFault) : Prop :=
  ∀ located ∈ violations, located.fault.BreaksNone dropped

end

section

variable {dropped : Rule → Prop}

theorem Rule.Clears.eq
    {rule : Rule}
    {before after : Bool}
    (clears : rule.Clears dropped before after)
    (kept : before = true → ¬dropped rule) :
    after = before := by
  rcases clears with same | ⟨isDropped, cleared⟩
  · exact same
  · cases before with
    | false => exact cleared
    | true => exact absurd isDropped (kept rfl)

theorem Rule.Clears.of_after
    {rule : Rule}
    {before after : Bool}
    (clears : rule.Clears dropped before after)
    (set : after = true) :
    before = true := by
  rcases clears with same | ⟨_, cleared⟩
  · exact same ▸ set
  · rw [set] at cleared
    cases cleared

theorem Fault.BreaksNone.not_dropped
    {fault : Fault}
    {rule : Rule}
    (breaksNone : fault.BreaksNone dropped)
    (broken : fault.brokenRule? = some rule) :
    ¬dropped rule :=
  breaksNone rule broken

theorem noneBroken_nil : NoneBroken dropped [] := nofun

theorem noneBroken_here
    {fault : Fault} :
    NoneBroken dropped [.here fault] ↔ fault.BreaksNone dropped := by
  simp [NoneBroken, LocatedFault.here]

theorem noneBroken_under
    {step : Step}
    {violations : List LocatedFault} :
    NoneBroken dropped (violations.map (.under step)) ↔
      NoneBroken dropped violations := by
  simp [NoneBroken, LocatedFault.under]

theorem noneBroken_append
    {left right : List LocatedFault} :
    NoneBroken dropped (left ++ right) ↔
      NoneBroken dropped left ∧ NoneBroken dropped right := by
  simp only [NoneBroken, List.mem_append, or_imp, forall_and]

theorem noneBroken_flatMap
    {α : Type}
    {items : List α}
    {violations : α → List LocatedFault} :
    NoneBroken dropped (items.flatMap violations) ↔
      ∀ item ∈ items, NoneBroken dropped (violations item) := by
  simp only [NoneBroken, List.mem_flatMap]
  constructor
  · intro spared item member located inside
    exact spared located ⟨item, member, inside⟩
  · rintro spared located ⟨item, member, inside⟩
    exact spared item member located inside

end

/-! ## Relaxations -/

section

variable (dropped : Rule → Prop)

/-- The same lookup, which may no longer require records. -/
structure LookupRules.Relaxed (before after : LookupRules) : Prop where
  store : after.store = before.store
  method : after.method = before.method
  many : after.many = before.many
  mustExist : Rule.mustExist.Clears dropped before.mustExist after.mustExist

/-- The same pipeline, which may no longer require a sequence or records. -/
structure Pipeline.Relaxed (before after : Pipeline) : Prop where
  delimiter : after.delimiter = before.delimiter
  parser : after.parser = before.parser
  predicate : after.predicate = before.predicate
  sequenceOnly :
    Rule.sequenceOnly.Clears dropped before.sequenceOnly after.sequenceOnly
  lookup : Option.Rel (LookupRules.Relaxed dropped) before.lookup after.lookup

mutual

/-- A spec that differs from another by dropped rules only, at any depth. -/
inductive Spec.Relaxed : Spec → Spec → Prop
  /-- The same fields in the same order, relaxed one by one. -/
  | fields {before after : List (String × Field)} {strict lenient : Bool} :
      Entrywise Field.Relaxed before after →
      Rule.strict.Clears dropped strict lenient →
      Spec.Relaxed ⟨before, strict⟩ ⟨after, lenient⟩

/-- A field that differs from another by dropped rules only. -/
inductive Field.Relaxed : Field → Field → Prop
  /-- A field that may no longer be required or refuse `null`. -/
  | content {before after : Content}
      {required optional notNull nullable : Bool} :
      Rule.required.Clears dropped required optional →
      Rule.notNull.Clears dropped notNull nullable →
      Content.Relaxed before after →
      Field.Relaxed ⟨required, notNull, before⟩ ⟨optional, nullable, after⟩

/-- What a field holds, with dropped rules only as a difference. -/
inductive Content.Relaxed : Content → Content → Prop
  /-- Leaves without a spec for items. -/
  | leaf {before after : Pipeline} :
      Pipeline.Relaxed dropped before after →
      Content.Relaxed (.leaf before none) (.leaf after none)
  /-- Leaves with specs for items. -/
  | items {before after : Pipeline} {spec relaxed : Spec} :
      Pipeline.Relaxed dropped before after →
      Spec.Relaxed spec relaxed →
      Content.Relaxed (.leaf before (some spec)) (.leaf after (some relaxed))
  /-- Objects. -/
  | object {spec relaxed : Spec} :
      Spec.Relaxed spec relaxed →
      Content.Relaxed (.object spec) (.object relaxed)
  /-- Maps. -/
  | map {spec relaxed : Spec} :
      Spec.Relaxed spec relaxed → Content.Relaxed (.map spec) (.map relaxed)

end

end

theorem LookupRules.Relaxed.refl
    {dropped : Rule → Prop}
    (rules : LookupRules) :
    rules.Relaxed dropped rules :=
  ⟨rfl, rfl, rfl, .inl rfl⟩

theorem Pipeline.Relaxed.refl
    {dropped : Rule → Prop}
    (pipeline : Pipeline) :
    pipeline.Relaxed dropped pipeline := by
  refine ⟨rfl, rfl, rfl, .inl rfl, ?_⟩
  cases pipeline.lookup with
  | none => exact .none
  | some rules => exact .some (.refl rules)

/-! ## Pipelines and lookups -/

section

variable {dropped : Rule → Prop}

section Pipeline

variable
  {before after : Pipeline}
  (relaxed : before.Relaxed dropped after)

include relaxed

/-- Only a value that is no sequence can notice that sequences were required. -/
theorem Pipeline.Relaxed.checkScalar_eq
    {value : Option Json}
    (spared : ∀ fault, before.checkScalar value = .error fault →
      fault.BreaksNone dropped) :
    after.checkScalar value = before.checkScalar value := by
  have same : after.sequenceOnly = before.sequenceOnly := by
    refine relaxed.sequenceOnly.eq ?_
    intro required
    have refused : before.checkScalar value =
        .error (.notSequence (.ofResult value)) := by
      unfold Pipeline.checkScalar
      rw [if_pos required]
    exact (spared _ refused).not_dropped rfl
  unfold Pipeline.checkScalar
  rw [same, relaxed.predicate]

theorem Pipeline.Relaxed.checked_eq
    {value : Json}
    (spared : ∀ fault, before.checked value = .error fault →
      fault.BreaksNone dropped) :
    after.checked value = before.checked value := by
  rw [Pipeline.checked] at spared
  rw [Pipeline.checked, Pipeline.checked,
    Pipeline.prepare_congr relaxed.delimiter relaxed.parser]
  cases prepared : before.prepare value with
  | error fault => rfl
  | ok found =>
      rw [prepared] at spared
      simp only at spared ⊢
      unfold Pipeline.check at spared ⊢
      split
      next => rw [Pipeline.checkSequence_congr relaxed.predicate]
      next => rw [Pipeline.checkSequence_congr relaxed.predicate]
      next scalar noArray =>
          simp only at spared
          exact relaxed.checkScalar_eq spared

end Pipeline

section LookupRules

variable
  {before after : LookupRules}
  (relaxed : before.Relaxed dropped after)
  (delimited : Bool)
  (value : Json)

include relaxed

theorem LookupRules.Relaxed.answer_eq :
    after.answer delimited value = before.answer delimited value := by
  unfold LookupRules.answer LookupRules.effectiveMethod LookupRules.isSeveral
  rw [relaxed.store, relaxed.method, relaxed.many]

theorem LookupRules.Relaxed.expectedCount_eq :
    after.expectedCount delimited value =
      before.expectedCount delimited value := by
  unfold LookupRules.expectedCount LookupRules.isSeveral
  rw [relaxed.many]

/-- Only where records are missing it matters whether they are required. -/
theorem LookupRules.Relaxed.resolve_eq
    (spared : ∀ fault, before.resolve delimited value = .error fault →
      fault.BreaksNone dropped) :
    after.resolve delimited value = before.resolve delimited value := by
  rw [LookupRules.resolve] at spared
  rw [LookupRules.resolve, LookupRules.resolve, relaxed.answer_eq,
    relaxed.expectedCount_eq]
  cases answered : before.answer delimited value with
  | error error => rfl
  | ok found =>
      rw [answered] at spared
      simp only at spared ⊢
      by_cases complete : found.count = before.expectedCount delimited value
      · simp [complete]
      · have same : after.mustExist = before.mustExist := by
          refine relaxed.mustExist.eq ?_
          intro required
          rw [if_pos ⟨required, complete⟩] at spared
          exact (spared _ rfl).not_dropped rfl
        rw [same]

end LookupRules

/-! ## Leaves, items and values of maps -/

section

variable
  {validate other : Members → Verdict}
  {inside : Members → List LocatedFault}
  (object : ∀ members, NoneBroken dropped (inside members) →
    other members = validate members)

include object

theorem itemResult_eq_of_noneBroken
    {item : Json}
    (spared : NoneBroken dropped (objectViolations inside item)) :
    itemResult other item = itemResult validate item := by
  cases item with
  | object members => rw [itemResult, itemResult, object members spared]
  | _ => rfl

theorem validateItems_eq_of_noneBroken
    {value : Json}
    (spared : NoneBroken dropped (sequenceViolations inside value)) :
    validateItems other value = validateItems validate value := by
  cases value with
  | array items =>
      have results :
          items.map (itemResult other) = items.map (itemResult validate) := by
        refine List.map_congr_left ?_
        intro item member
        obtain ⟨index, found⟩ := List.mem_iff_getElem?.1 member
        have indexed : (item, index) ∈ items.zipIdx :=
          List.mem_zipIdx_iff_getElem?.2 found
        have itemSpared := noneBroken_flatMap.1 spared _ indexed
        exact itemResult_eq_of_noneBroken object (noneBroken_under.1 itemSpared)
      rw [validateItems, validateItems, results]
  | _ => rfl

theorem validateEntries_eq_of_noneBroken
    {validateBare otherBare : Json → EntryResult}
    {insideBare : Json → List LocatedFault}
    {members : Members}
    (bare : ∀ value, NoneBroken dropped (insideBare value) →
      otherBare value = validateBare value)
    (spared : ∀ member ∈ members,
      NoneBroken dropped (entryViolations inside insideBare member.2)) :
    validateEntries other otherBare members =
      validateEntries validate validateBare members := by
  have results : ∀ member ∈ members,
      entryResult other otherBare member.2 =
        entryResult validate validateBare member.2 := by
    intro member inMembers
    have memberSpared := spared member inMembers
    cases value : member.2 with
    | object record =>
        rw [value] at memberSpared
        rw [entryResult, entryResult, object record memberSpared]
    | _ =>
        rw [value] at memberSpared
        exact bare _ memberSpared
  have same :
      (members.map fun member =>
        (member.1, entryResult other otherBare member.2)) =
        members.map fun member =>
          (member.1, entryResult validate validateBare member.2) :=
    List.map_congr_left fun member inMembers => by rw [results member inMembers]
  rw [validateEntries, validateEntries, same]

end

theorem validateLeaf_eq_of_noneBroken
    {before after : Pipeline}
    {validateItem otherItem : Option (Members → Verdict)}
    {inside : Json → List LocatedFault}
    {value : Json}
    (relaxed : before.Relaxed dropped after)
    (kept : ∀ found, NoneBroken dropped (inside found) →
      keptResult otherItem found = keptResult validateItem found)
    (spared : NoneBroken dropped (leafViolations before inside value)) :
    validateLeaf after otherItem value =
      validateLeaf before validateItem value := by
  rw [leafViolations] at spared
  have checked : after.checked value = before.checked value := by
    refine relaxed.checked_eq ?_
    intro fault refused
    rw [refused] at spared
    exact noneBroken_here.1 spared
  rw [validateLeaf_eq, validateLeaf_eq, checked, relaxed.delimiter]
  cases passed : before.checked value with
  | error fault => rfl
  | ok found =>
      rw [passed] at spared
      have lookups := relaxed.lookup
      generalize before.lookup = rules? at lookups spared ⊢
      generalize after.lookup = relaxedRules? at lookups ⊢
      cases lookups with
      | none => exact kept found spared
      | some rules =>
          refine rules.resolve_eq _ _ ?_
          intro fault refused
          simp only [refused] at spared
          exact noneBroken_here.1 spared

/-! ## Specs -/

/-- The verdicts of a spec stay where the violations break no dropped rule. -/
structure Spec.KeepsVerdicts (dropped : Rule → Prop) (spec : Spec) : Prop where
  object : ∀ relaxed, spec.Relaxed dropped relaxed →
    ∀ members, NoneBroken dropped (spec.violations members) →
      relaxed.validate members = spec.validate members
  bare : ∀ relaxed, spec.Relaxed dropped relaxed →
    ∀ value, NoneBroken dropped (spec.bareViolations value) →
      relaxed.validateBare value = spec.validateBare value

theorem Content.Relaxed.validate_eq
    {before after : Content}
    {value : Json}
    (relaxed : before.Relaxed dropped after)
    (inside : before.Inner (Spec.KeepsVerdicts dropped))
    (spared : NoneBroken dropped (before.violations value)) :
    after.validate value = before.validate value := by
  cases relaxed with
  | leaf pipelines =>
      rw [Content.validate_leaf, Content.validate_leaf]
      exact congrArg FieldVerdict.ofResult
        (validateLeaf_eq_of_noneBroken pipelines (fun _ _ => rfl) spared)
  | items pipelines specs =>
      rw [Content.validate_leaf, Content.validate_leaf]
      refine congrArg FieldVerdict.ofResult
        (validateLeaf_eq_of_noneBroken pipelines ?_ spared)
      intro found foundSpared
      exact validateItems_eq_of_noneBroken (inside.object _ specs) foundSpared
  | object specs =>
      cases value with
      | object members =>
          exact congrArg FieldVerdict.ofVerdict
            (inside.object _ specs members spared)
      | _ => rfl
  | map specs =>
      cases value with
      | object members =>
          refine validateEntries_eq_of_noneBroken (inside.object _ specs)
            (inside.bare _ specs) ?_
          intro member inMembers
          exact noneBroken_under.1
            (noneBroken_flatMap.1 spared member inMembers)
      | _ => rfl

theorem Field.Relaxed.validate_eq
    {before after : Field}
    {value : Option Json}
    (relaxed : before.Relaxed dropped after)
    (inside : before.content.Inner (Spec.KeepsVerdicts dropped))
    (spared : NoneBroken dropped (before.violations value)) :
    after.validate value = before.validate value := by
  cases relaxed with
  | @content _ _ required optional notNull nullable requiredClears notNullClears
    contents =>
      cases value with
      | none =>
          have same : optional = required := by
            refine requiredClears.eq ?_
            rintro rfl
            exact (noneBroken_here.1 spared).not_dropped rfl
          rw [same]
          rfl
      | some value =>
          by_cases isNull : value = .null
          · subst isNull
            have same : nullable = notNull := by
              refine notNullClears.eq ?_
              rintro rfl
              exact (noneBroken_here.1 spared).not_dropped rfl
            rw [same]
            rfl
          · rw [Field.validate_some isNull, Field.validate_some isNull]
            rw [Field.violations_some isNull] at spared
            exact contents.validate_eq inside spared

theorem Entrywise.validateFields_eq
    {before after : List (String × Field)}
    {valueOf : String → Option Json}
    (relaxed : Entrywise (Field.Relaxed dropped) before after)
    (inside : ∀ entry ∈ before,
      entry.2.content.Inner (Spec.KeepsVerdicts dropped))
    (spared : NoneBroken dropped (fieldViolations before valueOf)) :
    ObjectSpec.validateFields after valueOf =
      ObjectSpec.validateFields before valueOf := by
  induction relaxed with
  | nil => rfl
  | cons name field rest inductionHypothesis =>
      obtain ⟨fieldInside, restInside⟩ := List.forall_mem_cons.1 inside
      obtain ⟨fieldSpared, restSpared⟩ := noneBroken_append.1 spared
      rw [validateFields_cons, validateFields_cons,
        field.validate_eq fieldInside (noneBroken_under.1 fieldSpared),
        inductionHypothesis restInside restSpared]

section Spec

variable
  {before after : Spec}
  (relaxed : before.Relaxed dropped after)

include relaxed

theorem Spec.Relaxed.names_eq : after.names = before.names := by
  cases relaxed with
  | fields entrywise clears => exact entrywise.names_eq.symm

/-- The same member is refused unless refusing members was dropped. -/
theorem Spec.Relaxed.refused?_eq
    {members : Members}
    (kept : ∀ name, before.refused? members = some name → ¬dropped .strict) :
    after.refused? members = before.refused? members := by
  have names (name : String) :
      name ∈ Entries.names after.fields ↔
        name ∈ Entries.names before.fields := by
    rw [← Spec.names, ← Spec.names, relaxed.names_eq]
  have undeclared :
      undeclared? after.fields members = undeclared? before.fields members :=
    undeclared?_congr names members
  cases relaxed with
  | @fields _ _ strict lenient entrywise clears =>
      rw [Spec.refused?, Spec.refused?, undeclared]
      rw [Spec.refused?] at kept
      cases found : undeclared? _ members with
      | none => rw [ite_self, ite_self]
      | some name =>
          rw [found] at kept
          have same : lenient = strict := by
            refine clears.eq ?_
            rintro rfl
            exact kept name rfl
          rw [same]

theorem Spec.Relaxed.refusesBare_iff
    (kept : before.RefusesBare → ¬dropped .strict) :
    after.RefusesBare ↔ before.RefusesBare := by
  have names := relaxed.names_eq
  cases relaxed with
  | fields entrywise clears =>
      rw [Spec.RefusesBare, names]
      constructor
      · rintro ⟨isStrict, absent⟩
        exact ⟨clears.of_after isStrict, absent⟩
      · intro refuses
        have same := clears.eq fun _ => kept refuses
        exact ⟨same.trans refuses.1, refuses.2⟩

end Spec

section Inside

variable
  {fields : List (String × Field)}
  {strict : Bool}
  (inside : ∀ entry ∈ fields,
    entry.2.content.Inner (Spec.KeepsVerdicts dropped))

include inside

theorem Spec.validate_eq_of_noneBroken
    {relaxed : Spec}
    {members : Members}
    (relaxes : Spec.Relaxed dropped ⟨fields, strict⟩ relaxed)
    (spared : NoneBroken dropped (Spec.violations ⟨fields, strict⟩ members)) :
    relaxed.validate members = Spec.validate ⟨fields, strict⟩ members := by
  rw [Spec.violations_eq] at spared
  have refused :
      relaxed.refused? members = Spec.refused? ⟨fields, strict⟩ members := by
    refine relaxes.refused?_eq ?_
    intro name found
    rw [found] at spared
    exact (spared _ List.mem_cons_self).not_dropped rfl
  rw [Spec.validate_eq, Spec.validate_eq, refused]
  cases found : Spec.refused? ⟨fields, strict⟩ members with
  | some name => rfl
  | none =>
      rw [found] at spared
      cases relaxes with
      | fields entrywise clears =>
          exact congrArg Verdict.ofFields
            (entrywise.validateFields_eq inside spared)

theorem Spec.validateBare_eq_of_noneBroken
    {relaxed : Spec}
    {value : Json}
    (relaxes : Spec.Relaxed dropped ⟨fields, strict⟩ relaxed)
    (spared : NoneBroken dropped (Spec.bareViolations ⟨fields, strict⟩ value)) :
    relaxed.validateBare value = Spec.validateBare ⟨fields, strict⟩ value := by
  have refusesIff :
      relaxed.RefusesBare ↔ Spec.RefusesBare ⟨fields, strict⟩ := by
    refine relaxes.refusesBare_iff ?_
    intro refuses
    rw [Spec.bareViolations_of_refuses refuses] at spared
    exact (spared _ List.mem_cons_self).not_dropped rfl
  by_cases refuses : Spec.RefusesBare ⟨fields, strict⟩
  · rw [Spec.validateBare_of_refuses refuses,
      Spec.validateBare_of_refuses (refusesIff.2 refuses)]
  · rw [Spec.bareViolations_of_not_refuses refuses] at spared
    have verdicts : relaxed.bareVerdicts value =
        Spec.bareVerdicts ⟨fields, strict⟩ value := by
      cases relaxes with
      | fields entrywise clears =>
          exact entrywise.validateFields_eq inside spared
    rw [Spec.validateBare_of_not_refuses refuses,
      Spec.validateBare_of_not_refuses (refuses ∘ refusesIff.1), verdicts]

end Inside

theorem Spec.keepsVerdicts
    (dropped : Rule → Prop)
    (spec : Spec) :
    spec.KeepsVerdicts dropped := by
  induction spec using Spec.inductionOn with
  | step fields strict inside =>
      constructor
      · intro relaxed relaxes members spared
        exact Spec.validate_eq_of_noneBroken inside relaxes spared
      · intro relaxed relaxes value spared
        exact Spec.validateBare_eq_of_noneBroken inside relaxes spared

/-- A relaxed spec comes to the same verdict where the violations break no
dropped rule. -/
theorem Spec.Relaxed.validate_eq
    {spec relaxed : Spec}
    {members : Members}
    (relaxes : spec.Relaxed dropped relaxed)
    (spared : NoneBroken dropped (spec.violations members)) :
    relaxed.validate members = spec.validate members :=
  (spec.keepsVerdicts dropped).object relaxed relaxes members spared

/-- A valid object has no violations. -/
theorem Spec.violations_eq_nil_of_isValid
    {spec : Spec}
    {members : Members}
    (valid : (spec.validate members).isValid = true) :
    spec.violations members = [] := by
  obtain ⟨_, noneIff⟩ := (spec.reported.object members).located_eq
  exact noneIff.1 (Option.isNone_iff_eq_none.1 valid)

end

/-- An object that is valid by a spec is valid by every spec that results from
dropping some of its rules, and is parsed into the same object. -/
theorem valid_object_stays_valid
    {spec relaxed : Spec}
    {members : Members}
    (relaxes : spec.Relaxed (fun _ => True) relaxed)
    (valid : (spec.validate members).isValid = true) :
    (relaxed.validate members).isValid = true ∧
      (relaxed.validate members).parsed? = (spec.validate members).parsed? := by
  have spared : NoneBroken (fun _ => True) (spec.violations members) := by
    rw [Spec.violations_eq_nil_of_isValid valid]
    exact noneBroken_nil
  have same := relaxes.validate_eq spared
  exact ⟨same ▸ valid, same ▸ rfl⟩

/-- A record of one captain. -/
def captains : RecordStore :=
  ((MemoryStore.empty "id").insert
    (.object [("id", .string "ada")])).toRecordStore

/-- A spec for rosters, which name a captain on record and who is on watch. -/
def rosterSpec : Spec :=
  .refuseUndeclared <|
    .declare
      (.declare .empty
        "captain" (.leaf .string
          [.required, .notNull, .store captains, .mustExist]))
      "watches" (.values
        (.refuseUndeclared
          (.declare .empty bareField (.leaf .string [.sequenceOnly]))))

/-- The same with none of its rules. -/
def looseRosterSpec : Spec :=
  .declare
    (.declare .empty "captain" (.leaf .string [.store captains]))
    "watches" (.values (.declare .empty bareField (.leaf .string [])))

theorem rosterSpec_relaxed :
    rosterSpec.Relaxed (fun _ => True) looseRosterSpec := by
  have dropped (rule : Rule) : rule.Clears (fun _ => True) true false :=
    .inr ⟨trivial, rfl⟩
  have kept (rule : Rule) : rule.Clears (fun _ => True) false false := .inl rfl
  refine .fields
    (.cons "captain" (.content (dropped _) (dropped _) (.leaf ?captain)) <|
      .cons "watches" (.content (kept _) (kept _) (.map ?watches)) .nil)
    (dropped _)
  case captain =>
    exact ⟨rfl, rfl, rfl, kept _, .some ⟨rfl, rfl, rfl, dropped _⟩⟩
  case watches =>
    refine .fields
      (.cons bareField (.content (kept _) (kept _) (.leaf ?bare)) .nil)
      (dropped _)
    exact ⟨rfl, rfl, rfl, dropped _, .none⟩

/-- A roster with two watches, nobody being on the second one. -/
def roster : Members :=
  [("captain", .string "ada"),
    ("watches", .object [("first", .array [.string "bob"]), ("second", .null)])]

/-- The roster is valid without the rules as it is with them, while an empty one
is valid without them only. -/
theorem roster_stays_valid :
    (rosterSpec.validate roster).isValid = true ∧
      (looseRosterSpec.validate roster).isValid = true ∧
      (looseRosterSpec.validate roster).parsed? =
        (rosterSpec.validate roster).parsed? ∧
      (rosterSpec.validate []).isValid = false ∧
      (looseRosterSpec.validate []).isValid = true := by
  have valid : (rosterSpec.validate roster).isValid = true := rfl
  obtain ⟨stays, same⟩ := valid_object_stays_valid rosterSpec_relaxed valid
  exact ⟨valid, stays, same, rfl, rfl⟩

end ObjectSpec
