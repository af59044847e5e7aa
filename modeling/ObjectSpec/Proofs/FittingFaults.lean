import ObjectSpec.Proofs.Aborts
import ObjectSpec.Proofs.BareValues
import ObjectSpec.Proofs.BuiltinPipelines
import ObjectSpec.Proofs.FaultTrees

/-!
# Faults that fit

The tree of faults that a validation finds is shaped by the spec and by the
object. The fields at fault are declared ones in the order of their declaration,
unless the only fault is an undeclared member. The keys at fault are keys of the
map in increasing order, and the indices at fault lie in the sequence, in
increasing order as well. No composite fault is empty. So there are located
faults, and their paths are distinct and none of them leads through the place of
another.
-/

namespace ObjectSpec

/-! ## Fitting trees -/

mutual

/-- A fault fits what a field holds and the value of the field. -/
inductive Fault.Fits : Content → Option Json → Fault → Prop
  /-- A fault that consists of no others. -/
  | simple {content : Content} {value : Option Json} {fault : Fault} :
      fault.isComposite = false → Fault.Fits content value fault
  /-- Faults of the nested object. -/
  | object {spec : Spec} {members : Members} {faults : ObjectFaults} :
      ObjectFaults.Fits spec members faults →
      Fault.Fits (.object spec) (some (.object members)) (.object faults)
  /-- Faults at some keys of the map, in the order of their bytes. -/
  | map {values : Spec} {members : Members}
      {faults : List (String × ObjectFaults)} :
      faults ≠ [] →
      (Entries.names faults).Pairwise Text.BytesBefore →
      (∀ entry ∈ faults, entry.1 ∈ Entries.names members) →
      (∀ entry ∈ faults, ∀ value, Entries.get? entry.1 members = some value →
        ObjectFaults.Fits values (recordOf value) entry.2) →
      Fault.Fits (.map values) (some (.object members)) (.map ⟨faults⟩)
  /-- Faults at some indices of the sequence that the value was split, converted
  and checked to. -/
  | sequence
      {pipeline : Pipeline}
      {spec : Spec}
      {value : Json}
      {items : List Json}
      {faults : List (Nat × Fault)} :
      pipeline.checked value = .ok (.array items) →
      faults ≠ [] →
      (faults.map Prod.fst).Pairwise (· < ·) →
      (∀ entry ∈ faults, entry.1 < items.length) →
      (∀ entry ∈ faults, ∀ item, items[entry.1]? = some item →
        Fault.Fits (.object spec) (some item) entry.2) →
      Fault.Fits (.leaf pipeline (some spec)) (some value) (.sequence ⟨faults⟩)

/-- The faults of an object fit its spec and its members. -/
inductive ObjectFaults.Fits : Spec → Members → ObjectFaults → Prop
  /-- An undeclared member. -/
  | undeclared {spec : Spec} {members : Members} {name : String} :
      name ∈ Entries.names members →
      name ∉ spec.names →
      ObjectFaults.Fits spec members (.single name .undeclared)
  /-- Faults of some declared fields, in the order of their declaration. -/
  | fields {spec : Spec} {members : Members} {faults : List (String × Fault)} :
      faults ≠ [] →
      (Entries.names faults).Nodup →
      (Entries.names faults).Sublist spec.names →
      (∀ entry ∈ faults, ∀ field, spec.get? entry.1 = some field →
        Fault.Fits field.content (Entries.get? entry.1 members) entry.2) →
      ObjectFaults.Fits spec members ⟨faults⟩

end

mutual

/-- A fault that fits is a proper tree. -/
theorem Fault.Fits.proper
    {content : Content}
    {value : Option Json}
    {fault : Fault} :
    fault.Fits content value → fault.Proper
  | .simple simple => .simple simple
  | .object fits => fits.proper
  | .map nonempty increasing keys fits => by
      refine .map nonempty ?_ ?_
      · exact increasing.imp fun before =>
          String.ne_of_lt (Text.bytesBefore_iff_lt.1 before)
      · intro entry member
        obtain ⟨value, found⟩ :=
          Entries.exists_get?_of_mem_names (keys entry member)
        exact (fits entry member value found).proper
  | .sequence _ nonempty increasing bounded fits => by
      refine .sequence nonempty ?_ ?_
      · exact increasing.imp Nat.ne_of_lt
      · intro entry member
        have found := List.getElem?_eq_getElem (bounded entry member)
        exact (fits entry member _ found).proper

/-- Faults of an object that fit are a proper tree. -/
theorem ObjectFaults.Fits.proper
    {spec : Spec}
    {members : Members}
    {faults : ObjectFaults} :
    faults.Fits spec members → (Fault.object faults).Proper
  | .undeclared _ _ => .single _ (.simple rfl)
  | .fields nonempty distinct declared fits => by
      refine .object nonempty distinct ?_
      intro entry member
      have named := declared.subset (Entries.mem_names_of_mem member)
      obtain ⟨field, found⟩ := Entries.exists_get?_of_mem_names named
      exact (fits entry member field found).proper

end

/-! ## Conversions -/

/-- The values that a parser makes are well formed, as are all that the library
reads or builds itself. -/
def Parser.MakesWellFormed (parser : Parser) : Prop :=
  ∀ text result, parser.parse text = some result → result.WellFormed

/-- A field parses into well-formed values if its parser makes such values. -/
def Field.ParsesWellFormed (field : Field) : Prop :=
  ∀ pipeline items parser, field.content = .leaf pipeline items →
    pipeline.parser = some parser → parser.MakesWellFormed

theorem Json.IsPlain.wellFormed
    {value : Json}
    (plain : value.IsPlain) :
    value.WellFormed := by
  cases value with
  | array items => exact plain.elim
  | object members => exact plain.elim
  | _ => trivial

theorem Parser.makesWellFormed_of_mem_builtin
    {parser : Parser}
    (builtin : parser ∈ Parser.builtin) :
    parser.MakesWellFormed := by
  intro text result parsed
  obtain ⟨_, plain, _⟩ := Parser.parse_of_mem_builtin builtin parsed
  exact plain.wellFormed

/-- A value that was not split passes unchanged after its conversion, even as an
array. -/
theorem Pipeline.eq_of_check_scalar
    {pipeline : Pipeline}
    {value : Option Json}
    {found : Json}
    (passed : pipeline.check (.scalar value) = .ok found) :
    value = some found := by
  unfold Pipeline.check at passed
  split at passed
  next => contradiction
  next items same =>
      cases same
      obtain ⟨values, converted, rfl, _⟩ :=
        Pipeline.checkSequence_eq_ok_iff.1 passed
      rw [(List.map_inj_right fun _ _ => Option.some.inj).1 converted]
  next scalar noArray same =>
      cases same
      exact (Pipeline.checkScalar_eq_ok_iff.1 passed).1

section Pipeline

variable
  {pipeline : Pipeline}
  (parses : ∀ parser, pipeline.parser = some parser → parser.MakesWellFormed)
  {value : Json}
  (wellFormed : value.WellFormed)

include parses wellFormed

theorem Pipeline.wellFormed_of_convert
    {result : Json}
    (converted : pipeline.convert value = some result) :
    result.WellFormed := by
  unfold Pipeline.convert at converted
  split at converted
  next parser hasParser =>
      cases value with
      | string text => exact parses parser hasParser text result converted
      | _ =>
          cases converted
          exact wellFormed
  next =>
      cases converted
      exact wellFormed

/-- What passes a pipeline is well formed. -/
theorem Pipeline.wellFormed_of_checked
    {found : Json}
    (passed : pipeline.checked value = .ok found) :
    found.WellFormed := by
  rw [Pipeline.checked] at passed
  cases preparation : pipeline.prepare value with
  | error fault => rw [preparation] at passed; cases passed
  | ok prepared =>
      rw [preparation] at passed
      rcases Pipeline.prepare_eq_ok preparation with
        ⟨origins, rfl, source⟩ | ⟨rfl, _, _⟩
      · obtain ⟨items, converted, rfl, _⟩ :=
          Pipeline.checkSequence_eq_ok_iff.1 passed
        refine Json.wellFormedItems_iff.2 ?_
        intro item member
        have converts : some item ∈ origins.map pipeline.convert :=
          converted ▸ List.mem_map_of_mem member
        obtain ⟨origin, inside, same⟩ := List.mem_map.1 converts
        refine Pipeline.wellFormed_of_convert parses ?_ same
        rcases source with rfl | ⟨pieces, rfl⟩
        · exact wellFormed.item inside
        · obtain ⟨piece, _, rfl⟩ := List.mem_map.1 inside
          trivial
      · have converted := Pipeline.eq_of_check_scalar passed
        exact Pipeline.wellFormed_of_convert parses wellFormed converted

end Pipeline

/-! ## Faults that validations find -/

/-- The faults that a spec finds in an object fit both. -/
structure Spec.FindsFitting (spec : Spec) : Prop where
  distinct : spec.names.Nodup
  fits : ∀ members, (Json.object members).WellFormed →
    ∀ faults ∈ (spec.validate members).faults?, faults.Fits spec members

section Inside

variable
  {spec : Spec}
  (finds : spec.FindsFitting)

include finds

theorem Spec.FindsFitting.fits_item
    {item : Json}
    (wellFormed : item.WellFormed) :
    ∀ fault ∈ errorOf? (itemResult spec.validate item),
      fault.Fits (.object spec) (some item) := by
  intro fault found
  cases item with
  | object members =>
      rw [errorOf?_itemResult_object] at found
      obtain ⟨faults, isFaults, rfl⟩ := Option.map_eq_some_iff.1 found
      exact .object (finds.fits members wellFormed faults isFaults)
  | _ =>
      cases found
      exact .simple rfl

theorem Spec.FindsFitting.fits_items
    {pipeline : Pipeline}
    {value passed : Json}
    (checked : pipeline.checked value = .ok passed)
    (wellFormed : passed.WellFormed) :
    ∀ fault ∈ errorOf? (validateItems spec.validate passed),
      fault.Fits (.leaf pipeline (some spec)) (some value) := by
  intro fault found
  cases passed with
  | array items =>
      rw [errorOf?_validateItems, itemFaults_map] at found
      obtain ⟨faults, nonempty, rfl, increasing, origin⟩ :=
        exists_keyed_results_of_enclosed found
      have itemAt : ∀ entry ∈ faults, ∃ item, items[entry.1]? = some item ∧
          errorOf? (itemResult spec.validate item) = some entry.2 := by
        intro entry member
        obtain ⟨⟨item, index⟩, inside, rfl, isFault⟩ := origin entry member
        exact ⟨item, List.mk_mem_zipIdx_iff_getElem?.1 inside, isFault⟩
      refine .sequence checked nonempty ?_ ?_ ?_
      · rw [List.zipIdx_map_snd] at increasing
        exact List.Pairwise.sublist increasing List.pairwise_lt_range'
      · intro entry member
        obtain ⟨item, present, _⟩ := itemAt entry member
        exact (List.getElem?_eq_some_iff.1 present).1
      · intro entry member item present
        obtain ⟨other, otherPresent, isFault⟩ := itemAt entry member
        obtain rfl : other = item := by
          rwa [otherPresent, Option.some.injEq] at present
        have itemWellFormed := wellFormed.item (List.mem_of_getElem? present)
        exact finds.fits_item itemWellFormed entry.2 isFault
  | _ =>
      cases found
      exact .simple rfl

theorem Spec.FindsFitting.fits_entries
    {members : Members}
    (wellFormed : (Json.object members).WellFormed) :
    ∀ fault ∈ (validateEntries spec.validate spec.validateBare members).fault,
      fault.Fits (.map spec) (some (.object members)) := by
  intro fault found
  rw [fault_validateEntries, entryFaults_map] at found
  obtain ⟨faults, nonempty, rfl, keys, origin⟩ :=
    exists_keyed_results_of_enclosed found
  refine .map nonempty ?_ ?_ ?_
  · have increasing : (Entries.names faults).Pairwise (· < ·) :=
      wellFormed.sorted.sublist keys
    exact increasing.imp Text.bytesBefore_iff_lt.2
  · intro entry member
    exact keys.subset (Entries.mem_names_of_mem member)
  · intro entry member value present
    obtain ⟨⟨key, other⟩, inside, rfl, isFaults⟩ := origin entry member
    have otherPresent := Entries.get?_of_mem wellFormed.sorted.nodup inside
    obtain rfl : other = value := by
      rwa [otherPresent, Option.some.injEq] at present
    rw [Spec.errorOf?_entryResult finds.distinct] at isFaults
    exact finds.fits _ (wellFormed.member inside).recordOf entry.2 isFaults

end Inside

theorem Content.fits_of_validate
    {content : Content}
    {value : Json}
    (parses : ∀ pipeline items parser, content = .leaf pipeline items →
      pipeline.parser = some parser → parser.MakesWellFormed)
    (inner : content.Inner Spec.FindsFitting)
    (wellFormed : value.WellFormed) :
    ∀ fault ∈ (content.validate value).fault,
      fault.Fits content (some value) := by
  intro fault found
  cases content with
  | leaf pipeline items =>
      rw [Content.validate_leaf, fault_ofResult] at found
      rcases isOfLeaf_or_of_kept_of_validateLeaf found with
        ofLeaf | ⟨passed, checked, inside⟩
      · exact .simple (Fault.isComposite_of_isOfLeaf ofLeaf)
      · have passedWellFormed := Pipeline.wellFormed_of_checked
          (fun parser => parses pipeline items parser rfl) wellFormed checked
        cases items with
        | none => cases inside
        | some spec =>
            exact inner.fits_items checked passedWellFormed fault inside
  | object spec =>
      cases value with
      | object members =>
          obtain ⟨faults, isFaults, rfl⟩ := Option.map_eq_some_iff.1 found
          exact .object (inner.fits members wellFormed faults isFaults)
      | _ =>
          cases found
          exact .simple rfl
  | map values =>
      cases value with
      | object members => exact inner.fits_entries wellFormed fault found
      | _ =>
          cases found
          exact .simple rfl

theorem Field.fits_of_validate
    {field : Field}
    {value : Option Json}
    (parses : field.ParsesWellFormed)
    (inner : field.content.Inner Spec.FindsFitting)
    (wellFormed : ∀ present ∈ value, present.WellFormed) :
    ∀ fault ∈ (field.validate value).fault, fault.Fits field.content value := by
  intro fault found
  rcases Field.fault_cases found with rfl | rfl | ⟨present, rfl, inside⟩
  · exact .simple rfl
  · exact .simple rfl
  · exact Content.fits_of_validate parses inner (wellFormed present rfl) fault
      inside

/-- The faults of validated fields fit if each of them does. -/
theorem fits_of_validateFields
    {fields : List (String × Field)}
    {strict : Bool}
    {members : Members}
    (distinct : (Entries.names fields).Nodup)
    (fits : ∀ entry ∈ fields,
      ∀ fault ∈ (entry.2.validate (Entries.get? entry.1 members)).fault,
        fault.Fits entry.2.content (Entries.get? entry.1 members)) :
    ∀ faults ∈ enclosed ObjectFaults.mk
        (faultsOf (Spec.fieldVerdicts ⟨fields, strict⟩ members)),
      faults.Fits ⟨fields, strict⟩ members := by
  intro faults found
  rw [Spec.fieldVerdicts, faultsOf_validateFields] at found
  obtain ⟨results, nonempty, rfl, declared, origin⟩ :=
    exists_keyed_results_of_enclosed found
  refine .fields nonempty (distinct.sublist declared) declared ?_
  intro entry member field isField
  obtain ⟨⟨name, other⟩, inside, rfl, isFault⟩ := origin entry member
  have isOther := Entries.get?_of_mem distinct inside
  obtain rfl : other = field := by
    rw [Spec.get?, isOther, Option.some.injEq] at isField
    exact isField
  exact fits _ inside entry.2 isFault

/-- A spec with distinct names finds faults that fit if the specs inside its
fields do. -/
theorem Spec.WellFormed.findsFitting
    {spec : Spec}
    (wellFormed : spec.WellFormed)
    (parses : spec.Everywhere Field.ParsesWellFormed) :
    spec.FindsFitting := by
  revert parses
  refine Spec.WellFormed.inductionOn
    (motive := fun spec =>
      spec.Everywhere Field.ParsesWellFormed → spec.FindsFitting)
    wellFormed ?_
  intro fields strict distinct inner parses
  refine ⟨distinct, ?_⟩
  intro members membersWellFormed faults found
  rw [Spec.validate_eq] at found
  cases refused : Spec.refused? ⟨fields, strict⟩ members with
  | some name =>
      rw [refused] at found
      cases found
      have least :=
        Spec.isLeastUndeclared_of_refused? membersWellFormed.sorted refused
      exact .undeclared least.present least.undeclared
  | none =>
      rw [refused] at found
      simp only [Verdict.ofFields, faults?_checked] at found
      refine fits_of_validateFields distinct ?_ faults found
      intro entry member
      obtain ⟨entryParses, insideParses⟩ :=
        Spec.everywhere_iff.1 parses entry member
      refine Field.fits_of_validate entryParses
        ((inner entry member).mp insideParses) ?_
      intro value present
      exact membersWellFormed.member (Entries.mem_of_get? present)

/-- The faults that a validation finds fit the spec and the object at every
depth. So there are located faults, their paths are distinct, and none of them
leads through the place of another. -/
theorem found_faults_fit
    {spec : Spec}
    {members : Members}
    {faults : ObjectFaults}
    (specWellFormed : spec.WellFormed)
    (parses : spec.Everywhere Field.ParsesWellFormed)
    (membersWellFormed : (Json.object members).WellFormed)
    (found : (spec.validate members).faults? = some faults) :
    faults.Fits spec members ∧
      faults.located ≠ [] ∧
      (faults.located.map LocatedFault.path).Nodup ∧
      (faults.located.map LocatedFault.path).Pairwise Path.Apart := by
  have finds := specWellFormed.findsFitting parses
  have fits := finds.fits members membersWellFormed faults found
  have apart : (faults.located.map LocatedFault.path).Pairwise Path.Apart :=
    fits.proper.distinct.paths_apart
  refine ⟨fits, fits.proper.filled.located_ne_nil, ?_, apart⟩
  exact apart.imp Path.Apart.ne

/-- A parser of the steps of a recipe: a text is a step without further
members. -/
def stepParser : Parser where
  name := "string_to_step"
  parse text := some (.object [("text", .string text)])

theorem stepParser_makesWellFormed : stepParser.MakesWellFormed := by
  intro text result parsed
  cases parsed
  exact ⟨List.pairwise_singleton _ _, trivial, trivial⟩

/-- A spec for recipes: steps, which may be texts but must say how long they
take, and the amounts of the ingredients. -/
def recipeSpec : Spec :=
  .declare
    (.declare .empty
      "steps" (.leaf .object
        [.parser stepParser,
          .items (.declare .empty "minutes" (.leaf .number [.required]))]))
    "amounts" (.values (.refuseUndeclared
      (.declare .empty bareField (.leaf .number [.parser .integer]))))

theorem recipeSpec_built : recipeSpec.Built := by
  refine .declare "amounts" (.declare "steps" .empty (.leaf .object ?_))
    (.values (.refuseUndeclared
      (.declare bareField .empty (.leaf .number (by simp)))))
  intro spec member
  simp only [List.mem_cons, reduceCtorEq, Modifier.items.injEq,
    List.not_mem_nil, or_false, false_or] at member
  subst member
  exact .declare "minutes" .empty (.leaf .number (by simp))

theorem recipeSpec_parsesWellFormed :
    recipeSpec.Everywhere Field.ParsesWellFormed := by
  have integer : Parser.integer ∈ Parser.builtin := by simp [Parser.builtin]
  refine ⟨⟨?steps, ⟨?minutes, trivial⟩, trivial⟩,
    ⟨?amounts, ⟨?amount, trivial⟩, trivial⟩, trivial⟩
  case steps =>
    intro pipeline items parser content same
    cases content
    cases same
    exact stepParser_makesWellFormed
  case minutes =>
    intro pipeline items parser content same
    cases content
    cases same
  case amounts =>
    intro pipeline items parser content same
    cases content
  case amount =>
    intro pipeline items parser content same
    cases content
    cases same
    exact Parser.makesWellFormed_of_mem_builtin integer

/-- A recipe with an amount that is no number and one of an unknown unit, the
first and last steps of which take an unknown time. -/
def recipe : Members :=
  [("amounts", .object
      [("flour", .string "500"), ("salt", .string "a pinch"),
        ("sugar", .object [("unit", .string "g")])]),
    ("steps", .array
      [.string "Mix", .object [("minutes", .int 30), ("text", .string "Bake")],
        .string "Serve"])]

theorem recipe_wellFormed : (Json.object recipe).WellFormed := by
  simp only [recipe, Json.int, Json.WellFormed, Json.WellFormedMembers,
    Json.WellFormedItems, Entries.Sorted]
  decide

/-- The faults of the recipe. -/
def recipeFaults : ObjectFaults :=
  ⟨[("steps", .sequence ⟨[
      (0, .object (.single "minutes" .missing)),
      (2, .object (.single "minutes" .missing))]⟩),
    ("amounts", .map ⟨[
      ("salt", .single bareField (.illTyped .unparsed none)),
      ("sugar", .single "unit" .undeclared)]⟩)]⟩

/-- The faults of the recipe stand in the order of the declarations, and among
them are those of steps that a parser made. -/
theorem recipeFaults_fit :
    (recipeSpec.validate recipe).faults? = some recipeFaults ∧
      recipeFaults.Fits recipeSpec recipe ∧
      (recipeFaults.located.map LocatedFault.path).Pairwise Path.Apart := by
  have found : (recipeSpec.validate recipe).faults? = some recipeFaults := rfl
  obtain ⟨fits, _, _, apart⟩ := found_faults_fit recipeSpec_built.wellFormed
    recipeSpec_parsesWellFormed recipe_wellFormed found
  exact ⟨found, fits, apart⟩

end ObjectSpec
