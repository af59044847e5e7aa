import ObjectSpec.Proofs.Verdicts

/-!
# Sequences item by item

The value of a leaf can come to a sequence in three ways: as an array, as a
string that is split, and as a string that its parser makes an array of. The
verdict on it is the same in all three: the items are kept in their places if
all of them are accepted, and otherwise the first one that is not is at fault,
with its index and with what was left of it.
-/

namespace ObjectSpec

namespace Pipeline

/-- The items that a value comes to where it is checked as a sequence. An item
that the parser could not convert has left nothing. -/
inductive Itemized (pipeline : Pipeline) : Json → List (Option Json) → Prop
  /-- The items of an array are converted one by one. -/
  | array (items : List Json) :
      pipeline.Itemized (.array items) (items.map pipeline.convert)
  /-- The pieces of a string are converted one by one. -/
  | pieces {delimiter : String} (text : String) :
      pipeline.delimiter = some delimiter →
      pipeline.Itemized (.string text)
        ((Text.split delimiter text).map fun piece =>
          pipeline.convert (.string piece))
  /-- The array that a parser makes of a whole string is not converted again. -/
  | parsed {parser : Parser} {text : String} {items : List Json} :
      pipeline.delimiter = none →
      pipeline.parser = some parser →
      parser.parse text = some (.array items) →
      pipeline.Itemized (.string text) (items.map some)

/-- An item is at fault for what was left of it: nothing if it could not be
converted, or a value that does not satisfy the predicate. -/
inductive Blames (pipeline : Pipeline) : Option Json → Offender → Prop
  /-- The parser could not convert the item. -/
  | unparsed : pipeline.Blames none .unparsed
  /-- The converted item does not satisfy the predicate. -/
  | value {item : Json} :
      pipeline.predicate.holds item = false →
      pipeline.Blames (some item) (.value item)

/-- The first item at fault: those before it were converted and satisfy the
predicate. -/
structure BlamesFirst
    (pipeline : Pipeline)
    (items : List (Option Json))
    (index : Nat)
    (offender : Offender) :
    Prop where
  item : ∃ item, items[index]? = some item ∧ pipeline.Blames item offender
  before : ∀ earlier < index,
    ∃ item, items[earlier]? = some (some item) ∧
      pipeline.predicate.holds item = true

/-! ## Three ways to a sequence -/

section

variable
  {pipeline : Pipeline}
  {value : Json}
  {items : List (Option Json)}

theorem convert_string_eq_parse
    {parser : Parser}
    (hasParser : pipeline.parser = some parser)
    (text : String) :
    pipeline.convert (.string text) = parser.parse text := by
  rw [convert, hasParser]
  rfl

/-- Only a parser makes an array of what is none. -/
theorem exists_parser_of_convert_eq_array
    {made : List Json}
    (noArray : ∀ items, value ≠ .array items)
    (converted : pipeline.convert value = some (.array made)) :
    ∃ parser text, pipeline.parser = some parser ∧ value = .string text ∧
      parser.parse text = some (.array made) := by
  rw [convert] at converted
  split at converted
  next parser hasParser =>
      cases value with
      | string text => exact ⟨parser, text, hasParser, rfl, converted⟩
      | array items => exact absurd rfl (noArray items)
      | _ => cases converted
  next =>
      cases converted
      exact absurd rfl (noArray made)

/-- There are no other ways to be checked as a sequence. -/
theorem itemized_iff :
    pipeline.Itemized value items ↔
      pipeline.prepare value = .ok (.sequence items) ∨
        ∃ made, pipeline.prepare value = .ok (.scalar (some (.array made))) ∧
          items = made.map some := by
  constructor
  · intro itemized
    cases itemized with
    | array items => exact .inl (pipeline.prepare_array items)
    | pieces text delimited => exact .inl (prepare_string delimited text)
    | parsed noDelimiter hasParser made =>
        refine .inr ⟨_, ?_, rfl⟩
        rw [prepare_scalar noDelimiter fun _ => Json.noConfusion,
          convert_string_eq_parse hasParser, made]
  · rintro (isSequence | ⟨made, isScalar, rfl⟩)
    · unfold prepare at isSequence
      split at isSequence
      next delimiter text delimited =>
          cases isSequence
          exact .pieces text delimited
      next items =>
          cases isSequence
          exact .array items
      next => cases isSequence
      next => cases isSequence
    · rcases prepare_eq_ok isScalar with
        ⟨_, same, _⟩ | ⟨same, noDelimiter, noArray⟩
      · cases same
      · obtain ⟨parser, text, hasParser, rfl, parsed⟩ :=
          exists_parser_of_convert_eq_array noArray
            (Prepared.scalar.inj same).symm
        exact .parsed noDelimiter hasParser parsed

theorem Itemized.checked_eq
    (itemized : pipeline.Itemized value items) :
    pipeline.checked value = pipeline.checkSequence items := by
  rw [checked]
  rcases itemized_iff.1 itemized with isSequence | ⟨made, isScalar, rfl⟩
  · rw [isSequence]
    rfl
  · rw [isScalar]
    rfl

theorem Itemized.ne_null
    (itemized : pipeline.Itemized value items) :
    value ≠ .null := by
  cases itemized <;> exact nofun

/-! ## The first item at fault -/

theorem accepts_eq_true_iff {item : Option Json} :
    pipeline.accepts item = true ↔
      ∃ value, item = some value ∧ pipeline.predicate.holds value = true := by
  cases item <;> simp [accepts]

/-- An item that is not accepted is at fault for the result of its
conversion. -/
theorem blames_ofResult
    {item : Option Json}
    (refused : pipeline.accepts item = false) :
    pipeline.Blames item (.ofResult item) := by
  cases item with
  | none => exact .unparsed
  | some value => exact .value refused

/-- Where the first item is accepted, the first one at fault is that of the
others. -/
theorem blamesFirst_cons_of_accepts
    {item : Option Json}
    {rest : List (Option Json)}
    {index : Nat}
    {offender : Offender}
    (accepted : pipeline.accepts item = true)
    (blamed : pipeline.BlamesFirst rest index offender) :
    pipeline.BlamesFirst (item :: rest) (index + 1) offender := by
  obtain ⟨inRest, beforeInRest⟩ := blamed
  refine ⟨inRest, ?_⟩
  intro earlier isEarlier
  cases earlier with
  | zero =>
      obtain ⟨value, rfl, holds⟩ := accepts_eq_true_iff.1 accepted
      exact ⟨value, rfl, holds⟩
  | succ earlier =>
      exact beforeInRest earlier (Nat.lt_of_succ_lt_succ isEarlier)

/-- The search for a refused item finds the first one, its index counted from
the start. -/
theorem blamesFirst_of_firstRefused?
    {start index : Nat}
    {item : Option Json}
    (found : pipeline.firstRefused? start items = some (index, item)) :
    start ≤ index ∧
      pipeline.BlamesFirst items (index - start) (.ofResult item) := by
  induction items generalizing start with
  | nil => cases found
  | cons first rest inductionHypothesis =>
      rw [firstRefused?] at found
      split at found
      next accepted =>
          obtain ⟨atLeast, blamed⟩ := inductionHypothesis found
          have shifted : index - start = index - (start + 1) + 1 := by omega
          rw [shifted]
          exact ⟨Nat.le_of_succ_le atLeast,
            blamesFirst_cons_of_accepts accepted blamed⟩
      next refused =>
          cases found
          rw [Nat.sub_self]
          have blamed := blames_ofResult (Bool.eq_false_iff.2 refused)
          refine ⟨Nat.le_refl _, ⟨item, rfl, blamed⟩, ?_⟩
          intro earlier isEarlier
          exact absurd isEarlier (Nat.not_lt_zero earlier)

/-- A sequence passes exactly if each item is accepted. -/
theorem exists_checkSequence_eq_ok_iff :
    (∃ found, pipeline.checkSequence items = .ok found) ↔
      ∀ item ∈ items, ∃ value, item = some value ∧
        pipeline.predicate.holds value = true := by
  constructor
  · rintro ⟨found, passed⟩ item member
    obtain ⟨values, rfl, _, holds⟩ := checkSequence_eq_ok_iff.1 passed
    obtain ⟨value, inside, rfl⟩ := List.mem_map.1 member
    exact ⟨value, rfl, holds value inside⟩
  · intro accepted
    obtain ⟨values, same, holds⟩ := exists_values_of_accepts fun item member =>
      accepts_eq_true_iff.2 (accepted item member)
    exact ⟨.array values, checkSequence_eq_ok_iff.2 ⟨values, same, rfl, holds⟩⟩

/-- A sequence is refused for its first item at fault. -/
theorem exists_blamesFirst_of_checkSequence
    {fault : Fault}
    (refused : pipeline.checkSequence items = .error fault) :
    ∃ index offender, pipeline.BlamesFirst items index offender ∧
      fault = .illTyped offender (some index) := by
  rw [checkSequence] at refused
  split at refused
  next => cases refused
  next index item found =>
      cases refused
      obtain ⟨_, blamed⟩ := blamesFirst_of_firstRefused? found
      exact ⟨index, .ofResult item, blamed, rfl⟩

end

end Pipeline

/-! ## Verdicts on sequences -/

/-- Without records and a spec for items, the verdict on a sequence is that of
the check of its items. -/
theorem Field.validate_of_itemized
    {pipeline : Pipeline}
    {value : Json}
    {items : List (Option Json)}
    (required notNull : Bool)
    (noLookup : pipeline.lookup = none)
    (itemized : pipeline.Itemized value items) :
    Field.validate ⟨required, notNull, .leaf pipeline none⟩ (some value) =
      .ofResult (pipeline.checkSequence items) := by
  rw [Field.validate_some itemized.ne_null, Content.validate_leaf,
    validateLeaf_eq, itemized.checked_eq, noLookup]
  cases pipeline.checkSequence items <;> rfl

theorem Pipeline.Itemized.sequenceOnly
    {pipeline : Pipeline}
    {value : Json}
    {items : List (Option Json)}
    (itemized : pipeline.Itemized value items)
    (sequenceOnly : Bool) :
    Pipeline.Itemized { pipeline with sequenceOnly := sequenceOnly } value
      items := by
  cases itemized with
  | array items => exact .array items
  | pieces text delimited => exact .pieces text delimited
  | parsed noDelimiter hasParser made =>
      exact .parsed noDelimiter hasParser made

/-- A leaf whose value comes to a sequence is valid exactly if each item was
converted and satisfies the predicate, and then the items are kept in their
places. Otherwise the first item that was not converted or does not satisfy the
predicate is at fault. Whether the value must be a sequence makes no
difference. -/
theorem sequence_leaf_blames_first_refused_item
    {pipeline : Pipeline}
    {value : Json}
    {items : List (Option Json)}
    (required notNull : Bool)
    (noLookup : pipeline.lookup = none)
    (itemized : pipeline.Itemized value items) :
    let verdict :=
      Field.validate ⟨required, notNull, .leaf pipeline none⟩ (some value)
    (verdict.isOk = true ↔
        ∀ item ∈ items, ∃ kept, item = some kept ∧
          pipeline.predicate.holds kept = true) ∧
      (verdict.isOk = true →
        ∃ kept : List Json, items = kept.map some ∧
          verdict = .ofValue (.array kept)) ∧
      (verdict.isOk = false →
        ∃ index offender, pipeline.BlamesFirst items index offender ∧
          verdict = .ofFault (.illTyped offender (some index))) ∧
      ∀ sequenceOnly,
        Field.validate
            ⟨required, notNull,
              .leaf { pipeline with sequenceOnly := sequenceOnly } none⟩
            (some value) =
          verdict := by
  intro verdict
  have isCheck : verdict = .ofResult (pipeline.checkSequence items) :=
    Field.validate_of_itemized required notNull noLookup itemized
  refine ⟨?accepted, ?kept, ?blamed, ?sequenceOnly⟩
  case accepted =>
    rw [isCheck, isOk_ofResult_eq_true_iff,
      Pipeline.exists_checkSequence_eq_ok_iff]
  case kept =>
    intro isOk
    rw [isCheck, isOk_ofResult_eq_true_iff] at isOk
    obtain ⟨found, passed⟩ := isOk
    obtain ⟨kept, same, rfl, _⟩ := Pipeline.checkSequence_eq_ok_iff.1 passed
    rw [passed] at isCheck
    exact ⟨kept, same, isCheck⟩
  case blamed =>
    intro isFault
    rw [isCheck, isOk_ofResult_eq_false_iff] at isFault
    obtain ⟨fault, refused⟩ := isFault
    obtain ⟨index, offender, blamed, rfl⟩ :=
      Pipeline.exists_blamesFirst_of_checkSequence refused
    rw [refused] at isCheck
    exact ⟨index, offender, blamed, isCheck⟩
  case sequenceOnly =>
    intro sequenceOnly
    have otherItemized := itemized.sequenceOnly sequenceOnly
    have sameCheck :
        Pipeline.checkSequence { pipeline with sequenceOnly := sequenceOnly } =
          pipeline.checkSequence :=
      Pipeline.checkSequence_congr rfl
    rw [isCheck, ← sameCheck]
    exact Field.validate_of_itemized required notNull noLookup otherItemized

/-- A parser of sizes: a number, or a word that stands for several. -/
def sizeParser : Parser where
  name := "string_to_size"
  parse text :=
    if text = "small" then some (.array [.int 34, .int 36])
    else Parser.integer.parse text

/-- Sizes are numbers. -/
def sizes : Pipeline where
  delimiter := none
  parser := some sizeParser
  sequenceOnly := true
  predicate := .number
  lookup := none

theorem sizes_itemized_small :
    sizes.Itemized (.string "small") [some (.int 34), some (.int 36)] := by
  have parsed : sizeParser.parse "small" = some (.array [.int 34, .int 36]) :=
    rfl
  exact .parsed rfl rfl parsed

theorem sizes_itemized_array :
    sizes.Itemized (.array [.string "38", .bool true, .string "tall"])
      [some (.int 38), some (.bool true), none] :=
  .array [.string "38", .bool true, .string "tall"]

/-- A word that stands for several sizes is kept as the array of them. In an
array of sizes the first one at fault is a converted one that is no number, and
not the later one that could not be converted. -/
theorem sizes_judged_item_by_item :
    Field.validate ⟨true, false, .leaf sizes none⟩ (some (.string "small")) =
        .ofValue (.array [.int 34, .int 36]) ∧
      Field.validate ⟨true, false, .leaf sizes none⟩
          (some (.array [.string "38", .bool true, .string "tall"])) =
        .ofFault (.illTyped (.value (.bool true)) (some 1)) ∧
      sizes.BlamesFirst [some (.int 38), some (.bool true), none] 1
        (.value (.bool true)) := by
  obtain ⟨smallAccepted, smallKept, _, _⟩ :=
    sequence_leaf_blames_first_refused_item true false rfl sizes_itemized_small
  obtain ⟨_, _, arrayBlamed, _⟩ :=
    sequence_leaf_blames_first_refused_item true false rfl sizes_itemized_array
  have smallOk := smallAccepted.2 (by simp [sizes, Predicate.number, Json.int])
  obtain ⟨kept, same, smallVerdict⟩ := smallKept smallOk
  obtain ⟨index, offender, blamed, arrayVerdict⟩ := arrayBlamed rfl
  have keptNumbers : kept = [.int 34, .int 36] := by
    have numbers : [.int 34, .int 36].map some = kept.map some := same
    exact (List.map_inj_right fun _ _ => Option.some.inj).1 numbers.symm
  have fault : some (Fault.illTyped (.value (.bool true)) (some 1)) =
      some (.illTyped offender (some index)) :=
    congrArg FieldVerdict.fault arrayVerdict
  rw [keptNumbers] at smallVerdict
  cases fault
  exact ⟨smallVerdict, arrayVerdict, blamed⟩

end ObjectSpec
