import ObjectSpec.Validation.Pipeline

/-!
# What pipelines and lookups give

A pipeline ends in a value whose items satisfy its predicate or in one fault
that consists of no others, and so does a lookup after it.
-/

namespace ObjectSpec

/-! ## Refusals -/

/-- Whether a fault is one that a leaf finds in its value before the items of a
sequence are looked into. -/
def Fault.isOfLeaf : Fault → Bool
  | .illTyped _ _ => true
  | .notSequence _ => true
  | .recordsMissing _ _ => true
  | .lookup _ => true
  | _ => false

theorem Fault.isComposite_of_isOfLeaf
    {fault : Fault}
    (ofLeaf : fault.isOfLeaf = true) :
    fault.isComposite = false := by
  cases fault with
  | sequence faults => cases ofLeaf
  | object faults => cases ofLeaf
  | map faults => cases ofLeaf
  | _ => rfl

theorem Fault.ne_undeclared_of_isOfLeaf
    {fault : Fault}
    (ofLeaf : fault.isOfLeaf = true) :
    fault ≠ .undeclared := by
  rintro rfl
  cases ofLeaf

theorem Pipeline.checkSequence_error
    {pipeline : Pipeline}
    {items : List (Option Json)}
    {fault : Fault}
    (refused : pipeline.checkSequence items = .error fault) :
    fault.isOfLeaf = true := by
  rw [Pipeline.checkSequence] at refused
  split at refused
  next => cases refused
  next => cases refused; rfl

theorem Pipeline.checkScalar_error
    {pipeline : Pipeline}
    {value : Option Json}
    {fault : Fault}
    (refused : pipeline.checkScalar value = .error fault) :
    fault.isOfLeaf = true := by
  unfold Pipeline.checkScalar at refused
  split at refused
  next => cases refused; rfl
  next =>
      split at refused
      next =>
          split at refused
          next => cases refused
          next => cases refused; rfl
      next => cases refused; rfl

/-- What a pipeline refuses is at fault for a reason of its own. -/
theorem Pipeline.checked_error
    {pipeline : Pipeline}
    {value : Json}
    {fault : Fault}
    (refused : pipeline.checked value = .error fault) :
    fault.isOfLeaf = true := by
  rw [Pipeline.checked] at refused
  split at refused
  next prepared _ =>
      cases prepared with
      | sequence items => exact Pipeline.checkSequence_error refused
      | scalar found =>
          unfold Pipeline.check at refused
          split at refused
          next => exact Pipeline.checkSequence_error refused
          next => exact Pipeline.checkSequence_error refused
          next => exact Pipeline.checkScalar_error refused
  next unprepared =>
      cases refused
      unfold Pipeline.prepare at unprepared
      split at unprepared
      next => cases unprepared
      next => cases unprepared
      next => cases unprepared; rfl
      next => cases unprepared

/-- A failed lookup is at fault for a reason of its own. -/
theorem LookupRules.resolve_error
    {rules : LookupRules}
    {delimited : Bool}
    {value : Json}
    {fault : Fault}
    (refused : rules.resolve delimited value = .error fault) :
    fault.isOfLeaf = true := by
  rw [LookupRules.resolve] at refused
  split at refused
  next => cases refused; rfl
  next =>
      simp only at refused
      split at refused
      next => cases refused; rfl
      next => cases refused

/-! ## What a pipeline depends on -/

theorem Pipeline.prepare_congr
    {left right : Pipeline}
    (delimiter : left.delimiter = right.delimiter)
    (parser : left.parser = right.parser) :
    left.prepare = right.prepare := by
  have convert : left.convert = right.convert := by
    funext value
    rw [Pipeline.convert, Pipeline.convert, parser]
  funext value
  unfold Pipeline.prepare
  rw [delimiter, convert]

/-- Which items of a sequence are refused depends on the predicate alone. -/
theorem Pipeline.checkSequence_congr
    {left right : Pipeline}
    (predicate : left.predicate = right.predicate) :
    left.checkSequence = right.checkSequence := by
  have accepts : left.accepts = right.accepts := by
    funext item
    cases item with
    | none => rfl
    | some value => rw [Pipeline.accepts, Pipeline.accepts, predicate]
  funext items
  have refused (start : Nat) :
      left.firstRefused? start items = right.firstRefused? start items := by
    induction items generalizing start with
    | nil => rfl
    | cons item rest inductionHypothesis =>
        rw [Pipeline.firstRefused?, Pipeline.firstRefused?, accepts,
          inductionHypothesis]
  rw [Pipeline.checkSequence, Pipeline.checkSequence, refused]

/-- Splitting, conversion and check do not depend on the lookup. -/
theorem Pipeline.checked_congr
    {left right : Pipeline}
    (delimiter : left.delimiter = right.delimiter)
    (parser : left.parser = right.parser)
    (sequenceOnly : left.sequenceOnly = right.sequenceOnly)
    (predicate : left.predicate = right.predicate) :
    left.checked = right.checked := by
  funext value
  rw [Pipeline.checked, Pipeline.checked,
    Pipeline.prepare_congr delimiter parser]
  cases right.prepare value with
  | error fault => rfl
  | ok prepared =>
      simp only
      unfold Pipeline.check Pipeline.checkScalar
      rw [Pipeline.checkSequence_congr predicate, sequenceOnly, predicate]

/-! ## What passes -/

/-- What a pipeline lets through: a sequence of values that satisfy the
predicate, or one such value where it need not be a sequence. -/
def Pipeline.Admits (pipeline : Pipeline) : Json → Prop
  | .array items => ∀ item ∈ items, pipeline.predicate.holds item = true
  | value =>
      pipeline.sequenceOnly = false ∧ pipeline.predicate.holds value = true

/-- A sequence has no refused item exactly if every item is accepted. -/
theorem Pipeline.firstRefused?_eq_none_iff
    {pipeline : Pipeline}
    {start : Nat}
    {items : List (Option Json)} :
    pipeline.firstRefused? start items = none ↔
      ∀ item ∈ items, pipeline.accepts item = true := by
  induction items generalizing start with
  | nil => simp [Pipeline.firstRefused?]
  | cons item rest inductionHypothesis =>
      rw [Pipeline.firstRefused?, List.forall_mem_cons]
      by_cases accepted : pipeline.accepts item = true
      · rw [if_pos accepted, inductionHypothesis]
        exact (and_iff_right accepted).symm
      · simp [accepted]

theorem Pipeline.exists_values_of_accepts
    {pipeline : Pipeline}
    {items : List (Option Json)}
    (accepted : ∀ item ∈ items, pipeline.accepts item = true) :
    ∃ values : List Json, items = values.map some ∧
      ∀ value ∈ values, pipeline.predicate.holds value = true := by
  induction items with
  | nil => exact ⟨[], rfl, by simp⟩
  | cons item rest inductionHypothesis =>
      obtain ⟨itemAccepted, restAccepted⟩ := List.forall_mem_cons.1 accepted
      obtain ⟨values, rfl, holds⟩ := inductionHypothesis restAccepted
      cases item with
      | none => cases itemAccepted
      | some value =>
          exact ⟨value :: values, rfl,
            List.forall_mem_cons.2 ⟨itemAccepted, holds⟩⟩

/-- A sequence passes exactly if all its items have values that satisfy the
predicate. -/
theorem Pipeline.checkSequence_eq_ok_iff
    {pipeline : Pipeline}
    {items : List (Option Json)}
    {found : Json} :
    pipeline.checkSequence items = .ok found ↔
      ∃ values : List Json, items = values.map some ∧ found = .array values ∧
        ∀ value ∈ values, pipeline.predicate.holds value = true := by
  rw [Pipeline.checkSequence]
  constructor
  · intro passed
    split at passed
    next noneRefused =>
        cases passed
        have accepted := Pipeline.firstRefused?_eq_none_iff.1 noneRefused
        obtain ⟨values, rfl, holds⟩ :=
          Pipeline.exists_values_of_accepts accepted
        exact ⟨values, rfl, by simp, holds⟩
    next => cases passed
  · rintro ⟨values, rfl, rfl, holds⟩
    have noneRefused : pipeline.firstRefused? 0 (values.map some) = none := by
      refine Pipeline.firstRefused?_eq_none_iff.2 ?_
      intro item member
      obtain ⟨value, valueMember, rfl⟩ := List.mem_map.1 member
      exact holds value valueMember
    simp [noneRefused]

/-- A value that is no sequence passes exactly if it satisfies the predicate and
need not be one. -/
theorem Pipeline.checkScalar_eq_ok_iff
    {pipeline : Pipeline}
    {value : Option Json}
    {found : Json} :
    pipeline.checkScalar value = .ok found ↔
      value = some found ∧ pipeline.sequenceOnly = false ∧
        pipeline.predicate.holds found = true := by
  unfold Pipeline.checkScalar
  constructor
  · intro passed
    split at passed
    next => cases passed
    next free =>
        split at passed
        next result =>
            split at passed
            next holds =>
                cases passed
                exact ⟨rfl, Bool.not_eq_true _ ▸ free, holds⟩
            next => cases passed
        next => cases passed
  · rintro ⟨rfl, free, holds⟩
    simp [free, holds]

theorem Pipeline.check_scalar
    {value : Json}
    (pipeline : Pipeline)
    (noArray : ∀ items, value ≠ .array items) :
    pipeline.check (.scalar (some value)) =
      pipeline.checkScalar (some value) := by
  cases value with
  | array items => exact absurd rfl (noArray items)
  | _ => rfl

/-- The items of a prepared sequence are conversions of pieces of a string or of
the items of an array, and what is no sequence is the conversion of a value that
is neither split nor an array. -/
theorem Pipeline.prepare_eq_ok
    {pipeline : Pipeline}
    {value : Json}
    {prepared : Prepared}
    (found : pipeline.prepare value = .ok prepared) :
    (∃ origins : List Json,
        prepared = .sequence (origins.map pipeline.convert) ∧
        (value = .array origins ∨
          ∃ pieces : List String, origins = pieces.map .string)) ∨
      (prepared = .scalar (pipeline.convert value) ∧ pipeline.delimiter = none ∧
        ∀ items, value ≠ .array items) := by
  unfold prepare at found
  split at found
  next delimiter text _ =>
      cases found
      refine .inl ⟨(Text.split delimiter text).map .string, ?_, .inr ⟨_, rfl⟩⟩
      rw [List.map_map]
      rfl
  next items =>
      cases found
      exact .inl ⟨items, rfl, .inl rfl⟩
  next => cases found
  next noDelimiter noArray =>
      cases found
      exact .inr ⟨rfl, noDelimiter, noArray⟩

/-- Without a delimiter a value that is no array is converted as a whole. -/
theorem Pipeline.prepare_scalar
    {pipeline : Pipeline}
    {value : Json}
    (noDelimiter : pipeline.delimiter = none)
    (noArray : ∀ items, value ≠ .array items) :
    pipeline.prepare value = .ok (.scalar (pipeline.convert value)) := by
  unfold prepare
  rw [noDelimiter]
  cases value with
  | array items => exact absurd rfl (noArray items)
  | _ => rfl

/-- With a delimiter a string is split, and its pieces are converted. -/
theorem Pipeline.prepare_string
    {pipeline : Pipeline}
    {delimiter : String}
    (delimited : pipeline.delimiter = some delimiter)
    (text : String) :
    pipeline.prepare (.string text) =
      .ok (.sequence ((Text.split delimiter text).map fun piece =>
        pipeline.convert (.string piece))) := by
  unfold prepare
  rw [delimited]

theorem Pipeline.prepare_array
    (pipeline : Pipeline)
    (items : List Json) :
    pipeline.prepare (.array items) =
      .ok (.sequence (items.map pipeline.convert)) := by
  unfold prepare
  cases pipeline.delimiter <;> rfl

/-- Only strings are converted. -/
theorem Pipeline.convert_object
    (pipeline : Pipeline)
    (members : Members) :
    pipeline.convert (.object members) = some (.object members) := by
  rw [convert]
  cases pipeline.parser <;> rfl

/-- The items of an array are converted one by one, with or without a
delimiter. -/
theorem Pipeline.checked_array
    (pipeline : Pipeline)
    (items : List Json) :
    pipeline.checked (.array items) =
      pipeline.checkSequence (items.map pipeline.convert) := by
  rw [Pipeline.checked, Pipeline.prepare]
  cases pipeline.delimiter <;> rfl

theorem Pipeline.admits_of_checkSequence
    {pipeline : Pipeline}
    {items : List (Option Json)}
    {found : Json}
    (passed : pipeline.checkSequence items = .ok found) :
    pipeline.Admits found := by
  obtain ⟨values, _, rfl, holds⟩ := Pipeline.checkSequence_eq_ok_iff.1 passed
  exact holds

theorem Pipeline.admits_of_checkScalar
    {pipeline : Pipeline}
    {value : Option Json}
    {found : Json}
    (noArray : ∀ items, value ≠ some (.array items))
    (passed : pipeline.checkScalar value = .ok found) :
    pipeline.Admits found := by
  obtain ⟨rfl, free, holds⟩ := Pipeline.checkScalar_eq_ok_iff.1 passed
  cases found with
  | array items => exact absurd rfl (noArray items)
  | _ => exact ⟨free, holds⟩

/-- What passes the pipeline is what it admits, whatever its parser makes of the
input. -/
theorem Pipeline.admits_of_checked
    {pipeline : Pipeline}
    {value found : Json}
    (passed : pipeline.checked value = .ok found) :
    pipeline.Admits found := by
  rw [Pipeline.checked] at passed
  split at passed
  next prepared _ =>
      unfold Pipeline.check at passed
      split at passed
      next => exact Pipeline.admits_of_checkSequence passed
      next => exact Pipeline.admits_of_checkSequence passed
      next scalar noArray _ =>
          exact Pipeline.admits_of_checkScalar noArray passed
  next => cases passed

end ObjectSpec
