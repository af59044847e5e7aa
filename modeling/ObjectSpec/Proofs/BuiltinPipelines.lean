import ObjectSpec.Proofs.Leaves

/-!
# Pipelines of the library

Pipelines without a lookup whose predicate and parser are those of the library
leave their results alone. The pieces of a string come back as an array, what a
parser made is no string that it would change, and no predicate of the library
looks into objects.
-/

namespace ObjectSpec

/-! ## Parsers and predicates of the library -/

/-- A value that is neither an array nor an object. -/
def Json.IsPlain : Json → Prop
  | .array _ => False
  | .object _ => False
  | _ => True

/-- What a parser of the library makes of a string it leaves alone, and only one
of the parsers makes `null`. -/
theorem Parser.parse_of_mem_builtin
    {parser : Parser}
    {text : String}
    {result : Json}
    (builtin : parser ∈ Parser.builtin)
    (parsed : parser.parse text = some result) :
    parser.apply result = some result ∧ result.IsPlain ∧
      (result = .null → parser = .boolean) := by
  simp only [Parser.builtin, List.mem_cons, List.not_mem_nil,
    or_false] at builtin
  rcases builtin with rfl | rfl | rfl | rfl
  · obtain ⟨number, _, rfl⟩ := Option.map_eq_some_iff.1 parsed
    exact ⟨rfl, trivial, nofun⟩
  · obtain ⟨number, _, rfl⟩ := Option.map_eq_some_iff.1 parsed
    exact ⟨rfl, trivial, nofun⟩
  · obtain rfl := Option.some.inj parsed
    cases truthValue? text with
    | none => exact ⟨rfl, trivial, fun _ => rfl⟩
    | some value => exact ⟨rfl, trivial, nofun⟩
  · obtain rfl := Option.some.inj parsed
    cases truthValue? text with
    | none => exact ⟨by simp [apply, booleanOrAll, truthValue?], trivial, nofun⟩
    | some value => exact ⟨rfl, trivial, nofun⟩

/-- The predicates of the library do not look into objects. -/
theorem Predicate.holds_object_of_mem_builtin
    {predicate : Predicate}
    (builtin : predicate ∈ Predicate.builtin)
    (members others : Members) :
    predicate.holds (.object members) = predicate.holds (.object others) := by
  simp only [Predicate.builtin, List.mem_cons, List.not_mem_nil,
    or_false] at builtin
  rcases builtin with
    rfl | rfl | rfl | rfl | rfl | rfl | rfl | rfl | rfl | rfl | rfl | rfl <;>
    rfl

/-! ## Pipelines -/

/-- A pipeline without a lookup, whose predicate and parser are those of the
library. -/
structure Pipeline.BuiltinOnly (pipeline : Pipeline) : Prop where
  noLookup : pipeline.lookup = none
  predicate : pipeline.predicate ∈ Predicate.builtin
  parser : ∀ parser, pipeline.parser = some parser → parser ∈ Parser.builtin

namespace Pipeline.BuiltinOnly

variable
  {pipeline : Pipeline}
  (builtin : pipeline.BuiltinOnly)

include builtin

/-- A conversion leaves its results alone. What is no string it returns, and
from a string it makes a plain value. -/
theorem convert_result
    {value result : Json}
    (converted : pipeline.convert value = some result) :
    pipeline.convert result = some result ∧
      (result = value ∨ result.IsPlain) ∧
      (result = .null → value = .null ∨ pipeline.parser = some .boolean) := by
  rw [convert] at converted
  rw [convert]
  cases hasParser : pipeline.parser with
  | none =>
      rw [hasParser] at converted
      obtain rfl := Option.some.inj converted
      exact ⟨rfl, .inl rfl, .inl⟩
  | some parser =>
      rw [hasParser] at converted
      cases value with
      | string text =>
          obtain ⟨again, plain, isNull⟩ :=
            Parser.parse_of_mem_builtin (builtin.parser parser hasParser)
              converted
          exact ⟨again, .inr plain,
            fun null => .inr (congrArg some (isNull null))⟩
      | _ =>
          obtain rfl := Option.some.inj converted
          exact ⟨rfl, .inl rfl, .inl⟩

/-- What passes is an array of items that the conversion leaves alone, or the
conversion of a value that is no sequence. -/
theorem converted_of_checked
    {value found : Json}
    (passed : pipeline.checked value = .ok found) :
    (∃ items, found = .array items ∧
        pipeline.checkSequence (items.map pipeline.convert) = .ok found) ∨
      (pipeline.convert value = some found ∧ pipeline.delimiter = none ∧
        (∀ items, found ≠ .array items) ∧
        pipeline.checkScalar (some found) = .ok found) := by
  rw [checked] at passed
  cases preparation : pipeline.prepare value with
  | error fault => rw [preparation] at passed; cases passed
  | ok prepared =>
      rw [preparation] at passed
      rcases prepare_eq_ok preparation with
        ⟨origins, rfl, _⟩ | ⟨rfl, noDelimiter, noArray⟩
      · obtain ⟨items, converted, rfl, holds⟩ :=
          checkSequence_eq_ok_iff.1 passed
        refine .inl ⟨items, rfl,
          checkSequence_eq_ok_iff.2 ⟨items, ?_, rfl, holds⟩⟩
        refine List.map_congr_left ?_
        intro item member
        have converts : some item ∈ origins.map pipeline.convert :=
          converted ▸ List.mem_map_of_mem member
        obtain ⟨origin, _, same⟩ := List.mem_map.1 converts
        exact (builtin.convert_result same).1
      · cases conversion : pipeline.convert value with
        | none =>
            rw [conversion] at passed
            obtain ⟨missing, _⟩ := checkScalar_eq_ok_iff.1 passed
            cases missing
        | some result =>
            have resultNoArray : ∀ items, result ≠ .array items := by
              rintro items rfl
              obtain ⟨_, same | plain, _⟩ := builtin.convert_result conversion
              · exact noArray items same.symm
              · exact plain
            rw [conversion] at passed
            change pipeline.check (.scalar (some result)) = .ok found at passed
            rw [check_scalar pipeline resultNoArray] at passed
            obtain ⟨same, _⟩ := checkScalar_eq_ok_iff.1 passed
            cases same
            exact .inr ⟨rfl, noDelimiter, resultNoArray, passed⟩

/-- What passes a pipeline passes it again, unchanged. -/
theorem checked_again
    {value found : Json}
    (passed : pipeline.checked value = .ok found) :
    pipeline.checked found = .ok found := by
  rcases builtin.converted_of_checked passed with
    ⟨items, rfl, again⟩ | ⟨converted, noDelimiter, noArray, again⟩
  · rw [checked_array, again]
  · rw [checked, prepare_scalar noDelimiter noArray,
      (builtin.convert_result converted).1]
    change pipeline.check (.scalar (some found)) = .ok found
    rw [check_scalar pipeline noArray, again]

/-- No pipeline makes an object of another value. -/
theorem no_object_of_checked
    {value found : Json}
    (passed : pipeline.checked value = .ok found)
    (noObject : ∀ members, value ≠ .object members) :
    ∀ members, found ≠ .object members := by
  rintro members rfl
  rcases builtin.converted_of_checked passed with
    ⟨items, isArray, _⟩ | ⟨converted, _⟩
  · cases isArray
  · obtain ⟨_, same | plain, _⟩ := builtin.convert_result converted
    · exact noObject members same.symm
    · exact plain

/-- Only one of the parsers makes `null` of another value. -/
theorem parser_of_checked_null
    {value : Json}
    (passed : pipeline.checked value = .ok .null)
    (present : value ≠ .null) :
    pipeline.parser = some .boolean := by
  rcases builtin.converted_of_checked passed with
    ⟨items, isArray, _⟩ | ⟨converted, _⟩
  · cases isArray
  · obtain ⟨_, _, isNull⟩ := builtin.convert_result converted
    exact (isNull rfl).resolve_left present

end Pipeline.BuiltinOnly

end ObjectSpec
