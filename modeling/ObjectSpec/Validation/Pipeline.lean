import ObjectSpec.Fault.Basic
import ObjectSpec.Spec.Basic
import ObjectSpec.Text.Split

/-!
# Leaf values

The value of a leaf goes through a pipeline. A string is split at the delimiter,
strings are converted by the parser, and what results is checked by the
predicate, as a whole or item by item. Only a checked value reaches the record
store, which replaces it by records.
-/

namespace ObjectSpec

/-- A value after splitting and conversion. A string that its parser could not
convert has left nothing. -/
inductive Prepared where
  /-- A value that was not a sequence before its conversion. -/
  | scalar (value : Option Json)
  /-- The pieces of a string or the items of an array. -/
  | sequence (items : List (Option Json))

namespace Pipeline

/-- Convert one value. -/
def convert (pipeline : Pipeline) (value : Json) : Option Json :=
  match pipeline.parser with
  | some parser => parser.apply value
  | none => some value

/-- Split and convert a value. With a delimiter it must be a string or an
array. -/
def prepare (pipeline : Pipeline) (value : Json) : Except Fault Prepared :=
  match pipeline.delimiter, value with
  | some delimiter, .string text =>
      .ok (.sequence ((Text.split delimiter text).map fun piece =>
        pipeline.convert (.string piece)))
  | _, .array items => .ok (.sequence (items.map pipeline.convert))
  | some _, other => .error (.illTyped (.value other) none)
  | none, other => .ok (.scalar (pipeline.convert other))

/-- Whether a result of conversion exists and satisfies the predicate. -/
def accepts (pipeline : Pipeline) : Option Json → Bool
  | some value => pipeline.predicate.holds value
  | none => false

/-- The first result in a sequence that is not accepted, with its index counted
from a first one. -/
def firstRefused? (pipeline : Pipeline) :
    Nat → List (Option Json) → Option (Nat × Option Json)
  | _, [] => none
  | index, item :: rest =>
      if pipeline.accepts item then pipeline.firstRefused? (index + 1) rest
      else some (index, item)

/-- Check a sequence. Its items are values if they are accepted. -/
def checkSequence (pipeline : Pipeline) (items : List (Option Json)) :
    Except Fault Json :=
  match pipeline.firstRefused? 0 items with
  | none => .ok (.array (items.filterMap id))
  | some (index, item) => .error (.illTyped (.ofResult item) (some index))

/-- Check a value that is no sequence. -/
def checkScalar (pipeline : Pipeline) (value : Option Json) :
    Except Fault Json :=
  if pipeline.sequenceOnly then .error (.notSequence (.ofResult value))
  else
    match value with
    | some found =>
        if pipeline.predicate.holds found then .ok found
        else .error (.illTyped (.value found) none)
    | none => .error (.illTyped .unparsed none)

/-- Check a value after splitting and conversion. An array that a parser made
counts as a sequence. -/
def check (pipeline : Pipeline) : Prepared → Except Fault Json
  | .sequence items => pipeline.checkSequence items
  | .scalar (some (.array items)) => pipeline.checkSequence (items.map some)
  | .scalar value => pipeline.checkScalar value

/-- Split, convert and check a value. -/
def checked (pipeline : Pipeline) (value : Json) : Except Fault Json :=
  match pipeline.prepare value with
  | .ok prepared => pipeline.check prepared
  | .error fault => .error fault

end Pipeline

namespace LookupRules

/-- Whether the value of a leaf counts as several keys. -/
def isSeveral (rules : LookupRules) (delimited : Bool) : Bool :=
  delimited || rules.many

/-- The query that is made. -/
def effectiveMethod (rules : LookupRules) (delimited : Bool) : LookupMethod :=
  rules.method.getD (if rules.isSeveral delimited then .many else .one)

/-- The keys of a value: the items of an array, or the value itself. -/
def keysOf : Json → List Json
  | .array items => items
  | value => [value]

/-- The number of records that must exist. -/
def expectedCount (rules : LookupRules) (delimited : Bool) (value : Json) :
    Nat :=
  if rules.isSeveral delimited then (keysOf value).length else 1

/-- The answer of the store. A custom query is made for several keys only where
the value counts as such. -/
def answer (rules : LookupRules) (delimited : Bool) (value : Json) :
    Except LookupError Answer :=
  match rules.effectiveMethod delimited with
  | .one => (rules.store.find value).map .one
  | .many => (rules.store.findAll (keysOf value)).map .many
  | .named name =>
      rules.store.ask name
        (if rules.isSeveral delimited then .many (keysOf value) else .one value)

/-- Replace a checked value by records. -/
def resolve (rules : LookupRules) (delimited : Bool) (value : Json) :
    Except Fault Json :=
  match rules.answer delimited value with
  | .error error => .error (.lookup error)
  | .ok found =>
      let expected := rules.expectedCount delimited value
      if rules.mustExist ∧ found.count ≠ expected then
        .error (.recordsMissing expected found.count)
      else .ok found.value

end LookupRules
end ObjectSpec
