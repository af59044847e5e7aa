import ObjectSpec.Lookup.MemoryStore
import ObjectSpec.Spec.LeafDraft
import ObjectSpec.Text.Quoted

/-!
# Descriptions

Specs, and what they are made of, are described on one line for diagnosis.
Records are written with the names of their parts in braces, alternatives with
their content in parentheses, and texts in quotes. Functions are described by
their names only, and the store of a lookup by two dots.
-/

namespace ObjectSpec
namespace Description

/-- A record with named parts. -/
def record (name : String) (parts : List (String × String)) : String :=
  name ++ " \x7b " ++
    ", ".intercalate (parts.map fun part => part.1 ++ ": " ++ part.2) ++ " \x7d"

/-- An alternative with its content. -/
def alternative (name content : String) : String :=
  name ++ "(" ++ content ++ ")"

/-- Something optional. -/
def maybe : Option String → String
  | none => "None"
  | some content => alternative "Some" content

/-- A list. -/
def list (items : List String) : String :=
  "[" ++ ", ".intercalate items ++ "]"

/-- A truth value. -/
def truth (value : Bool) : String :=
  if value then "true" else "false"

end Description

open Description

/-- The description of a predicate. -/
def Predicate.describe (predicate : Predicate) : String :=
  alternative "Predicate" (Text.quoted predicate.name)

/-- The description of a parser. -/
def Parser.describe (parser : Parser) : String :=
  alternative "Parser" (Text.quoted parser.name)

/-- The description of a query. -/
def LookupMethod.describe : LookupMethod → String
  | .one => "One"
  | .many => "Many"
  | .named name => alternative "Named" (Text.quoted name)

/-- The description of the rules of a lookup, without its store. -/
def LookupRules.describe (rules : LookupRules) : String :=
  "FetchRules \x7b method: " ++
    maybe (rules.method.map LookupMethod.describe) ++
    ", many: " ++ truth rules.many ++
    ", must_exist: " ++ truth rules.mustExist ++ ", .. \x7d"

/-- The description of a lookup being drafted. -/
def LookupDraft.describe (draft : LookupDraft) : String :=
  record "Lookup" [
    ("model", truth draft.store.isSome),
    ("method", maybe (draft.method.map LookupMethod.describe)),
    ("many", truth draft.many),
    ("must_exist", truth draft.mustExist)]

/-- The description of a pipeline, with that of the spec of its items. -/
def Pipeline.describe (pipeline : Pipeline) (items : Option String) : String :=
  record "LeafRules" [
    ("type_check", pipeline.predicate.describe),
    ("delimiter", maybe (pipeline.delimiter.map Text.quoted)),
    ("parser", maybe (pipeline.parser.map Parser.describe)),
    ("ensure_array", truth pipeline.sequenceOnly),
    ("fetch", maybe (pipeline.lookup.map LookupRules.describe)),
    ("object_array", maybe items)]

mutual

/-- The description of a spec. -/
def Spec.describe : Spec → String
  | ⟨fields, strict⟩ =>
      record "Spec" [
        ("fields", list (describeFields fields)),
        ("fail_on_unknown_fields", truth strict)]

/-- The descriptions of declared fields. -/
def describeFields : List (String × Field) → List String
  | [] => []
  | (name, field) :: rest =>
      ("(" ++ Text.quoted name ++ ", " ++ field.describe ++ ")") ::
        describeFields rest

/-- The description of a field. -/
def Field.describe : Field → String
  | ⟨required, notNull, content⟩ =>
      record "FieldSpec" [
        ("required", truth required),
        ("not_null", truth notNull),
        ("kind", content.describe)]

/-- The description of what a field holds. -/
def Content.describe : Content → String
  | .leaf pipeline none => alternative "Leaf" (pipeline.describe none)
  | .leaf pipeline (some spec) =>
      alternative "Leaf" (pipeline.describe (some spec.describe))
  | .object spec => alternative "Object" spec.describe
  | .map values => alternative "Map" values.describe

end

/-- The description of a leaf being drafted. The lookup is not yet part of its
pipeline. -/
def LeafDraft.describe (draft : LeafDraft) : String :=
  let withoutLookup := { draft.pipeline with lookup := none }
  record "Leaf" [
    ("required", truth draft.required),
    ("not_null", truth draft.notNull),
    ("rules", withoutLookup.describe (draft.items.map Spec.describe)),
    ("lookup", draft.lookup.describe)]

/-- The description of a store in memory. -/
def MemoryStore.describe (store : MemoryStore) : String :=
  record "MemoryModel" [
    ("id_field", Text.quoted store.table.keyField),
    ("records", toString store.table.records.length),
    ("fetchers", list ((Entries.names store.queries).map Text.quoted))]

end ObjectSpec
