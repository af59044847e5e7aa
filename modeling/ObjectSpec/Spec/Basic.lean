import ObjectSpec.Lookup.Basic
import ObjectSpec.Parser
import ObjectSpec.Predicate

/-!
# Object specs

A spec declares the fields of an object in order and says whether undeclared
members are refused. A field holds a leaf value, a nested object with a spec of
its own, or a map whose values all follow one spec. Specs are built by declaring
fields one after the other; a name that is declared again keeps its place and
takes the new rules, so the names of a spec that was built this way are
distinct.
-/

namespace ObjectSpec

/-- How the value of a leaf is replaced by records. -/
structure LookupRules where
  /-- The store that is asked. -/
  store : RecordStore
  /-- The query, if it is not left to the shape of the value. -/
  method : Option LookupMethod
  /-- Whether the value is several keys even without a delimiter. -/
  many : Bool
  /-- Whether every key must have a record. -/
  mustExist : Bool

/-- What happens to the value of a leaf, in the order of the steps. -/
structure Pipeline where
  /-- Where strings are split. -/
  delimiter : Option String
  /-- How strings are converted. -/
  parser : Option Parser
  /-- Whether the value must be a sequence. -/
  sequenceOnly : Bool
  /-- What the value, or each item of a sequence, must satisfy. -/
  predicate : Predicate
  /-- How the value is replaced by records. -/
  lookup : Option LookupRules

mutual

/-- The declared fields of an object and the policy for other members. -/
structure Spec where
  /-- The fields in the order of their declaration. -/
  fields : List (String × Field)
  /-- Whether undeclared members are refused. -/
  strict : Bool

/-- The rules of a field. -/
structure Field where
  /-- Whether the member must be present. -/
  required : Bool
  /-- Whether `null` is refused. -/
  notNull : Bool
  /-- What the field holds. -/
  content : Content

/-- What a field holds. -/
inductive Content where
  /-- A value that is converted and checked. The items of a sequence may have to
  follow a spec, unless records replace them. -/
  | leaf (pipeline : Pipeline) (items : Option Spec)
  /-- An object that follows a spec. -/
  | object (spec : Spec)
  /-- An object each of whose values follows a spec. -/
  | map (values : Spec)

end

namespace Field

/-- An optional field that may be `null`. -/
def ofContent (content : Content) : Field := ⟨false, false, content⟩

/-- A field for an object that follows a spec. -/
def nested (spec : Spec) : Field := ofContent (.object spec)

/-- A field for an object each of whose values follows a spec. -/
def values (spec : Spec) : Field := ofContent (.map spec)

/-- The field as a required one. -/
def require (field : Field) : Field := { field with required := true }

/-- The field without `null`. -/
def refuseNull (field : Field) : Field := { field with notNull := true }

end Field

namespace Spec

/-- The spec that declares nothing. -/
def empty : Spec := ⟨[], false⟩

/-- Declare a field. -/
def declare (spec : Spec) (name : String) (field : Field) : Spec :=
  { spec with fields := Entries.assign name field spec.fields }

/-- Refuse undeclared members. -/
def refuseUndeclared (spec : Spec) : Spec := { spec with strict := true }

/-- The declared names in order. -/
def names (spec : Spec) : List String := Entries.names spec.fields

/-- The rules of a declared name. -/
def get? (spec : Spec) (name : String) : Option Field :=
  Entries.get? name spec.fields

/-- A name has the rules of its last declaration. -/
theorem get?_declare
    (spec : Spec)
    (name other : String)
    (field : Field) :
    (spec.declare name field).get? other =
      if name = other then some field else spec.get? other :=
  Entries.get?_assign name other field spec.fields

/-- The number of declared fields. -/
def size (spec : Spec) : Nat := spec.fields.length

end Spec

mutual

/-- The names of the spec and of all specs inside it are distinct. -/
def Spec.WellFormed : Spec → Prop
  | ⟨fields, _⟩ => (Entries.names fields).Nodup ∧ Fields.WellFormed fields

/-- The specs inside a list of fields have distinct names. -/
def Fields.WellFormed : List (String × Field) → Prop
  | [] => True
  | (_, field) :: rest => field.WellFormed ∧ Fields.WellFormed rest

/-- The specs inside a field have distinct names. -/
def Field.WellFormed : Field → Prop
  | ⟨_, _, content⟩ => content.WellFormed

/-- The specs inside what a field holds have distinct names. -/
def Content.WellFormed : Content → Prop
  | .leaf _ none => True
  | .leaf _ (some spec) => spec.WellFormed
  | .object spec => spec.WellFormed
  | .map spec => spec.WellFormed

end

end ObjectSpec
