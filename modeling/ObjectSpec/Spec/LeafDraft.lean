import ObjectSpec.Spec.Basic

/-!
# Drafts of leaves

A leaf is drafted by modifiers, given in any order; of several that set the same
thing the last one counts. Those of a lookup take effect only if a store is
among them.
-/

namespace ObjectSpec

/-- The settings of a lookup whose store may still be missing. -/
structure LookupDraft where
  /-- The store that is asked. -/
  store : Option RecordStore
  /-- The query, if it is not left to the shape of the value. -/
  method : Option LookupMethod
  /-- Whether the value is several keys even without a delimiter. -/
  many : Bool
  /-- Whether every key must have a record. -/
  mustExist : Bool

namespace LookupDraft

/-- The draft without settings. -/
def empty : LookupDraft := ⟨none, none, false, false⟩

/-- The rules of the lookup, once there is a store. -/
def rules? (draft : LookupDraft) : Option LookupRules :=
  draft.store.map fun store =>
    ⟨store, draft.method, draft.many, draft.mustExist⟩

end LookupDraft

/-- A leaf field being drafted. -/
structure LeafDraft where
  /-- Whether the member must be present. -/
  required : Bool
  /-- Whether `null` is refused. -/
  notNull : Bool
  /-- What the value, or each item of a sequence, must satisfy. -/
  predicate : Predicate
  /-- Where strings are split. -/
  delimiter : Option String
  /-- How strings are converted. -/
  parser : Option Parser
  /-- Whether the value must be a sequence. -/
  sequenceOnly : Bool
  /-- The spec of the items of a sequence. -/
  items : Option Spec
  /-- The settings of the lookup. -/
  lookup : LookupDraft

/-- One step in drafting a leaf. -/
inductive Modifier where
  /-- The member must be present. -/
  | required
  /-- The value must not be `null`. -/
  | notNull
  /-- Strings are split at a delimiter. -/
  | delimiter (delimiter : String)
  /-- Strings are converted. -/
  | parser (parser : Parser)
  /-- The value must be a sequence. -/
  | sequenceOnly
  /-- The value is replaced by records of a store. -/
  | store (store : RecordStore)
  /-- The value is several keys. -/
  | many
  /-- A certain query is made. -/
  | method (method : LookupMethod)
  /-- Every key must have a record. -/
  | mustExist
  /-- The items of a sequence follow a spec. -/
  | items (spec : Spec)

/-- The draft of a lookup after one more modifier. -/
def LookupDraft.modify (draft : LookupDraft) : Modifier → LookupDraft
  | .store store => { draft with store := some store }
  | .many => { draft with many := true }
  | .method method => { draft with method := some method }
  | .mustExist => { draft with mustExist := true }
  | _ => draft

namespace LeafDraft

/-- The draft of a leaf with a predicate alone. -/
def ofPredicate (predicate : Predicate) : LeafDraft where
  required := false
  notNull := false
  predicate := predicate
  delimiter := none
  parser := none
  sequenceOnly := false
  items := none
  lookup := .empty

/-- The draft after one more modifier. -/
def modify (draft : LeafDraft) : Modifier → LeafDraft
  | .required => { draft with required := true }
  | .notNull => { draft with notNull := true }
  | .delimiter delimiter => { draft with delimiter := some delimiter }
  | .parser parser => { draft with parser := some parser }
  | .sequenceOnly => { draft with sequenceOnly := true }
  | .items spec => { draft with items := some spec }
  | modifier => { draft with lookup := draft.lookup.modify modifier }

/-- The draft after several modifiers in turn. -/
def modifyAll (draft : LeafDraft) (modifiers : List Modifier) : LeafDraft :=
  modifiers.foldl modify draft

/-- The pipeline that has been drafted. -/
def pipeline (draft : LeafDraft) : Pipeline where
  delimiter := draft.delimiter
  parser := draft.parser
  sequenceOnly := draft.sequenceOnly
  predicate := draft.predicate
  lookup := draft.lookup.rules?

/-- The finished field. -/
def toField (draft : LeafDraft) : Field :=
  ⟨draft.required, draft.notNull, .leaf draft.pipeline draft.items⟩

end LeafDraft

/-- The field of a predicate and modifiers. -/
def Field.leaf (predicate : Predicate) (modifiers : List Modifier) : Field :=
  ((LeafDraft.ofPredicate predicate).modifyAll modifiers).toField

end ObjectSpec
