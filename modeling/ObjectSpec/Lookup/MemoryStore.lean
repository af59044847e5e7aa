import ObjectSpec.Lookup.Basic

/-!
# Stores in memory

A table is a list of records with the name of the field that identifies them. Of
several records with one key the earliest counts, and a value that is no object
has no key. A memory store is a table together with custom queries in the order
of their names.
-/

namespace ObjectSpec

/-- Records with an identifying field. -/
structure Table where
  /-- The name of the field that holds the key of a record. -/
  keyField : String
  /-- The records in the order of their insertion. -/
  records : List Json

namespace Table

/-- Whether a field of a record equals a value. -/
def hasMember (name : String) (value record : Json) : Bool :=
  (record.member? name).any fun held => held.sameValue value

/-- The earliest record with a key. -/
def find? (table : Table) (key : Json) : Option Json :=
  table.records.find? (hasMember table.keyField key)

/-- The records of several keys in turn, without those that do not exist. -/
def findAll (table : Table) (keys : List Json) : List Json :=
  keys.filterMap table.find?

/-- The table with one more record. -/
def insert (table : Table) (record : Json) : Table :=
  { table with records := table.records ++ [record] }

end Table

/-- A custom query of a table. -/
abbrev CustomQuery := Table → LookupKey → Except LookupError Answer

/-- A table with custom queries. -/
structure MemoryStore where
  /-- The records. -/
  table : Table
  /-- The custom queries in increasing order of their names. -/
  queries : List (String × CustomQuery)

namespace MemoryStore

/-- A store without records and custom queries. -/
def empty (keyField : String) : MemoryStore where
  table := ⟨keyField, []⟩
  queries := []

/-- The store with one more record. -/
def insert (store : MemoryStore) (record : Json) : MemoryStore :=
  { store with table := store.table.insert record }

/-- The store with several more records. -/
def insertAll (store : MemoryStore) (records : List Json) : MemoryStore :=
  records.foldl insert store

/-- The store with a custom query, which replaces one of the same name. -/
def register (store : MemoryStore) (name : String) (query : CustomQuery) :
    MemoryStore :=
  { store with queries := Entries.insert name query store.queries }

/-- The answer to the custom query of a name. -/
def ask (store : MemoryStore) (name : String) (key : LookupKey) :
    Except LookupError Answer :=
  match Entries.get? name store.queries with
  | some query => query store.table key
  | none => .error (.unknownName name)

/-- The store by its answers. -/
def toRecordStore (store : MemoryStore) : RecordStore where
  find key := .ok (store.table.find? key)
  findAll keys := .ok (store.table.findAll keys)
  ask := store.ask

end MemoryStore
end ObjectSpec
