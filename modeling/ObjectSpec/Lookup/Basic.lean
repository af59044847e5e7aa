import ObjectSpec.Json.Basic

/-!
# Record lookup

A record store answers queries for one key, for several keys, and custom queries
that are known by name. A record that does not exist is no failure of a query:
the answer simply lacks it.
-/

namespace ObjectSpec

/-- Why a query failed. -/
inductive LookupError where
  /-- No custom query has the name. -/
  | unknownName (name : String)
  /-- The store itself failed. -/
  | storeFailure (text : String)
  deriving DecidableEq, Repr

/-- The wording of a failed query. -/
def LookupError.message : LookupError → String
  | .unknownName name => "no fetcher named `" ++ name ++ "`"
  | .storeFailure text => text

/-- Which query is made. -/
inductive LookupMethod where
  /-- The query for one key. -/
  | one
  /-- The query for several keys. -/
  | many
  /-- A custom query. -/
  | named (name : String)
  deriving DecidableEq, Repr

/-- The word for a query: a custom one goes by its name. -/
def LookupMethod.text : LookupMethod → String
  | .one => "one"
  | .many => "many"
  | .named name => name

/-- What a custom query is made for. -/
inductive LookupKey where
  | one (key : Json)
  | many (keys : List Json)

/-- The answer to a query. -/
inductive Answer where
  | one (record : Option Json)
  | many (records : List Json)

namespace Answer

/-- The number of records in an answer. -/
def count : Answer → Nat
  | .one none => 0
  | .one (some _) => 1
  | .many records => records.length

/-- An answer as a value; a single record that is missing is `null`. -/
def value : Answer → Json
  | .one record => record.getD .null
  | .many records => .array records

@[simp] theorem count_many (records : List Json) :
    (many records).count = records.length := rfl

@[simp] theorem value_many (records : List Json) :
    (many records).value = .array records := rfl

end Answer

/-- A store of records, given by its answers. -/
structure RecordStore where
  /-- The record of a key, if there is one. -/
  find : Json → Except LookupError (Option Json)
  /-- The records of several keys. -/
  findAll : List Json → Except LookupError (List Json)
  /-- The answer to a custom query. -/
  ask : String → LookupKey → Except LookupError Answer

end ObjectSpec
