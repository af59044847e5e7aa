import ObjectSpec.Decimal.Basic
import ObjectSpec.Entries

/-!
# JSON values

The members of an object are entries in increasing order of their names, so two
objects with the same members are the same value. `Json.WellFormed` states this
order at every depth; all that the library reads or builds has it.
-/

namespace ObjectSpec

/-!
## Numbers

A number is an integer or a binary64 number, and the two kinds never compare
equal: `1` is not `1.0`. Among binary64 numbers the two zeros are equal.
-/

/-- A number of a JSON document. -/
inductive Number where
  | int (value : Int)
  | float (value : Binary64)
  deriving DecidableEq

namespace Number

/-- Whether two numbers are of one kind and equal. -/
def sameValue : Number → Number → Bool
  | .int left, .int right => left = right
  | .float left, .float right => left.sameValue right
  | _, _ => false

/-- A binary64 number as a number. Below `2 ^ 53` whole numbers become integers,
and zero loses its sign. -/
def ofBinary64 (value : Binary64) : Number :=
  match value.toNat? with
  | some magnitude =>
      if magnitude < twoTo 53 then
        .int (if value.negative then -(magnitude : Int) else magnitude)
      else .float value
  | none => .float value

/-- The text of a number: an integer has no point, a binary64 number has a point
or an exponent. -/
def text : Number → String
  | .int value => toString value
  | .float value => value.text

end Number

/-! ## Values -/

/-- A JSON value. -/
inductive Json where
  | null
  | bool (value : Bool)
  | number (value : Number)
  | string (value : String)
  | array (items : List Json)
  | object (members : List (String × Json))
  deriving Inhabited

/-- The members of an object. -/
abbrev Members := List (String × Json)

namespace Json

/-- An integer as a JSON value. -/
def int (value : Int) : Json :=
  .number (.int value)

/-- An object with the given members in any order, the last one of a name
counting. -/
def ofMembers (members : List (String × Json)) : Json :=
  .object (Entries.ofList members)

/-- What kind of value this is, in words. -/
def kindName : Json → String
  | .null => "null"
  | .bool _ => "boolean"
  | .number _ => "number"
  | .string _ => "string"
  | .array _ => "array"
  | .object _ => "object"

/-- A member of a value by name; only objects have any. -/
def member? (name : String) : Json → Option Json
  | .object members => Entries.get? name members
  | _ => none

mutual

/-- Whether two values are equal, their numbers being compared by
`Number.sameValue`. -/
def sameValue : Json → Json → Bool
  | .null, .null => true
  | .bool left, .bool right => left = right
  | .number left, .number right => left.sameValue right
  | .string left, .string right => left = right
  | .array left, .array right => sameItems left right
  | .object left, .object right => sameMembers left right
  | _, _ => false

/-- Whether two lists of values are equal one by one. -/
def sameItems : List Json → List Json → Bool
  | [], [] => true
  | left :: leftRest, right :: rightRest =>
      sameValue left right && sameItems leftRest rightRest
  | _, _ => false

/-- Whether two lists of members are equal one by one. -/
def sameMembers : List (String × Json) → List (String × Json) → Bool
  | [], [] => true
  | (leftName, left) :: leftRest, (rightName, right) :: rightRest =>
      (leftName = rightName && sameValue left right) &&
        sameMembers leftRest rightRest
  | _, _ => false

end

mutual

/-- The members of every object inside the value stand in increasing order of
their names. -/
def WellFormed : Json → Prop
  | .array items => WellFormedItems items
  | .object members => Entries.Sorted members ∧ WellFormedMembers members
  | _ => True

/-- Every item of a list is well formed. -/
def WellFormedItems : List Json → Prop
  | [] => True
  | item :: rest => WellFormed item ∧ WellFormedItems rest

/-- Every value among members is well formed. -/
def WellFormedMembers : List (String × Json) → Prop
  | [] => True
  | (_, value) :: rest => WellFormed value ∧ WellFormedMembers rest

end

theorem wellFormedItems_iff {items : List Json} :
    WellFormedItems items ↔ ∀ item ∈ items, item.WellFormed := by
  induction items with
  | nil => simp [WellFormedItems]
  | cons item rest inductionHypothesis =>
      rw [WellFormedItems, inductionHypothesis, List.forall_mem_cons]

theorem wellFormedMembers_iff {members : List (String × Json)} :
    WellFormedMembers members ↔ ∀ member ∈ members, member.2.WellFormed := by
  induction members with
  | nil => simp [WellFormedMembers]
  | cons member rest inductionHypothesis =>
      rw [WellFormedMembers, inductionHypothesis, List.forall_mem_cons]

/-- The items of a well-formed array are well formed. -/
theorem WellFormed.item
    {items : List Json}
    {item : Json}
    (wellFormed : (array items).WellFormed)
    (member : item ∈ items) :
    item.WellFormed :=
  wellFormedItems_iff.1 wellFormed item member

theorem WellFormed.sorted
    {members : List (String × Json)}
    (wellFormed : (object members).WellFormed) :
    Entries.Sorted members :=
  wellFormed.1

/-- The values in a well-formed object are well formed. -/
theorem WellFormed.member
    {members : List (String × Json)}
    {member : String × Json}
    (wellFormed : (object members).WellFormed)
    (inside : member ∈ members) :
    member.2.WellFormed :=
  wellFormedMembers_iff.1 wellFormed.2 member inside

end Json
end ObjectSpec
