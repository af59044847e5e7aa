import ObjectSpec.Fault.Basic
import ObjectSpec.Text.Quoted

/-!
# Located faults

The faults at the ends of a tree are those that do not consist of others. Each
of them is located by the path that leads to it. They are listed from the first
to the last at every level.
-/

namespace ObjectSpec

/-!
## Paths

A path leads from the validated object to a place inside it. It is written
without blanks: a declared field after a dot, a key of a map as a quoted text in
brackets, and an item of a sequence as an index in brackets.
-/

/-- One step of a path. -/
inductive Step where
  /-- To a declared field. -/
  | field (name : String)
  /-- To a key of a map. -/
  | key (name : String)
  /-- To an item of a sequence. -/
  | index (position : Nat)
  deriving DecidableEq, Repr

/-- The text of one step. -/
def Step.text : Step → String
  | .field name => "." ++ name
  | .key name => "[" ++ Text.quoted name ++ "]"
  | .index position => "[" ++ toString position ++ "]"

/-- A way from the validated object into it. -/
abbrev Path := List Step

namespace Path

/-- The text of a path. -/
def text (path : Path) : String :=
  String.join (path.map Step.text)

/-- The text of a path without a dot at the start. -/
def dotted (path : Path) : String :=
  match path.text.toList with
  | '.' :: rest => String.ofList rest
  | characters => String.ofList characters

end Path

/-! ## Faults with their paths -/

/-- A fault with the path to it. -/
structure LocatedFault where
  /-- The path from the validated object. -/
  path : Path
  /-- The fault. -/
  fault : Fault

namespace LocatedFault

/-- A fault at the place itself. -/
def here (fault : Fault) : LocatedFault := ⟨[], fault⟩

/-- The same fault seen from one step further out. -/
def under (step : Step) (located : LocatedFault) : LocatedFault :=
  ⟨step :: located.path, located.fault⟩

/-- The path to the fault, without a dot at the start. -/
def place (located : LocatedFault) : String :=
  located.path.dotted

/-- The wording of the fault, after its place. -/
def message (located : LocatedFault) : String :=
  located.place ++ ": " ++ located.fault.message

end LocatedFault

mutual

/-- The located faults of a field, seen from the field. -/
def Fault.located : Fault → List LocatedFault
  | .sequence faults => faults.located
  | .object faults => faults.located
  | .map faults => faults.located
  | .missing => [.here .missing]
  | .null => [.here .null]
  | .illTyped offender index => [.here (.illTyped offender index)]
  | .notSequence offender => [.here (.notSequence offender)]
  | .notObject offender => [.here (.notObject offender)]
  | .recordsMissing expected actual => [.here (.recordsMissing expected actual)]
  | .lookup error => [.here (.lookup error)]
  | .undeclared => [.here .undeclared]

/-- The located faults of an object. -/
def ObjectFaults.located : ObjectFaults → List LocatedFault
  | ⟨fields⟩ => locatedInFields fields

/-- The located faults of a map. -/
def MapFaults.located : MapFaults → List LocatedFault
  | ⟨keys⟩ => locatedInKeys keys

/-- The located faults of a sequence. -/
def SequenceFaults.located : SequenceFaults → List LocatedFault
  | ⟨items⟩ => locatedInItems items

/-- The located faults of several fields. -/
def locatedInFields : List (String × Fault) → List LocatedFault
  | [] => []
  | (field, fault) :: rest =>
      fault.located.map (LocatedFault.under (.field field)) ++
        locatedInFields rest

/-- The located faults of several keys. -/
def locatedInKeys : List (String × ObjectFaults) → List LocatedFault
  | [] => []
  | (key, faults) :: rest =>
      faults.located.map (LocatedFault.under (.key key)) ++ locatedInKeys rest

/-- The located faults of several items. -/
def locatedInItems : List (Nat × Fault) → List LocatedFault
  | [] => []
  | (index, fault) :: rest =>
      fault.located.map (LocatedFault.under (.index index)) ++
        locatedInItems rest

end

/-- A fault that consists of no others is located where it is. -/
theorem Fault.located_of_not_composite
    {fault : Fault}
    (simple : fault.isComposite = false) :
    fault.located = [.here fault] := by
  cases fault with
  | sequence faults => cases simple
  | object faults => cases simple
  | map faults => cases simple
  | _ => rfl

/-- The located faults of fields are those of each field in turn. -/
theorem locatedInFields_eq_flatMap (fields : List (String × Fault)) :
    locatedInFields fields =
      fields.flatMap fun entry =>
        entry.2.located.map (LocatedFault.under (.field entry.1)) := by
  induction fields with
  | nil => rfl
  | cons entry rest inductionHypothesis =>
      rw [locatedInFields, inductionHypothesis, List.flatMap_cons]

/-- The located faults of keys are those of each key in turn. -/
theorem locatedInKeys_eq_flatMap (keys : List (String × ObjectFaults)) :
    locatedInKeys keys =
      keys.flatMap fun entry =>
        entry.2.located.map (LocatedFault.under (.key entry.1)) := by
  induction keys with
  | nil => rfl
  | cons entry rest inductionHypothesis =>
      rw [locatedInKeys, inductionHypothesis, List.flatMap_cons]

/-- The located faults of items are those of each item in turn. -/
theorem locatedInItems_eq_flatMap (items : List (Nat × Fault)) :
    locatedInItems items =
      items.flatMap fun entry =>
        entry.2.located.map (LocatedFault.under (.index entry.1)) := by
  induction items with
  | nil => rfl
  | cons entry rest inductionHypothesis =>
      rw [locatedInItems, inductionHypothesis, List.flatMap_cons]

end ObjectSpec
