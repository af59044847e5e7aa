import ObjectSpec.Fault.Located

/-!
# Reports

Located faults are reported in three forms: their messages by field of the
object, their messages in a tree along the paths, and a text for reading.
-/

namespace ObjectSpec

/-- Messages by field, in increasing order of the fields. -/
structure FieldReport where
  /-- The fields with their messages. -/
  fields : List (String × List String)

namespace FieldReport

/-- The report without messages. -/
def empty : FieldReport := ⟨[]⟩

/-- The field under which a path is reported: its first step. -/
def fieldOf? : Path → Option String
  | [] => none
  | .field name :: _ => some name
  | .key name :: _ => some name
  | .index position :: _ => some (toString position)

/-- The messages of a field. -/
def messagesOf (report : FieldReport) (field : String) : List String :=
  (Entries.get? field report.fields).getD []

/-- The report with one more message for a field. -/
def add (report : FieldReport) (field message : String) : FieldReport :=
  ⟨Entries.insert field (report.messagesOf field ++ [message]) report.fields⟩

/-- The report with one more fault. -/
def addLocated (report : FieldReport) (located : LocatedFault) : FieldReport :=
  match fieldOf? located.path with
  | some field => report.add field located.fault.message
  | none => report

end FieldReport

/-- The messages of the faults of an object by field. -/
def ObjectFaults.byField (faults : ObjectFaults) : FieldReport :=
  faults.located.foldl FieldReport.addLocated FieldReport.empty

/-- Messages along paths. Fields and keys lead to named branches, and indices to
numbered ones, of which those that no path takes are missing. -/
structure FaultTree where
  /-- The messages at this place. -/
  messages : List String
  /-- The branches of fields and keys, in increasing order of their names. -/
  named : List (String × FaultTree)
  /-- The branches of indices. -/
  numbered : List (Option FaultTree)

namespace FaultTree

/-- The tree without messages. -/
def empty : FaultTree := ⟨[], [], []⟩

/-- The branch of a name. -/
def named? (tree : FaultTree) (name : String) : Option FaultTree :=
  Entries.get? name tree.named

/-- The branch of an index. -/
def numbered? (tree : FaultTree) (position : Nat) : Option FaultTree :=
  (tree.numbered[position]?).join

/-- The tree with another branch of a name. -/
def setNamed (tree : FaultTree) (name : String) (branch : FaultTree) :
    FaultTree :=
  { tree with named := Entries.insert name branch tree.named }

/-- The tree with another branch of an index. -/
def setNumbered (tree : FaultTree) (position : Nat) (branch : FaultTree) :
    FaultTree :=
  let missing := List.replicate (position + 1 - tree.numbered.length) none
  { tree with
    numbered := (tree.numbered ++ missing).set position (some branch) }

/-- The tree with one more message at the end of a path. -/
def add (message : String) : Path → FaultTree → FaultTree
  | [], tree => { tree with messages := tree.messages ++ [message] }
  | .field name :: rest, tree =>
      tree.setNamed name (add message rest ((tree.named? name).getD empty))
  | .key name :: rest, tree =>
      tree.setNamed name (add message rest ((tree.named? name).getD empty))
  | .index position :: rest, tree =>
      tree.setNumbered position
        (add message rest ((tree.numbered? position).getD empty))

/-- The tree with one more fault. -/
def addLocated (tree : FaultTree) (located : LocatedFault) : FaultTree :=
  add located.fault.message located.path tree

end FaultTree

/-- The messages of the faults of an object along their paths. -/
def ObjectFaults.toTree (faults : ObjectFaults) : FaultTree :=
  faults.located.foldl FaultTree.addLocated FaultTree.empty

/-- The two lines for one fault: its message, and its path with the value that
it is about. -/
def LocatedFault.lines (located : LocatedFault) : List String :=
  let received :=
    match located.fault.offender? with
    | some offender => ", received " ++ offender.text
    | none => ""
  ["✖ " ++ located.fault.message, "  → at " ++ located.path.text ++ received]

/-- The text of the faults of an object for reading. -/
def ObjectFaults.render (faults : ObjectFaults) : String :=
  "\n".intercalate (faults.located.flatMap LocatedFault.lines)

end ObjectSpec
