import ObjectSpec.Fault.Report
import ObjectSpec.Proofs.EachViolation
import ObjectSpec.Proofs.FaultTrees
import ObjectSpec.Proofs.OneLineTexts
import ObjectSpec.Proofs.PathTexts
import ObjectSpec.Proofs.Violations

/-!
# Lines of reports

A report gives two parts for each located fault: a cross with the message, and
an arrow with the path and the value that the fault is about. A part is one line
unless text from outside of the spec is written into it as it is and has a line
feed. There are three places for such text: strings that a fault is about, also
inside arrays, the wording of failed queries, and the names of undeclared
members. The keys of maps are quoted, and objects are printed as JSON, so their
line feeds are escaped.

Other names on paths are declared ones. `LocatedFault.NamedBy` says this of each
violation, and so of the located faults. Hence a report has two lines for each
fault exactly if none shows a line feed, and a reader can tell by counting the
lines.
-/

namespace ObjectSpec

/-! ## Values inside messages -/

/-- A value shows a line feed inside a message: it is a string with one, or such
a value is an item of it. In an object every line feed is escaped. -/
inductive Json.ShowsLineFeed : Json → Prop
  /-- A string with a line feed. -/
  | string {text : String} : ¬Text.IsOneLine text → ShowsLineFeed (.string text)
  /-- An array with an item that shows one. -/
  | item {items : List Json} {item : Json} :
      item ∈ items → ShowsLineFeed item → ShowsLineFeed (.array items)

mutual

/-- A value is shown on one line unless it shows a line feed. -/
theorem Json.isOneLine_inMessage_iff :
    ∀ value : Json, Text.IsOneLine value.inMessage ↔ ¬value.ShowsLineFeed
  | .null => ⟨fun _ => nofun, fun _ => isOneLine_compact .null⟩
  | .bool value => ⟨fun _ => nofun, fun _ => isOneLine_compact (.bool value)⟩
  | .number value =>
      ⟨fun _ => nofun, fun _ => isOneLine_compact (.number value)⟩
  | .object members =>
      ⟨fun _ => nofun, fun _ => isOneLine_compact (.object members)⟩
  | .string text => by
      constructor
      · rintro oneLine ⟨lineFeed⟩
        exact lineFeed oneLine
      · exact fun shows => not_not.1 (mt .string shows)
  | .array items => by
      rw [inMessage, Text.isOneLine_intercalate (by decide),
        itemsInMessage_isOneLine_iff items]
      constructor
      · rintro each (_ | ⟨member, shows⟩)
        exact each _ member shows
      · exact fun shows item member inside => shows (.item member inside)

theorem Json.itemsInMessage_isOneLine_iff :
    ∀ items : List Json, (∀ text ∈ itemsInMessage items, Text.IsOneLine text) ↔
      ∀ item ∈ items, ¬item.ShowsLineFeed
  | [] => by simp [itemsInMessage]
  | item :: rest => by
      rw [itemsInMessage, List.forall_mem_cons, List.forall_mem_cons,
        isOneLine_inMessage_iff item, itemsInMessage_isOneLine_iff rest]

end

/-- What a fault is about shows a line feed if it is a value that does. -/
theorem Offender.isOneLine_text_iff {offender : Offender} :
    Text.IsOneLine offender.text ↔
      ∀ value, offender = .value value → ¬value.ShowsLineFeed := by
  cases offender with
  | value found =>
      rw [text, Json.isOneLine_inMessage_iff]
      constructor
      · rintro shows value ⟨⟩
        exact shows
      · exact fun each => each found rfl
  | unparsed => exact ⟨fun _ => nofun, fun _ => by decide⟩

/-- The message of a fault is on one line if what it is about is, and the
wording of the failed query behind it. -/
theorem Fault.isOneLine_message_iff
    {fault : Fault}
    (simple : fault.isComposite = false) :
    Text.IsOneLine fault.message ↔
      (∀ offender ∈ fault.offender?, Text.IsOneLine offender.text) ∧
        ∀ error ∈ fault.cause?, Text.IsOneLine error.message := by
  have constant {message : String} (oneLine : Text.IsOneLine message) :
      Text.IsOneLine message ↔
        (∀ offender ∈ (none : Option Offender), Text.IsOneLine offender.text) ∧
          ∀ error ∈ (none : Option LookupError), Text.IsOneLine error.message :=
    ⟨fun _ => ⟨nofun, nofun⟩, fun _ => oneLine⟩
  have around {before after : String} (offender : Offender)
      (beforeOneLine : Text.IsOneLine before)
      (afterOneLine : Text.IsOneLine after) :
      Text.IsOneLine (before ++ offender.text ++ after) ↔
        (∀ other ∈ some offender, Text.IsOneLine other.text) ∧
          ∀ error ∈ (none : Option LookupError),
            Text.IsOneLine error.message := by
    simp [beforeOneLine, afterOneLine]
  cases fault with
  | missing => exact constant (by decide)
  | null => exact constant (by decide)
  | undeclared => exact constant (by decide)
  | recordsMissing expected actual =>
      have oneLine :
          Text.IsOneLine ("Not all requested records were found. Expected " ++
            toString expected ++ " but got " ++ toString actual) := by
        rw [Text.isOneLine_append, Text.isOneLine_append, Text.isOneLine_append]
        exact ⟨⟨⟨by decide, Text.isOneLine_toString_nat expected⟩, by decide⟩,
          Text.isOneLine_toString_nat actual⟩
      exact constant oneLine
  | illTyped offender index =>
      cases index with
      | none =>
          have message : (illTyped offender none).message =
              "" ++ offender.text ++ " is the wrong type" := by
            rw [String.empty_append]
            rfl
          rw [message]
          exact around offender (by decide) (by decide)
      | some position => exact around offender (by decide) (by decide)
  | notSequence offender => exact around offender (by decide) (by decide)
  | notObject offender => exact around offender (by decide) (by decide)
  | lookup error =>
      change Text.IsOneLine ("Record lookup failed: " ++ error.message) ↔ _
      have start : Text.IsOneLine "Record lookup failed: " := by decide
      simp [offender?, cause?, start]
  | sequence faults => cases simple
  | object faults => cases simple
  | map faults => cases simple

theorem Fault.isComposite_of_mem_located
    {fault : Fault}
    {located : LocatedFault}
    (member : located ∈ fault.located) :
    located.fault.isComposite = false := by
  induction fault using Fault.inductionOn generalizing located with
  | step fault inductionHypothesis =>
      cases composite : fault.isComposite with
      | false =>
          rw [located_of_not_composite composite, List.mem_singleton] at member
          rw [member]
          exact composite
      | true =>
          rw [located_of_composite composite] at member
          obtain ⟨branch, isBranch, inBranch⟩ := List.mem_flatMap.1 member
          obtain ⟨inside, isInside, rfl⟩ := List.mem_map.1 inBranch
          have simple : inside.fault.isComposite = false :=
            inductionHypothesis branch isBranch isInside
          exact simple

/-! ## Names on paths -/

theorem Step.isOneLine_text_iff {step : Step} :
    Text.IsOneLine step.text ↔
      ∀ name, step = .field name → Text.IsOneLine name := by
  cases step with
  | field name =>
      rw [text, Text.isOneLine_append]
      constructor
      · rintro ⟨_, oneLine⟩ other ⟨⟩
        exact oneLine
      · exact fun each => ⟨by decide, each name rfl⟩
  | key key =>
      have quoted := Text.isOneLine_quoted key
      rw [text, Text.isOneLine_append, Text.isOneLine_append]
      constructor
      · rintro _ name ⟨⟩
      · exact fun _ => ⟨⟨by decide, quoted⟩, by decide⟩
  | index position =>
      have numeral := Text.isOneLine_toString_nat position
      rw [text, Text.isOneLine_append, Text.isOneLine_append]
      constructor
      · rintro _ name ⟨⟩
      · exact fun _ => ⟨⟨by decide, numeral⟩, by decide⟩

theorem Path.isOneLine_text_iff {path : Path} :
    Text.IsOneLine path.text ↔
      ∀ name, .field name ∈ path → Text.IsOneLine name := by
  induction path with
  | nil => exact ⟨fun _ => nofun, fun _ => by decide⟩
  | cons step rest inductionHypothesis =>
      have text : Path.text (step :: rest) = step.text ++ Path.text rest := by
        apply String.toList_injective
        simp
      rw [text, Text.isOneLine_append, Step.isOneLine_text_iff,
        inductionHypothesis]
      constructor
      · rintro ⟨first, others⟩ name onPath
        rcases List.mem_cons.1 onPath with isFirst | onRest
        · exact first name isFirst.symm
        · exact others name onRest
      · intro each
        refine ⟨?_, fun name onRest =>
          each name (List.mem_cons_of_mem step onRest)⟩
        rintro name rfl
        exact each name List.mem_cons_self

/-- The undeclared member that a located fault is about. -/
def LocatedFault.IsUndeclared (located : LocatedFault) (name : String) : Prop :=
  located.fault = .undeclared ∧ located.path.getLast? = some (.field name)

/-- The fields on the path of a located fault have a property, apart from the
undeclared member that the fault is about. -/
def LocatedFault.NamedBy
    (holds : String → Prop)
    (located : LocatedFault) : Prop :=
  ∀ name, .field name ∈ located.path → holds name ∨ located.IsUndeclared name

section

variable {holds : String → Prop}

theorem LocatedFault.namedBy_undeclared (name : String) :
    NamedBy holds ⟨[.field name], .undeclared⟩ := by
  intro other onPath
  obtain rfl := Step.field.inj (List.mem_singleton.1 onPath)
  exact Or.inr ⟨rfl, rfl⟩

/-- A step outwards keeps the last step of a path. -/
theorem LocatedFault.closedOutwards_namedBy :
    ClosedOutwards holds (NamedBy holds) where
  here _ _ onPath := absurd onPath List.not_mem_nil
  under {located step} namedBy stepHolds := by
    intro name onPath
    rcases List.mem_cons.1 onPath with first | onRest
    · exact Or.inl (stepHolds name first.symm)
    · refine (namedBy name onRest).imp_right ?_
      rintro ⟨undeclared, last⟩
      refine ⟨undeclared, ?_⟩
      rw [under, List.getLast?_cons, last]
      rfl

/-! ## Declared names at every depth -/

/-- Every name that a spec declares, at any depth, has a property. -/
def Spec.EveryName (holds : String → Prop) (spec : Spec) : Prop :=
  (∀ name ∈ spec.names, holds name) ∧
    spec.Everywhere fun field => field.content.Inner fun inner =>
      ∀ name ∈ inner.names, holds name

theorem Content.inner_and
    {left right : Spec → Prop}
    {content : Content}
    (isLeft : content.Inner left)
    (isRight : content.Inner right) :
    content.Inner fun spec => left spec ∧ right spec := by
  cases content with
  | leaf pipeline items =>
      cases items with
      | none => trivial
      | some spec => exact ⟨isLeft, isRight⟩
  | object spec => exact ⟨isLeft, isRight⟩
  | map values => exact ⟨isLeft, isRight⟩

theorem Spec.EveryName.inner_of_mem
    {fields : List (String × Field)}
    {strict : Bool}
    (everyName : Spec.EveryName holds ⟨fields, strict⟩)
    {entry : String × Field}
    (member : entry ∈ fields) :
    entry.2.content.Inner (Spec.EveryName holds) := by
  obtain ⟨here, inside⟩ := Spec.everywhere_iff.1 everyName.2 entry member
  exact Content.inner_and here inside

/-- A spec all of whose names have a property reports violations that are named
by it. -/
theorem Spec.EveryName.namedBy_violations
    {spec : Spec}
    (everyName : spec.EveryName holds) :
    spec.EachViolation (LocatedFault.NamedBy holds) := by
  induction spec using Spec.inductionOn with
  | step fields strict inductionHypothesis =>
      have inner : ∀ entry ∈ fields,
          entry.2.content.Inner
            (Spec.EachViolation (LocatedFault.NamedBy holds)) := by
        intro entry member
        exact (inductionHypothesis entry member).mp
          (everyName.inner_of_mem member)
      have ofFields :=
        forall_fieldViolations LocatedFault.closedOutwards_namedBy everyName.1
          inner
      constructor
      · intro members
        rw [Spec.violations]
        split
        next name _ =>
            exact List.forall_mem_singleton.2
              (LocatedFault.namedBy_undeclared name)
        next => exact ofFields _
      · intro value
        rw [Spec.bareViolations]
        split
        next =>
            exact List.forall_mem_singleton.2
              (LocatedFault.namedBy_undeclared bareField)
        next => exact ofFields _

end

/-! ## Reports -/

/-- What a report says of the value that a fault is about. -/
def LocatedFault.received (located : LocatedFault) : String :=
  located.fault.offender?.elim "" fun offender => ", received " ++ offender.text

theorem LocatedFault.lines_eq (located : LocatedFault) :
    located.lines =
      ["✖ " ++ located.fault.message,
        "  → at " ++ located.path.text ++ located.received] := by
  rw [lines, received]
  cases located.fault.offender? <;> rfl

/-- A located fault shows a line feed: something from outside of the spec that
it is about has one and is written as it is. -/
inductive LocatedFault.ShowsLineFeed (located : LocatedFault) : Prop
  /-- The value that the fault is about. -/
  | offender {value : Json} :
      located.fault.offender? = some (.value value) → value.ShowsLineFeed →
      ShowsLineFeed located
  /-- The wording of a failed query. -/
  | lookup {error : LookupError} :
      located.fault.cause? = some error → ¬Text.IsOneLine error.message →
      ShowsLineFeed located
  /-- The name of an undeclared member. -/
  | undeclared {name : String} :
      located.IsUndeclared name → ¬Text.IsOneLine name → ShowsLineFeed located

/-- Both lines for a fault are single lines exactly if the fault shows no line
feed. -/
theorem LocatedFault.isOneLine_lines_iff
    {located : LocatedFault}
    (simple : located.fault.isComposite = false)
    (named : located.NamedBy Text.IsOneLine) :
    (∀ line ∈ located.lines, Text.IsOneLine line) ↔ ¬located.ShowsLineFeed := by
  have cross : Text.IsOneLine "✖ " := by decide
  have arrow : Text.IsOneLine "  → at " := by decide
  rw [lines_eq, List.forall_mem_cons, List.forall_mem_singleton,
    Text.isOneLine_append, Text.isOneLine_append, Text.isOneLine_append,
    Fault.isOneLine_message_iff simple, Path.isOneLine_text_iff]
  constructor
  · rintro ⟨⟨_, offenderOneLine, errorOneLine⟩, ⟨_, namesOneLine⟩, _⟩ shows
    cases shows with
    | offender isOffender lineFeed =>
        exact Offender.isOneLine_text_iff.1 (offenderOneLine _ isOffender) _ rfl
          lineFeed
    | lookup isCause lineFeed => exact lineFeed (errorOneLine _ isCause)
    | undeclared isUndeclared lineFeed =>
        exact lineFeed (namesOneLine _ (List.mem_of_getLast? isUndeclared.2))
  · intro shows
    have offenderOneLine :
        ∀ offender ∈ located.fault.offender?, Text.IsOneLine offender.text := by
      intro offender isOffender
      refine Offender.isOneLine_text_iff.2 ?_
      rintro value rfl lineFeed
      exact shows (.offender isOffender lineFeed)
    refine ⟨⟨cross, offenderOneLine, ?_⟩, ⟨arrow, ?_⟩, ?_⟩
    · intro error isCause
      by_contra lineFeed
      exact shows (.lookup isCause lineFeed)
    · intro name onPath
      by_contra lineFeed
      have isUndeclared := (named name onPath).resolve_left lineFeed
      exact shows (.undeclared isUndeclared lineFeed)
    · rw [received]
      cases isOffender : located.fault.offender? with
      | none => decide
      | some offender =>
          exact Text.isOneLine_append.2
            ⟨by decide, offenderOneLine offender isOffender⟩

namespace ObjectFaults

/-- The lines of the report of the faults of an object. -/
def reportLines (faults : ObjectFaults) : List String :=
  Text.split "\n" faults.render

/-- A report has two lines for each located fault, in order: a cross with the
message, and an arrow with the path and the value that the fault is about, if it
is about one. -/
structure TwoLinesEach (faults : ObjectFaults) : Prop where
  /-- There are twice as many lines as located faults. -/
  length_eq : faults.reportLines.length = 2 * faults.located.length
  /-- The first of two lines shows the message. -/
  message : ∀ i located, faults.located[i]? = some located →
    faults.reportLines[2 * i]? = some ("✖ " ++ located.fault.message)
  /-- The second of two lines shows the path and the value. -/
  place : ∀ i located, faults.located[i]? = some located →
    faults.reportLines[2 * i + 1]? =
      some ("  → at " ++ located.path.text ++ located.received)

theorem reportLines_eq
    {faults : ObjectFaults}
    (nonempty : faults.located ≠ []) :
    faults.reportLines =
      (faults.located.flatMap LocatedFault.lines).flatMap
        (Text.split "\n") := by
  apply Text.split_intercalate_eq_flatMap
  intro noLines
  obtain ⟨located, member⟩ := List.exists_mem_of_ne_nil _ nonempty
  have empty := List.flatMap_eq_nil_iff.1 noLines located member
  rw [LocatedFault.lines_eq] at empty
  cases empty

end ObjectFaults

theorem length_flatMap_lines (list : List LocatedFault) :
    (list.flatMap LocatedFault.lines).length = 2 * list.length := by
  induction list with
  | nil => rfl
  | cons located rest inductionHypothesis =>
      rw [List.flatMap_cons, List.length_append, inductionHypothesis,
        LocatedFault.lines_eq, List.length_cons, List.length_cons,
        List.length_cons, List.length_nil]
      omega

theorem getElem?_flatMap_lines
    {list : List LocatedFault}
    {i : Nat}
    {located : LocatedFault}
    (isAt : list[i]? = some located) :
    (list.flatMap LocatedFault.lines)[2 * i]? =
        some ("✖ " ++ located.fault.message) ∧
      (list.flatMap LocatedFault.lines)[2 * i + 1]? =
        some ("  → at " ++ located.path.text ++ located.received) := by
  induction list generalizing i with
  | nil => cases isAt
  | cons first rest inductionHypothesis =>
      rw [List.flatMap_cons, LocatedFault.lines_eq]
      cases i with
      | zero =>
          obtain rfl : first = located := Option.some.inj isAt
          exact ⟨rfl, rfl⟩
      | succ i => exact inductionHypothesis isAt

section

variable
  {spec : Spec}
  {members : Members}
  {faults : ObjectFaults}
  (found : (spec.validate members).faults? = some faults)

include found

theorem ObjectFaults.located_ne_nil_of_found : faults.located ≠ [] := by
  obtain ⟨located, noneIff⟩ := (spec.reported.object members).located_eq
  rw [found] at located noneIff
  intro empty
  cases noneIff.2 (located.symm.trans empty)

theorem ObjectFaults.namedBy_of_found
    {holds : String → Prop}
    (everyName : spec.EveryName holds) :
    ∀ located ∈ faults.located, located.NamedBy holds := by
  obtain ⟨located, _⟩ := (spec.reported.object members).located_eq
  rw [found, Option.elim_some] at located
  rw [located]
  exact everyName.namedBy_violations.object members

/-- The parts of a found report are single lines exactly if no fault shows a
line feed. -/
theorem ObjectFaults.isOneLine_parts_iff
    (everyName : spec.EveryName Text.IsOneLine) :
    (∀ part ∈ faults.located.flatMap LocatedFault.lines, Text.IsOneLine part) ↔
      ∀ located ∈ faults.located, ¬located.ShowsLineFeed := by
  have named := namedBy_of_found found everyName
  have each : ∀ located ∈ faults.located,
      ((∀ line ∈ located.lines, Text.IsOneLine line) ↔
        ¬located.ShowsLineFeed) := by
    intro located member
    have inTree : located ∈ (Fault.object faults).located := member
    have simple := Fault.isComposite_of_mem_located inTree
    exact LocatedFault.isOneLine_lines_iff simple (named located member)
  rw [List.forall_mem_flatMap]
  exact forall₂_congr each

end

/-- The report of found faults has two lines for each of them exactly if none
shows a line feed, and the number of its lines tells. In any case it consists of
the parts for the faults in their order, each part beginning and ending where
lines do. -/
theorem report_has_two_lines_each_unless_line_feed
    {spec : Spec}
    {members : Members}
    {faults : ObjectFaults}
    (everyName : spec.EveryName Text.IsOneLine)
    (found : (spec.validate members).faults? = some faults) :
    (faults.TwoLinesEach ↔ ∀ located ∈ faults.located, ¬located.ShowsLineFeed) ∧
      (faults.reportLines.length = 2 * faults.located.length →
        faults.TwoLinesEach) ∧
      faults.reportLines =
        faults.located.flatMap fun located =>
          located.lines.flatMap (Text.split "\n") := by
  have lines :=
    ObjectFaults.reportLines_eq (ObjectFaults.located_ne_nil_of_found found)
  have partsIff := ObjectFaults.isOneLine_parts_iff found everyName
  have twoLinesEach : (∀ located ∈ faults.located, ¬located.ShowsLineFeed) →
      faults.TwoLinesEach := by
    intro shows
    have parts := lines.trans (Text.flatMap_split_eq_self (partsIff.2 shows))
    constructor
    · rw [parts, length_flatMap_lines]
    · intro i located isAt
      rw [parts]
      exact (getElem?_flatMap_lines isAt).1
    · intro i located isAt
      rw [parts]
      exact (getElem?_flatMap_lines isAt).2
  -- Every part has at least one line, so a line too many anywhere cannot be
  -- made up for.
  have noLineFeed : faults.reportLines.length = 2 * faults.located.length →
      ∀ located ∈ faults.located, ¬located.ShowsLineFeed := by
    intro length_eq
    rw [← partsIff, ← Text.length_flatMap_split_eq_iff, ← lines, length_eq,
      length_flatMap_lines]
  refine ⟨⟨?_, twoLinesEach⟩, ?_, ?_⟩
  · exact fun each => noLineFeed each.length_eq
  · exact fun length_eq => twoLinesEach (noLineFeed length_eq)
  · rw [lines, List.flatMap_assoc]

/-- A spec for marks by key, which must be numbers. -/
def marksSpec : Spec :=
  .declare .empty "marks"
    (.values (.declare .empty bareField (.leaf .number [])))

/-- Marks under a key with a line feed, one of which is an object that holds
another. -/
def linedMarks : Members :=
  [("marks", .object [("a\nb", .array [.object [("note", .string "p\nq")]])])]

/-- The fault of these marks. -/
def linedMarksFaults : ObjectFaults :=
  ⟨[("marks", .map ⟨[("a\nb", .single bareField
    (.illTyped (.value (.object [("note", .string "p\nq")])) (some 0)))]⟩)]⟩

/-- In the keys of maps and inside objects line feeds are escaped. -/
theorem linedMarks_reported_on_two_lines :
    marksSpec.EveryName Text.IsOneLine ∧
      (marksSpec.validate linedMarks).faults? = some linedMarksFaults ∧
      linedMarksFaults.TwoLinesEach := by
  have everyName : marksSpec.EveryName Text.IsOneLine :=
    ⟨List.forall_mem_singleton.2 (by decide),
      ⟨⟨List.forall_mem_singleton.2 (by decide), ⟨trivial, trivial⟩, trivial⟩,
        trivial⟩⟩
  have found :
      (marksSpec.validate linedMarks).faults? = some linedMarksFaults := rfl
  refine ⟨everyName, found, ?_⟩
  refine (report_has_two_lines_each_unless_line_feed everyName found).1.2 ?_
  intro located member shows
  obtain rfl := List.mem_singleton.1 member
  cases shows with
  | offender isOffender lineFeed =>
      cases isOffender
      cases lineFeed
  | lookup isCause => cases isCause
  | undeclared isUndeclared => cases isUndeclared.1

/-- A spec for guests, who must have a name and nothing else. -/
def guestSpec : Spec :=
  .refuseUndeclared (.declare .empty "name" (.leaf .string [.required]))

/-- A guest with an undeclared member, the name of which imitates the report of
another fault. -/
def forgingGuest : Members :=
  [("name", .string "Ada"), ("x\n✖ A value is required\n  → at .name", .null)]

/-- The fault of this guest. -/
def forgingGuestFaults : ObjectFaults :=
  .single "x\n✖ A value is required\n  → at .name" .undeclared

/-- The report of the guest, who has a name, reads as if it were missing as
well. -/
theorem forgingGuest_not_reported_on_two_lines :
    guestSpec.EveryName Text.IsOneLine ∧
      (guestSpec.validate forgingGuest).faults? = some forgingGuestFaults ∧
      forgingGuestFaults.located.length = 1 ∧
      forgingGuestFaults.render =
        ObjectFaults.render ⟨[("x", .undeclared), ("name", .missing)]⟩ ∧
      ¬forgingGuestFaults.TwoLinesEach := by
  refine ⟨⟨List.forall_mem_singleton.2 (by decide), ⟨trivial, trivial⟩,
    trivial⟩, rfl, rfl, ?_, ?_⟩
  · decide +kernel
  · intro each
    have fourLines : forgingGuestFaults.reportLines.length = 4 := by
      decide +kernel
    have twoLines := each.length_eq
    rw [fourLines] at twoLines
    contradiction

end ObjectSpec
