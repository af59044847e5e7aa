import ObjectSpec.Proofs.BareValues
import ObjectSpec.Proofs.Entrywise
import ObjectSpec.Proofs.SpecInduction
import ObjectSpec.Proofs.Verdicts

/-!
# The order of declarations

Declaring the same fields in another order, at any depth of a spec, changes
nothing but the order in which faults are listed. The parsed object is the same,
the validation is aborted on the same member, and the trees of faults are equal
up to the order of the faults in each object.
-/

namespace ObjectSpec

/-! ## Orders of declarations and of faults -/

mutual

/-- Two specs that differ in the order of their declarations only, at any
depth. -/
inductive Spec.Reordered : Spec → Spec → Prop
  /-- Fields that are reordered inside stand in another order. -/
  | declarations {left arranged right : List (String × Field)} (strict : Bool) :
      Entrywise Field.Reordered left arranged →
      arranged.Perm right →
      Spec.Reordered ⟨left, strict⟩ ⟨right, strict⟩

/-- Two fields that differ in the order of declarations inside them only. -/
inductive Field.Reordered : Field → Field → Prop
  /-- Fields with the same rules. -/
  | content {left right : Content} (required notNull : Bool) :
      Content.Reordered left right →
      Field.Reordered ⟨required, notNull, left⟩ ⟨required, notNull, right⟩

/-- Contents of fields that differ in the order of declarations inside them
only. -/
inductive Content.Reordered : Content → Content → Prop
  /-- Leaves without a spec for items. -/
  | leaf (pipeline : Pipeline) :
      Content.Reordered (.leaf pipeline none) (.leaf pipeline none)
  /-- Leaves with specs for items. -/
  | items {left right : Spec} (pipeline : Pipeline) :
      Spec.Reordered left right →
      Content.Reordered (.leaf pipeline (some left))
        (.leaf pipeline (some right))
  /-- Objects. -/
  | object {left right : Spec} :
      Spec.Reordered left right →
      Content.Reordered (.object left) (.object right)
  /-- Maps. -/
  | map {left right : Spec} :
      Spec.Reordered left right → Content.Reordered (.map left) (.map right)

end

mutual

/-- Two faults that differ in the order of faults inside objects only. -/
inductive Fault.Reordered : Fault → Fault → Prop
  /-- Equal faults. -/
  | same (fault : Fault) : Fault.Reordered fault fault
  /-- Faults inside an object. -/
  | object {left right : ObjectFaults} :
      ObjectFaults.Reordered left right →
      Fault.Reordered (.object left) (.object right)
  /-- Faults inside a map, in the order of its keys. -/
  | map {left right : List (String × ObjectFaults)} :
      Entrywise ObjectFaults.Reordered left right →
      Fault.Reordered (.map ⟨left⟩) (.map ⟨right⟩)
  /-- Faults inside a sequence, in the order of its items. -/
  | sequence {left right : List (Nat × Fault)} :
      Entrywise Fault.Reordered left right →
      Fault.Reordered (.sequence ⟨left⟩) (.sequence ⟨right⟩)

/-- The faults of the same object in another order. -/
inductive ObjectFaults.Reordered : ObjectFaults → ObjectFaults → Prop
  /-- Faults that are reordered inside stand in another order. -/
  | fields {left arranged right : List (String × Fault)} :
      Entrywise Fault.Reordered left arranged →
      arranged.Perm right →
      ObjectFaults.Reordered ⟨left⟩ ⟨right⟩

end

/-- Both validations are aborted on the same member, or both keep the same
members and find the same faults in another order. -/
inductive Verdict.Reordered : Verdict → Verdict → Prop
  /-- The same member is refused. -/
  | aborted (name : String) : Verdict.Reordered (.aborted name) (.aborted name)
  /-- The same is kept. -/
  | checked {left right : List (String × Fault)} (parsed : Members) :
      ObjectFaults.Reordered ⟨left⟩ ⟨right⟩ →
      Verdict.Reordered (.checked parsed left) (.checked parsed right)

/-! ## Related faults and verdicts -/

/-- Related faults are enclosed in related ones, if there are any. -/
theorem enclosed_related
    {α β : Type}
    {related : β → β → Prop}
    {enclose : List α → β}
    {left right : List α}
    (empty : left = [] ↔ right = [])
    (inside : related (enclose left) (enclose right)) :
    Option.Rel related (enclosed enclose left) (enclosed enclose right) := by
  cases left with
  | nil =>
      obtain rfl := empty.1 rfl
      exact .none
  | cons first rest =>
      cases right with
      | nil => cases empty.2 rfl
      | cons other others => exact .some inside

theorem ObjectFaults.Reordered.eq_nil_iff
    {left right : List (String × Fault)}
    (reordered : ObjectFaults.Reordered ⟨left⟩ ⟨right⟩) :
    left = [] ↔ right = [] := by
  cases reordered with
  | fields entrywise permutation =>
      rw [entrywise.eq_nil_iff]
      constructor
      · rintro rfl
        exact permutation.nil_eq.symm
      · rintro rfl
        exact permutation.eq_nil

/-- Two results with the same value or with related errors. -/
inductive SameUpTo {ε α : Type} (related : ε → ε → Prop) :
    Except ε α → Except ε α → Prop
  /-- The same value. -/
  | ok (value : α) : SameUpTo related (.ok value) (.ok value)
  /-- Related errors. -/
  | error {left right : ε} :
      related left right → SameUpTo related (.error left) (.error right)

namespace SameUpTo

variable
  {ε α : Type}
  {related : ε → ε → Prop}
  {left right : Except ε α}

theorem refl
    (reflexive : ∀ error, related error error)
    (result : Except ε α) :
    SameUpTo related result result := by
  cases result with
  | ok value => exact .ok value
  | error error => exact .error (reflexive error)

theorem errorOf?
    (same : SameUpTo related left right) :
    Option.Rel related (ObjectSpec.errorOf? left)
      (ObjectSpec.errorOf? right) := by
  cases same with
  | ok value => exact .none
  | error errors => exact .some errors

theorem map
    {β : Type}
    (same : SameUpTo related left right)
    (change : α → β) :
    SameUpTo related (left.map change) (right.map change) := by
  cases same with
  | ok value => exact .ok (change value)
  | error errors => exact .error errors

end SameUpTo

/-- Two verdicts on a field that keep the same and find the same fault up to
order. -/
structure FieldVerdict.Reordered (left right : FieldVerdict) : Prop where
  parsed : left.parsed = right.parsed
  fault : Option.Rel Fault.Reordered left.fault right.fault

theorem FieldVerdict.Reordered.refl (verdict : FieldVerdict) :
    verdict.Reordered verdict := by
  obtain ⟨parsed, fault⟩ := verdict
  cases fault with
  | none => exact ⟨rfl, .none⟩
  | some fault => exact ⟨rfl, .some (.same fault)⟩

theorem SameUpTo.ofResult
    {left right : Except Fault Json}
    (same : SameUpTo Fault.Reordered left right) :
    (FieldVerdict.ofResult left).Reordered (FieldVerdict.ofResult right) := by
  cases same with
  | ok value => exact .refl _
  | error faults => exact ⟨rfl, .some faults⟩

namespace Verdict.Reordered

variable
  {left right : Verdict}
  (reordered : left.Reordered right)

include reordered

theorem parsed?_eq : left.parsed? = right.parsed? := by
  cases reordered <;> rfl

theorem faults? :
    Option.Rel ObjectFaults.Reordered left.faults? right.faults? := by
  cases reordered with
  | aborted name =>
      exact .some (.fields (.cons name (.same .undeclared) .nil) (.refl _))
  | checked parsed faults =>
      rw [faults?_checked, faults?_checked]
      exact enclosed_related faults.eq_nil_iff faults

theorem toResult :
    SameUpTo ObjectFaults.Reordered left.toResult right.toResult := by
  have faults := reordered.faults?
  rw [Verdict.toResult, Verdict.toResult, reordered.parsed?_eq]
  generalize left.faults? = leftFaults at faults ⊢
  generalize right.faults? = rightFaults at faults ⊢
  cases faults with
  | none => exact .ok _
  | some both => exact .error both

theorem unboxed :
    SameUpTo ObjectFaults.Reordered left.unboxed right.unboxed := by
  rw [Verdict.unboxed_eq_map, Verdict.unboxed_eq_map]
  exact reordered.toResult.map _

theorem ofVerdict :
    (FieldVerdict.ofVerdict left).Reordered (FieldVerdict.ofVerdict right) := by
  have faults := reordered.faults?
  rw [FieldVerdict.ofVerdict, FieldVerdict.ofVerdict, Verdict.parsedJson?,
    Verdict.parsedJson?, reordered.parsed?_eq]
  generalize left.faults? = leftFaults at faults ⊢
  generalize right.faults? = rightFaults at faults ⊢
  cases faults with
  | none => exact ⟨rfl, .none⟩
  | some both => exact ⟨rfl, .some (.object both)⟩

end Verdict.Reordered

/-! ## Items, values of maps and leaves -/

theorem itemValues_map_eq
    {result other : Json → Except Fault Json}
    (results : ∀ item, SameUpTo Fault.Reordered (result item) (other item))
    (items : List Json) :
    itemValues (items.map result) = itemValues (items.map other) := by
  induction items with
  | nil => rfl
  | cons item rest inductionHypothesis =>
      have head := results item
      rw [List.map_cons, List.map_cons]
      generalize result item = found at head ⊢
      generalize other item = otherFound at head ⊢
      cases head with
      | ok value => rw [itemValues, itemValues, inductionHypothesis]
      | error faults => rw [itemValues, itemValues, inductionHypothesis]

theorem value?_eq
    {left right : EntryResult}
    (same : SameUpTo ObjectFaults.Reordered left right) :
    left.value? = right.value? := by
  cases same <;> rfl

section

variable
  {validate other : Members → Verdict}
  (verdicts : ∀ members, (validate members).Reordered (other members))

include verdicts

theorem itemResult_reordered (item : Json) :
    SameUpTo Fault.Reordered (itemResult validate item)
      (itemResult other item) := by
  cases item with
  | object members =>
      have results := (verdicts members).toResult
      rw [itemResult, itemResult]
      generalize (validate members).toResult = result at results ⊢
      generalize (other members).toResult = otherResult at results ⊢
      cases results with
      | ok parsed => exact .ok _
      | error faults => exact .error (.object faults)
  | _ => exact .error (.same _)

theorem validateItems_reordered (value : Json) :
    SameUpTo Fault.Reordered (validateItems validate value)
      (validateItems other value) := by
  cases value with
  | array items =>
      have results := itemResult_reordered verdicts
      have faults : Entrywise Fault.Reordered
          (itemFaults 0 (items.map (itemResult validate)))
          (itemFaults 0 (items.map (itemResult other))) := by
        rw [itemFaults_map, itemFaults_map]
        refine Entrywise.filterMap ?_ Prod.snd items.zipIdx
        intro entry
        exact (results entry.1).errorOf?
      rw [validateItems, validateItems, itemValues_map_eq results]
      generalize itemFaults 0 (items.map (itemResult validate)) =
        found at faults ⊢
      generalize itemFaults 0 (items.map (itemResult other)) =
        otherFound at faults ⊢
      cases faults with
      | nil => exact .ok _
      | cons index first rest =>
          exact .error (.sequence (.cons index first rest))
  | _ => exact .error (.same _)

variable
  {validateBare otherBare : Json → EntryResult}
  (bareResults : ∀ value,
    SameUpTo ObjectFaults.Reordered (validateBare value) (otherBare value))

include bareResults

theorem entryResult_reordered (value : Json) :
    SameUpTo ObjectFaults.Reordered (entryResult validate validateBare value)
      (entryResult other otherBare value) := by
  cases value with
  | object members => exact (verdicts members).toResult.map _
  | _ => exact bareResults _

theorem validateEntries_reordered (members : Members) :
    (validateEntries validate validateBare members).Reordered
      (validateEntries other otherBare members) where
  parsed := by
    have values : (fun member : String × Json =>
        (EntryResult.value? (entryResult validate validateBare member.2)).map
          fun value => (member.1, value)) =
        fun member =>
          (EntryResult.value? (entryResult other otherBare member.2)).map
            fun value => (member.1, value) := by
      funext member
      rw [value?_eq (entryResult_reordered verdicts bareResults member.2)]
    have kept := congrArg (List.filterMap · members) values
    rw [validateEntries, validateEntries, entryValues_eq_collect,
      entryValues_eq_collect, Entries.collect, Entries.collect,
      List.filterMap_map, List.filterMap_map]
    exact congrArg (some ∘ Json.object) kept
  fault := by
    have faults : Entrywise ObjectFaults.Reordered
        (entryFaults (members.map fun member =>
          (member.1, entryResult validate validateBare member.2)))
        (entryFaults (members.map fun member =>
          (member.1, entryResult other otherBare member.2))) := by
      rw [entryFaults_map, entryFaults_map]
      refine Entrywise.filterMap ?_ Prod.fst members
      intro member
      exact (entryResult_reordered verdicts bareResults member.2).errorOf?
    rw [fault_validateEntries, fault_validateEntries]
    exact enclosed_related faults.eq_nil_iff (.map faults)

end

theorem validateLeaf_reordered
    {validate other : Members → Verdict}
    (verdicts : ∀ members, (validate members).Reordered (other members))
    (pipeline : Pipeline)
    (value : Json) :
    SameUpTo Fault.Reordered (validateLeaf pipeline (some validate) value)
      (validateLeaf pipeline (some other) value) := by
  rw [validateLeaf_eq, validateLeaf_eq]
  cases pipeline.checked value with
  | error fault => exact .error (.same fault)
  | ok found =>
      cases pipeline.lookup with
      | some rules => exact .refl .same _
      | none => exact validateItems_reordered verdicts found

theorem whenObject_reordered
    {validate other : Members → FieldVerdict}
    (verdicts : ∀ members, (validate members).Reordered (other members))
    (value : Json) :
    (whenObject validate value).Reordered (whenObject other value) := by
  cases value with
  | object members => exact verdicts members
  | _ => exact .refl _

/-! ## Specs -/

theorem Spec.Reordered.names_perm
    {left right : Spec}
    (reordered : left.Reordered right) :
    left.names.Perm right.names := by
  cases reordered with
  | declarations strict entrywise permutation =>
      rw [Spec.names, entrywise.names_eq]
      exact permutation.map Prod.fst

/-- The order of the declarations in a spec with distinct names does not
matter. -/
structure Spec.OrderFree (left : Spec) : Prop where
  distinct : left.names.Nodup
  validate : ∀ right, left.Reordered right →
    ∀ members, (left.validate members).Reordered (right.validate members)

/-- Bare values are validated in their boxes. -/
theorem Spec.OrderFree.validateBare
    {left right : Spec}
    (orderFree : left.OrderFree)
    (reordered : left.Reordered right)
    (value : Json) :
    SameUpTo ObjectFaults.Reordered (left.validateBare value)
      (right.validateBare value) := by
  have rightDistinct := reordered.names_perm.nodup_iff.1 orderFree.distinct
  rw [Spec.validateBare_eq_unboxed orderFree.distinct,
    Spec.validateBare_eq_unboxed rightDistinct]
  exact (orderFree.validate right reordered (boxed value)).unboxed

theorem Content.Reordered.validate
    {left right : Content}
    (reordered : left.Reordered right)
    (inside : left.Inner Spec.OrderFree)
    (value : Json) :
    (left.validate value).Reordered (right.validate value) := by
  cases reordered with
  | leaf pipeline => exact .refl _
  | items pipeline specs =>
      exact (validateLeaf_reordered (inside.validate _ specs) pipeline
        value).ofResult
  | object specs =>
      exact whenObject_reordered
        (fun members => (inside.validate _ specs members).ofVerdict) value
  | map specs =>
      exact whenObject_reordered
        (validateEntries_reordered (inside.validate _ specs)
          (inside.validateBare specs))
        value

theorem Field.Reordered.validate
    {left right : Field}
    (reordered : left.Reordered right)
    (inside : left.content.Inner Spec.OrderFree)
    (value : Option Json) :
    (left.validate value).Reordered (right.validate value) := by
  cases reordered with
  | content required notNull contents =>
      cases value with
      | none => exact .refl _
      | some value =>
          by_cases isNull : value = .null
          · subst isNull
            exact .refl _
          · rw [Field.validate_some isNull, Field.validate_some isNull]
            exact contents.validate inside value

theorem Entrywise.validateFields
    {left arranged : List (String × Field)}
    (fields : Entrywise Field.Reordered left arranged)
    (inside : ∀ entry ∈ left, entry.2.content.Inner Spec.OrderFree)
    (valueOf : String → Option Json) :
    Entrywise FieldVerdict.Reordered (ObjectSpec.validateFields left valueOf)
      (ObjectSpec.validateFields arranged valueOf) := by
  induction fields with
  | nil => exact .nil
  | cons name field rest inductionHypothesis =>
      obtain ⟨fieldInside, restInside⟩ := List.forall_mem_cons.1 inside
      exact .cons name (field.validate fieldInside (valueOf name))
        (inductionHypothesis restInside)

theorem parsedMembers_eq_of_entrywise
    {left arranged : List (String × FieldVerdict)}
    (verdicts : Entrywise FieldVerdict.Reordered left arranged) :
    parsedMembers left = parsedMembers arranged := by
  induction verdicts with
  | nil => rfl
  | cons name first rest inductionHypothesis =>
      rw [parsedMembers, parsedMembers, first.parsed, inductionHypothesis]

/-- The order in which values are inserted does not matter if their names are
distinct. -/
theorem parsedMembers_eq_of_perm
    {arranged right : List (String × FieldVerdict)}
    (distinct : (Entries.names arranged).Nodup)
    (permutation : arranged.Perm right) :
    parsedMembers arranged = parsedMembers right := by
  have rightDistinct : (Entries.names right).Nodup :=
    (permutation.map Prod.fst).nodup_iff.1 distinct
  refine Entries.Sorted.ext (sorted_parsedMembers arranged)
    (sorted_parsedMembers right) ?_
  intro name
  rw [get?_parsedMembers, get?_parsedMembers, Entries.get?_collect _ distinct,
    Entries.get?_collect _ rightDistinct,
    Entries.get?_eq_of_perm distinct permutation]

theorem Verdict.Reordered.ofFields
    {left arranged right : List (String × FieldVerdict)}
    (distinct : (Entries.names left).Nodup)
    (verdicts : Entrywise FieldVerdict.Reordered left arranged)
    (permutation : arranged.Perm right) :
    (Verdict.ofFields left).Reordered (Verdict.ofFields right) := by
  have arrangedDistinct : (Entries.names arranged).Nodup :=
    verdicts.names_eq ▸ distinct
  have parsed : parsedMembers left = parsedMembers right :=
    (parsedMembers_eq_of_entrywise verdicts).trans
      (parsedMembers_eq_of_perm arrangedDistinct permutation)
  have faults : ObjectFaults.Reordered ⟨faultsOf left⟩ ⟨faultsOf right⟩ := by
    rw [faultsOf_eq_collect, faultsOf_eq_collect]
    refine .fields (verdicts.collect ?_) (permutation.filterMap _)
    intro verdict other reordered
    exact reordered.fault
  rw [Verdict.ofFields, Verdict.ofFields, parsed]
  exact .checked _ faults

theorem Spec.Reordered.refused?_eq
    {left right : Spec}
    (reordered : left.Reordered right)
    (members : Members) :
    left.refused? members = right.refused? members := by
  have undeclared :
      undeclared? left.fields members = undeclared? right.fields members :=
    undeclared?_congr (fun _ => reordered.names_perm.mem_iff) members
  cases reordered with
  | declarations strict entrywise permutation =>
      rw [Spec.refused?, Spec.refused?, undeclared]

/-- A spec with distinct names is indifferent to the order of its declarations
if the specs inside its fields are. -/
theorem Spec.orderFree_of_inside
    {fields : List (String × Field)}
    (strict : Bool)
    (distinct : (Entries.names fields).Nodup)
    (inside : ∀ entry ∈ fields, entry.2.content.Inner Spec.OrderFree) :
    Spec.OrderFree ⟨fields, strict⟩ := by
  refine ⟨distinct, ?_⟩
  intro right reordered members
  rw [Spec.validate_eq, Spec.validate_eq, ← reordered.refused?_eq]
  cases Spec.refused? ⟨fields, strict⟩ members with
  | some name => exact .aborted name
  | none =>
      cases reordered with
      | declarations strict entrywise permutation =>
          refine .ofFields (nodup_names_validateFields distinct _)
            (entrywise.validateFields inside _) ?_
          rw [Spec.fieldVerdicts, validateFields_eq_map, validateFields_eq_map]
          exact permutation.map _

theorem Spec.WellFormed.orderFree
    {spec : Spec}
    (wellFormed : spec.WellFormed) :
    spec.OrderFree := by
  refine wellFormed.inductionOn ?_
  intro fields strict distinct inside
  exact Spec.orderFree_of_inside strict distinct inside

/-- Validations by two specs that differ in the order of their declarations
only, at any depth, are aborted on the same member or keep the same, and the
faults that they find differ in their order inside objects only. -/
theorem reordered_declarations_reorder_faults_only
    {left right : Spec}
    (wellFormed : left.WellFormed)
    (reordered : left.Reordered right)
    (members : Members) :
    (left.validate members).Reordered (right.validate members) :=
  wellFormed.orderFree.validate right reordered members

/-- A spec for trips. -/
def tripSpec : Spec :=
  .declare (.declare .empty "from" (.leaf .string [.required]))
    "to" (.leaf .string [.required])

/-- The same with the destination first. -/
def backwardTripSpec : Spec :=
  .declare (.declare .empty "to" (.leaf .string [.required]))
    "from" (.leaf .string [.required])

theorem tripSpec_reordered : tripSpec.Reordered backwardTripSpec :=
  .declarations false
    (.cons "from" (.content true false (.leaf _)) <|
      .cons "to" (.content true false (.leaf _)) .nil)
    (.swap ..)

/-- A spec for tickets, which are good for trips on some days. -/
def ticketSpec : Spec :=
  .declare (.declare .empty "days" (.values tripSpec))
    "price" (.leaf .number [.required])

theorem ticketSpec_built : ticketSpec.Built :=
  .declare "price"
    (.declare "days" .empty <|
      .values <|
        .declare "to"
          (.declare "from" .empty (.leaf .string (by simp)))
          (.leaf .string (by simp)))
    (.leaf .number (by simp))

/-- The same with the price first and the trips backward. -/
def backwardTicketSpec : Spec :=
  .declare (.declare .empty "price" (.leaf .number [.required]))
    "days" (.values backwardTripSpec)

theorem ticketSpec_reordered : ticketSpec.Reordered backwardTicketSpec :=
  .declarations false
    (.cons "days" (.content false false (.map tripSpec_reordered)) <|
      .cons "price" (.content true false (.leaf _)) .nil)
    (.swap ..)

/-- A ticket without a price for two days without trips. -/
def blankTicket : Members :=
  [("days", .object [("friday", .object []), ("monday", .bool false)])]

/-- The faults of the ticket stand in two orders, but those of its days in
one. -/
theorem blankTicket_faults_reordered :
    ticketSpec.validate blankTicket =
        .checked [("days", .object [])]
          [("days", .map ⟨[
              ("friday", ⟨[("from", .missing), ("to", .missing)]⟩),
              ("monday", ⟨[("from", .missing), ("to", .missing)]⟩)]⟩),
            ("price", .missing)] ∧
      backwardTicketSpec.validate blankTicket =
        .checked [("days", .object [])]
          [("price", .missing),
            ("days", .map ⟨[
              ("friday", ⟨[("to", .missing), ("from", .missing)]⟩),
              ("monday", ⟨[("to", .missing), ("from", .missing)]⟩)]⟩)] ∧
      (ticketSpec.validate blankTicket).Reordered
        (backwardTicketSpec.validate blankTicket) := by
  have reordered := reordered_declarations_reorder_faults_only
    ticketSpec_built.wellFormed ticketSpec_reordered blankTicket
  exact ⟨rfl, rfl, reordered⟩

end ObjectSpec
