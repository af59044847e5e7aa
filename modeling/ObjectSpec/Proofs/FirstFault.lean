import ObjectSpec.Proofs.FaultTrees

/-!
# The first fault

The message of an object at fault leads to the first of its located faults.
Wherever the path to that fault takes a field, the message tells how many fields
of the object there are at fault and which one it takes. Keys and indices are
not told. The message ends in the wording of the located fault.
-/

namespace ObjectSpec

namespace Fault

/-- The fault behind a step: the first branch under it. -/
def branch? (fault : Fault) (step : Step) : Option Fault :=
  (fault.branches.find? fun branch => branch.1 = step).map Prod.snd

theorem branch?_of_branches_eq_cons
    {fault inner : Fault}
    {step : Step}
    {others : List (Step × Fault)}
    (branches : fault.branches = (step, inner) :: others) :
    fault.branch? step = some inner := by
  simp [branch?, branches]

/-- What a message tells where a path takes a step: that this is the first of so
many faults, and the field. Only fields are told. -/
def heading (fault : Fault) : Step → String
  | .field name =>
      "first of " ++ toString fault.branches.length ++
        (if fault.branches.length = 1 then " error: " else " errors: ") ++
          "Error validating " ++ name ++ ": "
  | .key _ => ""
  | .index _ => ""

/-- What a message tells along a path, step by step from one fault to the
next. -/
def headings : Fault → Path → String
  | _, [] => ""
  | fault, step :: rest =>
      fault.heading step ++ (fault.branch? step).elim "" fun inner =>
        inner.headings rest

@[simp] theorem headings_nil (fault : Fault) : fault.headings [] = "" := rfl

theorem headings_cons
    {fault inner : Fault}
    {step : Step}
    (found : fault.branch? step = some inner)
    (rest : Path) :
    fault.headings (step :: rest) =
      fault.heading step ++ inner.headings rest := by
  rw [headings, found, Option.elim_some]

/-- The faults of an object are worded by the first field, after what is told of
it. -/
theorem message_object_cons
    (field : String)
    (first : Fault)
    (rest : List (String × Fault)) :
    (Fault.object ⟨(field, first) :: rest⟩).message =
      (Fault.object ⟨(field, first) :: rest⟩).heading (.field field) ++
        first.message := by
  have length : (Fault.object ⟨(field, first) :: rest⟩).branches.length =
      rest.length + 1 := by
    simp [branches]
  calc (Fault.object ⟨(field, first) :: rest⟩).message
      = announcement (rest.length + 1) ++ fieldMessage field first.message :=
        rfl
    _ = (Fault.object ⟨(field, first) :: rest⟩).heading (.field field) ++
        first.message := by
      rw [heading, length]
      unfold announcement fieldMessage
      simp only [String.append_assoc]

/-- A composite fault is worded by its first branch, after what is told of the
step to it. -/
theorem message_of_branches_eq_cons
    {fault inner : Fault}
    {step : Step}
    {others : List (Step × Fault)}
    (isFirst : fault.branches = (step, inner) :: others) :
    fault.message = fault.heading step ++ inner.message := by
  cases fault with
  | object faults =>
      obtain ⟨_ | ⟨⟨field, first⟩, rest⟩⟩ := faults
      · cases isFirst
      · simp only [branches, List.map_cons, List.cons.injEq,
          Prod.mk.injEq] at isFirst
        obtain ⟨⟨rfl, rfl⟩, _⟩ := isFirst
        exact message_object_cons field first rest
  | map faults =>
      obtain ⟨_ | ⟨⟨key, first⟩, rest⟩⟩ := faults
      · cases isFirst
      · simp only [branches, List.map_cons, List.cons.injEq,
          Prod.mk.injEq] at isFirst
        obtain ⟨⟨rfl, rfl⟩, _⟩ := isFirst
        rw [heading, String.empty_append]
        rfl
  | sequence faults =>
      obtain ⟨_ | ⟨⟨index, first⟩, rest⟩⟩ := faults
      · cases isFirst
      · simp only [branches, List.map_cons, List.cons.injEq,
          Prod.mk.injEq] at isFirst
        obtain ⟨⟨rfl, rfl⟩, _⟩ := isFirst
        rw [heading, String.empty_append]
        rfl
  | _ => cases isFirst

/-- The located faults of a composite fault begin with those of its first
branch. -/
theorem located_of_branches_eq_cons
    {fault inner : Fault}
    {step : Step}
    {others : List (Step × Fault)}
    {first : LocatedFault}
    {rest : List LocatedFault}
    (branches : fault.branches = (step, inner) :: others)
    (inside : inner.located = first :: rest) :
    ∃ following, fault.located = first.under step :: following := by
  have composite : fault.isComposite = true := by
    refine Bool.of_not_eq_false fun simple => ?_
    rw [branches_of_not_composite simple] at branches
    cases branches
  rw [located_of_composite composite, branches, List.flatMap_cons, inside,
    List.map_cons]
  exact ⟨_, rfl⟩

end Fault

/-- The first located fault of a tree is the one that the message of the tree
leads to. -/
theorem Fault.Filled.exists_located_eq_cons
    {fault : Fault}
    (filled : fault.Filled) :
    ∃ first rest, fault.located = first :: rest ∧
      fault.message = fault.headings first.path ++ first.fault.message := by
  induction filled with
  | @simple fault simple =>
      refine ⟨.here fault, [], Fault.located_of_not_composite simple, ?_⟩
      simp [LocatedFault.here]
  | @composite fault composite nonempty _ inductionHypothesis =>
      rw [Fault.steps, Ne, List.map_eq_nil_iff] at nonempty
      obtain ⟨⟨step, inner⟩, others, branches⟩ :=
        List.exists_cons_of_ne_nil nonempty
      obtain ⟨first, rest, inside, message⟩ :=
        inductionHypothesis (step, inner) (branches ▸ List.mem_cons_self)
      obtain ⟨following, located⟩ :=
        Fault.located_of_branches_eq_cons branches inside
      refine ⟨first.under step, following, located, ?_⟩
      calc fault.message
          = fault.heading step ++ inner.message :=
            Fault.message_of_branches_eq_cons branches
        _ = fault.heading step ++
            (inner.headings first.path ++ first.fault.message) := by
            rw [message]
        _ = fault.headings (step :: first.path) ++ first.fault.message := by
            rw [Fault.headings_cons
                (Fault.branch?_of_branches_eq_cons branches),
              String.append_assoc]

/-- The message of an object at fault, in which no composite fault is empty,
tells of the path to the first located fault field by field, and then how that
fault is worded. -/
theorem message_leads_to_first_located
    {faults : ObjectFaults}
    (filled : (Fault.object faults).Filled) :
    ∃ first rest, faults.located = first :: rest ∧
      faults.message =
        (Fault.object faults).headings first.path ++ first.fault.message :=
  filled.exists_located_eq_cons

/-- The phone is found through a key and an index, of which the message does not
tell. -/
theorem teamFaults_message :
    (Fault.object teamFaults).Filled ∧
      (teamFaults.located.head?.map LocatedFault.path =
        some [.field "team", .field "members", .key "ann", .field "phones",
          .index 3]) ∧
      teamFaults.message =
        "first of 2 errors: Error validating team: " ++
          "first of 1 error: Error validating members: " ++
          "first of 1 error: Error validating phones: " ++
          "Expected 7 to be an object" := by
  obtain ⟨first, rest, located, message⟩ := message_leads_to_first_located
    teamFaults_proper.filled
  cases located
  refine ⟨teamFaults_proper.filled, rfl, message.trans ?_⟩
  decide

end ObjectSpec
