import ObjectSpec.Proofs.FaultTrees

/-!
# Trees from their located faults

A tree of faults can be put together again from its located faults. The first
steps of the paths tell objects, maps and sequences apart and group the located
faults by branch, and with their first steps taken away the members of a group
are the located faults of the branch. This needs that no composite fault is
empty and that no two branches of a node share their step: the empty ones leave
no trace, and what is under a repeated step could be under one.
-/

namespace ObjectSpec

namespace LocatedFault

/-- Whether the path to a fault begins with a step. -/
def beginsWith (step : Step) (located : LocatedFault) : Bool :=
  located.path.head? = some step

theorem under_injective
    (step : Step)
    (left right : LocatedFault)
    (same : left.under step = right.under step) :
    left = right := by
  obtain ⟨path, fault⟩ := left
  obtain ⟨otherPath, otherFault⟩ := right
  simpa [under] using same

theorem beginsWith_under
    (step other : Step)
    (located : LocatedFault) :
    (located.under other).beginsWith step = decide (other = step) := by
  simp [beginsWith, under]

end LocatedFault

/-- The located faults of branches, each seen from the node. -/
def locatedInBranches (branches : List (Step × Fault)) : List LocatedFault :=
  branches.flatMap fun branch =>
    branch.2.located.map (LocatedFault.under branch.1)

theorem locatedInBranches_cons
    (branch : Step × Fault)
    (rest : List (Step × Fault)) :
    locatedInBranches (branch :: rest) =
      branch.2.located.map (LocatedFault.under branch.1) ++
        locatedInBranches rest :=
  List.flatMap_cons

/-- The first located fault begins with the step of the first branch. -/
theorem head?_locatedInBranches_cons
    {branch : Step × Fault}
    (nonempty : branch.2.located ≠ [])
    (rest : List (Step × Fault)) :
    (locatedInBranches (branch :: rest)).head?.bind (·.path.head?) =
      some branch.1 := by
  obtain ⟨first, others, located⟩ := List.exists_cons_of_ne_nil nonempty
  rw [locatedInBranches_cons, located]
  rfl

/-- Under distinct steps, the located faults that begin with the step of the
first branch are those of the first branch. -/
theorem filter_locatedInBranches_cons
    {branch : Step × Fault}
    {rest : List (Step × Fault)}
    (distinct : ((branch :: rest).map Prod.fst).Nodup) :
    (locatedInBranches (branch :: rest)).filter
        (LocatedFault.beginsWith branch.1) =
      branch.2.located.map (LocatedFault.under branch.1) := by
  rw [locatedInBranches_cons, List.filter_append, List.filter_eq_self.2 ?kept,
    List.filter_eq_nil_iff.2 ?dropped, List.append_nil]
  case kept =>
    rw [List.forall_mem_map]
    intro located _
    simp [LocatedFault.beginsWith_under]
  case dropped =>
    intro located member
    obtain ⟨other, inRest, inOther⟩ := List.mem_flatMap.1 member
    obtain ⟨inside, _, rfl⟩ := List.mem_map.1 inOther
    rw [LocatedFault.beginsWith_under, decide_eq_true_iff]
    intro same
    exact (List.nodup_cons.1 distinct).1 (same ▸ List.mem_map_of_mem inRest)

/-- Branches with distinct steps are determined by their located faults if each
of them is by its own. -/
theorem branches_eq_of_located_eq
    {left right : List (Step × Fault)}
    (leftDistinct : (left.map Prod.fst).Nodup)
    (rightDistinct : (right.map Prod.fst).Nodup)
    (leftFilled : ∀ branch ∈ left, branch.2.located ≠ [])
    (rightFilled : ∀ branch ∈ right, branch.2.located ≠ [])
    (determined : ∀ branch ∈ left, ∀ other ∈ right,
      branch.2.located = other.2.located → branch.2 = other.2)
    (same : locatedInBranches left = locatedInBranches right) :
    left = right := by
  induction left generalizing right with
  | nil =>
      cases right with
      | nil => rfl
      | cons other others =>
          have first :=
            head?_locatedInBranches_cons (rightFilled _ List.mem_cons_self)
              others
          rw [← same] at first
          cases first
  | cons branch rest inductionHypothesis =>
      have first :=
        head?_locatedInBranches_cons (leftFilled _ List.mem_cons_self) rest
      cases right with
      | nil => rw [same] at first; cases first
      | cons other others =>
          have stepSame : branch.1 = other.1 := by
            rw [same,
              head?_locatedInBranches_cons
                (rightFilled _ List.mem_cons_self)] at first
            exact (Option.some.inj first).symm
          have locatedSame : branch.2.located = other.2.located := by
            have filtered :=
              congrArg (List.filter (LocatedFault.beginsWith branch.1)) same
            rw [filter_locatedInBranches_cons leftDistinct, stepSame,
              filter_locatedInBranches_cons rightDistinct] at filtered
            exact (List.map_inj_right (LocatedFault.under_injective other.1)).1
              filtered
          have restSame :
              locatedInBranches rest = locatedInBranches others := by
            rw [locatedInBranches_cons, locatedInBranches_cons, stepSame,
              locatedSame] at same
            exact List.append_cancel_left same
          have branchSame : branch = other :=
            Prod.ext stepSame
              (determined _ List.mem_cons_self _ List.mem_cons_self locatedSame)
          rw [List.forall_mem_cons] at leftFilled rightFilled
          rw [branchSame, inductionHypothesis (List.nodup_cons.1 leftDistinct).2
            (List.nodup_cons.1 rightDistinct).2 leftFilled.2 rightFilled.2 ?_
            restSame]
          intro inside member otherInside otherMember
          exact determined _ (List.mem_cons_of_mem _ member) _
            (List.mem_cons_of_mem _ otherMember)

/-- Two lists converted to values of different kinds differ unless they are
empty. -/
theorem map_ne_map
    {α β γ : Type}
    {convert : α → γ}
    {convertOther : β → γ}
    {list : List α}
    (nonempty : list.map convert ≠ [])
    (different : ∀ value other, convert value ≠ convertOther other)
    (others : List β) :
    list.map convert ≠ others.map convertOther := by
  intro same
  obtain ⟨converted, member⟩ := List.exists_mem_of_ne_nil _ nonempty
  obtain ⟨value, _, rfl⟩ := List.mem_map.1 member
  rw [same] at member
  obtain ⟨other, _, equal⟩ := List.mem_map.1 member
  exact different value other equal.symm

namespace Fault

/-- A composite fault that is not empty is determined by its branches: their
steps tell objects, maps and sequences apart. -/
theorem eq_of_branches_eq
    {left right : Fault}
    (nonempty : left.branches ≠ [])
    (same : left.branches = right.branches) :
    left = right := by
  cases left with
  | object faults =>
      cases right with
      | object others =>
          obtain ⟨fields⟩ := faults
          obtain ⟨otherFields⟩ := others
          obtain rfl : fields = otherFields :=
            (List.map_inj_right (by rintro ⟨⟩ ⟨⟩; simp)).1 same
          rfl
      | map others => exact absurd same (map_ne_map nonempty (by simp) _)
      | sequence others => exact absurd same (map_ne_map nonempty (by simp) _)
      | _ => exact absurd same nonempty
  | map faults =>
      cases right with
      | object others => exact absurd same (map_ne_map nonempty (by simp) _)
      | map others =>
          obtain ⟨keys⟩ := faults
          obtain ⟨otherKeys⟩ := others
          obtain rfl : keys = otherKeys :=
            (List.map_inj_right (by rintro ⟨⟩ ⟨⟩; simp)).1 same
          rfl
      | sequence others => exact absurd same (map_ne_map nonempty (by simp) _)
      | _ => exact absurd same nonempty
  | sequence faults =>
      cases right with
      | object others => exact absurd same (map_ne_map nonempty (by simp) _)
      | map others => exact absurd same (map_ne_map nonempty (by simp) _)
      | sequence others =>
          obtain ⟨items⟩ := faults
          obtain ⟨otherItems⟩ := others
          obtain rfl : items = otherItems :=
            (List.map_inj_right (by rintro ⟨⟩ ⟨⟩; simp)).1 same
          rfl
      | _ => exact absurd same nonempty
  | _ => exact absurd rfl nonempty

/-- The path to a fault inside a composite fault takes a step. -/
theorem path_ne_nil_of_composite
    {fault : Fault}
    {located : LocatedFault}
    (composite : fault.isComposite = true)
    (member : located ∈ fault.located) :
    located.path ≠ [] := by
  rw [located_of_composite composite] at member
  obtain ⟨branch, _, inBranch⟩ := List.mem_flatMap.1 member
  obtain ⟨inside, _, rfl⟩ := List.mem_map.1 inBranch
  exact List.cons_ne_nil _ _

/-- A fault with the located faults of one that consists of no others consists
of no others either. -/
theorem isComposite_eq_false_of_located_eq
    {left right : Fault}
    (simple : left.isComposite = false)
    (same : left.located = right.located) :
    right.isComposite = false := by
  refine Bool.eq_false_iff.2 fun composite => ?_
  rw [located_of_not_composite simple] at same
  exact path_ne_nil_of_composite composite (same ▸ List.mem_cons_self) rfl

/-- A proper tree of faults is determined by its located faults. -/
theorem Proper.eq_of_located_eq
    {left right : Fault}
    (leftProper : left.Proper)
    (rightProper : right.Proper)
    (same : left.located = right.located) :
    left = right := by
  induction left using Fault.inductionOn generalizing right with
  | step left inductionHypothesis =>
      cases composite : left.isComposite with
      | false =>
          have rightSimple := isComposite_eq_false_of_located_eq composite same
          rw [located_of_not_composite composite,
            located_of_not_composite rightSimple] at same
          exact congrArg LocatedFault.fault (List.cons.inj same).1
      | true =>
          have rightComposite : right.isComposite = true := by
            refine Bool.of_not_eq_false fun simple => ?_
            rw [isComposite_eq_false_of_located_eq simple same.symm]
              at composite
            cases composite
          obtain ⟨leftNonempty, leftDistinct, leftInside⟩ :=
            leftProper.of_composite composite
          obtain ⟨_, rightDistinct, rightInside⟩ :=
            rightProper.of_composite rightComposite
          rw [located_of_composite composite,
            located_of_composite rightComposite] at same
          refine eq_of_branches_eq leftNonempty ?_
          refine branches_eq_of_located_eq leftDistinct rightDistinct
            (fun branch member =>
              (leftInside branch member).filled.located_ne_nil)
            (fun branch member =>
              (rightInside branch member).filled.located_ne_nil) ?_ same
          intro branch member other otherMember
          exact inductionHypothesis branch member (leftInside branch member)
            (rightInside other otherMember)

end Fault

/-- Two trees of faults of an object are the same if they are proper and have
the same located faults. -/
theorem located_faults_determine_tree
    {left right : ObjectFaults}
    (leftProper : (Fault.object left).Proper)
    (rightProper : (Fault.object right).Proper)
    (same : left.located = right.located) :
    left = right :=
  Fault.object.inj (leftProper.eq_of_located_eq rightProper same)

/-- The faults of the team, put together by hand. -/
def collectedTeamFaults : ObjectFaults :=
  let phones := SequenceFaults.empty.push 3 (.notObject (.value (.int 7)))
  let members :=
    MapFaults.empty.push "ann" (.single "phones" (.sequence phones))
  (ObjectFaults.empty.push "team"
    (.object (.single "members" (.map members)))).push
    "name" .missing

/-- Both trees lead to the same two faults, so they are one. -/
theorem collectedTeamFaults_eq :
    (Fault.object teamFaults).Proper ∧
      collectedTeamFaults.located = teamFaults.located ∧
      collectedTeamFaults = teamFaults := by
  have collectedProper : (Fault.object collectedTeamFaults).Proper :=
    teamFaults_proper
  have same : collectedTeamFaults.located = teamFaults.located := rfl
  exact ⟨teamFaults_proper, same,
    located_faults_determine_tree collectedProper teamFaults_proper same⟩

/-- Where two faults of an object share their field, the tree is lost. -/
example :
    let split : ObjectFaults :=
      ⟨[("team", .object (.single "name" .missing)),
        ("team", .object (.single "size" .null))]⟩
    let joined : ObjectFaults :=
      ⟨[("team", .object ⟨[("name", .missing), ("size", .null)]⟩)]⟩
    split.located = joined.located := rfl

end ObjectSpec
