import Mathlib.Data.List.Perm.Basic
import ObjectSpec.Proofs.Entries
import ObjectSpec.Proofs.MessageTrees
import ObjectSpec.Proofs.Reconstruction

/-!
# Messages in reports

The report by field and the tree along the paths hold the same messages: each of
them holds the message of every located fault once, and what the report lists
for a field is what the tree holds in the branch of the field, wherever inside
it.

Both are collections to which messages are added one by one. An addition
replaces one entry by another that holds one message more, so the whole then
holds one message more as well.
-/

namespace ObjectSpec

/-! ## Replaced entries -/

section

variable
  {α β : Type}
  [BEq β]
  [LawfulBEq β]

/-- An entry that is inserted takes the place of the one with its name. -/
theorem Entries.perm_insert
    {entries : List (String × α)}
    (sorted : Sorted entries)
    (name : String)
    (value : α) :
    (insert name value entries ++
        ((get? name entries).map (Prod.mk name)).toList).Perm
      ((name, value) :: entries) := by
  induction entries with
  | nil => exact .refl _
  | cons entry rest inductionHypothesis =>
      obtain ⟨first, kept⟩ := entry
      obtain ⟨firstBefore, restSorted⟩ := List.pairwise_cons.1 sorted
      rw [insert, get?_cons]
      by_cases same : first = name
      · subst same
        rw [if_pos rfl, if_pos rfl]
        exact (List.perm_append_singleton _ rest).cons _
      · rw [if_neg same, if_neg same]
        by_cases before : name < first
        · have absent : get? name rest = none := by
            refine get?_eq_none_iff.2 fun member => ?_
            exact String.lt_asymm before (firstBefore name member)
          rw [if_pos before, absent]
          exact .of_eq (List.append_nil _)
        · rw [if_neg before]
          exact ((inductionHypothesis restSorted).cons _).trans (.swap _ _ _)

/-- If an inserted entry holds some elements more than the one that it replaces,
then all entries together hold these elements more. -/
theorem Entries.perm_flatMap_insert
    {entries : List (String × α)}
    {name : String}
    {value : α}
    {added : List β}
    (content : α → List β)
    (sorted : Sorted entries)
    (grows : (content value).Perm
      ((get? name entries).elim [] content ++ added)) :
    ((insert name value entries).flatMap fun entry => content entry.2).Perm
      ((entries.flatMap fun entry => content entry.2) ++ added) := by
  have replaced := (perm_insert sorted name value).flatMap_right
    fun entry => content entry.2
  rw [List.perm_iff_count] at replaced grows ⊢
  intro element
  have whole := replaced element
  have part := grows element
  cases held : get? name entries with
  | none =>
      simp only [held, Option.map_none, Option.toList_none, Option.elim_none,
        List.append_nil, List.nil_append, List.flatMap_cons, List.count_append]
        at whole part ⊢
      omega
  | some kept =>
      simp only [held, Option.map_some, Option.toList_some, Option.elim_some,
        List.flatMap_append, List.flatMap_cons, List.flatMap_nil,
        List.append_nil, List.count_append] at whole part ⊢
      omega

/-- The same for the elements of a list by their positions. -/
theorem perm_flatMap_set
    {list : List α}
    {position : Nat}
    {old value : α}
    {added : List β}
    (content : α → List β)
    (held : list[position]? = some old)
    (grows : (content value).Perm (content old ++ added)) :
    ((list.set position value).flatMap content).Perm
      (list.flatMap content ++ added) := by
  obtain ⟨inside, rfl⟩ := List.getElem?_eq_some_iff.1 held
  have replaced :=
    (List.set_perm_cons_eraseIdx inside value).flatMap_right content
  have kept := (List.getElem_cons_eraseIdx_perm inside).flatMap_right content
  rw [List.perm_iff_count] at replaced kept grows ⊢
  intro element
  have whole := replaced element
  have before := kept element
  have part := grows element
  simp only [List.flatMap_cons, List.count_append] at whole before part ⊢
  omega

end

/-- If every addition to a state adds one element to its contents, then the
contents that come from several additions are their elements. The additions keep
what they rely on. -/
theorem perm_contents_foldl
    {σ α β : Type}
    {add : σ → α → σ}
    {value : α → β}
    (contents : σ → List β)
    (invariant : σ → Prop)
    {elements : List α}
    (step : ∀ element ∈ elements, ∀ state, invariant state →
      invariant (add state element) ∧
        (contents (add state element)).Perm (contents state ++ [value element]))
    {state : σ}
    (start : invariant state) :
    (contents (elements.foldl add state)).Perm
      (contents state ++ elements.map value) := by
  induction elements generalizing state with
  | nil => simp
  | cons first rest inductionHypothesis =>
      obtain ⟨firstStep, restSteps⟩ := List.forall_mem_cons.1 step
      obtain ⟨kept, one⟩ := firstStep state start
      have others := inductionHypothesis restSteps kept
      rw [List.map_cons, List.append_cons]
      exact others.trans (one.append_right _)

/-! ## All messages of a tree -/

mutual

/-- The messages of a tree, wherever they are. -/
def FaultTree.allMessages : FaultTree → List String
  | ⟨messages, named, numbered⟩ =>
      messages ++ (messagesInNamed named ++ messagesInNumbered numbered)

/-- The messages in named branches. -/
def messagesInNamed : List (String × FaultTree) → List String
  | [] => []
  | (_, branch) :: rest => branch.allMessages ++ messagesInNamed rest

/-- The messages in numbered branches. -/
def messagesInNumbered : List (Option FaultTree) → List String
  | [] => []
  | none :: rest => messagesInNumbered rest
  | some branch :: rest => branch.allMessages ++ messagesInNumbered rest

end

theorem messagesInNamed_eq_flatMap (named : List (String × FaultTree)) :
    messagesInNamed named = named.flatMap fun entry => entry.2.allMessages := by
  induction named with
  | nil => rfl
  | cons entry rest inductionHypothesis =>
      rw [messagesInNamed, inductionHypothesis, List.flatMap_cons]

theorem messagesInNumbered_eq_flatMap (numbered : List (Option FaultTree)) :
    messagesInNumbered numbered =
      numbered.flatMap fun branch => branch.elim [] FaultTree.allMessages := by
  induction numbered with
  | nil => rfl
  | cons branch rest inductionHypothesis =>
      cases branch with
      | none => exact inductionHypothesis
      | some branch =>
          rw [messagesInNumbered, inductionHypothesis, List.flatMap_cons,
            Option.elim_some]

namespace FaultTree

theorem allMessages_eq (tree : FaultTree) :
    tree.allMessages =
      tree.messages ++
        ((tree.named.flatMap fun entry => entry.2.allMessages) ++
          tree.numbered.flatMap fun branch => branch.elim [] allMessages) := by
  obtain ⟨messages, named, numbered⟩ := tree
  rw [allMessages, messagesInNamed_eq_flatMap, messagesInNumbered_eq_flatMap]

/-- At every node of a tree the named branches stand in increasing order of
their names. -/
inductive Ordered : FaultTree → Prop
  /-- A node whose branches are ordered. -/
  | node {tree : FaultTree} :
      Entries.Sorted tree.named →
      (∀ turn branch, tree.branch? turn = some branch → branch.Ordered) →
      tree.Ordered

theorem ordered_empty : empty.Ordered := by
  refine .node List.Pairwise.nil ?_
  intro turn branch found
  rw [branch?_empty] at found
  cases found

namespace Ordered

variable
  {tree branch : FaultTree}
  (ordered : tree.Ordered)

include ordered

theorem sorted : Entries.Sorted tree.named := by
  cases ordered with
  | node sorted _ => exact sorted

theorem getD_branch? (turn : Turn) :
    ((tree.branch? turn).getD empty).Ordered := by
  cases ordered with
  | node _ inside =>
      cases found : tree.branch? turn with
      | none => exact ordered_empty
      | some branch => exact inside turn branch found

theorem setBranch
    (branchOrdered : branch.Ordered)
    (turn : Turn) :
    (tree.setBranch branch turn).Ordered := by
  cases ordered with
  | node sorted inside =>
      constructor
      · cases turn with
        | named name => exact sorted.insert name branch
        | numbered position => exact sorted
      · intro other found isBranch
        rw [branch?_setBranch] at isBranch
        split at isBranch
        next => exact Option.some.inj isBranch ▸ branchOrdered
        next => exact inside other found isBranch

end Ordered

theorem Ordered.add
    {tree : FaultTree}
    (ordered : tree.Ordered)
    (message : String)
    (path : Path) :
    (FaultTree.add message path tree).Ordered := by
  induction path generalizing tree with
  | nil =>
      cases ordered with
      | node sorted inside => exact .node sorted inside
  | cons step rest inductionHypothesis =>
      rw [add_cons]
      exact ordered.setBranch
        (inductionHypothesis (ordered.getD_branch? step.turn)) step.turn

/-- Padding reaches up to the index that it is made for. -/
theorem getElem?_padded
    (tree : FaultTree)
    (position : Nat) :
    (tree.numbered ++
        List.replicate (position + 1 - tree.numbered.length) none)[position]? =
      some (tree.numbered? position) := by
  have within : position < (tree.numbered ++
      List.replicate (position + 1 - tree.numbered.length) none).length := by
    rw [List.length_append, List.length_replicate]
    omega
  rw [← tree.join_getElem?_padded (position + 1 - tree.numbered.length),
    List.getElem?_eq_getElem within, Option.join_some]

/-- If another branch holds some messages more than the one that it replaces,
then the tree holds these messages more. -/
theorem Ordered.perm_allMessages_setBranch
    {tree branch : FaultTree}
    {turn : Turn}
    {added : List String}
    (ordered : tree.Ordered)
    (grows : branch.allMessages.Perm
      ((tree.branch? turn).elim [] allMessages ++ added)) :
    (tree.setBranch branch turn).allMessages.Perm
      (tree.allMessages ++ added) := by
  rw [allMessages_eq, allMessages_eq, List.perm_iff_count]
  intro message
  cases turn with
  | named name =>
      have named :=
        (Entries.perm_flatMap_insert allMessages ordered.sorted grows).count_eq
        message
      simp only [FaultTree.setBranch, setNamed, List.count_append] at named ⊢
      omega
  | numbered position =>
      have entryGrows : ((some branch).elim [] allMessages).Perm
          ((tree.numbered? position).elim [] allMessages ++ added) := grows
      have numbered :=
        (perm_flatMap_set (fun branch => branch.elim [] allMessages)
        (tree.getElem?_padded position) entryGrows).count_eq message
      have noneAdded (count : Nat) : (List.replicate count none).flatMap
          (fun branch : Option FaultTree => branch.elim [] allMessages) =
            [] := by
        simp
      simp only [FaultTree.setBranch, setNumbered, List.flatMap_append,
        noneAdded, List.count_append, List.append_nil] at numbered ⊢
      omega

/-- An addition adds its message to the messages of the tree. -/
theorem Ordered.perm_allMessages_add
    {tree : FaultTree}
    (ordered : tree.Ordered)
    (message : String)
    (path : Path) :
    (FaultTree.add message path tree).allMessages.Perm
      (tree.allMessages ++ [message]) := by
  induction path generalizing tree with
  | nil =>
      rw [FaultTree.add, allMessages_eq, allMessages_eq, List.perm_iff_count]
      intro other
      simp only [List.count_append]
      omega
  | cons step rest inductionHypothesis =>
      have branch := inductionHypothesis (ordered.getD_branch? step.turn)
      rw [add_cons]
      refine ordered.perm_allMessages_setBranch ?_
      cases found : tree.branch? step.turn with
      | none => rw [found] at branch; exact branch
      | some inside => rw [found] at branch; exact branch

theorem perm_allMessages_ofLocated (located : List LocatedFault) :
    (ofLocated located).allMessages.Perm
      (located.map fun fault => fault.fault.message) := by
  refine perm_contents_foldl allMessages Ordered ?_ ordered_empty
  intro fault _ tree ordered
  constructor
  · exact ordered.add fault.fault.message fault.path
  · exact ordered.perm_allMessages_add fault.fault.message fault.path

end FaultTree

/-! ## Messages by field -/

namespace FieldReport

/-- The message that a located fault adds for a field, if it is reported
there. -/
def messageFor? (field : String) (located : LocatedFault) : Option String :=
  if fieldOf? located.path = some field then some located.fault.message
  else none

theorem get?_addLocated
    (report : FieldReport)
    (located : LocatedFault)
    (field : String) :
    Entries.get? field (report.addLocated located).fields =
      (messageFor? field located).elim (Entries.get? field report.fields)
        fun message =>
        some ((Entries.get? field report.fields).getD [] ++ [message]) := by
  rw [addLocated, messageFor?]
  cases reported : fieldOf? located.path with
  | none => rfl
  | some other =>
      simp only [add, Entries.get?_insert, Option.some.injEq, messagesOf]
      split
      next same => subst same; rfl
      next => rfl

theorem get?_foldl_addLocated
    (located : List LocatedFault)
    (field : String) :
    Entries.get? field (located.foldl addLocated empty).fields =
      enclosed id (located.filterMap (messageFor? field)) := by
  have extended :
      List.foldl (fun messages message => messages ++ [message]) [] =
        (id : List String → List String) := by
    funext messages
    rw [List.foldl_append_eq_append, ← List.flatMap_def,
      List.flatMap_singleton']
    rfl
  rw [← extended]
  exact shown_foldl
    (fun report : FieldReport => Entries.get? field report.fields)
    (fun report fault => get?_addLocated report fault field) rfl located

/-- A message that is added for a field stands behind those of the field. -/
theorem perm_add
    {report : FieldReport}
    (sorted : Entries.Sorted report.fields)
    (field message : String) :
    ((report.add field message).fields.flatMap Prod.snd).Perm
      (report.fields.flatMap Prod.snd ++ [message]) := by
  refine Entries.perm_flatMap_insert id sorted ?_
  rw [messagesOf]
  cases Entries.get? field report.fields with
  | none => exact .refl _
  | some messages => exact .refl _

/-- Every located fault that is reported under some field adds its message
once. -/
theorem perm_foldl_addLocated
    (located : List LocatedFault)
    (reported : ∀ fault ∈ located, (fieldOf? fault.path).isSome) :
    ((located.foldl addLocated empty).fields.flatMap Prod.snd).Perm
      (located.map fun fault => fault.fault.message) := by
  refine perm_contents_foldl
    (fun report : FieldReport => report.fields.flatMap Prod.snd)
    (fun report => Entries.Sorted report.fields) ?_ List.Pairwise.nil
  intro fault member report sorted
  obtain ⟨field, isField⟩ := Option.isSome_iff_exists.1 (reported fault member)
  have addition :
      report.addLocated fault = report.add field fault.fault.message := by
    rw [addLocated, isField]
  rw [addition]
  constructor
  · exact sorted.insert field _
  · exact perm_add sorted field fault.fault.message

end FieldReport

/-! ## Both reports -/

section

variable
  {located : List LocatedFault}
  (fieldFirst :
    ∀ fault ∈ located, ∃ name rest, fault.path = .field name :: rest)
  (field : String)

include fieldFirst

/-- Reported under a field are the faults whose paths begin with the field. -/
theorem filterMap_messageFor? :
    located.filterMap (FieldReport.messageFor? field) =
      (located.filter fun fault => fault.beginsWith (.field field)).map
        fun fault => fault.fault.message := by
  rw [← List.filterMap_eq_map, List.filterMap_filter]
  refine List.filterMap_congr ?_
  intro fault member
  obtain ⟨name, rest, path⟩ := fieldFirst fault member
  simp [FieldReport.messageFor?, FieldReport.fieldOf?, LocatedFault.beginsWith,
    path]

/-- Behind the turn of a field are the faults whose paths begin with the
field. -/
theorem map_filterMap_beyond? :
    (located.filterMap (·.beyond? [.named field])).map
        (fun fault => fault.fault.message) =
      (located.filter fun fault => fault.beginsWith (.field field)).map
        fun fault => fault.fault.message := by
  rw [List.map_filterMap, ← List.filterMap_eq_map, List.filterMap_filter]
  refine List.filterMap_congr ?_
  intro fault member
  obtain ⟨name, rest, path⟩ := fieldFirst fault member
  by_cases same : field = name
  · simp [LocatedFault.beyond?, LocatedFault.beginsWith, Step.turn, path, same]
  · simp [LocatedFault.beyond?, LocatedFault.beginsWith, Step.turn, path, same,
      Ne.symm same]

end

/-- Both reports of the faults of an object hold the message of every located
fault once. What the report by field lists for a field are the messages of the
faults whose paths begin with it, in their order, and they are the messages that
the tree holds in the branch of the field; the one has no entry and the other no
branch if there are none. -/
theorem reports_hold_the_same_messages
    (faults : ObjectFaults)
    (field : String) :
    ((Entries.get? field faults.byField.fields).isSome =
        (faults.toTree.named? field).isSome) ∧
      (∀ messages, Entries.get? field faults.byField.fields = some messages →
        (messages =
            (faults.located.filter fun fault =>
              fault.beginsWith (.field field)).map
              fun fault => fault.fault.message) ∧
          ∃ branch, faults.toTree.named? field = some branch ∧
            branch.allMessages.Perm messages) ∧
      (faults.byField.fields.flatMap Prod.snd).Perm
        (faults.located.map fun fault => fault.fault.message) ∧
      faults.toTree.allMessages.Perm
        (faults.located.map fun fault => fault.fault.message) := by
  have fieldFirst :
      ∀ fault ∈ faults.located, ∃ name rest, fault.path = .field name :: rest :=
    fun fault member => ObjectFaults.exists_path_eq_of_mem_located member
  have reported :
      ∀ fault ∈ faults.located, (FieldReport.fieldOf? fault.path).isSome := by
    intro fault member
    obtain ⟨name, rest, path⟩ := fieldFirst fault member
    rw [path]
    rfl
  have listed : Entries.get? field faults.byField.fields =
      enclosed id (faults.located.filterMap (FieldReport.messageFor? field)) :=
    FieldReport.get?_foldl_addLocated faults.located field
  have branched : faults.toTree.named? field =
      enclosed FaultTree.ofLocated
        (faults.located.filterMap (·.beyond? [.named field])) :=
    FaultTree.branch?_ofLocated faults.located (.named field)
  refine and_assoc.1
      ⟨?_, FieldReport.perm_foldl_addLocated faults.located reported,
    FaultTree.perm_allMessages_ofLocated faults.located⟩
  rw [listed, branched, filterMap_messageFor? fieldFirst,
    ← map_filterMap_beyond? fieldFirst]
  cases faults.located.filterMap (·.beyond? [.named field]) with
  | nil => exact ⟨rfl, nofun⟩
  | cons first others =>
      refine ⟨rfl, ?_⟩
      rintro messages ⟨⟩
      exact ⟨rfl, _, rfl,
        FaultTree.perm_allMessages_ofLocated (first :: others)⟩

/-- Faults put together by hand: a field is repeated, and a key and a field
inside it share their name. -/
def ledgerFaults : ObjectFaults :=
  ⟨[("rows", .map ⟨[("total", .single "sum" .missing)]⟩),
    ("name", .undeclared),
    ("rows", .object (.single "total" .null))]⟩

/-- The report by field lists the messages in the order of the faults, and the
tree holds the same messages in the order of its branches. -/
theorem ledgerFaults_rows :
    ∃ listed branch,
      Entries.get? "rows" ledgerFaults.byField.fields = some listed ∧
        ledgerFaults.toTree.named? "rows" = some branch ∧
        listed = ["A value is required", "The value can not be null"] ∧
        branch.allMessages =
          ["The value can not be null", "A value is required"] ∧
        branch.allMessages.Perm listed := by
  obtain ⟨_, entries, _⟩ := reports_hold_the_same_messages ledgerFaults "rows"
  have isListed : Entries.get? "rows" ledgerFaults.byField.fields =
      some ["A value is required", "The value can not be null"] := rfl
  obtain ⟨_, branch, isBranch, perm⟩ := entries _ isListed
  cases isBranch
  exact ⟨_, _, isListed, rfl, rfl, rfl, perm⟩

end ObjectSpec
