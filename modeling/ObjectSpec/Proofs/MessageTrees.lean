import ObjectSpec.Fault.Report
import ObjectSpec.Proofs.Verdicts

/-!
# Trees of messages

The located faults of an object are added to a tree of messages one after the
other. What one addition does to a node is seen at the node alone: it may leave
a message there, extend the list of numbered branches, and pass on to one
branch. So the tree of a list of located faults has, behind each turn, the tree
of those faults in the list that take the turn, and going on from turn to turn
this says what stands at every address.
-/

namespace ObjectSpec

/-! ## Addresses -/

/-- The way from a node of a tree of messages to one of its branches. -/
inductive Turn where
  /-- To the branch of a name. -/
  | named (name : String)
  /-- To the branch of an index. -/
  | numbered (position : Nat)
  deriving DecidableEq, Repr

/-- The number of numbered branches that there must be for a turn. -/
def Turn.width : Turn → Nat
  | .named _ => 0
  | .numbered position => position + 1

/-- The turn that a step of a path takes: fields and keys lead to named
branches. -/
def Step.turn : Step → Turn
  | .field name => .named name
  | .key name => .named name
  | .index position => .numbered position

/-- A place in a tree of messages, by the turns that lead to it from the
root. -/
abbrev Address := List Turn

/-- The number of numbered branches that there must be at a node for an address
to lead on from there. -/
def Address.width (address : Address) : Nat :=
  address.head?.elim 0 Turn.width

theorem Address.lt_width_iff
    {address : Address}
    {position : Nat} :
    position < address.width ↔
      ∃ other, position ≤ other ∧ [.numbered other] <+: address := by
  cases address with
  | nil => simp [width]
  | cons turn rest =>
      cases turn with
      | named name => simp [width, Turn.width]
      | numbered index =>
          simp only [width, Turn.width, List.head?_cons, Option.elim_some,
            Nat.lt_succ_iff, List.cons_prefix_cons, List.nil_prefix, and_true,
            Turn.numbered.injEq, exists_eq_right]

/-- The address of the place where a path ends. -/
def Path.address (path : Path) : Address :=
  path.map Step.turn

@[simp] theorem Path.address_nil : Path.address [] = [] := rfl

@[simp] theorem Path.address_cons (step : Step) (rest : Path) :
    Path.address (step :: rest) = step.turn :: Path.address rest := rfl

/-- Some path leads to an address or through it. -/
def PassedBy (located : List LocatedFault) (address : Address) : Prop :=
  ∃ fault ∈ located, address <+: fault.path.address

/-- A fault seen from an address on the way to it. -/
def LocatedFault.beyond? (address : Address) (located : LocatedFault) :
    Option LocatedFault :=
  if address <+: located.path.address then
    some ⟨located.path.drop address.length, located.fault⟩
  else none

/-- What is left of an address behind a place on the way. -/
theorem LocatedFault.address_of_beyond?
    {address : Address}
    {located inside : LocatedFault}
    (found : located.beyond? address = some inside) :
    located.path.address = address ++ inside.path.address ∧
      inside.fault = located.fault := by
  rw [beyond?, Option.ite_none_right_eq_some, Option.some.injEq] at found
  obtain ⟨⟨rest, leads⟩, rfl⟩ := found
  have left : Path.address (located.path.drop address.length) = rest := by
    rw [Path.address, List.map_drop, ← Path.address, ← leads, List.drop_left]
  exact ⟨by rw [left, leads], rfl⟩

theorem LocatedFault.beyond?_eq_none_iff
    {address : Address}
    {located : LocatedFault} :
    located.beyond? address = none ↔ ¬address <+: located.path.address := by
  simp [beyond?]

@[simp] theorem LocatedFault.beyond?_nil (located : LocatedFault) :
    located.beyond? [] = some located := by
  simp [beyond?]

/-- A fault is seen from an address turn by turn. -/
theorem LocatedFault.beyond?_cons
    (turn : Turn)
    (rest : Address)
    (located : LocatedFault) :
    located.beyond? (turn :: rest) =
      (located.beyond? [turn]).bind (·.beyond? rest) := by
  obtain ⟨path, fault⟩ := located
  cases path with
  | nil => rfl
  | cons step others =>
      by_cases taken : turn = step.turn
      · simp [beyond?, List.cons_prefix_cons, taken]
      · simp [beyond?, List.cons_prefix_cons, taken]

theorem passedBy_nil_iff {located : List LocatedFault} :
    PassedBy located [] ↔ located ≠ [] := by
  simp [PassedBy, List.eq_nil_iff_forall_not_mem]

theorem passedBy_filterMap_beyond?
    {located : List LocatedFault}
    {address rest : Address} :
    PassedBy (located.filterMap (·.beyond? address)) rest ↔
      PassedBy located (address ++ rest) := by
  simp only [PassedBy, List.mem_filterMap]
  constructor
  · rintro ⟨inside, ⟨fault, member, found⟩, leads⟩
    refine ⟨fault, member, ?_⟩
    rw [(LocatedFault.address_of_beyond? found).1]
    exact (List.prefix_append_right_inj address).2 leads
  · rintro ⟨fault, member, leads⟩
    cases found : fault.beyond? address with
    | none =>
        have start := (List.prefix_append address rest).trans leads
        exact absurd start (LocatedFault.beyond?_eq_none_iff.1 found)
    | some inside =>
        refine ⟨inside, ⟨fault, member, found⟩, ?_⟩
        rw [(LocatedFault.address_of_beyond? found).1] at leads
        exact (List.prefix_append_right_inj address).1 leads

/-- The messages left at an address are those of the faults with this
address. -/
theorem messages_filterMap_beyond?
    (located : List LocatedFault)
    (address : Address) :
    ((located.filterMap (·.beyond? address)).filter
        fun fault => fault.path.address = []).map
          (fun fault => fault.fault.message) =
      (located.filter fun fault => fault.path.address = address).map
        fun fault => fault.fault.message := by
  induction located with
  | nil => rfl
  | cons first rest inductionHypothesis =>
      rw [List.filterMap_cons, List.filter_cons]
      cases found : first.beyond? address with
      | none =>
          have elsewhere : first.path.address ≠ address := by
            rintro rfl
            exact LocatedFault.beyond?_eq_none_iff.1 found List.prefix_rfl
          simpa [elsewhere] using inductionHypothesis
      | some inside =>
          obtain ⟨leads, sameFault⟩ := LocatedFault.address_of_beyond? found
          by_cases here : inside.path.address = []
          · simp [leads, here, sameFault, inductionHypothesis]
          · simp [leads, here, inductionHypothesis]

namespace FaultTree

/-! ## Branches -/

/-- The branch behind a turn. -/
def branch? (tree : FaultTree) : Turn → Option FaultTree
  | .named name => tree.named? name
  | .numbered position => tree.numbered? position

/-- The tree with another branch behind a turn. -/
def setBranch (tree branch : FaultTree) : Turn → FaultTree
  | .named name => tree.setNamed name branch
  | .numbered position => tree.setNumbered position branch

@[simp] theorem branch?_empty (turn : Turn) : empty.branch? turn = none := by
  cases turn <;> rfl

@[simp] theorem messages_setBranch
    (tree branch : FaultTree)
    (turn : Turn) :
    (tree.setBranch branch turn).messages = tree.messages := by
  cases turn <;> rfl

theorem length_numbered_setBranch
    (tree branch : FaultTree)
    (turn : Turn) :
    (tree.setBranch branch turn).numbered.length =
      max tree.numbered.length turn.width := by
  cases turn with
  | named name => exact (Nat.max_zero _).symm
  | numbered position =>
      simp only [setBranch, setNumbered, List.length_set, List.length_append,
        List.length_replicate, Turn.width]
      omega

/-- Entries that are appended for missing branches show nothing. -/
theorem join_getElem?_padded
    (tree : FaultTree)
    (count position : Nat) :
    (tree.numbered ++ List.replicate count none)[position]?.join =
      tree.numbered? position := by
  by_cases inside : position < tree.numbered.length
  · rw [List.getElem?_append_left inside, numbered?]
  · rw [List.getElem?_append_right (Nat.not_lt.1 inside),
      List.getElem?_replicate, numbered?,
      List.getElem?_eq_none (Nat.not_lt.1 inside)]
    split <;> rfl

theorem numbered?_setNumbered
    (tree branch : FaultTree)
    (position other : Nat) :
    (tree.setNumbered position branch).numbered? other =
      if position = other then some branch else tree.numbered? other := by
  have within : position <
      tree.numbered.length + (position + 1 - tree.numbered.length) := by omega
  simp only [numbered?, setNumbered, List.getElem?_set, List.length_append,
    List.length_replicate, within, if_true]
  by_cases same : position = other
  · simp [same]
  · rw [if_neg same, if_neg same, join_getElem?_padded, numbered?]

theorem branch?_setBranch
    (tree branch : FaultTree)
    (turn other : Turn) :
    (tree.setBranch branch turn).branch? other =
      if turn = other then some branch else tree.branch? other := by
  cases turn with
  | named name =>
      cases other with
      | named otherName =>
          simp only [setBranch, branch?, setNamed, named?, Entries.get?_insert,
            Turn.named.injEq]
      | numbered position => rfl
  | numbered position =>
      cases other with
      | named name => rfl
      | numbered otherPosition =>
          simp only [setBranch, branch?, numbered?_setNumbered,
            Turn.numbered.injEq]

/-! ## Additions -/

/-- A message at the end of a longer path is added to the branch behind its
first turn. -/
theorem add_cons
    (message : String)
    (step : Step)
    (rest : Path)
    (tree : FaultTree) :
    add message (step :: rest) tree =
      tree.setBranch (add message rest ((tree.branch? step.turn).getD empty))
        step.turn := by
  cases step <;> rfl

@[simp] theorem messages_addLocated
    (tree : FaultTree)
    (located : LocatedFault) :
    (tree.addLocated located).messages =
      tree.messages ++
        if located.path.address = [] then [located.fault.message] else [] := by
  obtain ⟨path, fault⟩ := located
  cases path with
  | nil => rfl
  | cons step rest => simp [addLocated, add_cons]

theorem length_numbered_addLocated
    (tree : FaultTree)
    (located : LocatedFault) :
    (tree.addLocated located).numbered.length =
      max tree.numbered.length located.path.address.width := by
  obtain ⟨path, fault⟩ := located
  cases path with
  | nil => exact (Nat.max_zero _).symm
  | cons step rest =>
      rw [addLocated, add_cons, length_numbered_setBranch]
      rfl

/-- A fault is added to the branch behind its first turn and to no other
branch. -/
theorem branch?_addLocated
    (tree : FaultTree)
    (located : LocatedFault)
    (turn : Turn) :
    (tree.addLocated located).branch? turn =
      (located.beyond? [turn]).elim (tree.branch? turn) fun inside =>
        some (((tree.branch? turn).getD empty).addLocated inside) := by
  obtain ⟨path, fault⟩ := located
  cases path with
  | nil => rfl
  | cons step rest =>
      rw [addLocated, add_cons, branch?_setBranch]
      by_cases taken : step.turn = turn
      · subst taken
        simp [LocatedFault.beyond?, addLocated]
      · simp [LocatedFault.beyond?, taken, Ne.symm taken]

end FaultTree

/-! ## Trees of lists -/

section

variable
  {σ α β γ : Type}
  {add : σ → α → σ}
  (shown : σ → Option β)
  {select : α → Option γ}
  {extend : β → γ → β}
  {start : β}
  (step : ∀ state element,
    shown (add state element) =
      (select element).elim (shown state) fun selected =>
        some (extend ((shown state).getD start) selected))

include step

theorem shown_foldl_of_some
    {state : σ}
    {value : β}
    (isShown : shown state = some value)
    (elements : List α) :
    shown (elements.foldl add state) =
      some ((elements.filterMap select).foldl extend value) := by
  induction elements generalizing state value with
  | nil => exact isShown
  | cons element rest inductionHypothesis =>
      have after := step state element
      rw [isShown] at after
      rw [List.foldl_cons, List.filterMap_cons]
      cases selected : select element with
      | none =>
          rw [selected] at after
          exact inductionHypothesis after
      | some found =>
          rw [selected] at after
          exact inductionHypothesis after

/-- What is shown of a state to which elements are added one by one, each of
them extending what is shown or leaving it alone, is the extension by those of
them that count. -/
theorem shown_foldl
    {state : σ}
    (blank : shown state = none)
    (elements : List α) :
    shown (elements.foldl add state) =
      enclosed (List.foldl extend start) (elements.filterMap select) := by
  induction elements generalizing state with
  | nil => exact blank
  | cons element rest inductionHypothesis =>
      have after := step state element
      rw [blank] at after
      rw [List.foldl_cons, List.filterMap_cons]
      cases selected : select element with
      | none =>
          rw [selected] at after
          exact inductionHypothesis after
      | some found =>
          rw [selected] at after
          exact shown_foldl_of_some shown step after rest

end

namespace FaultTree

/-- The tree of several located faults. -/
def ofLocated (located : List LocatedFault) : FaultTree :=
  located.foldl addLocated empty

/-- The root holds the messages of the faults that are located there. -/
theorem messages_ofLocated (located : List LocatedFault) :
    (ofLocated located).messages =
      (located.filter fun fault => fault.path.address = []).map
        fun fault => fault.fault.message := by
  have added (tree : FaultTree) :
      (located.foldl addLocated tree).messages =
        tree.messages ++
          (located.filter fun fault => fault.path.address = []).map
            fun fault => fault.fault.message := by
    induction located generalizing tree with
    | nil => simp
    | cons first rest inductionHypothesis =>
        rw [List.foldl_cons, inductionHypothesis, messages_addLocated,
          List.filter_cons]
        by_cases here : first.path.address = []
        · simp [here]
        · simp [here]
  exact added empty

/-- There is an entry for an index exactly if some fault takes this index or a
larger one. -/
theorem lt_length_numbered_ofLocated_iff
    {located : List LocatedFault}
    {position : Nat} :
    position < (ofLocated located).numbered.length ↔
      ∃ other, position ≤ other ∧ PassedBy located [.numbered other] := by
  have added (tree : FaultTree) :
      position < (located.foldl addLocated tree).numbered.length ↔
        position < tree.numbered.length ∨
          ∃ fault ∈ located, position < fault.path.address.width := by
    induction located generalizing tree with
    | nil => simp
    | cons first rest inductionHypothesis =>
        have longer : position < (tree.addLocated first).numbered.length ↔
            position < tree.numbered.length ∨
              position < first.path.address.width := by
          rw [length_numbered_addLocated]
          omega
        simp only [List.foldl_cons, inductionHypothesis, longer, or_assoc,
          List.mem_cons, exists_eq_or_imp]
  rw [ofLocated, added]
  simp only [Address.lt_width_iff, empty, List.length_nil, Nat.not_lt_zero,
    false_or]
  constructor
  · rintro ⟨fault, member, other, upTo, leads⟩
    exact ⟨other, upTo, fault, member, leads⟩
  · rintro ⟨other, upTo, fault, member, leads⟩
    exact ⟨fault, member, other, upTo, leads⟩

/-- The entries end at the largest index that some fault takes. -/
theorem length_numbered_ofLocated (located : List LocatedFault) :
    (ofLocated located).numbered.length = 0 ∨
      ∃ largest, PassedBy located [.numbered largest] ∧
        (ofLocated located).numbered.length = largest + 1 := by
  rcases Nat.eq_zero_or_pos (ofLocated located).numbered.length with none | some
  · exact .inl none
  · obtain ⟨largest, upTo, taken⟩ :=
      lt_length_numbered_ofLocated_iff.1 (Nat.sub_one_lt_of_lt some)
    have inside := lt_length_numbered_ofLocated_iff.2
      ⟨largest, Nat.le_refl largest, taken⟩
    exact .inr ⟨largest, taken, by omega⟩

/-- Behind a turn stands the tree of the faults that take the turn. -/
theorem branch?_ofLocated
    (located : List LocatedFault)
    (turn : Turn) :
    (ofLocated located).branch? turn =
      enclosed ofLocated (located.filterMap (·.beyond? [turn])) :=
  shown_foldl (fun tree => tree.branch? turn)
    (fun tree fault => branch?_addLocated tree fault turn) (branch?_empty turn)
    located

theorem branch?_ofLocated_eq_none_iff
    {located : List LocatedFault}
    {turn : Turn} :
    (ofLocated located).branch? turn = none ↔ ¬PassedBy located [turn] := by
  rw [← List.append_nil [turn], ← passedBy_filterMap_beyond?, passedBy_nil_iff,
    branch?_ofLocated]
  cases located.filterMap (·.beyond? [turn]) with
  | nil => simp [enclosed]
  | cons first others => simp [enclosed]

/-- An entry for an index is missing exactly if no fault takes the index. -/
theorem numbered_ofLocated_eq_none_iff
    {located : List LocatedFault}
    {position : Nat}
    (inside : position < (ofLocated located).numbered.length) :
    (ofLocated located).numbered[position] = none ↔
      ¬PassedBy located [.numbered position] := by
  rw [← branch?_ofLocated_eq_none_iff, branch?, numbered?,
    List.getElem?_eq_getElem inside, Option.join_some]

/-! ## Addresses in trees -/

/-- The node at an address. -/
def at? (tree : FaultTree) : Address → Option FaultTree
  | [] => some tree
  | turn :: rest => (tree.branch? turn).bind fun branch => branch.at? rest

/-- What stands at an address is the tree of the faults that are seen from
there. -/
theorem eq_ofLocated_of_at?
    {located : List LocatedFault}
    {address : Address}
    {node : FaultTree}
    (found : (ofLocated located).at? address = some node) :
    node = ofLocated (located.filterMap (·.beyond? address)) := by
  induction address generalizing located with
  | nil => simpa using (Option.some.inj found).symm
  | cons turn rest inductionHypothesis =>
      obtain ⟨branch, isBranch, inBranch⟩ := Option.bind_eq_some_iff.1 found
      rw [branch?_ofLocated, enclosed_eq_some_iff] at isBranch
      obtain ⟨_, rfl⟩ := isBranch
      rw [inductionHypothesis inBranch, List.filterMap_filterMap]
      simp only [← LocatedFault.beyond?_cons]

/-- There is a node at every address that some fault is seen from, and at no
other address but the root. -/
theorem isSome_at?_ofLocated_iff
    {located : List LocatedFault}
    {address : Address} :
    ((ofLocated located).at? address).isSome = true ↔
      address = [] ∨ PassedBy located address := by
  induction address generalizing located with
  | nil => simp [at?]
  | cons turn rest inductionHypothesis =>
      have passed : PassedBy (located.filterMap (·.beyond? [turn])) rest ↔
          PassedBy located ([turn] ++ rest) := passedBy_filterMap_beyond?
      rw [List.singleton_append] at passed
      rw [at?, branch?_ofLocated, ← passed]
      cases behind : located.filterMap (·.beyond? [turn]) with
      | nil => simp [enclosed, PassedBy]
      | cons first others =>
          have nonempty : rest = [] → PassedBy (first :: others) rest := by
            rintro rfl
            exact passedBy_nil_iff.2 (List.cons_ne_nil _ _)
          rw [enclosed, Option.bind_some, inductionHypothesis,
            or_iff_right_of_imp nonempty]
          simp

end FaultTree

/-- The tree of messages of an object has a node at the root and at every
address that some path leads to or through, and nowhere else. The messages of a
node are those of the faults located there, in their order. It has numbered
branches up to the largest index that some path takes from there, of which those
are missing that no path takes. -/
theorem message_tree_exact_at_every_address
    (faults : ObjectFaults)
    (address : Address) :
    ((faults.toTree.at? address).isSome = true ↔
        address = [] ∨ PassedBy faults.located address) ∧
      ∀ node, faults.toTree.at? address = some node →
        (node.messages =
            (faults.located.filter fun fault =>
              fault.path.address = address).map
              fun fault => fault.fault.message) ∧
          (∀ position,
              PassedBy faults.located (address ++ [.numbered position]) →
            position < node.numbered.length) ∧
          (node.numbered.length = 0 ∨
            ∃ largest,
              PassedBy faults.located (address ++ [.numbered largest]) ∧
              node.numbered.length = largest + 1) ∧
          ∀ position (inside : position < node.numbered.length),
            node.numbered[position] = none ↔
              ¬PassedBy faults.located (address ++ [.numbered position]) := by
  refine ⟨FaultTree.isSome_at?_ofLocated_iff, ?_⟩
  intro node found
  obtain rfl := FaultTree.eq_ofLocated_of_at? found
  simp only [← passedBy_filterMap_beyond?]
  refine ⟨?_, ?_, ?_, ?_⟩
  · rw [FaultTree.messages_ofLocated, messages_filterMap_beyond?]
  · intro position taken
    exact FaultTree.lt_length_numbered_ofLocated_iff.2
      ⟨position, Nat.le_refl position, taken⟩
  · exact FaultTree.length_numbered_ofLocated _
  · intro position inside
    exact FaultTree.numbered_ofLocated_eq_none_iff inside

/-- Faults put together by hand: a field is repeated, indices are out of order,
and two composite faults are empty. -/
def strayFaults : ObjectFaults :=
  ⟨[("rows", .sequence ⟨[(3, .missing), (1, .null), (2, .object ⟨[]⟩)]⟩),
    ("rows", .map ⟨[("total", ⟨[]⟩)]⟩),
    ("rows", .undeclared)]⟩

/-- Of the four entries for rows two are missing: no fault takes their
indices. -/
theorem strayFaults_rows :
    ∃ rows, strayFaults.toTree.at? [.named "rows"] = some rows ∧
      rows.messages = ["Field is not present in specification"] ∧
      rows.numbered.map Option.isNone = [true, false, true, false] ∧
      ¬PassedBy strayFaults.located [.named "rows", .numbered 2] ∧
      (strayFaults.toTree.at? [.named "rows", .named "total"]).isNone := by
  have isNode : strayFaults.toTree.at? [.named "rows"] =
      some (FaultTree.ofLocated [⟨[.index 3], .missing⟩, ⟨[.index 1], .null⟩,
        ⟨[], .undeclared⟩]) := rfl
  obtain ⟨_, exactThere⟩ :=
    message_tree_exact_at_every_address strayFaults [.named "rows"]
  obtain ⟨messages, _, _, missing⟩ := exactThere _ isNode
  exact ⟨_, isNode, messages, rfl, (missing 2 (by decide)).1 rfl, rfl⟩

end ObjectSpec
