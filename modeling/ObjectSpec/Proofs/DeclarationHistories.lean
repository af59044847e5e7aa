import Mathlib.Data.Finset.Card
import ObjectSpec.Proofs.Entries
import ObjectSpec.Spec.Basic

/-!
# Declaration histories

A spec is built from the empty one by declaring fields and refusing undeclared
members, in any number and order. The result is an ordered map: its names are
those that were declared, in the order of their first declarations, and each has
the rules of its last declaration.
-/

namespace ObjectSpec

/-- One step in building a spec. -/
inductive BuildingStep where
  /-- A field is declared. -/
  | declare (name : String) (field : Field)
  /-- Undeclared members are refused. -/
  | refuseUndeclared

/-- The name that a step declares. -/
def BuildingStep.declared? : BuildingStep → Option String
  | .declare name _ => some name
  | .refuseUndeclared => none

/-- The names that are declared, one for each declaration. -/
def declaredNames (history : List BuildingStep) : List String :=
  history.filterMap BuildingStep.declared?

/-- The last declaration of a name gives it these rules. -/
def LastDeclared
    (history : List BuildingStep)
    (name : String)
    (field : Field) : Prop :=
  ∃ before after,
    history = before ++ .declare name field :: after ∧
      name ∉ declaredNames after

namespace Spec

/-- The spec after one more step. -/
def extend (spec : Spec) : BuildingStep → Spec
  | .declare name field => spec.declare name field
  | .refuseUndeclared => spec.refuseUndeclared

/-- The spec that is built by a history. -/
def ofHistory (history : List BuildingStep) : Spec :=
  history.foldl extend empty

/-- A spec is the ordered map that a history describes. -/
structure Follows (spec : Spec) (history : List BuildingStep) : Prop where
  /-- The names are those that were declared. -/
  mem_names_iff : ∀ name, name ∈ spec.names ↔ name ∈ declaredNames history
  /-- The names stand in the order of their first declarations. -/
  names_ordered : spec.names.Pairwise fun earlier later =>
    (declaredNames history).idxOf earlier < (declaredNames history).idxOf later
  /-- The rules of a name are those of its last declaration. -/
  get?_eq_some_iff : ∀ name field,
    spec.get? name = some field ↔ LastDeclared history name field
  /-- Undeclared members are refused if some step says so. -/
  strict_iff : spec.strict = true ↔ .refuseUndeclared ∈ history

end Spec

/-! ## One more step -/

theorem declaredNames_concat
    (history : List BuildingStep)
    (step : BuildingStep) :
    declaredNames (history ++ [step]) =
      declaredNames history ++ step.declared?.toList := by
  rw [declaredNames, List.filterMap_append]
  cases step with
  | declare name field => rfl
  | refuseUndeclared => rfl

theorem not_mem_declaredNames_concat_iff
    {history : List BuildingStep}
    {step : BuildingStep}
    {name : String} :
    name ∉ declaredNames (history ++ [step]) ↔
      name ∉ declaredNames history ∧ step.declared? ≠ some name := by
  rw [declaredNames_concat, List.mem_append, not_or, Option.mem_toList]

theorem lastDeclared_nil
    (name : String)
    (field : Field) :
    ¬LastDeclared [] name field := by
  rintro ⟨before, after, split, _⟩
  exact List.append_ne_nil_of_right_ne_nil before (List.cons_ne_nil _ after)
    split.symm

/-- A declaration at the end is the last one of its name; of another name the
last declaration is the one before it. -/
theorem lastDeclared_concat_iff
    {history : List BuildingStep}
    {step : BuildingStep}
    {name : String}
    {field : Field} :
    LastDeclared (history ++ [step]) name field ↔
      step = .declare name field ∨
        step.declared? ≠ some name ∧ LastDeclared history name field := by
  constructor
  · rintro ⟨before, after, split, fresh⟩
    rcases List.eq_nil_or_concat' after with rfl | ⟨after, last, rfl⟩
    · obtain ⟨_, same⟩ := List.append_inj' split rfl
      exact Or.inl (List.cons.inj same).1
    · rw [← List.cons_append, ← List.append_assoc] at split
      obtain ⟨rfl, same⟩ := List.append_inj' split rfl
      obtain ⟨rfl, _⟩ := List.cons.inj same
      obtain ⟨freshBefore, different⟩ :=
        not_mem_declaredNames_concat_iff.1 fresh
      exact Or.inr ⟨different, before, after, rfl, freshBefore⟩
  · rintro (rfl | ⟨different, before, after, rfl, fresh⟩)
    · exact ⟨history, [], rfl, List.not_mem_nil⟩
    · refine ⟨before, after ++ [step], by simp, ?_⟩
      exact not_mem_declaredNames_concat_iff.2 ⟨fresh, different⟩

theorem pairwise_idxOf_append
    {names declared : List String}
    (inside : ∀ name ∈ names, name ∈ declared)
    (ordered : names.Pairwise fun earlier later =>
      declared.idxOf earlier < declared.idxOf later)
    (further : List String) :
    names.Pairwise fun earlier later =>
      (declared ++ further).idxOf earlier <
        (declared ++ further).idxOf later := by
  refine ordered.imp_of_mem ?_
  intro earlier later earlierMember laterMember before
  rw [List.idxOf_append_of_mem (inside earlier earlierMember),
    List.idxOf_append_of_mem (inside later laterMember)]
  exact before

namespace Spec

theorem names_declare (spec : Spec) (name : String) (field : Field) :
    (spec.declare name field).names =
      if name ∈ spec.names then spec.names else spec.names ++ [name] :=
  Entries.names_assign name field spec.fields

theorem follows_empty : empty.Follows [] where
  mem_names_iff _ := Iff.rfl
  names_ordered := List.Pairwise.nil
  get?_eq_some_iff name field := by
    constructor
    · rintro ⟨⟩
    · exact fun last => absurd last (lastDeclared_nil name field)
  strict_iff := by
    constructor
    · rintro ⟨⟩
    · exact fun member => absurd member List.not_mem_nil

namespace Follows

variable
  {spec : Spec}
  {history : List BuildingStep}
  (follows : spec.Follows history)

include follows

/-- A new name goes to the end, where its first declaration is; a name that is
declared again keeps its place. -/
theorem declare (name : String) (field : Field) :
    (spec.declare name field).Follows (history ++ [.declare name field]) where
  mem_names_iff other := by
    rw [names_declare, declaredNames_concat, List.mem_append, Option.mem_toList,
      ← follows.mem_names_iff]
    change _ ↔ other ∈ spec.names ∨ some name = some other
    rw [Option.some_inj]
    split
    next present =>
        constructor
        · exact Or.inl
        · rintro (before | rfl)
          · exact before
          · exact present
    next => rw [List.mem_append, List.mem_singleton, eq_comm]
  names_ordered := by
    have inside : ∀ other ∈ spec.names, other ∈ declaredNames history :=
      fun other => (follows.mem_names_iff other).1
    have kept := pairwise_idxOf_append inside follows.names_ordered [name]
    rw [names_declare, declaredNames_concat]
    split
    next => exact kept
    next fresh =>
        rw [follows.mem_names_iff] at fresh
        refine List.pairwise_append.2 ⟨kept, List.pairwise_singleton _ _, ?_⟩
        intro earlier member later same
        rw [List.mem_singleton.1 same,
          List.idxOf_append_of_mem (inside earlier member),
          List.idxOf_append_of_notMem fresh]
        have before := List.idxOf_lt_length_of_mem (inside earlier member)
        omega
  get?_eq_some_iff other rules := by
    rw [get?_declare, lastDeclared_concat_iff, BuildingStep.declare.injEq]
    change _ ↔ name = other ∧ field = rules ∨ some name ≠ some other ∧ _
    rw [Ne, Option.some_inj, ← follows.get?_eq_some_iff]
    split
    next same => simp [same]
    next different => simp [different]
  strict_iff := by
    rw [List.mem_append, List.mem_singleton, ← follows.strict_iff]
    exact (or_iff_left BuildingStep.noConfusion).symm

theorem refuseUndeclared :
    spec.refuseUndeclared.Follows (history ++ [.refuseUndeclared]) where
  mem_names_iff := by
    rw [declaredNames_concat]
    exact (List.append_nil _).symm ▸ follows.mem_names_iff
  names_ordered := by
    rw [declaredNames_concat]
    exact (List.append_nil _).symm ▸ follows.names_ordered
  get?_eq_some_iff name field := by
    rw [lastDeclared_concat_iff, ← follows.get?_eq_some_iff]
    constructor
    · exact fun found => Or.inr ⟨Option.some_ne_none name ∘ Eq.symm, found⟩
    · rintro (same | ⟨_, found⟩)
      · cases same
      · exact found
  strict_iff := by
    constructor
    · exact fun _ => List.mem_append_right _ (List.mem_singleton_self _)
    · exact fun _ => rfl

theorem extend (step : BuildingStep) :
    (spec.extend step).Follows (history ++ [step]) := by
  cases step with
  | declare name field => exact follows.declare name field
  | refuseUndeclared => exact follows.refuseUndeclared

theorem names_nodup : spec.names.Nodup := by
  refine follows.names_ordered.imp ?_
  rintro earlier later before rfl
  exact Nat.lt_irrefl _ before

theorem size_eq : spec.size = (declaredNames history).toFinset.card := by
  have sameNames : spec.names.toFinset = (declaredNames history).toFinset := by
    ext name
    rw [List.mem_toFinset, List.mem_toFinset, follows.mem_names_iff]
  rw [← sameNames, List.toFinset_card_of_nodup follows.names_nodup]
  exact (List.length_map _).symm

end Follows

/-! ## Whole histories -/

theorem ofHistory_concat (history : List BuildingStep) (step : BuildingStep) :
    ofHistory (history ++ [step]) = (ofHistory history).extend step :=
  List.foldl_append

/-- Building follows its history, step by step. -/
theorem follows_ofHistory (history : List BuildingStep) :
    (ofHistory history).Follows history := by
  induction history using List.reverseRecOn with
  | nil => exact follows_empty
  | append_singleton history step inductionHypothesis =>
      rw [ofHistory_concat]
      exact inductionHypothesis.extend step

end Spec

/-- Assigning a name that is present leaves every entry with another name where
it is. -/
theorem Entries.getElem?_assign_of_ne
    {α : Type}
    {entries : List (String × α)}
    {name other : String}
    (present : name ∈ names entries)
    (different : other ≠ name)
    (value kept : α)
    (position : Nat) :
    (assign name value entries)[position]? = some (other, kept) ↔
      entries[position]? = some (other, kept) := by
  induction entries generalizing position with
  | nil => exact absurd present List.not_mem_nil
  | cons entry rest inductionHypothesis =>
      obtain ⟨first, before⟩ := entry
      rw [assign]
      split
      next same =>
          cases position with
          | zero => simp [same, different.symm]
          | succ position => rfl
      next changed =>
          have presentInRest : name ∈ names rest :=
            (List.mem_cons.1 present).resolve_left fun same => changed same.symm
          cases position with
          | zero => rfl
          | succ position => exact inductionHypothesis presentInRest position

/-- A spec built by any history is an ordered map: its names are the declared
ones, each once and in the order of their first declarations, the rules of a
name are those of its last declaration, its size is the number of distinct
names, and it refuses undeclared members exactly if some step says so. Declaring
a name again moves no name, and leaves the entry of every other name where and
as it is. -/
theorem built_spec_is_ordered_map (history : List BuildingStep) :
    let spec := Spec.ofHistory history
    let declared := declaredNames history
    spec.Follows history ∧
      spec.names.Nodup ∧
      (∀ name, spec.get? name = none ↔ name ∉ declared) ∧
      spec.size = declared.toFinset.card ∧
      ∀ name ∈ declared, ∀ field,
        (spec.declare name field).names = spec.names ∧
          ∀ other, other ≠ name →
            (spec.declare name field).get? other = spec.get? other ∧
              ∀ (position : Nat) (rules : Field),
                (spec.declare name field).fields[position]? =
                    some (other, rules) ↔
                  spec.fields[position]? = some (other, rules) := by
  intro spec declared
  have follows : spec.Follows history := Spec.follows_ofHistory history
  refine ⟨follows, follows.names_nodup, ?_, follows.size_eq, ?_⟩
  · intro name
    rw [← follows.mem_names_iff]
    exact Entries.get?_eq_none_iff
  · intro name member field
    have present : name ∈ spec.names := (follows.mem_names_iff name).2 member
    refine ⟨(spec.names_declare name field).trans (if_pos present), ?_⟩
    intro other different
    refine ⟨(spec.get?_declare name other field).trans (if_neg different.symm),
      ?_⟩
    intro position rules
    exact Entries.getElem?_assign_of_ne present different field rules position

/-- A stop is declared, then a line, and then the stop again with other
rules. -/
def lineHistory : List BuildingStep :=
  [.declare "stop" (Field.nested .empty), .refuseUndeclared,
    .declare "line" (Field.nested .empty),
    .declare "stop" (Field.values .empty).require]

/-- The stop, declared once more, stays before the line, and the line keeps its
place and its rules. -/
theorem lineHistory_stop_redeclared :
    "stop" ∈ declaredNames lineHistory ∧ "line" ≠ "stop" ∧
      let spec := Spec.ofHistory lineHistory
      (spec.declare "stop" (Field.nested .empty)).names = spec.names ∧
        (spec.declare "stop" (Field.nested .empty)).get? "line" =
          spec.get? "line" := by
  have declared : "stop" ∈ declaredNames lineHistory := List.mem_cons_self
  have different : "line" ≠ "stop" := by decide
  obtain ⟨_, _, _, _, redeclared⟩ := built_spec_is_ordered_map lineHistory
  obtain ⟨sameNames, others⟩ := redeclared "stop" declared (Field.nested .empty)
  exact ⟨declared, different, sameNames, (others "line" different).1⟩

/-- Names stand in the order of their first declarations. -/
example : (Spec.ofHistory lineHistory).names = ["stop", "line"] := by
  decide

end ObjectSpec
