import ObjectSpec.Entries

/-!
# Finding entries

Looking a name up finds the first entry with it. Where the names are distinct,
the entries of a list and what is found in it are the same thing, and this is
how the fields of a spec and the members of an object are read.
-/

namespace ObjectSpec
namespace Entries

variable {α β : Type}

/-- What is found under a name is an entry with it. -/
theorem mem_of_get?
    {name : String}
    {value : α}
    {entries : List (String × α)}
    (found : get? name entries = some value) :
    (name, value) ∈ entries := by
  induction entries with
  | nil => simp at found
  | cons entry rest inductionHypothesis =>
      obtain ⟨other, kept⟩ := entry
      rw [get?_cons] at found
      split at found
      next same =>
          rw [Option.some.injEq] at found
          subst same found
          exact List.mem_cons_self
      next => exact List.mem_cons_of_mem _ (inductionHypothesis found)

theorem get?_eq_none_iff
    {name : String}
    {entries : List (String × α)} :
    get? name entries = none ↔ name ∉ names entries := by
  induction entries with
  | nil => simp
  | cons entry rest inductionHypothesis =>
      obtain ⟨other, kept⟩ := entry
      rw [get?_cons, names_cons, List.mem_cons, not_or, ← inductionHypothesis]
      by_cases same : other = name
      · simp [same]
      · simp [same, Ne.symm same]

theorem exists_get?_of_mem_names
    {name : String}
    {entries : List (String × α)}
    (member : name ∈ names entries) :
    ∃ value, get? name entries = some value := by
  rw [← Option.ne_none_iff_exists', Ne, get?_eq_none_iff]
  exact not_not_intro member

theorem mem_names_of_mem
    {entry : String × α}
    {entries : List (String × α)}
    (member : entry ∈ entries) :
    entry.1 ∈ names entries :=
  List.mem_map_of_mem member

theorem mem_names_iff
    {name : String}
    {entries : List (String × α)} :
    name ∈ names entries ↔ ∃ value, get? name entries = some value := by
  constructor
  · exact exists_get?_of_mem_names
  · rintro ⟨value, found⟩
    exact mem_names_of_mem (mem_of_get? found)

/-- Under distinct names every entry is found. -/
theorem get?_of_mem
    {entry : String × α}
    {entries : List (String × α)}
    (distinct : (names entries).Nodup)
    (member : entry ∈ entries) :
    get? entry.1 entries = some entry.2 := by
  induction entries with
  | nil => simp at member
  | cons first rest inductionHypothesis =>
      obtain ⟨other, kept⟩ := first
      rw [names_cons, List.nodup_cons] at distinct
      obtain ⟨fresh, restDistinct⟩ := distinct
      rw [get?_cons]
      rcases List.mem_cons.1 member with equal | inside
      · simp [equal]
      · have different : other ≠ entry.1 := by
          intro same
          subst same
          exact fresh (mem_names_of_mem inside)
        rw [if_neg different, inductionHypothesis restDistinct inside]

theorem has_eq_true_iff
    {name : String}
    {entries : List (String × α)} :
    has name entries = true ↔ name ∈ names entries := by
  rw [has, ← Option.ne_none_iff_isSome, Ne, get?_eq_none_iff, Decidable.not_not]

theorem has_eq_false_iff
    {name : String}
    {entries : List (String × α)} :
    has name entries = false ↔ name ∉ names entries := by
  rw [← has_eq_true_iff, Bool.not_eq_true]

theorem names_map_snd
    (change : String × α → β)
    (entries : List (String × α)) :
    names (entries.map fun entry => (entry.1, change entry)) =
      names entries := by
  rw [names, List.map_map]
  rfl

theorem get?_map_snd
    (change : String → α → β)
    (name : String)
    (entries : List (String × α)) :
    get? name (entries.map fun entry => (entry.1, change entry.1 entry.2)) =
      (get? name entries).map (change name) := by
  induction entries with
  | nil => rfl
  | cons entry rest inductionHypothesis =>
      obtain ⟨other, kept⟩ := entry
      rw [List.map_cons, get?_cons, get?_cons, inductionHypothesis]
      split
      next same => rw [same, Option.map_some]
      next => rfl

/-- Every entry after an assignment is the assigned one or was there before. -/
theorem mem_assign
    {name : String}
    {value : α}
    {entry : String × α}
    {entries : List (String × α)}
    (member : entry ∈ assign name value entries) :
    entry = (name, value) ∨ entry ∈ entries := by
  induction entries with
  | nil => exact Or.inl (List.mem_singleton.1 member)
  | cons first rest inductionHypothesis =>
      obtain ⟨other, kept⟩ := first
      rw [assign] at member
      split at member
      next =>
          rcases List.mem_cons.1 member with assigned | inside
          · exact Or.inl assigned
          · exact Or.inr (List.mem_cons_of_mem _ inside)
      next =>
          rcases List.mem_cons.1 member with head | inside
          · exact Or.inr (head ▸ List.mem_cons_self)
          · exact (inductionHypothesis inside).imp_right
              (List.mem_cons_of_mem _)

/-- Every entry after an insertion is the inserted one or was there before. -/
theorem mem_insert
    {name : String}
    {value : α}
    {entry : String × α}
    {entries : List (String × α)}
    (member : entry ∈ insert name value entries) :
    entry = (name, value) ∨ entry ∈ entries := by
  induction entries with
  | nil => exact Or.inl (List.mem_singleton.1 member)
  | cons first rest inductionHypothesis =>
      obtain ⟨other, kept⟩ := first
      rw [insert] at member
      split at member
      next =>
          rcases List.mem_cons.1 member with inserted | inside
          · exact Or.inl inserted
          · exact Or.inr (List.mem_cons_of_mem _ inside)
      next =>
          split at member
          next => exact List.mem_cons.1 member
          next =>
              rcases List.mem_cons.1 member with head | inside
              · exact Or.inr (head ▸ List.mem_cons_self)
              · exact (inductionHypothesis inside).imp_right
                  (List.mem_cons_of_mem _)

/-- The entries whose values convert, with their conversions. -/
def collect (convert : α → Option β) (entries : List (String × α)) :
    List (String × β) :=
  entries.filterMap fun entry => (convert entry.2).map fun value =>
    (entry.1, value)

theorem collect_cons_of_some
    {convert : α → Option β}
    {value : α}
    {converted : β}
    (conversion : convert value = some converted)
    (name : String)
    (rest : List (String × α)) :
    collect convert ((name, value) :: rest) =
      (name, converted) :: collect convert rest := by
  simp [collect, conversion]

theorem collect_cons_of_none
    {convert : α → Option β}
    {value : α}
    (refused : convert value = none)
    (name : String)
    (rest : List (String × α)) :
    collect convert ((name, value) :: rest) = collect convert rest := by
  simp [collect, refused]

theorem mem_collect
    {convert : α → Option β}
    {entry : String × β}
    {entries : List (String × α)} :
    entry ∈ collect convert entries ↔
      ∃ value, (entry.1, value) ∈ entries ∧ convert value = some entry.2 := by
  obtain ⟨name, converted⟩ := entry
  simp only [collect, List.mem_filterMap, Option.map_eq_some_iff, Prod.mk.injEq]
  constructor
  · rintro ⟨⟨_, value⟩, member, _, conversion, rfl, rfl⟩
    exact ⟨value, member, conversion⟩
  · rintro ⟨value, member, conversion⟩
    exact ⟨(name, value), member, converted, conversion, rfl, rfl⟩

theorem collect_eq_nil_iff
    {convert : α → Option β}
    {entries : List (String × α)} :
    collect convert entries = [] ↔
      ∀ entry ∈ entries, convert entry.2 = none := by
  simp [collect]

/-- Under distinct names, what is collected under a name is the conversion of
what is found there. -/
theorem get?_collect
    {entries : List (String × α)}
    (convert : α → Option β)
    (distinct : (names entries).Nodup)
    (name : String) :
    get? name (collect convert entries) = (get? name entries).bind convert := by
  induction entries with
  | nil => rfl
  | cons entry rest inductionHypothesis =>
      obtain ⟨other, value⟩ := entry
      rw [names_cons, List.nodup_cons] at distinct
      obtain ⟨fresh, restDistinct⟩ := distinct
      have tail := inductionHypothesis restDistinct
      rw [get?_cons]
      by_cases same : other = name
      · subst same
        have absent : get? other rest = none := get?_eq_none_iff.2 fresh
        rw [if_pos rfl, Option.bind_some]
        cases conversion : convert value with
        | some converted =>
            rw [collect_cons_of_some conversion, get?_cons, if_pos rfl]
        | none =>
            rw [collect_cons_of_none conversion, tail, absent, Option.bind_none]
      · rw [if_neg same, ← tail]
        cases conversion : convert value with
        | some converted =>
            rw [collect_cons_of_some conversion, get?_cons, if_neg same]
        | none => rw [collect_cons_of_none conversion]

/-- Sorted entries have distinct names. -/
theorem Sorted.nodup
    {entries : List (String × α)}
    (sorted : Sorted entries) :
    (names entries).Nodup :=
  List.Pairwise.imp String.ne_of_lt sorted

/-- Under distinct names the entries are what is found. -/
theorem mem_iff_get?_eq_some
    {name : String}
    {value : α}
    {entries : List (String × α)}
    (distinct : (names entries).Nodup) :
    (name, value) ∈ entries ↔ get? name entries = some value := by
  constructor
  · intro member
    exact get?_of_mem distinct member
  · exact mem_of_get?

/-- Under distinct names the same is found in any order. -/
theorem get?_eq_of_perm
    {left right : List (String × α)}
    (distinct : (names left).Nodup)
    (permutation : left.Perm right)
    (name : String) :
    get? name left = get? name right := by
  have rightDistinct : (names right).Nodup :=
    (permutation.map Prod.fst).nodup_iff.1 distinct
  refine Option.ext ?_
  intro value
  rw [← mem_iff_get?_eq_some distinct, ← mem_iff_get?_eq_some rightDistinct,
    permutation.mem_iff]

/-- Two sorted lists in which the same is found are equal. -/
theorem Sorted.ext
    {left right : List (String × α)}
    (leftSorted : Sorted left)
    (rightSorted : Sorted right)
    (same : ∀ name, get? name left = get? name right) :
    left = right := by
  have leftBefore := List.pairwise_map.1 leftSorted
  have rightBefore := List.pairwise_map.1 rightSorted
  have leftNodup : left.Nodup :=
    leftBefore.imp fun before equal =>
      String.ne_of_lt before (congrArg Prod.fst equal)
  have rightNodup : right.Nodup :=
    rightBefore.imp fun before equal =>
      String.ne_of_lt before (congrArg Prod.fst equal)
  have permutation : left.Perm right := by
    refine (List.perm_ext_iff_of_nodup leftNodup rightNodup).2 ?_
    intro (name, value)
    rw [mem_iff_get?_eq_some leftSorted.nodup,
      mem_iff_get?_eq_some rightSorted.nodup, same]
  refine permutation.eq_of_pairwise ?_ leftBefore rightBefore
  intro first second _ _ before after
  exact absurd after (String.lt_asymm before)

end Entries
end ObjectSpec
