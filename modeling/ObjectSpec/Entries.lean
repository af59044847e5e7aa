/-!
# Named entries

Lists of named entries serve two purposes. A spec lists its fields in the order
of their declaration, and declaring a name again keeps its place. An object
lists its members in increasing order of their names, compared by code points.
-/

namespace ObjectSpec
namespace Entries

variable {α : Type}

/-- The names of a list of entries. -/
def names (entries : List (String × α)) : List String :=
  entries.map Prod.fst

@[simp] theorem names_nil : names ([] : List (String × α)) = [] := rfl

@[simp] theorem names_cons
    (name : String)
    (value : α)
    (rest : List (String × α)) :
    names ((name, value) :: rest) = name :: names rest := rfl

/-- The value of the first entry with a name. -/
def get? (name : String) : List (String × α) → Option α
  | [] => none
  | (other, value) :: rest =>
      if other = name then some value else get? name rest

@[simp] theorem get?_nil (name : String) :
    get? name ([] : List (String × α)) = none := rfl

theorem get?_cons
    (name other : String)
    (value : α)
    (rest : List (String × α)) :
    get? name ((other, value) :: rest) =
      if other = name then some value else get? name rest := rfl

/-- Whether some entry has a name. -/
def has (name : String) (entries : List (String × α)) : Bool :=
  (get? name entries).isSome

/-- Give a name a value: in its place if it has an entry, and at the end
otherwise. -/
def assign (name : String) (value : α) :
    List (String × α) → List (String × α)
  | [] => [(name, value)]
  | (other, kept) :: rest =>
      if other = name then (name, value) :: rest
      else (other, kept) :: assign name value rest

theorem get?_assign
    (name other : String)
    (value : α)
    (entries : List (String × α)) :
    get? other (assign name value entries) =
      if name = other then some value else get? other entries := by
  induction entries with
  | nil => simp [assign, get?_cons]
  | cons entry rest inductionHypothesis =>
      obtain ⟨first, kept⟩ := entry
      by_cases same : first = name
      · by_cases asked : name = other <;> simp [assign, get?_cons, same, asked]
      · have different : first = other → name ≠ other :=
          fun asked equal => same (asked.trans equal.symm)
        simp only [assign, if_neg same, get?_cons, inductionHypothesis]
        split <;> simp_all

/-- A name that is assigned joins the names at the end unless it is among
them. -/
theorem names_assign
    (name : String)
    (value : α)
    (entries : List (String × α)) :
    names (assign name value entries) =
      if name ∈ names entries then names entries
      else names entries ++ [name] := by
  induction entries with
  | nil => simp [assign]
  | cons entry rest inductionHypothesis =>
      obtain ⟨first, kept⟩ := entry
      by_cases same : first = name
      · simp [assign, same]
      · have different : name ≠ first := fun equal => same equal.symm
        simp only [assign, if_neg same, names_cons, inductionHypothesis,
          List.mem_cons, different, false_or]
        split <;> simp

/-- Assigning a name keeps the names distinct. -/
theorem nodup_names_assign
    {entries : List (String × α)}
    (name : String)
    (value : α)
    (distinct : (names entries).Nodup) :
    (names (assign name value entries)).Nodup := by
  rw [names_assign]
  split
  next => exact distinct
  next fresh =>
      rw [List.nodup_append]
      refine ⟨distinct, by simp, ?_⟩
      intro other present added member equal
      rw [List.mem_singleton] at member
      exact fresh (member ▸ equal ▸ present)

/-- Entries stand in increasing order of their names. -/
def Sorted (entries : List (String × α)) : Prop :=
  (names entries).Pairwise (· < ·)

/-- Give a name a value among sorted entries. -/
def insert (name : String) (value : α) :
    List (String × α) → List (String × α)
  | [] => [(name, value)]
  | (other, kept) :: rest =>
      if other = name then (name, value) :: rest
      else if name < other then (name, value) :: (other, kept) :: rest
      else (other, kept) :: insert name value rest

theorem get?_insert
    (name other : String)
    (value : α)
    (entries : List (String × α)) :
    get? other (insert name value entries) =
      if name = other then some value else get? other entries := by
  induction entries with
  | nil => simp [insert, get?_cons]
  | cons entry rest inductionHypothesis =>
      obtain ⟨first, kept⟩ := entry
      by_cases same : first = name
      · by_cases asked : name = other <;> simp [insert, get?_cons, same, asked]
      · by_cases before : name < first
        · simp [insert, get?_cons, same, before]
        · have different : first = other → name ≠ other :=
            fun asked equal => same (asked.trans equal.symm)
          simp only [insert, if_neg same, if_neg before, get?_cons,
            inductionHypothesis]
          split <;> simp_all

/-- The names after an insertion are those before it and the inserted one. -/
theorem mem_names_insert
    (name other : String)
    (value : α)
    (entries : List (String × α)) :
    other ∈ names (insert name value entries) ↔
      other = name ∨ other ∈ names entries := by
  induction entries with
  | nil => simp [insert]
  | cons entry rest inductionHypothesis =>
      obtain ⟨first, kept⟩ := entry
      by_cases same : first = name
      · simp [insert, same]
      · by_cases before : name < first
        · simp [insert, same, before]
        · simp only [insert, if_neg same, if_neg before, names_cons,
            List.mem_cons, inductionHypothesis]
          exact or_left_comm

/-- An insertion keeps entries in order. -/
theorem Sorted.insert
    {entries : List (String × α)}
    (name : String)
    (value : α)
    (sorted : Sorted entries) :
    Sorted (Entries.insert name value entries) := by
  induction entries with
  | nil => simp [Entries.insert, Sorted]
  | cons entry rest inductionHypothesis =>
      obtain ⟨first, kept⟩ := entry
      obtain ⟨firstBefore, restSorted⟩ := List.pairwise_cons.1 sorted
      by_cases same : first = name
      · subst same
        simp only [Entries.insert, if_pos]
        exact List.pairwise_cons.2 ⟨firstBefore, restSorted⟩
      · by_cases before : name < first
        · simp only [Entries.insert, if_neg same, if_pos before]
          refine List.pairwise_cons.2 ⟨?_, sorted⟩
          intro other member
          rcases List.mem_cons.1 member with equal | inside
          · exact equal ▸ before
          · exact String.lt_trans before (firstBefore other inside)
        · simp only [Entries.insert, if_neg same, if_neg before]
          refine List.pairwise_cons.2 ⟨?_, inductionHypothesis restSorted⟩
          intro other member
          rcases (mem_names_insert name other value rest).1 member with
            equal | inside
          · subst equal
            exact String.not_le.1 fun reversed =>
              same (String.le_antisymm (String.not_lt.1 before) reversed)
          · exact firstBefore other inside

/-- Sort entries by name; of several entries with a name the last one counts. -/
def ofList (entries : List (String × α)) : List (String × α) :=
  entries.foldl (fun sorted entry => insert entry.1 entry.2 sorted) []

end Entries
end ObjectSpec
