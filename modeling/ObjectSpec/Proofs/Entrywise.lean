import ObjectSpec.Proofs.Entries

/-!
# Entry by entry

Two lists of entries are related entry by entry if they have the same keys one
by one and related values. Two specs whose fields differ in some respect are
compared in this way, and so are the faults that they find.
-/

namespace ObjectSpec

/-- Two lists of entries with the same keys one by one and with related
values. -/
inductive Entrywise {κ α β : Type} (related : α → β → Prop) :
    List (κ × α) → List (κ × β) → Prop
  /-- No entries. -/
  | nil : Entrywise related [] []
  /-- One more entry on either side. -/
  | cons
      {left : α}
      {right : β}
      {rest : List (κ × α)}
      {others : List (κ × β)}
      (key : κ) :
      related left right →
      Entrywise related rest others →
      Entrywise related ((key, left) :: rest) ((key, right) :: others)

namespace Entrywise

variable {κ α β : Type} {related : α → β → Prop}

theorem eq_nil_iff
    {left : List (κ × α)}
    {right : List (κ × β)}
    (entrywise : Entrywise related left right) :
    left = [] ↔ right = [] := by
  cases entrywise with
  | nil => simp
  | cons key first rest => exact ⟨nofun, nofun⟩

theorem names_eq
    {left : List (String × α)}
    {right : List (String × β)}
    (entrywise : Entrywise related left right) :
    Entries.names left = Entries.names right := by
  induction entrywise with
  | nil => rfl
  | cons key first rest inductionHypothesis =>
      rw [Entries.names_cons, Entries.names_cons, inductionHypothesis]

/-- What is collected from related entries is related if their conversions
are. -/
theorem collect
    {γ δ : Type}
    {converted : γ → δ → Prop}
    {convert : α → Option γ}
    {convertOther : β → Option δ}
    {left : List (String × α)}
    {right : List (String × β)}
    (conversions : ∀ value other, related value other →
      Option.Rel converted (convert value) (convertOther other))
    (entrywise : Entrywise related left right) :
    Entrywise converted (Entries.collect convert left)
      (Entries.collect convertOther right) := by
  induction entrywise with
  | nil => exact .nil
  | @cons value other rest others key first _ inductionHypothesis =>
      have head := conversions value other first
      generalize conversion : convert value = found at head
      generalize otherConversion : convertOther other = otherFound at head
      cases head with
      | none =>
          rw [Entries.collect_cons_of_none conversion,
            Entries.collect_cons_of_none otherConversion]
          exact inductionHypothesis
      | some both =>
          rw [Entries.collect_cons_of_some conversion,
            Entries.collect_cons_of_some otherConversion]
          exact .cons key both inductionHypothesis

/-- Two conversions of the same list with related results. -/
theorem filterMap
    {γ : Type}
    {convert : γ → Option α}
    {convertOther : γ → Option β}
    (conversions :
      ∀ value, Option.Rel related (convert value) (convertOther value))
    (key : γ → κ)
    (list : List γ) :
    Entrywise related
      (list.filterMap fun value => (convert value).map fun found =>
        (key value, found))
      (list.filterMap fun value =>
        (convertOther value).map fun found => (key value, found)) := by
  induction list with
  | nil => exact .nil
  | cons value rest inductionHypothesis =>
      have head := conversions value
      rw [List.filterMap_cons, List.filterMap_cons]
      generalize convert value = found at head ⊢
      generalize convertOther value = otherFound at head ⊢
      cases head with
      | none => exact inductionHypothesis
      | some both => exact .cons (key value) both inductionHypothesis

end Entrywise

end ObjectSpec
