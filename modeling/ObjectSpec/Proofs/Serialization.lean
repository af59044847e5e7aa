import ObjectSpec.Fault.Serialized
import ObjectSpec.Proofs.FaultTrees

/-!
# Serialized faults

The serialization of a tree of faults loses nothing. The code of a fault tells
its kind and its details tell the rest, fault by fault. Values that come from
outside stand where only they can stand, so none of them passes for a code, for
details or for a value that could not be converted.
-/

namespace ObjectSpec

/-! ## Details -/

@[simp] theorem Json.int_natCast_inj {left right : Nat} :
    Json.int left = Json.int right ↔ left = right := by
  rw [Json.int, Json.int, Json.number.injEq, Number.int.injEq, Int.natCast_inj]

@[simp] theorem detailedFault_inj
    {code other : String}
    {detail otherDetail : Json} :
    detailedFault code detail = detailedFault other otherDetail ↔
      code = other ∧ detail = otherDetail := by
  simp [detailedFault]

@[simp] theorem Offender.toJson_inj {left right : Offender} :
    left.toJson = right.toJson ↔ left = right := by
  cases left <;> cases right <;> simp [toJson]

@[simp] theorem LookupError.toJson_inj {left right : LookupError} :
    left.toJson = right.toJson ↔ left = right := by
  cases left <;> cases right <;> simp [toJson]

@[simp] theorem indexToJson_inj {left right : Option Nat} :
    indexToJson left = indexToJson right ↔ left = right := by
  cases left with
  | none => cases right <;> simp [indexToJson, Json.int]
  | some index =>
      cases right with
      | none => simp [indexToJson, Json.int]
      | some other => simp [indexToJson]

/-! ## Codes -/

namespace Fault

/-- The code of a serialized fault is that of the fault. -/
theorem member?_code_toJson (fault : Fault) :
    fault.toJson.member? "code" = some (.string fault.code) := by
  cases fault <;> rfl

theorem code_eq_of_toJson_eq
    {left right : Fault}
    (same : left.toJson = right.toJson) :
    left.code = right.code := by
  have codes := congrArg (Json.member? "code") same
  rw [member?_code_toJson, member?_code_toJson] at codes
  simpa using codes

/-- A fault that consists of no others is determined by its code and its
details. -/
theorem eq_of_toJson_eq_of_not_composite
    {left right : Fault}
    (simple : left.isComposite = false)
    (same : left.toJson = right.toJson) :
    left = right := by
  have codes := code_eq_of_toJson_eq same
  cases left with
  | missing =>
      cases right with
      | missing => rfl
      | _ => simp [code] at codes
  | null =>
      cases right with
      | null => rfl
      | _ => simp [code] at codes
  | undeclared =>
      cases right with
      | undeclared => rfl
      | _ => simp [code] at codes
  | illTyped offender index =>
      cases right with
      | illTyped other otherIndex => simpa [toJson] using same
      | _ => simp [code] at codes
  | notSequence offender =>
      cases right with
      | notSequence other => simpa [toJson] using same
      | _ => simp [code] at codes
  | notObject offender =>
      cases right with
      | notObject other => simpa [toJson] using same
      | _ => simp [code] at codes
  | recordsMissing expected actual =>
      cases right with
      | recordsMissing otherExpected otherActual =>
          have counts : actual = otherActual ∧ expected = otherExpected := by
            simpa [toJson] using same
          rw [counts.1, counts.2]
      | _ => simp [code] at codes
  | lookup error =>
      cases right with
      | lookup other => simpa [toJson] using same
      | _ => simp [code] at codes
  | _ => cases simple

end Fault

/-! ## Trees -/

/-- Two lists are equal if they are converted to the same and each value in one
of them is determined by what it is converted to. -/
theorem eq_of_map_eq_map
    {α β : Type}
    {convert : α → β}
    {left right : List α}
    (determined :
      ∀ value ∈ left, ∀ other, convert value = convert other → value = other)
    (same : left.map convert = right.map convert) :
    left = right := by
  induction left generalizing right with
  | nil => exact (List.map_eq_nil_iff.1 same.symm).symm
  | cons value rest inductionHypothesis =>
      cases right with
      | nil => cases same
      | cons other others =>
          obtain ⟨first, following⟩ := List.cons.inj same
          rw [List.forall_mem_cons] at determined
          rw [determined.1 other first,
            inductionHypothesis determined.2 following]

theorem fieldsToJson_eq_map (fields : List (String × Fault)) :
    fieldsToJson fields = fields.map fun entry =>
      .object [("error", entry.2.toJson), ("field", .string entry.1)] := by
  induction fields with
  | nil => rfl
  | cons entry rest inductionHypothesis =>
      rw [List.map_cons, ← inductionHypothesis]
      rfl

theorem keysToJson_eq_map (keys : List (String × ObjectFaults)) :
    keysToJson keys = keys.map fun entry =>
      .object [("error", entry.2.toJson), ("key", .string entry.1)] := by
  induction keys with
  | nil => rfl
  | cons entry rest inductionHypothesis =>
      rw [List.map_cons, ← inductionHypothesis]
      rfl

theorem itemsToJson_eq_map (items : List (Nat × Fault)) :
    itemsToJson items = items.map fun entry =>
      .object [("error", entry.2.toJson), ("index", .int entry.1)] := by
  induction items with
  | nil => rfl
  | cons entry rest inductionHypothesis =>
      rw [List.map_cons, ← inductionHypothesis]
      rfl

/-- Faults that are filed under keys are determined by their serializations if
each fault is. -/
theorem eq_of_filed_eq
    {κ α : Type}
    {label : String}
    {keyToJson : κ → Json}
    {toJson : α → Json}
    {left right : List (κ × α)}
    (keys : ∀ {key other}, keyToJson key = keyToJson other → key = other)
    (inside : ∀ entry ∈ left, ∀ other, toJson entry.2 = toJson other →
      entry.2 = other)
    (same : (left.map fun entry =>
        Json.object [("error", toJson entry.2), (label, keyToJson entry.1)]) =
      right.map fun entry =>
        Json.object [("error", toJson entry.2), (label, keyToJson entry.1)]) :
    left = right := by
  refine eq_of_map_eq_map ?_ same
  intro entry member other sameEntry
  simp only [Json.object.injEq, List.cons.injEq, Prod.mk.injEq, true_and,
    and_true] at sameEntry
  exact Prod.ext (keys sameEntry.2) (inside entry member other.2 sameEntry.1)

/-- A fault is determined by its serialization. -/
theorem Fault.eq_of_toJson_eq
    {left right : Fault}
    (same : left.toJson = right.toJson) :
    left = right := by
  induction left using Fault.inductionOn generalizing right with
  | step left inductionHypothesis =>
      have codes := code_eq_of_toJson_eq same
      cases left with
      | object faults =>
          cases right with
          | object others =>
              obtain ⟨fields⟩ := faults
              obtain ⟨otherFields⟩ := others
              have inside : ∀ entry ∈ fields, ∀ other : Fault,
                  entry.2.toJson = other.toJson → entry.2 = other := by
                intro entry member other
                exact inductionHypothesis (.field entry.1, entry.2)
                  (List.mem_map_of_mem member)
              simp only [toJson, ObjectFaults.toJson, fieldsToJson_eq_map,
                detailedFault_inj, Json.object.injEq, List.cons.injEq,
                Prod.mk.injEq, Json.array.injEq, true_and, and_true] at same
              obtain rfl := eq_of_filed_eq Json.string.inj inside same
              rfl
          | _ => simp [code] at codes
      | map faults =>
          cases right with
          | map others =>
              obtain ⟨keys⟩ := faults
              obtain ⟨otherKeys⟩ := others
              have inside : ∀ entry ∈ keys, ∀ other : ObjectFaults,
                  entry.2.toJson = other.toJson → entry.2 = other := by
                intro entry member other sameFaults
                exact object.inj <|
                  inductionHypothesis (.key entry.1, .object entry.2)
                  (List.mem_map_of_mem member)
                  (congrArg (detailedFault "object_validation") sameFaults)
              simp only [toJson, MapFaults.toJson, keysToJson_eq_map,
                detailedFault_inj, Json.object.injEq, List.cons.injEq,
                Prod.mk.injEq, Json.array.injEq, true_and, and_true] at same
              obtain rfl := eq_of_filed_eq Json.string.inj inside same
              rfl
          | _ => simp [code] at codes
      | sequence faults =>
          cases right with
          | sequence others =>
              obtain ⟨items⟩ := faults
              obtain ⟨otherItems⟩ := others
              have inside : ∀ entry ∈ items, ∀ other : Fault,
                  entry.2.toJson = other.toJson → entry.2 = other := by
                intro entry member other
                exact inductionHypothesis (.index entry.1, entry.2)
                  (List.mem_map_of_mem member)
              simp only [toJson, SequenceFaults.toJson, itemsToJson_eq_map,
                detailedFault_inj, Json.object.injEq, List.cons.injEq,
                Prod.mk.injEq, Json.array.injEq, true_and, and_true] at same
              obtain rfl := eq_of_filed_eq Json.int_natCast_inj.1 inside same
              rfl
          | _ => simp [code] at codes
      | _ => exact eq_of_toJson_eq_of_not_composite rfl same

/-- A tree of faults is determined by its serialization. A value that could not
be converted is not confused with any JSON value, no index with any index, and
no kind of composite fault with another. -/
theorem serialization_determines_tree (left right : ObjectFaults) :
    (left.toJson = right.toJson ↔ left = right) ∧
      (∀ value, Offender.unparsed.toJson ≠ (Offender.value value).toJson) ∧
      (∀ index, indexToJson none ≠ indexToJson (some index)) ∧
      ∀ objects maps sequences,
        (Fault.object objects).toJson ≠ (Fault.map maps).toJson ∧
          (Fault.object objects).toJson ≠ (Fault.sequence sequences).toJson ∧
          (Fault.map maps).toJson ≠ (Fault.sequence sequences).toJson := by
  refine ⟨⟨?_, congrArg ObjectFaults.toJson⟩, ?_, ?_, ?_⟩
  · intro same
    have sameFault := congrArg (detailedFault "object_validation") same
    exact Fault.object.inj (Fault.eq_of_toJson_eq sameFault)
  · simp
  · simp
  · intro objects maps sequences
    have differ {left right : Fault} (different : left ≠ right) :
        left.toJson ≠ right.toJson := mt Fault.eq_of_toJson_eq different
    exact ⟨differ nofun, differ nofun, differ nofun⟩

end ObjectSpec
