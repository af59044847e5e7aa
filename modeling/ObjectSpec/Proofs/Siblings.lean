import ObjectSpec.Proofs.SpecInduction
import ObjectSpec.Proofs.Verdicts

/-!
# Fields and their siblings

Fields are validated independently of each other. Unless the validation of an
object is aborted, what it keeps and what it finds at fault under a name is
decided by the field of that name and its value alone, and nothing is recorded
under names that are not declared.
-/

namespace ObjectSpec

/-- The verdict on an object holds under each name what the field declared there
makes of the value there. So two validations agree on a name if the field and
the value agree, whatever else is declared or present. -/
theorem verdict_at_name_is_that_of_field
    {spec : Spec}
    {members : Members}
    (wellFormed : spec.WellFormed)
    (notAborted : (spec.validate members).isAborted = false)
    (name : String) :
    ((spec.validate members).parsedAt? name =
        (spec.get? name).bind fun field =>
          (field.validate (Entries.get? name members)).parsed) ∧
      ((spec.validate members).faultAt? name =
        (spec.get? name).bind fun field =>
          (field.validate (Entries.get? name members)).fault) ∧
      ∀ (other : Spec) (others : Members),
        other.WellFormed →
        (other.validate others).isAborted = false →
        other.get? name = spec.get? name →
        Entries.get? name others = Entries.get? name members →
        (other.validate others).parsedAt? name =
            (spec.validate members).parsedAt? name ∧
          (other.validate others).faultAt? name =
            (spec.validate members).faultAt? name := by
  have parsed := Spec.parsedAt?_validate wellFormed.names_nodup notAborted name
  have fault := Spec.faultAt?_validate wellFormed.names_nodup notAborted name
  refine ⟨parsed, fault, ?_⟩
  intro other others otherWellFormed otherNotAborted sameField sameValue
  have otherParsed :=
    Spec.parsedAt?_validate otherWellFormed.names_nodup otherNotAborted name
  have otherFault :=
    Spec.faultAt?_validate otherWellFormed.names_nodup otherNotAborted name
  rw [sameField, sameValue] at otherParsed otherFault
  exact ⟨otherParsed.trans parsed.symm, otherFault.trans fault.symm⟩

/-- A spec for points; their place is declared twice. -/
def pointSpec : Spec :=
  .declare
    (.declare
      (.declare .empty "at" (.leaf .string []))
      "name" (.leaf .string [.required]))
    "at" (.leaf .number [.notNull])

theorem pointSpec_built : pointSpec.Built :=
  .declare "at"
    (.declare "name"
      (.declare "at" .empty (.leaf .string (by simp)))
      (.leaf .string (by simp)))
    (.leaf .number (by simp))

/-- A point without a name, and with a member that is not declared. -/
def namelessPoint : Members :=
  [("at", .int 3), ("colour", .string "red")]

/-- A spec that declares the place of a point alone. -/
def placeSpec : Spec :=
  .declare .empty "at" (.leaf .number [.notNull])

theorem placeSpec_built : placeSpec.Built :=
  .declare "at" .empty (.leaf .number (by simp))

/-- The place of a point is the same with and without a fault beside it. -/
theorem place_of_namelessPoint :
    (pointSpec.validate namelessPoint).faultAt? "name" = some .missing ∧
      (pointSpec.validate namelessPoint).parsedAt? "at" = some (.int 3) ∧
      (placeSpec.validate [("at", .int 3)]).parsedAt? "at" =
        (pointSpec.validate namelessPoint).parsedAt? "at" := by
  have wellFormed := pointSpec_built.wellFormed
  have notAborted : (pointSpec.validate namelessPoint).isAborted = false := rfl
  obtain ⟨_, nameFault, _⟩ :=
    verdict_at_name_is_that_of_field wellFormed notAborted "name"
  obtain ⟨kept, _, agree⟩ :=
    verdict_at_name_is_that_of_field wellFormed notAborted "at"
  have same :=
    agree placeSpec [("at", .int 3)] placeSpec_built.wellFormed rfl rfl rfl
  rw [nameFault, same.1, kept]
  exact ⟨rfl, rfl, rfl⟩

end ObjectSpec
