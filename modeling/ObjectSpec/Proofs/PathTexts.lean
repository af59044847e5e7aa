import ObjectSpec.Proofs.FaultTrees
import ObjectSpec.Proofs.QuotedTexts

/-!
# The texts of paths

The text of a path says which path it is. A key is quoted and an index ends at
its bracket, so that both delimit themselves whatever they contain; a declared
field ends where the next step begins, which is why its name must have neither a
dot nor an opening bracket.
-/

namespace ObjectSpec

/-- Whether the text of a step can begin with a character. -/
def opensStep (character : Char) : Bool :=
  character == '.' || character == '['

/-- A step whose text ends where the next one begins. Only the names of declared
fields can be in the way of that, since they are not quoted. -/
def Step.Plain : Step → Prop
  | .field name => '.' ∉ name.toList ∧ '[' ∉ name.toList
  | .key _ => True
  | .index _ => True

instance : DecidablePred Step.Plain
  | .field _ => inferInstanceAs (Decidable (_ ∧ _))
  | .key _ => inferInstanceAs (Decidable True)
  | .index _ => inferInstanceAs (Decidable True)

/-! ## Steps -/

namespace Step

@[simp] theorem toList_text_field (name : String) :
    (Step.field name).text.toList = '.' :: name.toList := by
  simp [text]

@[simp] theorem toList_text_key (name : String) :
    (Step.key name).text.toList =
      '[' :: (Text.quotedChars name.toList ++ [']']) := by
  simp [text]

@[simp] theorem toList_text_index (position : Nat) :
    (Step.index position).text.toList =
      '[' :: (Nat.toDigits 10 position ++ [']']) := by
  simp [text]

theorem toList_text_ne_nil (step : Step) : step.text.toList ≠ [] := by
  cases step <;> simp

theorem Plain.takeWhile_append
    {name : String}
    (plain : (Step.field name).Plain)
    {rest : List Char}
    (stepFollows : rest.takeWhile (!opensStep ·) = []) :
    (name.toList ++ rest).takeWhile (!opensStep ·) = name.toList := by
  obtain ⟨noDot, noBracket⟩ := plain
  have inside : ∀ character ∈ name.toList, (!opensStep character) = true := by
    intro character member
    have notDot : character ≠ '.' := ne_of_mem_of_not_mem member noDot
    have notBracket : character ≠ '[' := ne_of_mem_of_not_mem member noBracket
    simp [opensStep, notDot, notBracket]
  rw [List.takeWhile_append_of_pos inside, stepFollows, List.append_nil]

theorem quotedChars_append_ne_toDigits_append
    (text rest : List Char)
    (position : Nat)
    (otherRest : List Char) :
    Text.quotedChars text ++ rest ≠ Nat.toDigits 10 position ++ otherRest := by
  intro equal
  have numeral :
      ∀ character ∈ Nat.toDigits 10 position, character.isDigit = true :=
    fun _ => Nat.isDigit_of_mem_toDigits (by decide) (by decide)
  cases written : Nat.toDigits 10 position with
  | nil => exact Nat.toDigits_ne_nil written
  | cons first others =>
      rw [written] at equal numeral
      have isDigit := numeral first List.mem_cons_self
      rw [← (List.cons.inj equal).1] at isDigit
      exact absurd isDigit (by decide)

/-- What stands at the start of a text says which step it is, as long as steps
follow. -/
theorem eq_of_text_append_eq
    {left right : Step}
    (leftPlain : left.Plain)
    (rightPlain : right.Plain)
    {leftRest rightRest : List Char}
    (leftFollows : leftRest.takeWhile (!opensStep ·) = [])
    (rightFollows : rightRest.takeWhile (!opensStep ·) = [])
    (equal : left.text.toList ++ leftRest = right.text.toList ++ rightRest) :
    left = right := by
  cases left with
  | field name =>
      cases right with
      | field other =>
          simp only [toList_text_field, List.cons_append, List.cons.injEq,
            true_and] at equal
          have sameName := congrArg (List.takeWhile (!opensStep ·)) equal
          rw [leftPlain.takeWhile_append leftFollows] at sameName
          rw [rightPlain.takeWhile_append rightFollows] at sameName
          rw [String.toList_inj.1 sameName]
      | key other => simp at equal
      | index position => simp at equal
  | key name =>
      cases right with
      | field other => simp at equal
      | key other =>
          simp only [toList_text_key, List.cons_append, List.append_assoc,
            List.cons.injEq, true_and] at equal
          obtain ⟨sameName, _⟩ := Text.quotedChars_append_inj.1 equal
          rw [String.toList_inj.1 sameName]
      | index position =>
          simp only [toList_text_key, toList_text_index, List.cons_append,
            List.append_assoc, List.cons.injEq, true_and] at equal
          exact absurd equal (quotedChars_append_ne_toDigits_append _ _ _ _)
  | index position =>
      cases right with
      | field other => simp at equal
      | key other =>
          simp only [toList_text_key, toList_text_index, List.cons_append,
            List.append_assoc, List.cons.injEq, true_and] at equal
          exact absurd equal.symm
            (quotedChars_append_ne_toDigits_append _ _ _ _)
      | index other =>
          simp only [toList_text_index, List.cons_append, List.append_assoc,
            List.cons.injEq, true_and, List.nil_append] at equal
          have closes : ∀ rest, Text.leadingDigits 10 (']' :: rest) = [] :=
            Text.leadingDigits_cons_of_none (by decide)
          have sameNumber :=
            Text.eq_of_toDigits_append_eq (by decide) (by decide)
            (closes leftRest) (closes rightRest) equal
          rw [sameNumber]

end Step

/-! ## Paths -/

namespace Path

/-- A path whose text shows where each of its steps ends. -/
def Plain (path : Path) : Prop :=
  ∀ step ∈ path, step.Plain

instance (path : Path) : Decidable path.Plain :=
  inferInstanceAs (Decidable (∀ step ∈ path, step.Plain))

/-- The first step of a path leads to a declared field. -/
def StartsAtField (path : Path) : Prop :=
  ∃ name rest, path = .field name :: rest

@[simp] theorem toList_text_nil : (text []).toList = [] := rfl

@[simp] theorem toList_text_cons
    (step : Step)
    (path : Path) :
    (text (step :: path)).toList = step.text.toList ++ path.text.toList := by
  simp [text]

theorem text_cons_ne_text_nil
    (step : Step)
    (path : Path) :
    text (step :: path) ≠ text [] := by
  intro equal
  have noCharacters := congrArg String.toList equal
  rw [toList_text_cons, toList_text_nil] at noCharacters
  exact step.toList_text_ne_nil (List.append_eq_nil_iff.1 noCharacters).1

/-- The text of a path is empty or begins a step. -/
theorem takeWhile_toList_text (path : Path) :
    path.text.toList.takeWhile (!opensStep ·) = [] := by
  cases path with
  | nil => rfl
  | cons step rest => cases step <;> simp [opensStep]

/-- A path is determined by its text. -/
theorem eq_of_text_eq
    {left right : Path}
    (leftPlain : left.Plain)
    (rightPlain : right.Plain)
    (equal : left.text = right.text) :
    left = right := by
  induction left generalizing right with
  | nil =>
      cases right with
      | nil => rfl
      | cons step rest =>
          exact absurd equal.symm (text_cons_ne_text_nil step rest)
  | cons step left inductionHypothesis =>
      cases right with
      | nil => exact absurd equal (text_cons_ne_text_nil step left)
      | cons other right =>
          obtain ⟨stepPlain, leftRestPlain⟩ := List.forall_mem_cons.1 leftPlain
          obtain ⟨otherPlain, rightRestPlain⟩ :=
            List.forall_mem_cons.1 rightPlain
          have sameCharacters := congrArg String.toList equal
          rw [toList_text_cons, toList_text_cons] at sameCharacters
          obtain rfl : step = other :=
            Step.eq_of_text_append_eq stepPlain otherPlain
              (takeWhile_toList_text left)
              (takeWhile_toList_text right) sameCharacters
          have sameRest :=
            String.toList_inj.1 (List.append_cancel_left sameCharacters)
          rw [inductionHypothesis leftRestPlain rightRestPlain sameRest]

/-- Only the dot of its first step is left out of the text of a path that starts
at a field. -/
theorem StartsAtField.text_eq
    {path : Path}
    (startsAtField : path.StartsAtField) :
    path.text.toList = '.' :: path.dotted.toList := by
  obtain ⟨name, rest, rfl⟩ := startsAtField
  have characters :
      (text (.field name :: rest)).toList =
        '.' :: (name.toList ++ (text rest).toList) := by
    simp
  rw [dotted, characters]
  simp

/-- A path that starts at a field is determined by its text without the first
dot. -/
theorem eq_of_dotted_eq
    {left right : Path}
    (leftPlain : left.Plain)
    (rightPlain : right.Plain)
    (leftStarts : left.StartsAtField)
    (rightStarts : right.StartsAtField)
    (equal : left.dotted = right.dotted) :
    left = right := by
  apply eq_of_text_eq leftPlain rightPlain
  apply String.toList_inj.1
  rw [leftStarts.text_eq, rightStarts.text_eq, equal]

end Path

theorem ObjectFaults.startsAtField_of_mem_located
    {faults : ObjectFaults}
    {located : LocatedFault}
    (member : located ∈ faults.located) :
    located.path.StartsAtField :=
  faults.exists_path_eq_of_mem_located member

/-- No two paths have the same text, and no two paths that start at a field, as
those of located faults do, have the same text without the first dot. Keys and
indices are arbitrary; the names of declared fields have no dot and no opening
bracket. -/
theorem path_texts_determine_paths :
    (∀ left right : Path, left.Plain → right.Plain → left.text = right.text →
        left = right) ∧
      (∀ left right : Path, left.Plain → right.Plain →
        left.StartsAtField → right.StartsAtField →
        left.dotted = right.dotted → left = right) ∧
      ∀ (faults : ObjectFaults), ∀ located ∈ faults.located,
        located.path.StartsAtField := by
  refine ⟨?_, ?_, ?_⟩
  · intro left right leftPlain rightPlain
    exact Path.eq_of_text_eq leftPlain rightPlain
  · intro left right leftPlain rightPlain leftStarts rightStarts
    exact Path.eq_of_dotted_eq leftPlain rightPlain leftStarts rightStarts
  · intro faults located
    exact faults.startsAtField_of_mem_located

/-- The path to the telephone number in the faults of a team can be read off its
text, and a key that imitates the text of further steps does not give the same
text. -/
theorem teamFaults_paths_readable :
    (∃ located ∈ teamFaults.located,
      located.path.dotted = "team.members[\"ann\"].phones[3]" ∧
        located.path =
          [.field "team", .field "members", .key "ann", .field "phones",
            .index 3]) ∧
      Path.text [.field "members", .key "ann\"].phones[3"] ≠
        Path.text [.field "members", .key "ann", .field "phones",
          .index 3] := by
  obtain ⟨textDetermines, dottedDetermines, starts⟩ :=
    path_texts_determine_paths
  constructor
  · refine ⟨_, List.mem_cons_self, by decide +kernel, ?_⟩
    exact dottedDetermines _ _ (by decide) (by decide)
      (starts teamFaults _ List.mem_cons_self) ⟨_, _, rfl⟩ (by decide +kernel)
  · intro equal
    have samePath := textDetermines _ _ (by decide) (by decide) equal
    exact absurd samePath (by decide)

/-- A dot in the name of a field makes the text ambiguous. -/
example :
    Path.text [.field "home.street"] =
      Path.text [.field "home", .field "street"] := by
  decide

end ObjectSpec
