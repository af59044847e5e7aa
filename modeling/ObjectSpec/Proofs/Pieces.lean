import ObjectSpec.Proofs.Verdicts

/-!
# Pieces of a text

Splitting a text loses nothing and misses no delimiter: joining the pieces with
the delimiter gives the text back, and no piece contains the delimiter, even
where its occurrences in the text overlap. The empty delimiter splits a text
into its characters. So a leaf that is split at a delimiter may as well be given
the array of its pieces.
-/

namespace ObjectSpec
namespace Text

/-! ## The first occurrence of a delimiter -/

theorem afterPrefix?_append (start after : List Char) :
    afterPrefix? start (start ++ after) = some after := by
  induction start with
  | nil => rfl
  | cons first others inductionHypothesis =>
      rw [List.cons_append, afterPrefix?, if_pos rfl, inductionHypothesis]

/-- Nothing follows a prefix exactly where the text does not start with it. -/
theorem afterPrefix?_eq_none_iff {start text : List Char} :
    afterPrefix? start text = none ↔ ¬start <+: text := by
  constructor
  · rintro nothing ⟨after, rfl⟩
    rw [afterPrefix?_append] at nothing
    cases nothing
  · intro noPrefix
    cases found : afterPrefix? start text with
    | none => rfl
    | some after => exact absurd ⟨after, append_of_afterPrefix? found⟩ noPrefix

section

variable
  {delimiter text before after : List Char}
  (nonempty : delimiter ≠ [])

include nonempty

/-- Where there is no cut, the delimiter does not occur. -/
theorem not_infix_of_cutAt?_eq_none
    (notFound : cutAt? delimiter text = none) :
    ¬delimiter <:+: text := by
  induction text with
  | nil =>
      rw [List.infix_nil]
      exact nonempty
  | cons character rest inductionHypothesis =>
      rw [cutAt?] at notFound
      split at notFound
      next => cases notFound
      next noPrefix =>
          split at notFound
          next => cases notFound
          next notInside =>
              rw [List.infix_cons_iff, not_or]
              exact ⟨afterPrefix?_eq_none_iff.1 noPrefix,
                inductionHypothesis notInside⟩

/-- A cut is made at the first occurrence: the delimiter does not occur before
it. -/
theorem not_infix_before_of_cutAt?
    (found : cutAt? delimiter text = some (before, after)) :
    ¬delimiter <:+: before := by
  induction text generalizing before with
  | nil =>
      rw [cutAt?, if_neg nonempty] at found
      cases found
  | cons character rest inductionHypothesis =>
      rw [cutAt?] at found
      split at found
      next =>
          cases found
          rw [List.infix_nil]
          exact nonempty
      next noPrefix =>
          split at found
          next inner remainder cut =>
              cases found
              -- An occurrence at the start of the part before the cut would be
              -- one at the start of the text.
              have startsText : character :: inner <+: character :: rest := by
                refine ⟨delimiter ++ after, ?_⟩
                rw [List.cons_append, ← List.append_assoc, append_of_cutAt? cut]
              rw [List.infix_cons_iff, not_or]
              refine ⟨?_, inductionHypothesis cut⟩
              intro startsPiece
              exact afterPrefix?_eq_none_iff.1 noPrefix
                (startsPiece.trans startsText)
          next => cases found

end

/-! ## All pieces -/

section

variable {first : Char} {others text : List Char}

theorem piecesAround_of_cutAt?_eq_none
    (notFound : cutAt? (first :: others) text = none) :
    piecesAround first others text = [text] := by
  rw [piecesAround]
  split
  next => rfl
  next found => rw [notFound] at found; cases found

theorem piecesAround_of_cutAt?_eq_some
    {piece rest : List Char}
    (cut : cutAt? (first :: others) text = some (piece, rest)) :
    piecesAround first others text =
      piece :: piecesAround first others rest := by
  rw [piecesAround]
  split
  next notFound => rw [cut] at notFound; cases notFound
  next found =>
      rw [cut] at found
      cases found
      rfl

end

section

variable (first : Char) (others text : List Char)

theorem piecesAround_ne_nil : piecesAround first others text ≠ [] := by
  rw [piecesAround]
  split <;> exact List.cons_ne_nil _ _

/-- The pieces around a delimiter make up the text when they are joined with
it. -/
theorem intercalate_piecesAround :
    (first :: others).intercalate (piecesAround first others text) = text := by
  induction text using piecesAround.induct first others with
  | case1 text notFound =>
      rw [piecesAround_of_cutAt?_eq_none notFound, List.intercalate_singleton]
  | case2 text piece rest cut shorter inductionHypothesis =>
      rw [piecesAround_of_cutAt?_eq_some cut]
      cases following : piecesAround first others rest with
      | nil => exact absurd following (piecesAround_ne_nil first others rest)
      | cons next others =>
          rw [List.intercalate_cons_cons, ← following, inductionHypothesis,
            append_of_cutAt? cut]

/-- No piece around a delimiter contains it. -/
theorem not_infix_of_mem_piecesAround :
    ∀ piece ∈ piecesAround first others text, ¬first :: others <:+: piece := by
  have nonempty : first :: others ≠ [] := List.cons_ne_nil _ _
  induction text using piecesAround.induct first others with
  | case1 text notFound =>
      rw [piecesAround_of_cutAt?_eq_none notFound, List.forall_mem_singleton]
      exact not_infix_of_cutAt?_eq_none nonempty notFound
  | case2 text piece rest cut shorter inductionHypothesis =>
      rw [piecesAround_of_cutAt?_eq_some cut, List.forall_mem_cons]
      exact ⟨not_infix_before_of_cutAt? nonempty cut, inductionHypothesis⟩

end

theorem intercalate_characters (text : List Char) :
    ([] : List Char).intercalate (text.map fun character => [character]) =
      text := by
  induction text with
  | nil => rfl
  | cons character rest inductionHypothesis =>
      cases rest with
      | nil => rfl
      | cons next following =>
          exact congrArg (List.cons character) inductionHypothesis

/-- Joining the pieces with the delimiter gives the text back. -/
theorem intercalate_pieces (delimiter text : List Char) :
    delimiter.intercalate (pieces delimiter text) = text := by
  cases delimiter with
  | nil => exact intercalate_characters text
  | cons first others => exact intercalate_piecesAround first others text

/-- Joining what a text was split into with the delimiter gives the text
back. -/
theorem intercalate_split (delimiter text : String) :
    delimiter.intercalate (split delimiter text) = text := by
  rw [← String.toList_inj, String.toList_intercalate, split, List.map_map]
  have characters : String.toList ∘ String.ofList = id := by
    funext piece
    exact String.toList_ofList
  rw [characters, List.map_id, intercalate_pieces]

/-- Around a nonempty delimiter there is at least one piece, and none contains
the delimiter. -/
theorem split_ne_nil_and_not_infix
    {delimiter : String}
    (nonempty : delimiter ≠ "")
    (text : String) :
    split delimiter text ≠ [] ∧
      ∀ piece ∈ split delimiter text, ¬delimiter.toList <:+: piece.toList := by
  cases characters : delimiter.toList with
  | nil => exact absurd (String.toList_eq_nil_iff.1 characters) nonempty
  | cons first others =>
      rw [split, characters]
      constructor
      · rw [Ne, List.map_eq_nil_iff]
        exact piecesAround_ne_nil first others text.toList
      · intro piece member
        obtain ⟨inside, around, rfl⟩ := List.mem_map.1 member
        rw [String.toList_ofList]
        exact not_infix_of_mem_piecesAround first others text.toList inside
          around

/-- Around the empty delimiter each piece is one character. -/
theorem length_of_mem_split_empty
    {text piece : String}
    (member : piece ∈ split "" text) :
    piece.length = 1 := by
  obtain ⟨inside, around, rfl⟩ := List.mem_map.1 member
  obtain ⟨character, _, rfl⟩ := List.mem_map.1 around
  exact String.length_ofList

/-- Occurrences are found from left to right and do not overlap. -/
example : split "aa" "aaab" = ["", "ab"] := by
  decide +kernel

end Text

/-! ## Split leaves -/

/-- A string is prepared like the array of the pieces that it is split into. -/
theorem Pipeline.prepare_string_eq_array
    {pipeline : Pipeline}
    {delimiter : String}
    (delimited : pipeline.delimiter = some delimiter)
    (text : String) :
    pipeline.prepare (.string text) =
      pipeline.prepare (.array ((Text.split delimiter text).map .string)) := by
  rw [prepare_string delimited, prepare_array, List.map_map]
  rfl

theorem validateLeaf_string_eq_array
    {pipeline : Pipeline}
    {delimiter : String}
    (delimited : pipeline.delimiter = some delimiter)
    (validateItem : Option (Members → Verdict))
    (text : String) :
    validateLeaf pipeline validateItem (.string text) =
      validateLeaf pipeline validateItem
        (.array ((Text.split delimiter text).map .string)) := by
  rw [validateLeaf_eq, validateLeaf_eq, Pipeline.checked, Pipeline.checked,
    Pipeline.prepare_string_eq_array delimited]

/-- A text has pieces around a delimiter: joined with it they give the text
back, and they do not contain it, or they are single characters if it is empty.
Every leaf with the delimiter, whatever its other rules, has the same verdict on
the text and on the array of the pieces. -/
theorem exists_pieces_with_same_verdict (delimiter text : String) :
    ∃ pieces : List String,
      delimiter.intercalate pieces = text ∧
        (delimiter ≠ "" →
          pieces ≠ [] ∧ ∀ piece ∈ pieces, ¬delimiter.toList <:+: piece.toList) ∧
        (delimiter = "" → ∀ piece ∈ pieces, piece.length = 1) ∧
        ∀ (required notNull : Bool) (pipeline : Pipeline) (items : Option Spec),
          pipeline.delimiter = some delimiter →
            Field.validate ⟨required, notNull, .leaf pipeline items⟩
                (some (.string text)) =
              Field.validate ⟨required, notNull, .leaf pipeline items⟩
                (some (.array (pieces.map .string))) := by
  refine ⟨Text.split delimiter text, Text.intercalate_split delimiter text, ?_,
    ?_, ?_⟩
  · intro nonempty
    exact Text.split_ne_nil_and_not_infix nonempty text
  · rintro rfl piece member
    exact Text.length_of_mem_split_empty member
  · intro required notNull pipeline items delimited
    have leaf :=
      validateLeaf_string_eq_array delimited (items.map Spec.validate) text
    rw [Field.validate_some Json.noConfusion,
      Field.validate_some Json.noConfusion, Content.validate_leaf,
      Content.validate_leaf, leaf]

end ObjectSpec
