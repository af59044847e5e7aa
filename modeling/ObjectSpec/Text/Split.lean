/-!
# Splitting a text at a delimiter

Occurrences of the delimiter are found from left to right and do not overlap, so
a text with `n` of them has `n + 1` pieces, some possibly empty. The empty
delimiter splits a text into its characters. Joining the pieces with the
delimiter gives the text back.
-/

namespace ObjectSpec
namespace Text

/-- What follows a prefix of a text, if the text starts with it. -/
def afterPrefix? : List Char → List Char → Option (List Char)
  | [], text => some text
  | _ :: _, [] => none
  | first :: others, character :: rest =>
      if first = character then afterPrefix? others rest else none

/-- A prefix together with what follows it makes up the text. -/
theorem append_of_afterPrefix?
    {start text after : List Char}
    (found : afterPrefix? start text = some after) :
    start ++ after = text := by
  induction start generalizing text with
  | nil =>
      simp only [afterPrefix?, Option.some.injEq] at found
      simp [found]
  | cons first others inductionHypothesis =>
      cases text with
      | nil => simp [afterPrefix?] at found
      | cons character rest =>
          rw [afterPrefix?] at found
          split at found
          next same => rw [same, List.cons_append, inductionHypothesis found]
          next => simp at found

/-- The text before and the text after the first occurrence of a delimiter. -/
def cutAt? (delimiter : List Char) :
    List Char → Option (List Char × List Char)
  | [] => if delimiter = [] then some ([], []) else none
  | character :: rest =>
      match afterPrefix? delimiter (character :: rest) with
      | some after => some ([], after)
      | none =>
          match cutAt? delimiter rest with
          | some (before, after) => some (character :: before, after)
          | none => none

/-- Nothing is lost by a cut: both parts around the delimiter give the text. -/
theorem append_of_cutAt?
    {delimiter text before after : List Char}
    (found : cutAt? delimiter text = some (before, after)) :
    before ++ delimiter ++ after = text := by
  induction text generalizing before with
  | nil =>
      simp only [cutAt?] at found
      split at found
      next empty =>
          obtain ⟨rfl, rfl⟩ := Prod.mk.inj (Option.some.inj found)
          simp [empty]
      next => simp at found
  | cons character rest inductionHypothesis =>
      rw [cutAt?] at found
      split at found
      next remainder isPrefix =>
          obtain ⟨rfl, rfl⟩ := Prod.mk.inj (Option.some.inj found)
          simpa using append_of_afterPrefix? isPrefix
      next =>
          split at found
          next inner remainder cut =>
              obtain ⟨rfl, rfl⟩ := Prod.mk.inj (Option.some.inj found)
              rw [List.cons_append, List.cons_append, inductionHypothesis cut]
          next => simp at found

/-- What follows a delimiter is shorter than the whole text. -/
theorem length_lt_of_cutAt?
    {first : Char}
    {others text before after : List Char}
    (found : cutAt? (first :: others) text = some (before, after)) :
    after.length < text.length := by
  rw [← append_of_cutAt? found]
  simp only [List.length_append, List.length_cons]
  omega

/-- The pieces of a text around a delimiter that starts with `first`. -/
def piecesAround (first : Char) (others : List Char) (text : List Char) :
    List (List Char) :=
  match cut : cutAt? (first :: others) text with
  | none => [text]
  | some (piece, rest) =>
      have : rest.length < text.length := length_lt_of_cutAt? cut
      piece :: piecesAround first others rest
termination_by text.length

/-- The pieces of a text around a delimiter; around the empty one, the single
characters. -/
def pieces : List Char → List Char → List (List Char)
  | [], text => text.map fun character => [character]
  | first :: others, text => piecesAround first others text

/-- Split a text at a delimiter. -/
def split (delimiter text : String) : List String :=
  (pieces delimiter.toList text.toList).map String.ofList

end Text
end ObjectSpec
