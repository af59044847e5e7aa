import Mathlib.Tactic.SplitIfs
import ObjectSpec.Proofs.Numerals
import ObjectSpec.Text.Quoted

/-!
# Quoted texts read back

A quoted text ends where it seems to end: the first quote that no escape covers
closes it. Its characters are read back one after the other, since the way a
character is written says which one it is, however many characters the escape
has and whatever comes behind it.
-/

namespace ObjectSpec
namespace Text

/-- The character that a letter behind a backslash stands for. -/
def unescaped (letter : Char) : Char :=
  if letter = 't' then '\t'
  else if letter = 'n' then '\n'
  else if letter = 'r' then '\r'
  else if letter = '0' then Char.ofNat 0
  else letter

/-- The character that is written first inside a quoted text. There is none
where a quote closes the text. -/
def firstQuoted? : List Char → Option Char
  | [] => none
  | '"' :: _ => none
  | '\\' :: 'u' :: '\x7b' :: digits =>
      some (Char.ofNat (leadingNumber 16 digits))
  | '\\' :: letter :: _ => some (unescaped letter)
  | character :: _ => some character

theorem firstQuoted?_codePoint
    (character : Char)
    (rest : List Char) :
    firstQuoted?
        (['\\', 'u', '\x7b'] ++ hexDigits character.toNat ++ ['\x7d'] ++ rest) =
      some character := by
  have closed : leadingDigits 16 ('\x7d' :: rest) = [] :=
    leadingDigits_cons_of_none (by decide) rest
  have read :=
    leadingNumber_toDigits_append (by decide) (by decide) character.toNat closed
  simp only [List.append_assoc, List.cons_append, List.nil_append, firstQuoted?]
  rw [hexDigits, read, Char.ofNat_toNat]

/-- A written character is read back, whatever follows it. -/
theorem firstQuoted?_quotedChar_append
    (character : Char)
    (rest : List Char) :
    firstQuoted? (quotedChar character ++ rest) = some character := by
  -- The cases are those of the quoting, in its order.
  unfold quotedChar
  split_ifs with isQuote isBackslash isTab isNewline isReturn isZero hidden
  · subst isQuote
    rfl
  · subst isBackslash
    rfl
  · subst isTab
    rfl
  · subst isNewline
    rfl
  · subst isReturn
    rfl
  · rw [← Char.ofNat_toNat character, isZero]
    rfl
  · exact firstQuoted?_codePoint character rest
  · simp [firstQuoted?, isBackslash]

theorem firstQuoted?_flatMap_quotedChar_append
    (text rest : List Char) :
    firstQuoted? (text.flatMap quotedChar ++ '"' :: rest) = text.head? := by
  cases text with
  | nil => rfl
  | cons first text =>
      rw [List.flatMap_cons, List.append_assoc, firstQuoted?_quotedChar_append]
      rfl

/-- What stands before the closing quote and what stands behind it are both
determined. -/
theorem eq_and_eq_of_flatMap_quotedChar_append_eq
    {left right leftRest rightRest : List Char}
    (equal :
      left.flatMap quotedChar ++ '"' :: leftRest =
        right.flatMap quotedChar ++ '"' :: rightRest) :
    left = right ∧ leftRest = rightRest := by
  induction left generalizing right with
  | nil =>
      have sameFirst := congrArg firstQuoted? equal
      simp only [firstQuoted?_flatMap_quotedChar_append] at sameFirst
      obtain rfl : right = [] := List.head?_eq_none_iff.1 sameFirst.symm
      exact ⟨rfl, List.tail_eq_of_cons_eq equal⟩
  | cons first left inductionHypothesis =>
      have sameFirst := congrArg firstQuoted? equal
      simp only [firstQuoted?_flatMap_quotedChar_append] at sameFirst
      obtain ⟨right, rfl⟩ := List.head?_eq_some_iff.1 sameFirst.symm
      simp only [List.flatMap_cons, List.append_assoc] at equal
      obtain ⟨sameText, sameRest⟩ :=
        inductionHypothesis (List.append_cancel_left equal)
      exact ⟨by rw [sameText], sameRest⟩

/-- A quoted text delimits itself: no two ways to go on behind quoted texts
agree, unless the texts do. -/
theorem quotedChars_append_inj
    {left right leftRest rightRest : List Char} :
    quotedChars left ++ leftRest = quotedChars right ++ rightRest ↔
      left = right ∧ leftRest = rightRest := by
  constructor
  · intro equal
    apply eq_and_eq_of_flatMap_quotedChar_append_eq
    simpa [quotedChars] using equal
  · rintro ⟨rfl, rfl⟩
    rfl

end Text
end ObjectSpec
