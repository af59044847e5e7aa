import Mathlib.Data.List.Infix
import Mathlib.Tactic.SplitIfs
import ObjectSpec.Json.Printer
import ObjectSpec.Proofs.Numerals
import ObjectSpec.Proofs.Pieces
import ObjectSpec.Text.Quoted

/-!
# Texts on one line

Numerals, quoted texts and the compact text of a JSON value never contain a line
feed, whatever characters the strings in them have: inside quotes every line
feed is escaped.
-/

namespace ObjectSpec
namespace Text

/-- A text has no line feed. -/
def IsOneLine (text : String) : Prop := '\n' ∉ text.toList

instance (text : String) : Decidable (IsOneLine text) :=
  inferInstanceAs (Decidable ('\n' ∉ text.toList))

@[simp] theorem isOneLine_append {first second : String} :
    IsOneLine (first ++ second) ↔ IsOneLine first ∧ IsOneLine second := by
  simp [IsOneLine]

@[simp] theorem isOneLine_ofList {characters : List Char} :
    IsOneLine (String.ofList characters) ↔ '\n' ∉ characters := by
  rw [IsOneLine, String.toList_ofList]

/-- Joining texts with one that has no line feed adds none. -/
theorem isOneLine_intercalate
    {separator : String}
    (oneLine : IsOneLine separator)
    {texts : List String} :
    IsOneLine (separator.intercalate texts) ↔
      ∀ text ∈ texts, IsOneLine text := by
  induction texts with
  | nil => simp [IsOneLine]
  | cons text rest inductionHypothesis =>
      cases rest with
      | nil => simp
      | cons next following =>
          rw [List.forall_mem_cons, ← inductionHypothesis]
          simp [oneLine]

/-! ## Lines -/

theorem split_ne_nil (text : String) : split "\n" text ≠ [] := by
  have separator : "\n" ≠ "" := by decide
  obtain ⟨nonempty, _⟩ := split_ne_nil_and_not_infix separator text
  exact nonempty

theorem isOneLine_of_mem_split
    {text line : String}
    (member : line ∈ split "\n" text) :
    IsOneLine line := by
  have separator : "\n" ≠ "" := by decide
  obtain ⟨_, noInfix⟩ := split_ne_nil_and_not_infix separator text
  intro lineFeed
  exact noInfix line member ((List.singleton_infix_iff _ _).2 lineFeed)

/-- Texts without line feeds are the lines of what they are joined to by line
feeds. -/
theorem split_intercalate
    {texts : List String}
    (nonempty : texts ≠ [])
    (oneLine : ∀ text ∈ texts, IsOneLine text) :
    split "\n" ("\n".intercalate texts) = texts := by
  have readBack :
      ∀ lines : List String, lines ≠ [] → (∀ line ∈ lines, IsOneLine line) →
        ("\n".intercalate lines).toList.splitOn '\n' =
          lines.map String.toList := by
    intro lines linesNonempty linesOneLine
    rw [String.toList_intercalate]
    exact List.splitOn_intercalate '\n' (List.forall_mem_map.2 linesOneLine)
      (mt List.map_eq_nil_iff.1 linesNonempty)
  -- The lines of the joined text have no line feed either, and joining them
  -- gives it back, so they and the texts are both read back from the same
  -- characters.
  have sameCharacters := readBack (split "\n" ("\n".intercalate texts))
    (split_ne_nil _) (fun _ => isOneLine_of_mem_split)
  rw [intercalate_split, readBack texts nonempty oneLine] at sameCharacters
  exact (List.map_inj_right fun _ _ => String.toList_injective).1
    sameCharacters.symm

theorem flatMap_split_ne_nil
    {texts : List String}
    (nonempty : texts ≠ []) :
    texts.flatMap (split "\n") ≠ [] := by
  intro noLines
  obtain ⟨text, member⟩ := List.exists_mem_of_ne_nil texts nonempty
  exact split_ne_nil text (List.flatMap_eq_nil_iff.1 noLines text member)

theorem intercalate_flatMap_split (texts : List String) :
    "\n".intercalate (texts.flatMap (split "\n")) = "\n".intercalate texts := by
  induction texts with
  | nil => rfl
  | cons text rest inductionHypothesis =>
      rw [List.flatMap_cons]
      by_cases last : rest = []
      · rw [last, List.flatMap_nil, List.append_nil, intercalate_split,
          String.intercalate_singleton]
      · rw [String.intercalate_append_of_ne_nil (split_ne_nil text)
            (flatMap_split_ne_nil last), intercalate_split, inductionHypothesis,
          String.intercalate_cons_of_ne_nil last]

/-- The lines of texts that are joined by line feeds are those of each text in
turn. -/
theorem split_intercalate_eq_flatMap
    {texts : List String}
    (nonempty : texts ≠ []) :
    split "\n" ("\n".intercalate texts) = texts.flatMap (split "\n") := by
  -- Cutting the texts into their lines first leaves the joined text as it is.
  rw [← intercalate_flatMap_split]
  refine split_intercalate (flatMap_split_ne_nil nonempty) ?_
  intro line member
  obtain ⟨text, _, inText⟩ := List.mem_flatMap.1 member
  exact isOneLine_of_mem_split inText

/-- A text without line feeds is its only line. -/
theorem split_eq_singleton {text : String} (oneLine : IsOneLine text) :
    split "\n" text = [text] := by
  have lines :=
    split_intercalate (List.cons_ne_nil text [])
      (List.forall_mem_singleton.2 oneLine)
  rwa [String.intercalate_singleton] at lines

theorem flatMap_split_eq_self
    {texts : List String}
    (oneLine : ∀ text ∈ texts, IsOneLine text) :
    texts.flatMap (split "\n") = texts := by
  calc
    texts.flatMap (split "\n") = texts.flatMap fun text => [text] :=
      List.flatMap_congr fun text member =>
        split_eq_singleton (oneLine text member)
    _ = texts := List.flatMap_singleton' texts

theorem length_split_eq_one_iff {text : String} :
    (split "\n" text).length = 1 ↔ IsOneLine text := by
  constructor
  · intro single
    obtain ⟨line, onlyLine⟩ := List.length_eq_one_iff.1 single
    have lineOneLine : IsOneLine line :=
      isOneLine_of_mem_split (by rw [onlyLine]; simp)
    rwa [← intercalate_split "\n" text, onlyLine, String.intercalate_singleton]
  · intro oneLine
    rw [split_eq_singleton oneLine]
    rfl

theorem length_le_length_flatMap_split (texts : List String) :
    texts.length ≤ (texts.flatMap (split "\n")).length := by
  induction texts with
  | nil => exact Nat.le_refl 0
  | cons text rest inductionHypothesis =>
      have lines := List.length_pos_of_ne_nil (split_ne_nil text)
      rw [List.flatMap_cons, List.length_append, List.length_cons]
      omega

/-- Several texts have as many lines as they are, exactly if none of them has a
line feed. -/
theorem length_flatMap_split_eq_iff {texts : List String} :
    (texts.flatMap (split "\n")).length = texts.length ↔
      ∀ text ∈ texts, IsOneLine text := by
  induction texts with
  | nil => simp
  | cons text rest inductionHypothesis =>
      have lines := List.length_pos_of_ne_nil (split_ne_nil text)
      have restLines := length_le_length_flatMap_split rest
      rw [List.forall_mem_cons, ← inductionHypothesis,
        ← length_split_eq_one_iff, List.flatMap_cons, List.length_append,
        List.length_cons]
      omega

/-! ## Numerals and quoted texts -/

/-- The digits of a number are no line feeds. -/
theorem lineFeed_not_mem_toDigits
    {radix : Nat}
    (radixLarge : 1 < radix)
    (radixSmall : radix ≤ 16)
    (number : Nat) :
    '\n' ∉ Nat.toDigits radix number := by
  obtain ⟨values, written, belowRadix, _⟩ :=
    exists_toDigits_eq_map_digitChar radixLarge number
  have noDigit : ∀ digit < 16, Nat.digitChar digit ≠ '\n' := by decide
  rw [written, List.mem_map]
  rintro ⟨value, member, same⟩
  have below := belowRadix value member
  exact noDigit value (by omega) same

theorem isOneLine_toString_nat (number : Nat) :
    IsOneLine (toString number) := by
  rw [Nat.toString_eq_ofList_toDigits, isOneLine_ofList]
  exact lineFeed_not_mem_toDigits (by decide) (by decide) number

theorem isOneLine_toString_int (number : Int) :
    IsOneLine (toString number) := by
  cases number with
  | ofNat magnitude => exact isOneLine_toString_nat magnitude
  | negSucc magnitude =>
      have negated :
          toString (Int.negSucc magnitude) = "-" ++ toString (magnitude + 1) :=
            rfl
      rw [negated, isOneLine_append]
      exact ⟨by decide, isOneLine_toString_nat (magnitude + 1)⟩

/-- A text in quotes has no line feed if no character is written with one. -/
theorem lineFeed_not_mem_inQuotes
    {write : Char → List Char}
    (each : ∀ character, '\n' ∉ write character)
    (text : List Char) :
    '\n' ∉ '"' :: text.flatMap write ++ ['"'] := by
  rw [List.mem_append, List.mem_cons, List.mem_flatMap]
  rintro ((isQuote | ⟨character, _, inside⟩) | isQuote)
  · exact absurd isQuote (by decide)
  · exact each character inside
  · exact absurd isQuote (by decide)

theorem lineFeed_not_mem_quotedChar (character : Char) :
    '\n' ∉ quotedChar character := by
  unfold quotedChar
  split_ifs with isQuote isBackslash isTab isNewline isReturn isZero hidden
  · decide
  · decide
  · decide
  · decide
  · decide
  · decide
  · have digits : '\n' ∉ Nat.toDigits 16 character.toNat :=
      lineFeed_not_mem_toDigits (by decide) (by decide) _
    simp [hexDigits, digits]
  · rw [List.mem_singleton]
    exact fun same => isNewline same.symm

/-- A quoted text escapes every line feed. -/
theorem isOneLine_quoted (text : String) : IsOneLine (quoted text) :=
  isOneLine_ofList.2
    (lineFeed_not_mem_inQuotes lineFeed_not_mem_quotedChar text.toList)

end Text

/-! ## Numbers -/

theorem Decimal.lineFeed_not_mem_significantDigits (numeral : Decimal) :
    '\n' ∉ numeral.significantDigits := by
  rw [significantDigits, List.mem_reverse]
  intro member
  have inDigits := List.mem_reverse.1 ((List.dropWhile_sublist _).subset member)
  exact Text.lineFeed_not_mem_toDigits (by decide) (by decide) _ inDigits

section

variable {digits : List Char} (noLineFeed : '\n' ∉ digits) (leading : Int)

include noLineFeed

theorem lineFeed_not_mem_positional : '\n' ∉ positional digits leading := by
  cases leading with
  | ofNat power =>
      have whole : '\n' ∉ digits.take (power + 1) :=
        mt List.mem_of_mem_take noLineFeed
      have fraction : '\n' ∉ digits.drop (power + 1) :=
        mt List.mem_of_mem_drop noLineFeed
      by_cases empty : digits.drop (power + 1) = []
      · simp [positional, whole, empty]
      · simp [positional, whole, fraction, empty]
  | negSucc power => simp [positional, noLineFeed]

theorem lineFeed_not_mem_scientific : '\n' ∉ scientific digits leading := by
  have exponent : '\n' ∉ Nat.toDigits 10 leading.natAbs :=
    Text.lineFeed_not_mem_toDigits (by decide) (by decide) _
  have sign : '\n' ≠ if leading < 0 then '-' else '+' := by
    split <;> decide
  cases digits with
  | nil => simp [scientific, sign, exponent]
  | cons digit fraction =>
      cases fraction with
      | nil => simpa [scientific, sign, exponent] using noLineFeed
      | cons next others => simpa [scientific, sign, exponent] using noLineFeed

end

theorem Binary64.isOneLine_text (number : Binary64) :
    Text.IsOneLine number.text := by
  have digits := number.shortest.lineFeed_not_mem_significantDigits
  have written : '\n' ∉ number.shortest.written := by
    rw [Decimal.written]
    split
    next => exact lineFeed_not_mem_positional digits _
    next => exact lineFeed_not_mem_scientific digits _
  rw [text, Text.isOneLine_ofList, List.mem_append, not_or]
  constructor
  · split <;> decide
  · split
    next => decide
    next => exact written

theorem Number.isOneLine_text (number : Number) :
    Text.IsOneLine number.text := by
  cases number with
  | int value => exact Text.isOneLine_toString_int value
  | float value => exact value.isOneLine_text

/-! ## JSON values -/

namespace Json

theorem lineFeed_not_mem_escapedChar (character : Char) :
    '\n' ∉ escapedChar character := by
  unfold escapedChar
  split_ifs with isQuote isBackslash large
  · decide
  · decide
  · rw [List.mem_singleton]
    rintro rfl
    exact absurd large (by decide)
  · decide
  · decide
  · decide
  · decide
  · decide
  · have digits : '\n' ∉ Nat.toDigits 16 character.toNat :=
      Text.lineFeed_not_mem_toDigits (by decide) (by decide) _
    simp [fourHexDigits, digits]

theorem isOneLine_stringText (text : String) :
    Text.IsOneLine (stringText text) :=
  Text.isOneLine_ofList.2
    (Text.lineFeed_not_mem_inQuotes lineFeed_not_mem_escapedChar text.toList)

mutual

/-- The compact text of a value is on one line. -/
theorem isOneLine_compact : ∀ value : Json, Text.IsOneLine value.compact
  | .null => by decide
  | .bool true => by decide
  | .bool false => by decide
  | .number value => value.isOneLine_text
  | .string value => isOneLine_stringText value
  | .array items => by
      rw [compact, Text.isOneLine_append, Text.isOneLine_append,
        Text.isOneLine_intercalate (by decide)]
      exact ⟨⟨by decide, isOneLine_compactItems items⟩, by decide⟩
  | .object members => by
      rw [compact, Text.isOneLine_append, Text.isOneLine_append,
        Text.isOneLine_intercalate (by decide)]
      exact ⟨⟨by decide, isOneLine_compactMembers members⟩, by decide⟩

theorem isOneLine_compactItems :
    ∀ items : List Json, ∀ text ∈ compactItems items, Text.IsOneLine text
  | [] => nofun
  | item :: rest =>
      List.forall_mem_cons.2
        ⟨isOneLine_compact item, isOneLine_compactItems rest⟩

theorem isOneLine_compactMembers :
    ∀ members : List (String × Json), ∀ text ∈ compactMembers members,
      Text.IsOneLine text
  | [] => nofun
  | (name, value) :: rest => by
      refine List.forall_mem_cons.2 ⟨?_, isOneLine_compactMembers rest⟩
      rw [Text.isOneLine_append, Text.isOneLine_append]
      exact ⟨⟨isOneLine_stringText name, by decide⟩, isOneLine_compact value⟩

end

end Json
end ObjectSpec
