import ObjectSpec.Predicate

/-!
# Labels of domain names

Every text is in exactly one way a sequence of labels without dots, joined with
dots. So reversing the labels twice gives the text back, and domain names that
start with the top-level domain are the mirror images of those that end with it.
The grammar of domain names is that of their labels; it admits characters of
ASCII only, so that lengths in bytes are lengths in characters.
-/

namespace ObjectSpec

/-! ## Bytes and characters -/

namespace Text

/-- A character of ASCII. -/
def IsAscii (character : Char) : Prop := character.toNat < 128

instance (character : Char) : Decidable (IsAscii character) := Nat.decLt _ _

theorem utf8Size_of_isAscii {character : Char} (ascii : IsAscii character) :
    character.utf8Size = 1 := by
  rw [Char.utf8Size_eq_one_iff, UInt32.le_iff_toNat_le]
  exact Nat.le_of_lt_succ ascii

/-- A text of ASCII has as many bytes as characters. -/
theorem byteLength_eq_length
    {text : List Char}
    (ascii : ∀ character ∈ text, IsAscii character) :
    byteLength text = text.length := by
  induction text with
  | nil => rfl
  | cons character rest inductionHypothesis =>
      obtain ⟨first, others⟩ := List.forall_mem_cons.1 ascii
      rw [byteLength_cons, utf8Size_of_isAscii first,
        inductionHypothesis others, List.length_cons, Nat.add_comm]

/-- Letters and digits are those of ASCII. -/
theorem isAscii_of_isAlphanum
    {character : Char}
    (alphanum : character.isAlphanum = true) :
    IsAscii character := by
  change ((decide (65 ≤ character.val ∧ character.val ≤ 90) ||
    decide (97 ≤ character.val) && decide (character.val ≤ 122)) ||
    decide (48 ≤ character.val) && decide (character.val ≤ 57)) = true
    at alphanum
  simp only [Bool.or_eq_true, Bool.and_eq_true, decide_eq_true_eq,
    UInt32.le_iff_toNat_le, UInt32.reduceToNat] at alphanum
  change character.val.toNat < 128
  omega

end Text

namespace Format

/-! ## Splitting and joining -/

theorem ofLabels_labels (name : List Char) : ofLabels (labels name) = name :=
  List.intercalate_splitOn '.'

theorem labels_ne_nil (name : List Char) : labels name ≠ [] :=
  List.splitOn_ne_nil '.' name

/-- Labels that can be read back: there is at least one, and none contains a
dot. -/
structure Separable (parts : List (List Char)) : Prop where
  /-- There is a label. -/
  ne_nil : parts ≠ []
  /-- No label contains a dot. -/
  dot_not_mem : ∀ part ∈ parts, '.' ∉ part

theorem Separable.labels_ofLabels
    {parts : List (List Char)}
    (separable : Separable parts) :
    labels (ofLabels parts) = parts :=
  List.splitOn_intercalate '.' separable.dot_not_mem separable.ne_nil

theorem Separable.reverse
    {parts : List (List Char)}
    (separable : Separable parts) :
    Separable parts.reverse where
  ne_nil := List.reverse_ne_nil_iff.2 separable.ne_nil
  dot_not_mem part member :=
    separable.dot_not_mem part (List.mem_reverse.1 member)

theorem separable_labels (name : List Char) : Separable (labels name) where
  ne_nil := labels_ne_nil name
  dot_not_mem := by
    induction name with
    | nil =>
        intro part member
        rw [List.mem_singleton.1 member]
        exact List.not_mem_nil
    | cons character rest inductionHypothesis =>
        intro part member
        rw [labels, List.splitOn_cons_eq_if_modifyHead] at member
        split at member
        next =>
            rcases List.mem_cons.1 member with rfl | inside
            · exact List.not_mem_nil
            · exact inductionHypothesis part inside
        next other =>
            -- The character joins the first label of the rest.
            obtain ⟨first, others, split⟩ :=
              List.exists_cons_of_ne_nil (labels_ne_nil rest)
            rw [labels] at split inductionHypothesis
            rw [split] at member inductionHypothesis
            rcases List.mem_cons.1 member with rfl | inside
            · intro dot
              rcases List.mem_cons.1 dot with same | dot
              · exact other (beq_iff_eq.2 same.symm)
              · exact inductionHypothesis first List.mem_cons_self dot
            · exact inductionHypothesis part (List.mem_cons_of_mem _ inside)

/-! ## Mirror images -/

/-- Two texts have the same labels in opposite orders. -/
def Mirrored (name other : List Char) : Prop :=
  ∃ parts, Separable parts ∧ ofLabels parts = name ∧
    ofLabels parts.reverse = other

theorem mirrored_iff {name other : List Char} :
    Mirrored name other ↔ other = reverseLabels name := by
  constructor
  · rintro ⟨parts, separable, rfl, rfl⟩
    rw [reverseLabels, separable.labels_ofLabels]
  · rintro rfl
    exact ⟨labels name, separable_labels name, ofLabels_labels name, rfl⟩

theorem reverseLabels_reverseLabels (name : List Char) :
    reverseLabels (reverseLabels name) = name := by
  have separable := (separable_labels name).reverse
  rw [reverseLabels, reverseLabels, separable.labels_ofLabels,
    List.reverse_reverse, ofLabels_labels]

/-! ## The grammar of domain names -/

/-- The grammar of labels. -/
structure Label (label : List Char) : Prop where
  /-- There is a character. -/
  ne_nil : label ≠ []
  /-- There are at most 63 characters. -/
  length_le : label.length ≤ 63
  /-- The first character is not a hyphen. -/
  hyphen_not_first : label.head? ≠ some '-'
  /-- The last character is not a hyphen. -/
  hyphen_not_last : label.getLast? ≠ some '-'
  /-- The characters are letters, digits and hyphens. -/
  allowed : ∀ character ∈ label, character.isAlphanum = true ∨ character = '-'

/-- The grammar of domain names, by their labels. -/
structure DomainLabels (parts : List (List Char)) : Prop where
  /-- The name has at most 253 characters. -/
  length_le : (ofLabels parts).length ≤ 253
  /-- There are at least two labels. -/
  two_le_length : 2 ≤ parts.length
  /-- All of them are labels. -/
  label : ∀ part ∈ parts, Label part
  /-- The last one has at least two characters, all of them letters. -/
  topLevel : ∀ part, parts.getLast? = some part →
    2 ≤ part.length ∧ ∀ character ∈ part, character.isAlpha = true

theorem isAscii_of_allowed
    {character : Char}
    (allowed : character.isAlphanum = true ∨ character = '-') :
    Text.IsAscii character := by
  rcases allowed with alphanum | rfl
  · exact Text.isAscii_of_isAlphanum alphanum
  · decide

theorem dot_not_allowed : ¬('.'.isAlphanum = true ∨ '.' = '-') := by
  decide

theorem Label.byteLength_eq {label : List Char} (grammatical : Label label) :
    Text.byteLength label = label.length := by
  refine Text.byteLength_eq_length ?_
  intro character member
  exact isAscii_of_allowed (grammatical.allowed character member)

theorem all_isLabelChar_iff {label : List Char} :
    label.all isLabelChar = true ↔
      ∀ character ∈ label, character.isAlphanum = true ∨ character = '-' := by
  simp only [List.all_eq_true, isLabelChar, Bool.or_eq_true, beq_iff_eq]

theorem isLabel_iff {label : List Char} :
    isLabel label = true ↔ Label label := by
  simp only [isLabel, Bool.and_eq_true, Bool.not_eq_true',
    List.isEmpty_eq_false_iff, decide_eq_true_eq, bne_iff_ne,
    all_isLabelChar_iff]
  constructor
  · rintro ⟨⟨⟨⟨nonempty, short⟩, first⟩, last⟩, allowed⟩
    refine ⟨nonempty, ?_, first, last, allowed⟩
    rwa [Text.byteLength_eq_length fun character member =>
      isAscii_of_allowed (allowed character member)] at short
  · intro grammatical
    refine ⟨⟨⟨⟨grammatical.ne_nil, ?_⟩, grammatical.hyphen_not_first⟩,
      grammatical.hyphen_not_last⟩, grammatical.allowed⟩
    rw [grammatical.byteLength_eq]
    exact grammatical.length_le

theorem Label.isTopLevelDomain_iff
    {label : List Char}
    (grammatical : Label label) :
    isTopLevelDomain label = true ↔
      2 ≤ label.length ∧ ∀ character ∈ label, character.isAlpha = true := by
  rw [isTopLevelDomain, Bool.and_eq_true, decide_eq_true_eq, List.all_eq_true,
    grammatical.byteLength_eq]

/-- Labels contain no dots, so they can be read back from a name. -/
theorem DomainLabels.separable
    {parts : List (List Char)}
    (grammatical : DomainLabels parts) :
    Separable parts where
  ne_nil := by
    rintro rfl
    exact absurd grammatical.two_le_length (by decide)
  dot_not_mem part member dot :=
    dot_not_allowed ((grammatical.label part member).allowed '.' dot)

theorem mem_ofLabels
    {parts : List (List Char)}
    {character : Char}
    (member : character ∈ ofLabels parts) :
    character = '.' ∨ ∃ part ∈ parts, character ∈ part := by
  induction parts with
  | nil => exact absurd member List.not_mem_nil
  | cons part others inductionHypothesis =>
      cases others with
      | nil =>
          rw [ofLabels, List.intercalate_singleton] at member
          exact Or.inr ⟨part, List.mem_cons_self, member⟩
      | cons next further =>
          rw [ofLabels, List.intercalate_cons_cons, List.mem_append,
            List.mem_append, List.mem_singleton] at member
          rcases member with (inside | dot) | inside
          · exact Or.inr ⟨part, List.mem_cons_self, inside⟩
          · exact Or.inl dot
          · refine (inductionHypothesis inside).imp_right ?_
            rintro ⟨other, otherMember, inOther⟩
            exact ⟨other, List.mem_cons_of_mem _ otherMember, inOther⟩

theorem isAscii_of_mem_ofLabels
    {parts : List (List Char)}
    {character : Char}
    (labels : ∀ part ∈ parts, Label part)
    (member : character ∈ ofLabels parts) :
    Text.IsAscii character := by
  rcases mem_ofLabels member with rfl | ⟨part, partMember, inside⟩
  · decide
  · exact isAscii_of_allowed ((labels part partMember).allowed character inside)

/-- A text is a domain name if its labels follow the grammar. -/
theorem isDomainName_iff {name : List Char} :
    isDomainName name = true ↔ DomainLabels (labels name) := by
  have lengths (grammatical : ∀ part ∈ labels name, Label part) :
      Text.byteLength name = (ofLabels (labels name)).length := by
    rw [ofLabels_labels]
    refine Text.byteLength_eq_length ?_
    intro character member
    rw [← ofLabels_labels name] at member
    exact isAscii_of_mem_ofLabels grammatical member
  simp only [isDomainName, Bool.and_eq_true, Bool.not_eq_true',
    List.isEmpty_eq_false_iff, decide_eq_true_eq, List.all_eq_true, isLabel_iff]
  constructor
  · rintro ⟨⟨⟨⟨_, short⟩, several⟩, grammatical⟩, topLevel⟩
    refine ⟨lengths grammatical ▸ short, several, grammatical, ?_⟩
    intro part last
    rw [last, Option.any_some] at topLevel
    have member := List.mem_of_getLast? last
    exact (grammatical part member).isTopLevelDomain_iff.1 topLevel
  · intro grammatical
    refine ⟨⟨⟨⟨?_, ?_⟩, grammatical.two_le_length⟩, grammatical.label⟩, ?_⟩
    · rintro rfl
      exact absurd grammatical.two_le_length (by decide)
    · rw [lengths grammatical.label]
      exact grammatical.length_le
    · have last := List.getLast?_eq_some_getLast (labels_ne_nil name)
      have member := List.mem_of_getLast? last
      rw [last, Option.any_some]
      exact (grammatical.label _ member).isTopLevelDomain_iff.2
        (grammatical.topLevel _ last)

end Format

/-! ## Domain names from either end -/

/-- The text with its labels between dots in reverse order. -/
def mirrorName (name : String) : String :=
  String.ofList (Format.reverseLabels name.toList)

/-- The mirror image of a text, which has the same labels in the opposite order
and whose own mirror image is the text, is a reversed domain name exactly if the
text is a domain name, and a domain name exactly if the text is a reversed
domain name. -/
theorem domain_names_mirror_reversed_ones (name : String) :
    (∀ other : String,
      Format.Mirrored name.toList other.toList ↔ other = mirrorName name) ∧
      mirrorName (mirrorName name) = name ∧
      (Predicate.reversedDomainName.holds (.string name) = true ↔
        Predicate.domainName.holds (.string (mirrorName name)) = true) ∧
      (Predicate.domainName.holds (.string name) = true ↔
        Predicate.reversedDomainName.holds
          (.string (mirrorName name)) = true) := by
  have characters :
      (mirrorName name).toList = Format.reverseLabels name.toList :=
    String.toList_ofList
  have mirroredTwice : mirrorName (mirrorName name) = name := by
    rw [mirrorName, characters, Format.reverseLabels_reverseLabels,
      String.ofList_toList]
  have reversed : ∀ other : String,
      Predicate.reversedDomainName.holds (.string other) =
        Predicate.domainName.holds (.string (mirrorName other)) := by
    intro other
    rw [Predicate.reversedDomainName, Predicate.domainName,
      Predicate.holds_ofFormat, Predicate.holds_ofFormat,
      Format.isReversedDomainName, mirrorName, String.toList_ofList]
  refine ⟨?_, mirroredTwice, ?_, ?_⟩
  · intro other
    rw [Format.mirrored_iff, ← characters, String.toList_inj]
  · rw [reversed]
  · rw [reversed, mirroredTwice]

/-- Empty labels are labels as well: a dot at one end becomes a dot at the
other. -/
example : mirrorName "..io.host" = "host.io.." := by
  decide +kernel

end ObjectSpec
