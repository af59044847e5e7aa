import ObjectSpec.Proofs.DomainNames

/-!
# The grammar of email addresses

An email address is a local part, an at sign and the labels of a domain name.
The last at sign of a text is where it is cut; neither part can contain another
one, so an address has exactly one, and it can be taken apart in one way only.
-/

namespace ObjectSpec
namespace Format

/-! ## Local parts -/

/-- The grammar of local parts. -/
structure LocalPart (text : List Char) : Prop where
  /-- There is a character. -/
  ne_nil : text ≠ []
  /-- There are at most 64 characters. -/
  length_le : text.length ≤ 64
  /-- The first character is not a dot. -/
  dot_not_first : text.head? ≠ some '.'
  /-- The last character is not a dot. -/
  dot_not_last : text.getLast? ≠ some '.'
  /-- No two dots stand side by side. -/
  dots_apart : ¬['.', '.'] <:+: text
  /-- The characters are letters, digits and certain marks. -/
  allowed : ∀ character ∈ text, character.isAlphanum = true ∨
    character ∈ localPartMarks

theorem hasDoubleDot_iff {text : List Char} :
    hasDoubleDot text = true ↔ ['.', '.'] <:+: text := by
  fun_induction hasDoubleDot text with
  | case1 rest => exact iff_of_true rfl ⟨[], rest, rfl⟩
  | case2 character rest different inductionHypothesis =>
      rw [inductionHypothesis, List.infix_cons_iff]
      refine (or_iff_right ?_).symm
      rintro ⟨further, same⟩
      obtain ⟨rfl, rfl⟩ := List.cons.inj same
      exact different further rfl rfl
  | case3 => simp

theorem isAscii_of_mem_localPartMarks
    {character : Char}
    (mark : character ∈ localPartMarks) :
    Text.IsAscii character := by
  have marksAscii :
      localPartMarks.all (fun mark => decide (Text.IsAscii mark)) = true := by
    decide
  exact of_decide_eq_true (List.all_eq_true.1 marksAscii character mark)

theorem isAscii_of_mem_of_allowed
    {text : List Char}
    {character : Char}
    (allowed : ∀ character ∈ text, character.isAlphanum = true ∨
      character ∈ localPartMarks)
    (member : character ∈ text) :
    Text.IsAscii character := by
  rcases allowed character member with alphanum | mark
  · exact Text.isAscii_of_isAlphanum alphanum
  · exact isAscii_of_mem_localPartMarks mark

theorem isLocalPart_iff {text : List Char} :
    isLocalPart text = true ↔ LocalPart text := by
  simp only [isLocalPart, isLocalPartChar, Bool.and_eq_true, Bool.or_eq_true,
    Bool.not_eq_true', List.isEmpty_iff, decide_eq_true_eq, bne_iff_ne,
    List.all_eq_true, List.contains_iff_mem, ← Bool.not_eq_true,
    hasDoubleDot_iff]
  constructor
  · rintro ⟨⟨⟨⟨⟨nonempty, short⟩, first⟩, last⟩, apart⟩, allowed⟩
    refine ⟨nonempty, ?_, first, last, apart, allowed⟩
    rwa [Text.byteLength_eq_length fun _ => isAscii_of_mem_of_allowed allowed]
      at short
  · intro grammatical
    refine ⟨⟨⟨⟨⟨grammatical.ne_nil, ?_⟩, grammatical.dot_not_first⟩,
      grammatical.dot_not_last⟩, grammatical.dots_apart⟩, grammatical.allowed⟩
    rw [Text.byteLength_eq_length fun _ => isAscii_of_mem_of_allowed
        grammatical.allowed]
    exact grammatical.length_le

/-! ## The at sign -/

theorem all_ne_atSign_iff {text : List Char} :
    (∀ character ∈ text, (character != '@') = true) ↔ '@' ∉ text := by
  constructor
  · intro others member
    exact bne_iff_ne.1 (others '@' member) rfl
  · intro fresh character member
    exact bne_iff_ne.2 fun same => fresh (same ▸ member)

/-- A text is cut at an at sign with no other one after it. -/
theorem cutAtLastAtSign?_eq_some_iff {text before after : List Char} :
    cutAtLastAtSign? text = some (before, after) ↔
      text = before ++ '@' :: after ∧ '@' ∉ after := by
  constructor
  · intro cut
    rw [cutAtLastAtSign?] at cut
    split at cut
    next => cases cut
    next sign others found =>
        cases cut
        have isSign : (sign != '@') = false := by
          have stops := List.head?_dropWhile_not (· != '@') text.reverse
          rwa [found] at stops
        obtain rfl : sign = '@' := by simpa using isSign
        constructor
        · have whole :=
            List.takeWhile_append_dropWhile (p := (· != '@'))
              (l := text.reverse)
          have backwards := congrArg List.reverse whole
          rw [found, List.reverse_reverse, List.reverse_append,
            List.reverse_cons, List.append_assoc] at backwards
          exact backwards.symm
        · rw [List.mem_reverse, ← all_ne_atSign_iff]
          exact List.all_eq_true.1 List.all_takeWhile
  · rintro ⟨rfl, fresh⟩
    have others : ∀ character ∈ after.reverse, (character != '@') = true :=
      all_ne_atSign_iff.2 fun member => fresh (List.mem_reverse.1 member)
    have backwards : (before ++ '@' :: after).reverse =
        after.reverse ++ '@' :: before.reverse := by
      simp
    rw [cutAtLastAtSign?, backwards, List.takeWhile_append_of_pos others,
      List.dropWhile_append_of_pos others]
    simp

/-! ## Addresses -/

/-- A text is the address of a local part and the labels of a domain name. -/
structure Address
    (text localPart : List Char)
    (parts : List (List Char)) : Prop where
  /-- The parts stand around an at sign. -/
  text_eq : text = localPart ++ '@' :: ofLabels parts
  /-- The part before the at sign is a local part. -/
  localPart : LocalPart localPart
  /-- The part after the at sign is a domain name. -/
  domain : DomainLabels parts

theorem LocalPart.atSign_not_mem
    {text : List Char}
    (grammatical : LocalPart text) :
    '@' ∉ text := by
  have notAllowed : ¬('@'.isAlphanum = true ∨ '@' ∈ localPartMarks) := by decide
  exact fun member => notAllowed (grammatical.allowed '@' member)

theorem DomainLabels.atSign_not_mem
    {parts : List (List Char)}
    (grammatical : DomainLabels parts) :
    '@' ∉ ofLabels parts := by
  intro member
  rcases mem_ofLabels member with dot | ⟨part, partMember, inside⟩
  · exact absurd dot (by decide)
  · have notAllowed : ¬('@'.isAlphanum = true ∨ '@' = '-') := by decide
    exact notAllowed ((grammatical.label part partMember).allowed '@' inside)

namespace Address

variable
  {text localPart : List Char}
  {parts : List (List Char)}
  (address : Address text localPart parts)

include address

theorem cutAtLastAtSign?_eq :
    cutAtLastAtSign? text = some (localPart, ofLabels parts) :=
  cutAtLastAtSign?_eq_some_iff.2
    ⟨address.text_eq, address.domain.atSign_not_mem⟩

/-- An address has one local part and one sequence of labels. -/
theorem unique
    {otherLocalPart : List Char}
    {otherParts : List (List Char)}
    (other : Address text otherLocalPart otherParts) :
    otherLocalPart = localPart ∧ otherParts = parts := by
  have sameCut :=
    other.cutAtLastAtSign?_eq.symm.trans address.cutAtLastAtSign?_eq
  obtain ⟨sameLocalPart, sameDomain⟩ := Prod.mk.inj (Option.some.inj sameCut)
  refine ⟨sameLocalPart, ?_⟩
  rw [← other.domain.separable.labels_ofLabels, sameDomain,
    address.domain.separable.labels_ofLabels]

theorem count_atSign : text.count '@' = 1 := by
  rw [address.text_eq, List.count_append, List.count_cons_self,
    List.count_eq_zero.2 address.localPart.atSign_not_mem,
    List.count_eq_zero.2 address.domain.atSign_not_mem]

theorem isAscii
    {character : Char}
    (member : character ∈ text) :
    Text.IsAscii character := by
  rw [address.text_eq, List.mem_append, List.mem_cons] at member
  rcases member with inside | rfl | inside
  · exact isAscii_of_mem_of_allowed address.localPart.allowed inside
  · decide
  · exact isAscii_of_mem_ofLabels address.domain.label inside

end Address

theorem isEmailAddress_iff {text : List Char} :
    isEmailAddress text = true ↔
      ∃ localPart parts, Address text localPart parts := by
  constructor
  · intro accepted
    rw [isEmailAddress] at accepted
    split at accepted
    next => cases accepted
    next localPart domain cut =>
        rw [Bool.and_eq_true, isLocalPart_iff, isDomainName_iff] at accepted
        obtain ⟨whole, _⟩ := cutAtLastAtSign?_eq_some_iff.1 cut
        rw [← ofLabels_labels domain] at whole
        exact ⟨localPart, labels domain, whole, accepted.1, accepted.2⟩
  · rintro ⟨localPart, parts, address⟩
    rw [isEmailAddress, address.cutAtLastAtSign?_eq]
    change (isLocalPart localPart && isDomainName (ofLabels parts)) = true
    rw [Bool.and_eq_true, isLocalPart_iff, isDomainName_iff,
      address.domain.separable.labels_ofLabels]
    exact ⟨address.localPart, address.domain⟩

end Format

/-- A string is accepted as an email address exactly if it has one at sign,
before which there is a local part and after which there are the labels of a
domain name. It then consists of characters of ASCII, and can be taken apart in
this one way only. -/
theorem email_addresses_are_those_of_grammar (text : String) :
    (Predicate.emailAddress.holds (.string text) = true ↔
      text.toList.count '@' = 1 ∧
        ∃ localPart parts, Format.Address text.toList localPart parts) ∧
      (Predicate.emailAddress.holds (.string text) = true →
        (∀ character ∈ text.toList, Text.IsAscii character) ∧
          ∃ localPart parts, Format.Address text.toList localPart parts ∧
            ∀ otherLocalPart otherParts,
              Format.Address text.toList otherLocalPart otherParts →
                otherLocalPart = localPart ∧ otherParts = parts) := by
  rw [Predicate.emailAddress, Predicate.holds_ofFormat,
    Format.isEmailAddress_iff]
  constructor
  · constructor
    · rintro ⟨localPart, parts, address⟩
      exact ⟨address.count_atSign, localPart, parts, address⟩
    · exact And.right
  · rintro ⟨localPart, parts, address⟩
    refine ⟨fun character member => address.isAscii member, localPart, parts,
      address, ?_⟩
    intro otherLocalPart otherParts other
    exact address.unique other

/-- An address with dots, a tag and hyphens is of ASCII and is taken apart in
one way. -/
theorem taggedAddress_taken_apart :
    Predicate.emailAddress.holds (.string "first.last+tag@a-b.mail.org") =
        true ∧
      (∀ character ∈ "first.last+tag@a-b.mail.org".toList,
          Text.IsAscii character) ∧
        ∃ localPart parts,
          Format.Address "first.last+tag@a-b.mail.org".toList localPart parts ∧
            ∀ otherLocalPart otherParts,
              Format.Address "first.last+tag@a-b.mail.org".toList otherLocalPart
                  otherParts →
                otherLocalPart = localPart ∧ otherParts = parts := by
  have accepted :
      Predicate.emailAddress.holds (.string "first.last+tag@a-b.mail.org") =
        true := by
    decide +kernel
  exact ⟨accepted, (email_addresses_are_those_of_grammar _).2 accepted⟩

end ObjectSpec
