import ObjectSpec.Proofs.DateTimeShapes

/-!
# What date and time patterns accept

Each item of a pattern takes a piece of the text that spells the item, and what
a pattern takes is made up of the pieces of its items. The number of the month
is read at most once, so it is that of the moment in the end, which has to be
real. Hence a text that fits a pattern has one of the loose shapes of dates and
date-times, and timestamps and dates of reduced precision have full shapes.
-/

namespace ObjectSpec
namespace Format

open Text (AllDigits)

/-! ## Pieces of a text -/

theorem takeWhile_append_drop (class? : Char → Bool) (text : List Char) :
    text.takeWhile class? ++ text.drop (text.takeWhile class?).length = text :=
  List.prefix_iff_eq_append.1 (List.takeWhile_prefix class?)

theorem allDigits_takeWhile (text : List Char) :
    AllDigits (text.takeWhile Char.isDigit) :=
  List.all_eq_true.1 List.all_takeWhile

theorem takeDigits_spec
    {limit : Nat}
    {text digits rest : List Char}
    (taken : takeDigits limit text = (digits, rest)) :
    text = digits ++ rest ∧ digits.length ≤ limit ∧ AllDigits digits := by
  rw [takeDigits] at taken
  obtain ⟨rfl, rfl⟩ := Prod.mk.inj taken
  have start : (text.take limit).takeWhile Char.isDigit <+: text.take limit :=
    List.takeWhile_prefix Char.isDigit
  refine ⟨?_, ?_, allDigits_takeWhile _⟩
  · exact (List.prefix_iff_eq_append.1
      (start.trans (List.take_prefix limit text))).symm
  · exact Nat.le_trans start.length_le (List.length_take_le limit text)

theorem exists_of_dropWhile (class? : Char → Bool) (text : List Char) :
    ∃ taken, text = taken ++ text.dropWhile class? ∧
      ∀ character ∈ taken, class? character = true :=
  ⟨text.takeWhile class?, List.takeWhile_append_dropWhile.symm,
    List.all_eq_true.1 List.all_takeWhile⟩

theorem fullNumeral_two
    {tens ones : Char}
    (tensDigit : tens.isDigit = true)
    (onesDigit : ones.isDigit = true) :
    FullNumeral 2 [tens, ones] := by
  exact ⟨rfl, List.forall_mem_cons.2
    ⟨tensDigit, List.forall_mem_singleton.2 onesDigit⟩⟩

theorem exists_minute
    {text rest : List Char}
    (skipped : skipMinutes? text = some rest) :
    ∃ minute, text = minute ++ rest ∧ FullNumeral 2 minute := by
  unfold skipMinutes? at skipped
  split at skipped
  next tens ones further =>
      split at skipped
      next range =>
          cases skipped
          obtain ⟨least, greatest, onesDigit⟩ := range
          have tensDigit : tens.isDigit = true :=
            Text.isDigit_iff.2 ⟨least, Nat.le_trans greatest (by decide)⟩
          exact ⟨[tens, ones], rfl, fullNumeral_two tensDigit onesDigit⟩
      next => cases skipped
  next => cases skipped

theorem exists_looseOffset
    {text rest : List Char}
    (skipped : skipLooseOffset? text = some rest) :
    ∃ offset, text = offset ++ rest ∧ LooseOffset offset := by
  obtain ⟨blanks, split, allBlank⟩ := exists_of_dropWhile Text.isBlank text
  unfold skipLooseOffset? at skipped
  split at skipped
  next sign tens ones further unblanked =>
      split at skipped
      next parts =>
          obtain ⟨isSign, tensDigit, onesDigit⟩ := parts
          obtain ⟨minute, minuteSplit, isMinute⟩ := exists_minute skipped
          obtain ⟨between, furtherSplit, separates⟩ := exists_of_dropWhile
            (fun character => character == ':' || Text.isBlank character)
            further
          refine ⟨blanks ++ sign :: [tens, ones] ++ between ++ minute, ?_,
            blanks, sign, [tens, ones], between, minute, rfl, allBlank,
            List.contains_iff_mem.1 isSign, fullNumeral_two tensDigit onesDigit,
            ?_, isMinute⟩
          · rw [minuteSplit] at furtherSplit
            rw [Text.dropBlanks] at unblanked
            rw [split, unblanked, furtherSplit]
            simp
          · intro character member
            simpa using separates character member
      next => cases skipped
  next => cases skipped

theorem exists_zone
    {text rest : List Char}
    (skipped : skipZone? text = some rest) :
    ∃ zone, text = zone ++ rest ∧ Style.full.Offset zone := by
  unfold skipZone? at skipped
  split at skipped
  next => cases skipped; exact ⟨['Z'], rfl, Or.inl rfl⟩
  next => cases skipped; exact ⟨['z'], rfl, Or.inr (Or.inl rfl)⟩
  next sign tens ones further _ _ =>
      split at skipped
      next parts =>
          obtain ⟨isSign, tensDigit, onesDigit, _⟩ := parts
          obtain ⟨minute, rfl, isMinute⟩ := exists_minute skipped
          refine ⟨sign :: [tens, ones] ++ ':' :: minute, rfl,
            Or.inr (Or.inr ?_)⟩
          exact ⟨sign, [tens, ones], minute, List.contains_iff_mem.1 isSign,
            fullNumeral_two tensDigit onesDigit, isMinute, Or.inl rfl⟩
      next => cases skipped
  next => cases skipped

/-! ## Items -/

/-- A text that an item takes, the number of the month being given. -/
def Item.Spells (month : Nat) : Item → List Char → Prop
  | .padded .year, text => Style.loose.Year text
  | .padded component, text =>
      ∃ digits, Style.loose.Numeral component.width digits text ∧
        (component = .month → numberOf digits = month)
  | .fixed width component, text =>
      FullNumeral width text ∧ (component = .month → numberOf text = month)
  | .oneOf characters, text => ∃ character ∈ characters, text = [character]
  | .blanks, text => AllBlank text
  | .fraction, text => Fraction text
  | .looseOffset, text => LooseOffset text
  | .zone, text => Style.full.Offset text

/-- Whether an item is the number of a month. -/
def Item.isMonth : Item → Bool
  | .padded component => component = .month
  | .fixed _ component => component = .month
  | _ => false

theorem Component.month_set
    (component : Component)
    (value : Nat)
    (moment : Moment) :
    (component.set value moment).month =
      if component = .month then value else moment.month := by
  cases component with
  | _ => rfl

theorem exists_signedYear
    {moment further : Moment}
    {negative : Bool}
    {text rest : List Char}
    (scanned : scanSignedYear? moment negative text = some (further, rest)) :
    ∃ digits, text = digits ++ rest ∧ digits ≠ [] ∧ AllDigits digits ∧
      further.month = moment.month := by
  rw [scanSignedYear?] at scanned
  split at scanned
  next => cases scanned
  next nonempty =>
      cases scanned
      exact ⟨text.takeWhile Char.isDigit,
        (takeWhile_append_drop Char.isDigit text).symm,
        nonempty, allDigits_takeWhile text, rfl⟩

theorem exists_shortNumeral
    {component : Component}
    {moment further : Moment}
    {text rest : List Char}
    (scanned : scanPadded? component moment text = some (further, rest)) :
    ∃ digits, text = digits ++ rest ∧ ShortNumeral component.width digits ∧
      further = component.set (numberOf digits) moment := by
  rw [scanPadded?] at scanned
  split at scanned
  next => cases scanned
  next digits others nonempty taken =>
      cases scanned
      obtain ⟨split, short, allDigits⟩ := takeDigits_spec taken
      exact ⟨digits, split, ⟨nonempty, short, allDigits⟩, rfl⟩

theorem Item.spells_padded
    {component : Component}
    {blanks digits : List Char}
    {month : Nat}
    (allBlank : AllBlank blanks)
    (isShort : ShortNumeral component.width digits)
    (isMonth : component = .month → numberOf digits = month) :
    (Item.padded component).Spells month (blanks ++ digits) := by
  cases component with
  | year => exact ⟨blanks, digits, rfl, allBlank, Or.inl isShort⟩
  | _ => exact ⟨digits, ⟨blanks, rfl, allBlank, isShort⟩, isMonth⟩

/-- What an item takes from a text, with the month that is read or kept. -/
structure Item.Takes
    (item : Item)
    (moment further : Moment)
    (piece : List Char) : Prop where
  /-- The piece spells the item. -/
  spells : item.Spells further.month piece
  /-- Only the number of a month changes the month. -/
  month_eq : item.isMonth = false → further.month = moment.month

theorem Item.takes_signedYear
    {moment further : Moment}
    {blanks digits : List Char}
    {sign : Char}
    (isSign : sign ∈ ['+', '-'])
    (allBlank : AllBlank blanks)
    (nonempty : digits ≠ [])
    (allDigits : AllDigits digits)
    (sameMonth : further.month = moment.month) :
    (Item.padded .year).Takes moment further (blanks ++ sign :: digits) where
  spells := ⟨blanks, sign :: digits, rfl, allBlank,
    Or.inr ⟨sign, digits, rfl, isSign, nonempty, allDigits⟩⟩
  month_eq _ := sameMonth

theorem Item.takes_padded
    {component : Component}
    {blanks digits : List Char}
    (moment : Moment)
    (allBlank : AllBlank blanks)
    (isShort : ShortNumeral component.width digits) :
    (Item.padded component).Takes moment
      (component.set (numberOf digits) moment)
      (blanks ++ digits) where
  spells := Item.spells_padded allBlank isShort fun isMonth => by
    rw [Component.month_set, if_pos isMonth]
  month_eq other := by
    rw [Component.month_set, if_neg (of_decide_eq_false other)]

theorem Item.takes_fixed
    {component : Component}
    {width : Nat}
    {digits : List Char}
    (moment : Moment)
    (isFull : FullNumeral width digits) :
    (Item.fixed width component).Takes moment
      (component.set (numberOf digits) moment)
      digits where
  spells := ⟨isFull, fun isMonth => by rw [Component.month_set, if_pos isMonth]⟩
  month_eq other := by
    rw [Component.month_set, if_neg (of_decide_eq_false other)]

/-- An item takes a piece that spells it from the start of a text. -/
theorem Item.exists_takes
    {item : Item}
    {moment further : Moment}
    {text rest : List Char}
    (scanned : item.scan? moment text = some (further, rest)) :
    ∃ piece, text = piece ++ rest ∧ item.Takes moment further piece := by
  cases item with
  | padded component =>
      obtain ⟨blanks, split, allBlank⟩ := exists_of_dropWhile Text.isBlank text
      rw [← Text.dropBlanks] at split
      unfold Item.scan? at scanned
      dsimp only at scanned
      split at scanned
      next others unblanked =>
          obtain ⟨digits, rfl, nonempty, allDigits, sameMonth⟩ :=
            exists_signedYear scanned
          refine ⟨blanks ++ '-' :: digits, ?_,
            takes_signedYear (by decide) allBlank nonempty allDigits sameMonth⟩
          rw [split, unblanked]
          simp
      next others unblanked =>
          obtain ⟨digits, rfl, nonempty, allDigits, sameMonth⟩ :=
            exists_signedYear scanned
          refine ⟨blanks ++ '+' :: digits, ?_,
            takes_signedYear (by decide) allBlank nonempty allDigits sameMonth⟩
          rw [split, unblanked]
          simp
      next =>
          obtain ⟨digits, digitsSplit, isShort, rfl⟩ :=
            exists_shortNumeral scanned
          refine ⟨blanks ++ digits, ?_, takes_padded moment allBlank isShort⟩
          rw [split, digitsSplit, List.append_assoc]
  | fixed width component =>
      cases taken : takeDigits width text with
      | mk digits others =>
          obtain ⟨split, _, allDigits⟩ := takeDigits_spec taken
          rw [Item.scan?, taken] at scanned
          dsimp only at scanned
          split at scanned
          next isFull =>
              cases scanned
              exact ⟨digits, split, takes_fixed moment ⟨isFull, allDigits⟩⟩
          next => cases scanned
  | oneOf characters =>
      cases text with
      | nil => cases scanned
      | cons character others =>
          simp only [Item.scan?] at scanned
          split at scanned
          next allowed =>
              cases scanned
              exact ⟨[character], rfl,
                ⟨character, List.contains_iff_mem.1 allowed, rfl⟩, fun _ => rfl⟩
          next => cases scanned
  | blanks =>
      cases scanned
      obtain ⟨blanks, split, allBlank⟩ := exists_of_dropWhile Text.isBlank text
      exact ⟨blanks, split, allBlank, fun _ => rfl⟩
  | fraction =>
      simp only [Item.scan?] at scanned
      split at scanned
      next others =>
          split at scanned
          next => cases scanned
          next nonempty =>
              cases scanned
              refine ⟨'.' :: others.takeWhile Char.isDigit, ?_,
                .some nonempty (allDigits_takeWhile others), fun _ => rfl⟩
              rw [List.cons_append, takeWhile_append_drop]
      next =>
          cases scanned
          exact ⟨[], rfl, .none, fun _ => rfl⟩
  | looseOffset =>
      obtain ⟨others, skipped, same⟩ := Option.map_eq_some_iff.1 scanned
      cases same
      obtain ⟨offset, split, isOffset⟩ := exists_looseOffset skipped
      exact ⟨offset, split, isOffset, fun _ => rfl⟩
  | zone =>
      obtain ⟨others, skipped, same⟩ := Option.map_eq_some_iff.1 scanned
      cases same
      obtain ⟨zone, split, isOffset⟩ := exists_zone skipped
      exact ⟨zone, split, isOffset, fun _ => rfl⟩

/-! ## Patterns -/

/-- A text is made up of pieces that spell the items of a pattern. -/
def Spelled (month : Nat) : List Item → List Char → Prop
  | [], text => text = []
  | item :: items, text =>
      ∃ piece rest, text = piece ++ rest ∧ item.Spells month piece ∧
        Spelled month items rest

theorem spelled_append
    {month : Nat}
    {left right : List Item}
    {text : List Char}
    (spelled : Spelled month (left ++ right) text) :
    ∃ before after, text = before ++ after ∧
      Spelled month left before ∧ Spelled month right after := by
  induction left generalizing text with
  | nil => exact ⟨[], text, rfl, rfl, spelled⟩
  | cons item items inductionHypothesis =>
      obtain ⟨piece, rest, rfl, spells, restSpelled⟩ := spelled
      obtain ⟨before, after, rfl, leftSpelled, rightSpelled⟩ :=
        inductionHypothesis restSpelled
      exact ⟨piece ++ before, after, (List.append_assoc ..).symm,
        ⟨piece, before, rfl, spells, leftSpelled⟩, rightSpelled⟩

/-- Only the number of a month depends on the month. -/
theorem Item.Spells.of_not_isMonth
    {item : Item}
    {month : Nat}
    {text : List Char}
    (spells : item.Spells month text)
    (other : item.isMonth = false)
    (otherMonth : Nat) :
    item.Spells otherMonth text := by
  cases item with
  | padded component =>
      cases component with
      | month => cases other
      | year => exact spells
      | _ =>
          obtain ⟨digits, isNumeral, _⟩ := spells
          exact ⟨digits, isNumeral, nofun⟩
  | fixed width component =>
      exact ⟨spells.1, fun isMonth => absurd isMonth (of_decide_eq_false other)⟩
  | _ => exact spells

theorem month_eq_of_scan?
    {items : List Item}
    {moment final : Moment}
    {text rest : List Char}
    (scanned : scan? items moment text = some (final, rest))
    (others : ∀ item ∈ items, item.isMonth = false) :
    final.month = moment.month := by
  induction items generalizing moment text with
  | nil => cases scanned; rfl
  | cons item items inductionHypothesis =>
      rw [scan?] at scanned
      split at scanned
      next further remainder itemScanned =>
          obtain ⟨other, othersAfter⟩ := List.forall_mem_cons.1 others
          obtain ⟨piece, _, takes⟩ := Item.exists_takes itemScanned
          rw [inductionHypothesis scanned othersAfter, takes.month_eq other]
      next => cases scanned

/-- What a pattern takes is spelled by its items. The month is read once at
most, so it is the one in the end. -/
theorem exists_spelled_of_scan?
    {items : List Item}
    {moment final : Moment}
    {text rest : List Char}
    (scanned : scan? items moment text = some (final, rest))
    (once : items.countP Item.isMonth ≤ 1) :
    ∃ taken, text = taken ++ rest ∧ Spelled final.month items taken := by
  induction items generalizing moment text with
  | nil => cases scanned; exact ⟨[], rfl, rfl⟩
  | cons item items inductionHypothesis =>
      rw [scan?] at scanned
      split at scanned
      next further remainder itemScanned =>
          obtain ⟨piece, rfl, takes⟩ := Item.exists_takes itemScanned
          rw [List.countP_cons] at once
          obtain ⟨taken, rfl, spelled⟩ :=
            inductionHypothesis scanned
              (Nat.le_trans (Nat.le_add_right _ _) once)
          refine ⟨piece ++ taken, (List.append_assoc ..).symm, piece, taken,
            rfl, ?_, spelled⟩
          cases isMonth : item.isMonth with
          | false => exact takes.spells.of_not_isMonth isMonth final.month
          | true =>
              have noMore : items.countP Item.isMonth = 0 := by
                rw [isMonth, if_pos rfl] at once
                omega
              have others : ∀ other ∈ items, other.isMonth = false := by
                simpa [List.countP_eq_zero] using noMore
              rw [month_eq_of_scan? scanned others]
              exact takes.spells
      next => cases scanned

/-- A text that fits a pattern is spelled by its items, with the number of a
month of the year. -/
theorem exists_spelled_of_fits
    {pattern : List Item}
    {text : List Char}
    (fitting : fits pattern text = true)
    (once : pattern.countP Item.isMonth ≤ 1) :
    ∃ month, 1 ≤ month ∧ month ≤ 12 ∧ Spelled month pattern text := by
  rw [fits] at fitting
  split at fitting
  next final scanned =>
      obtain ⟨taken, rfl, spelled⟩ := exists_spelled_of_scan? scanned once
      simp only [Moment.isReal, Moment.hasDay, Bool.and_eq_true,
        decide_eq_true_eq] at fitting
      obtain ⟨⟨⟨_, ⟨⟨least, greatest⟩, _⟩, _⟩, _⟩, _⟩ := fitting
      exact ⟨final.month, least, greatest,
        (List.append_nil taken).symm ▸ spelled⟩
  next => cases fitting

end Format
end ObjectSpec
