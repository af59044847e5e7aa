import ObjectSpec.Proofs.DateTimeScans

/-!
# Accepted dates and date-times

Timestamps and dates of reduced precision are accepted in the full style only.
The other patterns of dates and date-times are loose: numerals may lack leading
zeros and have blanks before them, so that a text without any of the full shapes
can be accepted. Nothing else is.
-/

namespace ObjectSpec
namespace Format

/-! ## Patterns in a style -/

theorem exists_of_spelled_literal
    {month : Nat}
    {character : Char}
    {items : List Item}
    {text : List Char}
    (spelled : Spelled month (.literal character :: items) text) :
    ∃ rest, text = character :: rest ∧ Spelled month items rest := by
  obtain ⟨_, rest, rfl, ⟨_, member, rfl⟩, restSpelled⟩ := spelled
  rw [List.mem_singleton.1 member]
  exact ⟨rest, rfl, restSpelled⟩

theorem spells_of_spelled_singleton
    {month : Nat}
    {item : Item}
    {text : List Char}
    (spelled : Spelled month [item] text) :
    item.Spells month text := by
  obtain ⟨piece, _, rfl, spells, rfl⟩ := spelled
  rw [List.append_nil]
  exact spells

/-- The items for the components of a moment are written in a style. -/
structure Style.Writes
    (style : Style)
    (month : Nat)
    (item : Component → Item) : Prop where
  /-- Years are written in the style. -/
  isYear {text : List Char} : (item .year).Spells month text → style.Year text
  /-- So are the numbers of months. -/
  isMonth {text : List Char} :
    (item .month).Spells month text → style.Month text
  /-- So are all other components. -/
  isPadded {text : List Char} (component : Component) :
    component ≠ .year → (item component).Spells month text →
      style.Padded component.width text

section

variable
  {month : Nat}
  (least : 1 ≤ month)
  (greatest : month ≤ 12)

include least greatest

theorem Style.full_writes :
    Style.full.Writes month fun component =>
      .fixed component.width component where
  isYear spells := Or.inl spells.1
  isMonth := by
    rintro text ⟨isFull, sameMonth⟩
    exact ⟨text, ⟨rfl, isFull⟩, by rw [sameMonth rfl]; exact ⟨least, greatest⟩⟩
  isPadded _ _ spells := ⟨_, rfl, spells.1⟩

theorem Style.loose_writes : Style.loose.Writes month .padded where
  isYear spells := spells
  isMonth := by
    rintro text ⟨digits, isNumeral, sameMonth⟩
    exact ⟨digits, isNumeral, by rw [sameMonth rfl]; exact ⟨least, greatest⟩⟩
  isPadded component notYear spells := by
    cases component with
    | year => exact absurd rfl notYear
    | _ =>
        obtain ⟨digits, isNumeral, _⟩ := spells
        exact ⟨digits, isNumeral⟩

end

namespace Style.Writes

variable
  {style : Style}
  {month : Nat}
  {item : Component → Item}
  {text : List Char}
  (writes : style.Writes month item)

include writes

theorem separatedDate
    (spelled : Spelled month
      [item .year, .literal '-', item .month, .literal '-', item .day] text) :
    style.CalendarDate text := by
  obtain ⟨year, _, rfl, isYear, afterYear⟩ := spelled
  obtain ⟨_, rfl, month, _, rfl, isMonth, afterMonth⟩ :=
    exists_of_spelled_literal afterYear
  obtain ⟨day, rfl, isDay⟩ := exists_of_spelled_literal afterMonth
  rw [← List.cons_append, ← List.append_assoc]
  exact .separated (writes.isYear isYear) (writes.isMonth isMonth)
    (writes.isPadded .day nofun (spells_of_spelled_singleton isDay))

theorem compactDate
    (spelled : Spelled month [item .year, item .month, item .day] text) :
    style.CalendarDate text := by
  obtain ⟨year, _, rfl, isYear, month, day, rfl, isMonth, isDay⟩ := spelled
  rw [← List.append_assoc]
  exact .compact (writes.isYear isYear) (writes.isMonth isMonth)
    (writes.isPadded .day nofun (spells_of_spelled_singleton isDay))

theorem ordinalDate
    (spelled : Spelled month [item .year, .literal '-', item .dayOfYear] text) :
    style.Complete text := by
  obtain ⟨year, _, rfl, isYear, afterYear⟩ := spelled
  obtain ⟨day, rfl, isDay⟩ := exists_of_spelled_literal afterYear
  exact .ordinal (writes.isYear isYear)
    (writes.isPadded .dayOfYear nofun (spells_of_spelled_singleton isDay))

theorem shortTime
    (spelled : Spelled month [item .hour, .literal ':', item .minute] text) :
    style.TimeOfDay text := by
  obtain ⟨hour, _, rfl, isHour, afterHour⟩ := spelled
  obtain ⟨minute, rfl, isMinute⟩ := exists_of_spelled_literal afterHour
  exact .short (writes.isPadded .hour nofun isHour)
    (writes.isPadded .minute nofun (spells_of_spelled_singleton isMinute))

theorem longTime
    (spelled : Spelled month
      [item .hour, .literal ':', item .minute, .literal ':', item .second]
      text) :
    style.TimeOfDay text := by
  obtain ⟨hour, _, rfl, isHour, afterHour⟩ := spelled
  obtain ⟨_, rfl, minute, _, rfl, isMinute, afterMinute⟩ :=
    exists_of_spelled_literal afterHour
  obtain ⟨second, rfl, isSecond⟩ := exists_of_spelled_literal afterMinute
  rw [← List.cons_append, ← List.append_assoc]
  exact .long (writes.isPadded .hour nofun isHour)
    (writes.isPadded .minute nofun isMinute)
    (writes.isPadded .second nofun (spells_of_spelled_singleton isSecond))

theorem compactTime
    (spelled : Spelled month [item .hour, item .minute, item .second] text) :
    style.TimeOfDay text := by
  obtain ⟨hour, _, rfl, isHour, minute, second, rfl, isMinute, isSecond⟩ :=
    spelled
  rw [← List.append_assoc]
  exact .compact (writes.isPadded .hour nofun isHour)
    (writes.isPadded .minute nofun isMinute)
    (writes.isPadded .second nofun (spells_of_spelled_singleton isSecond))

end Style.Writes

/-- What may follow the time of day. -/
def Style.Tail (style : Style) (text : List Char) : Prop :=
  ∃ fraction offset, text = fraction ++ offset ∧ Fraction fraction ∧
    (offset = [] ∨ style.Offset offset)

/-- A date, a separator, a time and what follows it make up a date-time. -/
theorem Style.complete_of_spelled
    {style : Style}
    {month : Nat}
    {date time tail : List Item}
    {gap : Item}
    {text : List Char}
    (isDate : ∀ {text}, Spelled month date text → style.CalendarDate text)
    (isGap : ∀ {text}, gap.Spells month text → style.Gap text)
    (isTime : ∀ {text}, Spelled month time text → style.TimeOfDay text)
    (isTail : ∀ {text}, Spelled month tail text → style.Tail text)
    (spelled : Spelled month (date ++ gap :: time ++ tail) text) :
    style.Complete text := by
  obtain ⟨_, afterTime, rfl, toTime, tailSpelled⟩ := spelled_append spelled
  obtain ⟨dateText, _, rfl, dateSpelled, gapText, timeText, rfl, gapSpells,
    timeSpelled⟩ := spelled_append toTime
  obtain ⟨fraction, offset, rfl, isFraction, isOffset⟩ := isTail tailSpelled
  rw [← List.append_assoc, ← List.append_assoc]
  exact .dateTime (isDate dateSpelled) (isGap gapSpells) (isTime timeSpelled)
    isFraction isOffset

/-! ## The accepted shapes -/

/-- Timestamps are written in full. -/
theorem complete_of_fits_timestamp
    {text : List Char}
    (fitting : fits timestamp text = true) :
    Style.full.Complete text := by
  obtain ⟨month, least, greatest, spelled⟩ :=
    exists_spelled_of_fits fitting (by decide)
  have writes := Style.full_writes least greatest
  have isTail :
      ∀ {rest}, Spelled month [.fraction, .zone] rest →
        Style.full.Tail rest := by
    rintro _ ⟨fraction, _, rfl, isFraction, isOffset⟩
    exact ⟨fraction, _, rfl, isFraction,
      Or.inr (spells_of_spelled_singleton isOffset)⟩
  refine Style.complete_of_spelled writes.separatedDate ?_ writes.longTime
    isTail spelled
  rintro _ ⟨separator, member, rfl⟩
  simpa [Style.full] using member

theorem isMonth_once_of_mem
    {pattern : List Item}
    (member : pattern ∈ dateTimePatterns ++ datePatterns) :
    pattern.countP Item.isMonth ≤ 1 := by
  have once : ∀ pattern ∈ dateTimePatterns ++ datePatterns,
      pattern.countP Item.isMonth ≤ 1 := by decide
  exact once pattern member

/-- What follows the time of day in the patterns of date-times. -/
def dateTimeTails : List (List Item) :=
  [[], [.fraction], [.looseOffset], [.fraction, .looseOffset], [.literal 'Z']]

theorem exists_parts_of_mem_dateTimePatterns
    {pattern : List Item}
    (member : pattern ∈ dateTimePatterns) :
    ∃ date ∈ [separatedDate, compactDate], ∃ gap ∈ [.literal 'T', .blanks],
      ∃ time ∈ [shortTime, longTime, compactTime], ∃ tail ∈ dateTimeTails,
        pattern = date ++ gap :: time ++ tail := by
  have parts : ∀ pattern ∈ dateTimePatterns,
      ∃ date ∈ [separatedDate, compactDate], ∃ gap ∈ [.literal 'T', .blanks],
        ∃ time ∈ [shortTime, longTime, compactTime], ∃ tail ∈ dateTimeTails,
          pattern = date ++ gap :: time ++ tail := by decide
  exact parts pattern member

theorem tail_of_mem_dateTimeTails
    {month : Nat}
    {tail : List Item}
    {text : List Char}
    (member : tail ∈ dateTimeTails)
    (spelled : Spelled month tail text) :
    Style.loose.Tail text := by
  simp only [dateTimeTails, List.mem_cons, List.not_mem_nil, or_false] at member
  rcases member with rfl | rfl | rfl | rfl | rfl
  · obtain rfl : text = [] := spelled
    exact ⟨[], [], rfl, .none, Or.inl rfl⟩
  · exact ⟨text, [], (List.append_nil text).symm,
      spells_of_spelled_singleton spelled, Or.inl rfl⟩
  · exact ⟨[], text, rfl, .none,
      Or.inr (Or.inr (spells_of_spelled_singleton spelled))⟩
  · obtain ⟨fraction, offset, rfl, isFraction, isOffset⟩ := spelled
    exact ⟨fraction, offset, rfl, isFraction,
      Or.inr (Or.inr (spells_of_spelled_singleton isOffset))⟩
  · obtain ⟨_, rfl, rfl⟩ := exists_of_spelled_literal spelled
    exact ⟨[], ['Z'], rfl, .none, Or.inr (Or.inl rfl)⟩

/-- Date-times that fit a pattern are written loosely. -/
theorem complete_of_fits_dateTimePattern
    {pattern : List Item}
    {text : List Char}
    (member : pattern ∈ dateTimePatterns)
    (fitting : fits pattern text = true) :
    Style.loose.Complete text := by
  obtain ⟨month, least, greatest, spelled⟩ :=
    exists_spelled_of_fits fitting
      (isMonth_once_of_mem (List.mem_append_left _ member))
  have writes := Style.loose_writes least greatest
  obtain ⟨date, dateMember, gap, gapMember, time, timeMember, tail, tailMember,
    rfl⟩ := exists_parts_of_mem_dateTimePatterns member
  simp only [List.mem_cons, List.not_mem_nil,
    or_false] at dateMember gapMember timeMember
  refine Style.complete_of_spelled ?_ ?_ ?_
    (tail_of_mem_dateTimeTails tailMember) spelled
  · rcases dateMember with rfl | rfl
    · exact writes.separatedDate
    · exact writes.compactDate
  · rcases gapMember with rfl | rfl
    · rintro _ ⟨separator, isLetter, rfl⟩
      exact Or.inl (congrArg (fun letter => [letter])
        (List.mem_singleton.1 isLetter))
    · exact Or.inr
  · rcases timeMember with rfl | rfl | rfl
    · exact writes.shortTime
    · exact writes.longTime
    · exact writes.compactTime

/-- Dates that fit a pattern are written loosely. -/
theorem complete_of_fits_datePattern
    {pattern : List Item}
    {text : List Char}
    (member : pattern ∈ datePatterns)
    (fitting : fits pattern text = true) :
    Style.loose.Complete text := by
  obtain ⟨month, least, greatest, spelled⟩ :=
    exists_spelled_of_fits fitting
      (isMonth_once_of_mem (List.mem_append_right _ member))
  have writes := Style.loose_writes least greatest
  simp only [datePatterns, List.mem_cons, List.not_mem_nil, or_false] at member
  rcases member with rfl | rfl | rfl
  · exact .date (writes.separatedDate spelled)
  · exact .date (writes.compactDate spelled)
  · exact writes.ordinalDate spelled

theorem isTwoDigits_iff {least greatest : Nat} {tens ones : Char} :
    isTwoDigits least greatest tens ones = true ↔
      (tens.isDigit = true ∧ ones.isDigit = true) ∧
        least ≤ numberOf [tens, ones] ∧ numberOf [tens, ones] ≤ greatest := by
  simp only [isTwoDigits, Bool.and_eq_true, decide_eq_true_eq, and_assoc]

/-- What follows the letter of a week is its number, and maybe a day. -/
theorem exists_of_isWeek
    {text : List Char}
    (accepted : isWeek text = true) :
    ∃ week rest, text = week ++ rest ∧ Style.full.Padded 2 week ∧
      (rest = [] ∨
          ∃ hyphen day, rest = hyphen ++ [day] ∧ OptionalHyphen hyphen ∧
        '1' ≤ day ∧ day ≤ '7') := by
  unfold isWeek at accepted
  split at accepted
  next tens ones rest =>
      rw [Bool.and_eq_true, isTwoDigits_iff] at accepted
      obtain ⟨⟨⟨tensDigit, onesDigit⟩, _⟩, weekday⟩ := accepted
      refine ⟨[tens, ones], rest, rfl,
        ⟨_, rfl, fullNumeral_two tensDigit onesDigit⟩, ?_⟩
      split at weekday
      next => exact Or.inl rfl
      next day =>
          rw [isWeekday, Bool.and_eq_true, decide_eq_true_eq,
            decide_eq_true_eq] at weekday
          exact Or.inr ⟨[], day, rfl, Or.inl rfl, weekday⟩
      next day =>
          rw [isWeekday, Bool.and_eq_true, decide_eq_true_eq,
            decide_eq_true_eq] at weekday
          exact Or.inr ⟨['-'], day, rfl, Or.inr rfl, weekday⟩
      next => cases weekday
  next => cases accepted

theorem reduced_of_isWeek
    {year hyphen text : List Char}
    (isYear : Style.full.Year year)
    (optional : OptionalHyphen hyphen)
    (accepted : isWeek text = true) :
    Style.full.Reduced (year ++ hyphen ++ 'W' :: text) := by
  obtain ⟨week, _, rfl, isNumber,
    rfl | ⟨second, day, rfl, secondOptional, weekday⟩⟩ :=
    exists_of_isWeek accepted
  · rw [List.append_nil]
    exact .week isYear optional isNumber
  · have reduced :=
      Style.Reduced.weekday isYear optional isNumber secondOptional
      weekday.1 weekday.2
    simpa using reduced

/-- Dates of reduced precision are written in full. -/
theorem reduced_of_isReducedDate
    {text : List Char}
    (accepted : isReducedDate text = true) :
    Style.full.Reduced text := by
  cases taken : takeDigits 4 text with
  | mk year rest =>
      obtain ⟨rfl, _, allDigits⟩ := takeDigits_spec taken
      rw [isReducedDate, taken] at accepted
      dsimp only at accepted
      rw [Bool.and_eq_true, decide_eq_true_eq] at accepted
      obtain ⟨fourDigits, restAccepted⟩ := accepted
      have isYear : Style.full.Year year := Or.inl ⟨fourDigits, allDigits⟩
      unfold isReducedRest at restAccepted
      split at restAccepted
      next =>
          rw [List.append_nil]
          exact .year isYear
      next week =>
          have reduced := reduced_of_isWeek isYear (Or.inl rfl) restAccepted
          rwa [List.append_nil] at reduced
      next week =>
          have reduced := reduced_of_isWeek isYear (Or.inr rfl) restAccepted
          rwa [List.append_assoc] at reduced
      next tens ones _ =>
          rw [isTwoDigits_iff] at restAccepted
          obtain ⟨⟨tensDigit, onesDigit⟩, inYear⟩ := restAccepted
          have isFull := fullNumeral_two tensDigit onesDigit
          exact .month isYear ⟨[tens, ones], ⟨rfl, isFull⟩, inYear⟩
      next => cases restAccepted

/-! ## Lengths of full shapes -/

theorem Style.four_le_length_of_fullYear
    {text : List Char}
    (isYear : Style.full.Year text) :
    4 ≤ text.length := by
  rcases isYear with ⟨fourDigits, _⟩ | ⟨sign, digits, rfl, _, four, _⟩
  · exact Nat.le_of_eq fourDigits.symm
  · exact Nat.le_succ_of_le four

theorem Style.length_of_fullPadded
    {width : Nat}
    {text : List Char}
    (isNumeral : Style.full.Padded width text) :
    text.length = width := by
  obtain ⟨_, rfl, isFull⟩ := isNumeral
  exact isFull.1

theorem Style.length_of_fullMonth
    {text : List Char}
    (isMonth : Style.full.Month text) :
    text.length = 2 := by
  obtain ⟨digits, isNumeral, _⟩ := isMonth
  exact Style.length_of_fullPadded ⟨digits, isNumeral⟩

theorem Style.eight_le_length_of_fullCalendarDate
    {text : List Char}
    (isDate : Style.full.CalendarDate text) :
    8 ≤ text.length := by
  cases isDate with
  | separated isYear isMonth isDay | compact isYear isMonth isDay =>
      have yearLength := four_le_length_of_fullYear isYear
      have monthLength := length_of_fullMonth isMonth
      have dayLength := length_of_fullPadded isDay
      simp only [List.length_append, List.length_cons]
      omega

theorem Style.eight_le_length_of_fullComplete
    {text : List Char}
    (complete : Style.full.Complete text) :
    8 ≤ text.length := by
  cases complete with
  | date isDate => exact eight_le_length_of_fullCalendarDate isDate
  | ordinal isYear isDay =>
      have yearLength := four_le_length_of_fullYear isYear
      have dayLength := length_of_fullPadded isDay
      simp only [List.length_append, List.length_cons]
      omega
  | dateTime isDate =>
      have dateLength := eight_le_length_of_fullCalendarDate isDate
      simp only [List.length_append]
      omega

end Format

/-- A string that is accepted as a date or date-time has one of the full shapes,
or it is a date by the day or a date-time in the loose style. -/
theorem accepted_dateTimes_have_full_or_loose_shapes
    (text : String)
    (accepted : Predicate.dateTime.holds (.string text) = true) :
    Format.Style.full.HasShape text.toList ∨
      Format.Style.loose.Complete text.toList := by
  rw [Predicate.dateTime, Predicate.holds_ofFormat,
    Format.isDateTime] at accepted
  simp only [Bool.or_eq_true, List.any_eq_true, or_assoc] at accepted
  rcases accepted with
    fitting | ⟨pattern, member, fitting⟩ | ⟨pattern, member, fitting⟩ | reduced
  · exact Or.inl (Or.inr (Format.complete_of_fits_timestamp fitting))
  · exact Or.inr (Format.complete_of_fits_dateTimePattern member fitting)
  · exact Or.inr (Format.complete_of_fits_datePattern member fitting)
  · exact Or.inl (Or.inl (Format.reduced_of_isReducedDate reduced))

/-- A year and a day of the year with two digits are accepted, although this is
a loose shape. -/
theorem yearAndThirteen_full_or_loose :
    Predicate.dateTime.holds (.string "2016-13") = true ∧
      (Format.Style.full.HasShape "2016-13".toList ∨
        Format.Style.loose.Complete "2016-13".toList) := by
  have accepted : Predicate.dateTime.holds (.string "2016-13") = true := by
    decide +kernel
  exact ⟨accepted,
    accepted_dateTimes_have_full_or_loose_shapes "2016-13" accepted⟩

/-- Thirteen is not the number of a month, and a day of the year has three
digits when it is written in full; yet a year and a thirteen are accepted. -/
theorem yearAndThirteen_accepted_without_full_shape :
    Predicate.dateTime.holds (.string "2016-13") = true ∧
      ¬Format.Style.full.HasShape "2016-13".toList := by
  refine ⟨by decide +kernel, ?_⟩
  rintro (reduced | complete)
  · generalize written : "2016-13".toList = text at reduced
    cases reduced with
    | year isYear =>
        subst written
        rcases isYear with ⟨fourDigits, _⟩ | ⟨sign, digits, split, isSign, _⟩
        · exact absurd fourDigits (by decide)
        · obtain ⟨rfl, _⟩ := List.cons.inj split
          exact absurd isSign (by decide)
    | @month year month isYear isMonth =>
        have monthLength := Format.Style.length_of_fullMonth isMonth
        have halves : "2016".toList ++ "-13".toList = year ++ '-' :: month :=
          written
        obtain ⟨_, sameMonth⟩ :=
          List.append_inj' halves (congrArg Nat.succ monthLength.symm)
        obtain ⟨_, ⟨rfl, _⟩, _, greatest⟩ := isMonth
        obtain ⟨_, rfl⟩ := List.cons.inj sameMonth
        exact absurd greatest (by decide)
    | week | weekday =>
        have noWeek : 'W' ∉ "2016-13".toList := by decide
        exact noWeek (written ▸ by simp)
  · exact absurd (Format.Style.eight_le_length_of_fullComplete complete)
      (by decide)

end ObjectSpec
