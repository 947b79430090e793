import CatalogSql.Proofs.Calendar.Instant
import CatalogSql.Proofs.Calendar.Spelling

/-!
# Truncation keeps the wall clock

A date as callers give it writes a wall clock: with a zone, or without one in either layout.
No text writes two of them, and truncating keeps what the text writes up to its second. What
is stored writes that second in the stored layout, so that truncating again changes nothing.
-/

namespace CatalogSql

namespace Layout

variable {mark : Char} {front rest text : List Char}

/-! ## Complete layouts -/

/-- The layout with a `T` has every part of a moment. -/
theorem isComplete_lettered : lettered.IsComplete where
  apart := by simp [lettered, date, time, Apart, Draft.set, Draft.number]
  sets numbers := by simp [setAll, lettered, date, time, Draft.set, Draft.number, Draft.empty]

/-- The layout with a space has every part of a moment. -/
theorem isComplete_spaced : spaced.IsComplete where
  apart := by simp [spaced, date, time, Apart, Draft.set, Draft.number]
  sets numbers := by simp [setAll, spaced, date, time, Draft.set, Draft.number]

/-- The layout of a projection has every part of a moment. -/
theorem isComplete_projected : projected.IsComplete where
  apart := by simp [projected, date, time, Apart, Draft.set, Draft.number]
  sets numbers := by simp [setAll, projected, date, time, Draft.set, Draft.number]

/-! ## Marks -/

/-- A character that a text holds only where its layout has it: no digit, white space, sign or
point. -/
structure IsMark (mark : Char) : Prop where
  noDigit : isDigit mark = false
  notBlank : Text.blank.contains mark = false
  noSign : mark ≠ '+' ∧ mark ≠ '-'
  noPoint : mark ≠ '.'

namespace IsMark

/-- Digits hold no mark. -/
theorem count_digits (isMark : IsMark mark) {digits : List Char}
    (areDigits : ∀ digit ∈ digits, isDigit digit) : digits.count mark = 0 :=
  List.count_eq_zero.mpr fun mem => by simpa [isMark.noDigit] using areDigits mark mem

/-- Blanks hold no mark. -/
theorem count_blanks (isMark : IsMark mark) {blanks : List Char} (areBlank : AreBlank blanks) :
    blanks.count mark = 0 :=
  List.count_eq_zero.mpr fun mem => by simpa [isMark.notBlank] using areBlank mark mem

/-- A pair of digits holds no mark. -/
theorem count_pair (isMark : IsMark mark) {value : Int} (spelled : SpellsPair value front rest) :
    front.count mark = 0 := by
  obtain ⟨blanks, digits, rfl, areBlank, numeral, -⟩ := spelled
  rw [List.count_append, isMark.count_blanks areBlank, isMark.count_digits numeral.areDigits]

/-- A year holds no mark. -/
theorem count_year (isMark : IsMark mark) {year : Int} (spelled : SpellsYear year front rest) :
    front.count mark = 0 := by
  cases spelled with
  | short areBlank numeral =>
      rw [List.count_append, isMark.count_blanks areBlank, isMark.count_digits numeral.areDigits]
  | positive areBlank numeral =>
      rw [List.count_append, List.count_cons_of_ne isMark.noSign.1.symm,
        isMark.count_blanks areBlank, isMark.count_digits numeral.areDigits]
  | negative areBlank numeral =>
      rw [List.count_append, List.count_cons_of_ne isMark.noSign.2.symm,
        isMark.count_blanks areBlank, isMark.count_digits numeral.areDigits]

/-- A fraction holds no mark. -/
theorem count_fraction (isMark : IsMark mark) {nanos : Int}
    (spelled : SpellsFraction nanos front rest) : front.count mark = 0 := by
  cases spelled with
  | whole => rfl
  | digits numeral =>
      rw [List.count_cons_of_ne isMark.noPoint.symm, isMark.count_digits numeral.areDigits]

/-- A part is spelled with a mark when it is that mark. -/
theorem count_part (isMark : IsMark mark) {part : LayoutPart} {value : Int}
    (spelled : part.Spells value front rest) :
    front.count mark = [part].count (.character mark) := by
  cases part with
  | character expected =>
      obtain ⟨-, rfl⟩ := spelled
      simp [List.count_singleton]
  | gap => exact isMark.count_blanks spelled.2.1
  | year => exact isMark.count_year spelled
  | month | day | hour | minute | second => exact isMark.count_pair spelled
  | fraction => exact isMark.count_fraction spelled
  | millis => exact isMark.count_digits spelled.1.areDigits

/-- A text holds a mark as often as the layout it is spelled in. -/
theorem count_spells (isMark : IsMark mark) {numbers : Draft} {layout : Layout}
    (spelled : Spells numbers layout text) : text.count mark = layout.count (.character mark) := by
  induction spelled with
  | nil => rfl
  | cons first _ ih =>
      rw [List.count_append, ih, isMark.count_part first, ← List.count_append]
      rfl

end IsMark

end Layout

namespace Zoned

open Layout (isDigit numberOf SpellsFraction)

variable {α : Type} {text rest : List Char} {next : Nat × List Char → Option α} {result : α}

/-! ## Texts with a zone -/

/-- Digits of a full width write a number. -/
structure FullNumber (width : Nat) (value : Int) (digits : List Char) : Prop where
  areDigits : ∀ digit ∈ digits, isDigit digit
  full : digits.length = width
  number : value = numberOf digits

/-- A text that spells some number spells the number of its digits. -/
theorem FullNumber.ofDigits {width : Nat} {value : Int} {digits : List Char}
    (number : FullNumber width value digits) : FullNumber width (numberOf digits) digits :=
  number.number ▸ number

/-- What is read in full width is the number spelled by the text. -/
theorem readDigits?_eq_some_iff {width value : Nat} :
    readDigits? width text = some (value, rest) ↔
      ∃ digits, text = digits ++ rest ∧ FullNumber width value digits := by
  rw [readDigits?, Layout.readNumber?_eq_some_iff]
  constructor
  · rintro ⟨digits, split, numeral, rfl⟩
    exact ⟨digits, split, numeral.areDigits, Nat.le_antisymm numeral.atMost numeral.enough, rfl⟩
  · rintro ⟨digits, split, numeral⟩
    exact ⟨digits, split, ⟨numeral.areDigits, numeral.full.ge, numeral.full.le, .inl numeral.full⟩,
      Int.ofNat.inj numeral.number⟩

/-- What follows a number is given it. -/
theorem digits_bind_eq_some_iff {width : Nat} :
    (readDigits? width text >>= next) = some result ↔
      ∃ digits rest, text = digits ++ rest ∧ FullNumber width (numberOf digits) digits ∧
        next (numberOf digits, rest) = some result := by
  constructor
  · intro read
    obtain ⟨⟨value, rest⟩, taken, read⟩ := Option.bind_eq_some_iff.mp read
    obtain ⟨digits, split, number⟩ := readDigits?_eq_some_iff.mp taken
    obtain rfl : value = numberOf digits := Int.ofNat.inj number.number
    exact ⟨digits, rest, split, number, read⟩
  · rintro ⟨digits, rest, split, number, read⟩
    exact Option.bind_eq_some_iff.mpr
      ⟨_, readDigits?_eq_some_iff.mpr ⟨digits, split, number⟩, read⟩

/-- What follows a character is given the rest of the text. -/
theorem skip_bind_eq_some_iff {expected : Char → Bool} {next : List Char → Option α} :
    (skip? expected text >>= next) = some result ↔
      ∃ first rest, text = first :: rest ∧ expected first = true ∧ next rest = some result := by
  constructor
  · intro read
    obtain ⟨rest, skipped, read⟩ := Option.bind_eq_some_iff.mp read
    obtain ⟨first, isExpected, split⟩ := skip?_eq_some skipped
    exact ⟨first, rest, split, isExpected, read⟩
  · rintro ⟨first, rest, rfl, isExpected, read⟩
    exact Option.bind_eq_some_iff.mpr ⟨rest, if_pos isExpected, read⟩

/-- What follows a fraction is given its nanoseconds. -/
theorem fraction_bind_eq_some_iff :
    (match text with
      | '.' :: rest => Layout.readFraction? rest >>= next
      | _ => some (0, text) >>= next) = some result ↔
      ∃ nanos front rest, text = front ++ rest ∧ SpellsFraction (nanos : Nat) front rest ∧
        next (nanos, rest) = some result := by
  have isBind : (match text with
      | '.' :: rest => Layout.readFraction? rest >>= next
      | _ => some (0, text) >>= next) = Layout.fraction? text >>= next := by
    split
    · rfl
    · rename_i noPoint
      rw [Layout.fraction?]
      exact noPoint
  rw [isBind]
  constructor
  · intro read
    obtain ⟨⟨nanos, rest⟩, taken, read⟩ := Option.bind_eq_some_iff.mp read
    obtain ⟨front, split, spelled⟩ := Layout.fraction?_eq_some_iff.mp taken
    exact ⟨nanos, front, rest, split, spelled, read⟩
  · rintro ⟨nanos, front, rest, split, spelled, read⟩
    exact Option.bind_eq_some_iff.mpr
      ⟨_, Layout.fraction?_eq_some_iff.mpr ⟨front, split, spelled⟩, read⟩

/-- An offset from the zero meridian: a letter for none, or a sign with hours and minutes that
make up less than a day. -/
inductive Offset : List Char → Prop where
  | none {letter : Char} (isLetter : letter = 'Z' ∨ letter = 'z') : Offset [letter]
  | signed {sign : Char} {hour minute : Nat} {hours minutes : List Char}
      (isSign : sign = '+' ∨ sign = '-' ∨ sign = '−') (isHour : FullNumber 2 hour hours)
      (ofDay : hour < 24) (isMinute : FullNumber 2 minute minutes) (ofHour : minute < 60) :
      Offset (sign :: (hours ++ ':' :: minutes))

/-- A text is accepted as an offset exactly if it spells one. -/
theorem isOffset_iff : isOffset text = true ↔ Offset text := by
  constructor
  · intro isZone
    unfold isOffset at isZone
    split at isZone
    · exact .none (by simpa using isZone)
    · rw [Bool.and_eq_true] at isZone
      obtain ⟨isSign, isTime⟩ := isZone
      split at isTime
      · rename_i hour minute read
        obtain ⟨hours, _, rfl, isHour, read⟩ := digits_bind_eq_some_iff.mp read
        obtain ⟨colon, _, rfl, isColon, read⟩ := skip_bind_eq_some_iff.mp read
        obtain ⟨minutes, _, rfl, isMinute, same⟩ := digits_bind_eq_some_iff.mp read
        cases same
        obtain rfl := of_decide_eq_true isColon
        rw [List.append_nil]
        simp only [Bool.and_eq_true, decide_eq_true_eq] at isTime
        exact .signed (by simpa [or_assoc] using isSign) isHour isTime.1 isMinute isTime.2
      · cases isTime
    · cases isZone
  · intro offset
    cases offset with
    | none isLetter => simpa [isOffset] using isLetter
    | @signed sign hour minute hours minutes isSign isHour ofDay isMinute ofHour =>
        have readHour : readDigits? 2 (hours ++ ':' :: minutes) = some (hour, ':' :: minutes) :=
          readDigits?_eq_some_iff.mpr ⟨hours, rfl, isHour⟩
        have readMinute : readDigits? 2 minutes = some (minute, []) :=
          readDigits?_eq_some_iff.mpr ⟨minutes, (List.append_nil _).symm, isMinute⟩
        have colon : skip? (· = ':') (':' :: minutes) = some minutes := rfl
        unfold isOffset
        split
        · rename_i same
          simp at same
        · rename_i notAlone same
          cases same
          rcases isSign with rfl | rfl | rfl
          all_goals simp [readHour, readMinute, colon, ofDay, ofHour]
        · rename_i same
          cases same

/-- A text writes a wall clock with a zone: every number in its full width, a letter or a blank
between date and time, and an offset at the end. -/
inductive Spells (moment : DateTime) : List Char → Prop where
  | intro {year month day hour minute second fraction offset : List Char} {separator : Char}
      (isYear : FullNumber 4 moment.date.year year) (isMonth : FullNumber 2 moment.date.month month)
      (isDay : FullNumber 2 moment.date.day day)
      (isSeparator : separator = 'T' ∨ separator = 't' ∨ separator = ' ')
      (isHour : FullNumber 2 moment.hour hour) (isMinute : FullNumber 2 moment.minute minute)
      (isSecond : FullNumber 2 moment.second second)
      (isFraction : SpellsFraction moment.nanos fraction offset) (isOffset : Offset offset) :
      Spells moment (year ++ '-' :: (month ++ '-' :: (day ++ separator ::
        (hour ++ ':' :: (minute ++ ':' :: (second ++ (fraction ++ offset)))))))

/-- A moment is read from a zoned text exactly if the text spells it. -/
theorem read?_eq_some_iff {moment : DateTime} :
    Zoned.read? text = some moment ↔ Spells moment text := by
  constructor
  · intro read
    unfold Zoned.read? at read
    -- The readers are opened from the front of the text to its end.
    obtain ⟨year, _, rfl, isYear, read⟩ := digits_bind_eq_some_iff.mp read
    obtain ⟨_, _, rfl, isDash, read⟩ := skip_bind_eq_some_iff.mp read
    obtain ⟨month, _, rfl, isMonth, read⟩ := digits_bind_eq_some_iff.mp read
    obtain ⟨_, _, rfl, isSecondDash, read⟩ := skip_bind_eq_some_iff.mp read
    obtain ⟨day, _, rfl, isDay, read⟩ := digits_bind_eq_some_iff.mp read
    obtain ⟨letter, _, rfl, isLetter, read⟩ := skip_bind_eq_some_iff.mp read
    obtain ⟨hour, _, rfl, isHour, read⟩ := digits_bind_eq_some_iff.mp read
    obtain ⟨_, _, rfl, isColon, read⟩ := skip_bind_eq_some_iff.mp read
    obtain ⟨minute, _, rfl, isMinute, read⟩ := digits_bind_eq_some_iff.mp read
    obtain ⟨_, _, rfl, isSecondColon, read⟩ := skip_bind_eq_some_iff.mp read
    obtain ⟨second, _, rfl, isSecond, read⟩ := digits_bind_eq_some_iff.mp read
    obtain ⟨nanos, fraction, offset, rfl, isFraction, named⟩ := fraction_bind_eq_some_iff.mp read
    obtain rfl := of_decide_eq_true isDash
    obtain rfl := of_decide_eq_true isSecondDash
    obtain rfl := of_decide_eq_true isColon
    obtain rfl := of_decide_eq_true isSecondColon
    simp only at named
    split at named
    · rename_i isZone
      have numbers := (@DateTime.dateTime?_eq_some_iff ⟨_, _, _, _, _, _, _⟩ moment).mp named
      simp only [DateTime.numbers, Layout.Draft.mk.injEq] at numbers
      obtain ⟨sameYear, sameMonth, sameDay, sameHour, sameMinute, sameSecond, rfl⟩ := numbers
      exact .intro (sameYear ▸ isYear) (sameMonth ▸ isMonth) (sameDay ▸ isDay)
        (by simpa [or_assoc] using isLetter) (sameHour ▸ isHour) (sameMinute ▸ isMinute)
        (sameSecond ▸ isSecond) isFraction (isOffset_iff.mp isZone)
    · cases named
  · intro spelled
    cases spelled with
    | @intro year month day hour minute second fraction offset separator isYear isMonth isDay
        isSeparator isHour isMinute isSecond isFraction isZone =>
      have isLetter : (separator = 'T' || separator = 't' || separator = ' ') = true := by
        simpa [or_assoc] using isSeparator
      have named : DateTime.of? (numberOf year) (numberOf month) (numberOf day) (numberOf hour)
          (numberOf minute) (numberOf second) moment.nanos = some moment := by
        rw [← isYear.number, ← Int.ofNat.inj isMonth.number, ← Int.ofNat.inj isDay.number,
          ← Int.ofNat.inj isHour.number, ← Int.ofNat.inj isMinute.number,
          ← Int.ofNat.inj isSecond.number]
        exact DateTime.of?_numbers moment
      refine digits_bind_eq_some_iff.mpr ⟨year, _, rfl, isYear.ofDigits, ?_⟩
      refine skip_bind_eq_some_iff.mpr ⟨_, _, rfl, rfl, ?_⟩
      refine digits_bind_eq_some_iff.mpr ⟨month, _, rfl, isMonth.ofDigits, ?_⟩
      refine skip_bind_eq_some_iff.mpr ⟨_, _, rfl, rfl, ?_⟩
      refine digits_bind_eq_some_iff.mpr ⟨day, _, rfl, isDay.ofDigits, ?_⟩
      refine skip_bind_eq_some_iff.mpr ⟨_, _, rfl, isLetter, ?_⟩
      refine digits_bind_eq_some_iff.mpr ⟨hour, _, rfl, isHour.ofDigits, ?_⟩
      refine skip_bind_eq_some_iff.mpr ⟨_, _, rfl, rfl, ?_⟩
      refine digits_bind_eq_some_iff.mpr ⟨minute, _, rfl, isMinute.ofDigits, ?_⟩
      refine skip_bind_eq_some_iff.mpr ⟨_, _, rfl, rfl, ?_⟩
      refine digits_bind_eq_some_iff.mpr ⟨second, _, rfl, isSecond.ofDigits, ?_⟩
      exact fraction_bind_eq_some_iff.mpr ⟨_, fraction, offset, rfl, isFraction,
        (if_pos (isOffset_iff.mpr isZone)).trans named⟩

end Zoned

namespace Zoned

variable {text : List Char} {moment : DateTime}

/-- A text with a zone holds the letter for the zero meridian, or a third colon. -/
theorem letter_or_colons_of_spells (spelled : Spells moment text) :
    'Z' ∈ text ∨ 'z' ∈ text ∨ 2 < text.count ':' := by
  cases spelled with
  | @intro year month day hour minute second fraction offset separator isYear isMonth isDay
      isSeparator isHour isMinute isSecond isFraction isZone =>
    cases isZone with
    | none isLetter =>
        rcases isLetter with rfl | rfl
        · exact .inl (by simp)
        · exact .inr (.inl (by simp))
    | signed =>
        refine .inr (.inr ?_)
        simp only [List.count_append, List.count_cons, beq_self_eq_true, if_true]
        omega

/-- A layout with two colons and without the letter for the zero meridian has no texts with a
zone. -/
theorem not_spells_of_layout {numbers : Layout.Draft} {layout : Layout}
    (spelled : Layout.Spells numbers layout text) (twoColons : layout.count (.character ':') ≤ 2)
    (noLetter : layout.count (.character 'Z') = 0 ∧ layout.count (.character 'z') = 0) :
    ¬ Spells moment text := by
  intro zoned
  have colon : Layout.IsMark ':' := ⟨rfl, rfl, by decide, by decide⟩
  have large : Layout.IsMark 'Z' := ⟨rfl, rfl, by decide, by decide⟩
  have small : Layout.IsMark 'z' := ⟨rfl, rfl, by decide, by decide⟩
  rcases letter_or_colons_of_spells zoned with isLarge | isSmall | colons
  · exact List.count_eq_zero.mp ((large.count_spells spelled).trans noLetter.1) isLarge
  · exact List.count_eq_zero.mp ((small.count_spells spelled).trans noLetter.2) isSmall
  · rw [colon.count_spells spelled] at colons
    omega

end Zoned

namespace DateTime

/-! ## Inputs -/

/-- A text writes a wall clock in one of the ways callers give dates. -/
inductive IsWrittenBy (moment : DateTime) (text : String) : Prop where
  | zoned (spelled : Zoned.Spells moment text.toList)
  | lettered (spelled : Layout.Spells moment.numbers .lettered text.toList)
  | spaced (spelled : Layout.Spells moment.numbers .spaced text.toList)

/-- A text that is spelled with a letter between its halves is not spelled with white space
there. -/
theorem not_spaced_of_lettered {numbers others : Layout.Draft} {text : List Char}
    (lettered : Layout.Spells numbers .lettered text) : ¬ Layout.Spells others .spaced text := by
  intro spaced
  have letter : Layout.IsMark 'T' := ⟨rfl, rfl, by decide, by decide⟩
  have one := letter.count_spells lettered
  rw [letter.count_spells spaced] at one
  exact absurd one (by decide)

/-- A date is read as the wall clock its text writes. -/
theorem ofInput?_eq_some_iff {text : String} {moment : DateTime} :
    ofInput? text = some moment ↔ moment.IsWrittenBy text := by
  rw [ofInput?, Option.or_eq_some_iff, Option.or_eq_some_iff, Zoned.read?_eq_some_iff,
    Layout.read?_eq_some_iff Layout.isComplete_lettered,
    Layout.read?_eq_some_iff Layout.isComplete_spaced]
  have noZone {layout : Layout} (spelled : Layout.Spells moment.numbers layout text.toList)
      (twoColons : layout.count (.character ':') ≤ 2)
      (noLetter : layout.count (.character 'Z') = 0 ∧ layout.count (.character 'z') = 0) :
      Zoned.read? text.toList = none :=
    Option.eq_none_iff_forall_ne_some.mpr fun _ read =>
      Zoned.not_spells_of_layout spelled twoColons noLetter (Zoned.read?_eq_some_iff.mp read)
  constructor
  · rintro (zoned | ⟨-, lettered | ⟨-, spaced⟩⟩)
    · exact .zoned zoned
    · exact .lettered lettered
    · exact .spaced spaced
  · rintro (zoned | lettered | spaced)
    · exact .inl zoned
    · exact .inr ⟨noZone lettered (by decide) (by decide), .inl lettered⟩
    · refine .inr ⟨noZone spaced (by decide) (by decide), .inr ⟨?_, spaced⟩⟩
      refine Option.eq_none_iff_forall_ne_some.mpr fun other read => ?_
      exact not_spaced_of_lettered
        ((Layout.read?_eq_some_iff Layout.isComplete_lettered).mp read) spaced

/-! ## Seconds -/

/-- The nanoseconds of a date time since midnight. -/
def nanosOfDay (moment : DateTime) : Nat :=
  ((moment.hour * 60 + moment.minute) * 60 + moment.second) * Calendar.nanosInSecond + moment.nanos

/-- A date time is the second of another one: the same wall clock without its fraction. -/
structure IsSecondOf (second moment : DateTime) : Prop where
  sameDate : second.date = moment.date
  sameHour : second.hour = moment.hour
  sameMinute : second.minute = moment.minute
  sameSecond : second.second = moment.second
  whole : second.nanos = 0

/-- A moment is the second of another exactly if cutting its fraction leaves it. -/
theorem isSecondOf_iff {second moment : DateTime} :
    second.IsSecondOf moment ↔ moment.wholeSecond = second := by
  constructor
  · rintro ⟨date, hour, minute, sameSecond, whole⟩
    exact DateTime.ext date.symm hour.symm minute.symm sameSecond.symm whole.symm
  · rintro rfl
    exact ⟨rfl, rfl, rfl, rfl, rfl⟩

/-- A date time lies in its second: not before it, and less than a second after its start. -/
theorem IsSecondOf.nanosOfDay_le {second moment : DateTime} (isSecond : second.IsSecondOf moment) :
    second.nanosOfDay ≤ moment.nanosOfDay ∧
      moment.nanosOfDay < second.nanosOfDay + Calendar.nanosInSecond := by
  obtain ⟨-, hour, minute, sameSecond, whole⟩ := isSecond
  have fraction := moment.isTime.2.2.2
  unfold nanosOfDay
  rw [hour, minute, sameSecond, whole]
  omega

/-- What is stored for a date time writes its second in the stored layout. -/
theorem stored_read?_storedText (moment : DateTime) :
    Layout.stored.read? moment.storedText.toList = some moment.wholeSecond := by
  have separated : Layout.Separated moment [] Layout.stored := by
    simp [Layout.Separated, Layout.stored, Layout.date, Layout.time, Layout.Follows,
      Layout.EndsNumber, Layout.write, Layout.partText, Layout.isDigit]
  have parts := @Layout.readParts?_write moment [] Layout.stored .empty separated
  rw [List.append_nil] at parts
  rw [storedText, String.toList_ofList, Layout.read?, parts]
  exact of?_numbers moment.wholeSecond

/-- Date times are stored alike when they have the same second. -/
theorem storedText_inj {moment other : DateTime} :
    moment.storedText = other.storedText ↔ moment.wholeSecond = other.wholeSecond := by
  constructor
  · intro same
    have read := moment.stored_read?_storedText
    rw [same, other.stored_read?_storedText] at read
    exact (Option.some.inj read).symm
  · intro same
    have stored : moment.wholeSecond.storedText = other.wholeSecond.storedText := by rw [same]
    exact stored

end DateTime

/-- Truncating keeps the wall clock that a text writes up to its second. What it stores denotes
that second and is kept by truncating again, and the texts that give it are those that write the
same second. What is stored for an instant denotes the second that the zero meridian shows, and
is kept as well. -/
theorem truncation_keeps_wall_clock :
    (∀ text stored : String, truncateToSeconds? text = some stored →
      ∃ moment second : DateTime, (∀ other : DateTime, other.IsWrittenBy text ↔ other = moment) ∧
        Layout.stored.read? stored.toList = some second ∧ second.IsSecondOf moment ∧
        second.nanosOfDay ≤ moment.nanosOfDay ∧
        moment.nanosOfDay < second.nanosOfDay + Calendar.nanosInSecond ∧
        truncateToSeconds? stored = some stored ∧
        ∀ (another : String) (other : DateTime), other.IsWrittenBy another →
          (truncateToSeconds? another = some stored ↔ second.IsSecondOf other)) ∧
      ∀ (seconds : Int) (nanos : Nat), Calendar.IsInstant seconds nanos →
        ∃ moment second : DateTime, DateTime.ofInstant? seconds nanos = some moment ∧
          moment.Shows seconds nanos ∧
          Layout.stored.read? moment.storedText.toList = some second ∧ second.IsSecondOf moment ∧
          truncateToSeconds? moment.storedText = some moment.storedText := by
  refine ⟨fun text stored truncated => ?_, fun seconds nanos isInstant => ?_⟩
  · obtain ⟨moment, read, rfl⟩ := Option.map_eq_some_iff.mp truncated
    have isSecond : moment.wholeSecond.IsSecondOf moment := DateTime.isSecondOf_iff.mpr rfl
    refine ⟨moment, moment.wholeSecond, fun other => ?_, moment.stored_read?_storedText, isSecond,
      isSecond.nanosOfDay_le.1, isSecond.nanosOfDay_le.2, truncateToSeconds?_storedText moment,
      fun another other written => ?_⟩
    · rw [← DateTime.ofInput?_eq_some_iff, read, Option.some.injEq, eq_comm]
    · rw [truncateToSeconds?, DateTime.ofInput?_eq_some_iff.mpr written, Option.map_some,
        Option.some.injEq, DateTime.storedText_inj, DateTime.isSecondOf_iff]
  · obtain ⟨moment, isMoment⟩ := DateTime.exists_ofInstant? isInstant
    exact ⟨moment, moment.wholeSecond, isMoment, DateTime.shows_of_ofInstant? isMoment,
      moment.stored_read?_storedText, DateTime.isSecondOf_iff.mpr rfl,
      truncateToSeconds?_storedText moment⟩

/-- A quarter of a leap second, written eight hours west of the zero meridian, and the same quarter
as an instant of the zero meridian. -/
theorem truncation_keeps_wall_clock_leap :
    truncateToSeconds? "2016-12-31T23:59:60.250-08:00" = some "2016-12-31T23:59:60" ∧
      (∃ moment second : DateTime, moment.IsWrittenBy "2016-12-31T23:59:60.250-08:00" ∧
        Layout.stored.read? "2016-12-31T23:59:60".toList = some second ∧
        second.IsSecondOf moment) ∧
      Calendar.IsInstant 1483228799 1250000000 ∧
      ∃ moment second : DateTime, DateTime.ofInstant? 1483228799 1250000000 = some moment ∧
        moment.Shows 1483228799 1250000000 ∧
        Layout.stored.read? moment.storedText.toList = some second ∧ second.IsSecondOf moment ∧
        truncateToSeconds? moment.storedText = some moment.storedText := by
  have truncated :
      truncateToSeconds? "2016-12-31T23:59:60.250-08:00" = some "2016-12-31T23:59:60" := by decide
  have isInstant : Calendar.IsInstant 1483228799 1250000000 := ⟨by decide, by decide, by decide⟩
  obtain ⟨moment, second, written, denoted, isSecond, -⟩ :=
    truncation_keeps_wall_clock.1 _ _ truncated
  exact ⟨truncated, ⟨moment, second, (written moment).mpr rfl, denoted, isSecond⟩, isInstant,
    truncation_keeps_wall_clock.2 1483228799 1250000000 isInstant⟩

end CatalogSql
