import CatalogSql.Calendar.Stored
import CatalogSql.Proofs.Planning.Preparation
import CatalogSql.Proofs.Keyed.Sorted
import Mathlib.Data.List.Count
import Mathlib.Data.List.TakeWhile

/-!
# Projected dates are no input

A layout writes and reads exactly as many colons as it has. The layout projections return
dates in has three, each layout that callers give dates in has two, and a zone that adds a
colon ends in a digit. So what a projection returns is never read as an input: a row that
holds such a date is refused when it is written back.
-/

namespace CatalogSql

namespace Layout

/-! ## Writing -/

/-- Digits hold no colon. -/
theorem count_colon_digits {digits : List Char} (areDigits : ∀ digit ∈ digits, digit.isDigit) :
    digits.count ':' = 0 := by
  refine List.count_eq_zero.mpr fun mem => ?_
  have isDigit := areDigits ':' mem
  revert isDigit
  decide

/-- A padded number holds no colon. -/
theorem count_colon_padded (width value : Nat) : (padded width value).count ':' = 0 := by
  have digits : (Nat.toDigits 10 value).count ':' = 0 :=
    count_colon_digits fun _ mem => Nat.isDigit_of_mem_toDigits (by decide) (by decide) mem
  simp [padded, List.count_append, List.count_replicate, digits]

/-- A year holds no colon. -/
theorem count_colon_yearText (year : Int) : (yearText year).count ':' = 0 := by
  unfold yearText
  split
  · exact count_colon_padded 4 year.toNat
  · rw [List.count_cons, count_colon_padded]
    split <;> decide

/-- A part is written with a colon when it is one. -/
theorem count_colon_partText (moment : DateTime) (part : LayoutPart) :
    (partText moment part).count ':' = [part].count (.character ':') := by
  cases part with
  | character value => simp [partText, List.count_singleton]
  | gap => simp [partText]
  | year => exact count_colon_yearText moment.date.year
  | month => exact count_colon_padded 2 moment.date.month
  | day => exact count_colon_padded 2 moment.date.day
  | hour => exact count_colon_padded 2 moment.hour
  | minute => exact count_colon_padded 2 moment.minute
  | second => exact count_colon_padded 2 moment.second
  | fraction =>
      have digits := count_colon_padded 9 moment.nanos
      by_cases whole : moment.nanos = 0
      · simp [partText, whole]
      · simp [partText, whole, fractionText, digits]
  | millis => exact count_colon_padded 3 (moment.nanos / 1000000)

/-- A written moment holds the colons of its layout and no others. -/
theorem count_colon_write (layout : Layout) (moment : DateTime) :
    (layout.write moment).count ':' = layout.count (.character ':') := by
  induction layout with
  | nil => rfl
  | cons part rest ih =>
      have parts : write (part :: rest) moment = partText moment part ++ write rest moment := rfl
      rw [parts, List.count_append, ih, count_colon_partText, ← List.count_append]
      rfl

/-! ## Reading -/

/-- A front with a number of colons has been taken off a text. -/
def Takes (colons : Nat) (text rest : List Char) : Prop :=
  ∃ front, text = front ++ rest ∧ front.count ':' = colons

variable {text rest last : List Char}

/-- Nothing is taken from a text that stays. -/
theorem Takes.refl (text : List Char) : Takes 0 text text := ⟨[], rfl, rfl⟩

/-- What two readings take adds up. -/
theorem Takes.trans {first second : Nat} (before : Takes first text rest)
    (after : Takes second rest last) : Takes (first + second) text last := by
  obtain ⟨front, rfl, colons⟩ := before
  obtain ⟨middle, rfl, moreColons⟩ := after
  refine ⟨front ++ middle, (List.append_assoc ..).symm, ?_⟩
  rw [List.count_append, colons, moreColons]

/-- A character other than a colon is taken without counting. -/
theorem Takes.cons {colons : Nat} {first : Char} (taken : Takes colons text rest)
    (noColon : first ≠ ':') : Takes colons (first :: text) rest := by
  obtain ⟨front, rfl, count⟩ := taken
  exact ⟨first :: front, rfl, by rw [List.count_cons_of_ne noColon, count]⟩

/-- The colons of a text are those taken and those left. -/
theorem Takes.count_eq {colons : Nat} (taken : Takes colons text rest) :
    text.count ':' = colons + rest.count ':' := by
  obtain ⟨front, rfl, count⟩ := taken
  rw [List.count_append, count]

/-- What is left of a text is an end of it. -/
theorem Takes.suffix {colons : Nat} (taken : Takes colons text rest) : rest <:+ text := by
  obtain ⟨front, rfl, -⟩ := taken
  exact List.suffix_append front rest

/-- The digits a reading accepts are the decimal digits. -/
theorem isDigit_iff (character : Char) : isDigit character = true ↔ character.isDigit := by
  simp [isDigit, Char.isDigit, Char.le_def]

/-- Reading a number takes digits, at least as many as are asked for. -/
theorem readNumber?_eq_some {least most value : Nat}
    (read : readNumber? least most text = some (value, rest)) :
    ∃ digits, text = digits ++ rest ∧ (∀ digit ∈ digits, digit.isDigit) ∧
      least ≤ digits.length := by
  unfold readNumber? at read
  simp only at read
  split at read
  · cases read
  · rename_i enough
    cases read
    have taken : (text.take most).takeWhile isDigit <+: text :=
      (List.takeWhile_prefix _).trans (List.take_prefix most text)
    refine ⟨(text.take most).takeWhile isDigit, ?_, ?_, by omega⟩
    · conv => lhs; rw [← List.take_append_drop _ text, ← List.prefix_iff_eq_take.mp taken]
    · intro digit mem
      exact (isDigit_iff digit).mp (List.mem_takeWhile_imp mem)

/-- Reading a number takes no colon. -/
theorem takes_number {least most value : Nat}
    (read : readNumber? least most text = some (value, rest)) : Takes 0 text rest := by
  obtain ⟨digits, split, areDigits, -⟩ := readNumber?_eq_some read
  exact ⟨digits, split, count_colon_digits areDigits⟩

/-- Trimming blanks takes no colon. -/
theorem takes_trimStart (text : List Char) : Takes 0 text (Text.trimStart text) := by
  refine ⟨text.takeWhile Text.blank.contains, List.takeWhile_append_dropWhile.symm, ?_⟩
  refine List.count_eq_zero.mpr fun mem => ?_
  have isBlank := List.mem_takeWhile_imp mem
  revert isBlank
  decide

/-- Reading a pair of digits takes no colon. -/
theorem takes_pair {value : Nat} (read : readPair? text = some (value, rest)) :
    Takes 0 text rest :=
  (takes_trimStart text).trans (takes_number read)

/-- Reading a year takes no colon. -/
theorem takes_year {year : Int} (read : readYear? text = some (year, rest)) :
    Takes 0 text rest := by
  unfold readYear? at read
  split at read
  · obtain ⟨⟨_, _⟩, number, same⟩ := Option.map_eq_some_iff.mp read
    cases same
    exact (takes_number number).cons (by decide)
  · obtain ⟨⟨_, _⟩, number, same⟩ := Option.map_eq_some_iff.mp read
    cases same
    exact (takes_number number).cons (by decide)
  · obtain ⟨⟨_, _⟩, number, same⟩ := Option.map_eq_some_iff.mp read
    cases same
    exact takes_number number

/-- Reading a fraction of a second takes no colon. -/
theorem takes_fraction {nanos : Nat} (read : readFraction? text = some (nanos, rest)) :
    Takes 0 text rest := by
  unfold readFraction? at read
  simp only at read
  split at read
  · cases read
  · cases read
    have taken : text.takeWhile isDigit <+: text := List.takeWhile_prefix _
    refine ⟨text.takeWhile isDigit, ?_, count_colon_digits fun digit mem =>
      (isDigit_iff digit).mp (List.mem_takeWhile_imp mem)⟩
    conv => lhs; rw [← List.take_append_drop _ text, ← List.prefix_iff_eq_take.mp taken]

/-- A part is read with a colon when it is one. -/
theorem takes_part {draft next : Draft} {part : LayoutPart}
    (read : readPart? draft text part = some (next, rest)) :
    Takes ([part].count (.character ':')) text rest := by
  have ofPair : ∀ place : Nat → Draft,
      (readPair? text).map (fun read => (place read.1, read.2)) = some (next, rest) →
        Takes 0 text rest := by
    intro place mapped
    obtain ⟨⟨_, _⟩, pair, same⟩ := Option.map_eq_some_iff.mp mapped
    cases same
    exact takes_pair pair
  cases part with
  | character value =>
      cases text with
      | nil => cases read
      | cons first remaining =>
          simp only [readPart?] at read
          split at read
          · rename_i same
            cases read
            subst same
            exact ⟨[first], rfl, by simp [List.count_singleton]⟩
          · cases read
  | gap =>
      cases read
      exact takes_trimStart text
  | year =>
      obtain ⟨⟨_, _⟩, year, same⟩ := Option.map_eq_some_iff.mp read
      cases same
      exact (takes_trimStart text).trans (takes_year year)
  | month => exact ofPair (fun value => { draft with month := value }) read
  | day => exact ofPair (fun value => { draft with day := value }) read
  | hour => exact ofPair (fun value => { draft with hour := value }) read
  | minute => exact ofPair (fun value => { draft with minute := value }) read
  | second => exact ofPair (fun value => { draft with second := value }) read
  | fraction =>
      simp only [readPart?] at read
      split at read
      · obtain ⟨⟨_, _⟩, fraction, same⟩ := Option.map_eq_some_iff.mp read
        cases same
        exact (takes_fraction fraction).cons (by decide)
      · cases read
        exact .refl text
  | millis =>
      obtain ⟨⟨_, _⟩, number, same⟩ := Option.map_eq_some_iff.mp read
      cases same
      exact takes_number number

/-- Reading by a layout takes exactly the colons of the layout. -/
theorem takes_parts {layout : Layout} {draft final : Draft}
    (read : readParts? draft text layout = some (final, rest)) :
    Takes (layout.count (.character ':')) text rest := by
  induction layout generalizing draft text with
  | nil =>
      cases read
      exact .refl _
  | cons part parts ih =>
      rw [readParts?] at read
      split at read
      · rename_i next remaining first
        have taken := (takes_part first).trans (ih read)
        rwa [← List.count_append] at taken
      · cases read

/-- A layout reads texts with as many colons as it has. -/
theorem count_colon_read {layout : Layout} {moment : DateTime}
    (read : layout.read? text = some moment) :
    text.count ':' = layout.count (.character ':') := by
  unfold read? at read
  split at read
  · rename_i draft parts
    rw [(takes_parts parts).count_eq, List.count_nil, Nat.add_zero]
  · cases read

end Layout

namespace Zoned

open Layout (Takes)

variable {text rest : List Char}

/-- What is skipped is one accepted character. -/
theorem skip?_eq_some {expected : Char → Bool} (skipped : skip? expected text = some rest) :
    ∃ first, expected first = true ∧ text = first :: rest := by
  cases text with
  | nil => cases skipped
  | cons first remaining =>
      simp only [skip?] at skipped
      split at skipped
      · rename_i isExpected
        cases skipped
        exact ⟨first, isExpected, rfl⟩
      · cases skipped

/-- Skipping a colon takes it. -/
theorem takes_colon (skipped : skip? (· = ':') text = some rest) : Takes 1 text rest := by
  obtain ⟨first, isColon, rfl⟩ := skip?_eq_some skipped
  exact ⟨[first], rfl, by simpa [List.count_singleton] using isColon⟩

/-- Skipping another separator takes no colon. -/
theorem takes_separator {expected : Char → Bool} (skipped : skip? expected text = some rest)
    (noColon : expected ':' = false) : Takes 0 text rest := by
  obtain ⟨first, isExpected, rfl⟩ := skip?_eq_some skipped
  refine (Takes.refl rest).cons ?_
  rintro rfl
  rw [noColon] at isExpected
  cases isExpected

/-- An offset is one letter or ends in a digit. -/
theorem isOffset_cases (isZone : isOffset text = true) :
    (∃ letter, text = [letter] ∧ letter ≠ ':') ∨
      ∃ front digit, text = front ++ [digit] ∧ digit.isDigit := by
  unfold isOffset at isZone
  split at isZone
  · rename_i letter
    refine .inl ⟨letter, rfl, ?_⟩
    rintro rfl
    cases isZone
  · rename_i sign hours notAlone
    rw [Bool.and_eq_true] at isZone
    have minutes := isZone.2
    split at minutes
    · rename_i hour minute read
      obtain ⟨⟨_, afterHour⟩, isHour, read⟩ := Option.bind_eq_some_iff.mp read
      obtain ⟨afterColon, isColon, read⟩ := Option.bind_eq_some_iff.mp read
      obtain ⟨⟨_, rest⟩, isMinute, same⟩ := Option.bind_eq_some_iff.mp read
      cases same
      obtain ⟨hourDigits, rfl, -, -⟩ := Layout.readNumber?_eq_some isHour
      obtain ⟨colon, -, rfl⟩ := skip?_eq_some isColon
      obtain ⟨digits, rfl, areDigits, two⟩ := Layout.readNumber?_eq_some isMinute
      obtain ⟨front, last, rfl⟩ := (List.eq_nil_or_concat digits).resolve_left (by
        rintro rfl
        simp at two)
      refine .inr ⟨sign :: (hourDigits ++ colon :: front), last, by simp, ?_⟩
      exact areDigits last (by simp)
    · cases minutes
  · cases isZone

/-- A text with a zone has two colons in front of its offset. -/
theorem takes_read {moment : DateTime} (read : Zoned.read? text = some moment) :
    ∃ offset, Takes 2 text offset ∧ isOffset offset = true := by
  unfold Zoned.read? at read
  obtain ⟨⟨_, _⟩, isYear, read⟩ := Option.bind_eq_some_iff.mp read
  obtain ⟨_, isDash, read⟩ := Option.bind_eq_some_iff.mp read
  obtain ⟨⟨_, _⟩, isMonth, read⟩ := Option.bind_eq_some_iff.mp read
  obtain ⟨_, isSecondDash, read⟩ := Option.bind_eq_some_iff.mp read
  obtain ⟨⟨_, _⟩, isDay, read⟩ := Option.bind_eq_some_iff.mp read
  obtain ⟨_, isLetter, read⟩ := Option.bind_eq_some_iff.mp read
  obtain ⟨⟨_, _⟩, isHour, read⟩ := Option.bind_eq_some_iff.mp read
  obtain ⟨_, isColon, read⟩ := Option.bind_eq_some_iff.mp read
  obtain ⟨⟨_, _⟩, isMinute, read⟩ := Option.bind_eq_some_iff.mp read
  obtain ⟨_, isSecondColon, read⟩ := Option.bind_eq_some_iff.mp read
  obtain ⟨⟨_, afterSecond⟩, isSecond, read⟩ := Option.bind_eq_some_iff.mp read
  have date := (Layout.takes_number isYear).trans ((takes_separator isDash rfl).trans
    ((Layout.takes_number isMonth).trans ((takes_separator isSecondDash rfl).trans
      (Layout.takes_number isDay))))
  have time := (Layout.takes_number isHour).trans ((takes_colon isColon).trans
    ((Layout.takes_number isMinute).trans ((takes_colon isSecondColon).trans
      (Layout.takes_number isSecond))))
  have ofOffset : ∀ {offset : List Char} {found : Option DateTime},
      (if isOffset offset = true then found else none) = some moment → isOffset offset = true := by
    intro offset found taken
    by_contra noZone
    rw [if_neg noZone] at taken
    cases taken
  obtain ⟨offset, fraction, isZone⟩ :
      ∃ offset, Takes 0 afterSecond offset ∧ isOffset offset = true := by
    simp only at read
    split at read
    · obtain ⟨⟨_, offset⟩, isFraction, read⟩ := Option.bind_eq_some_iff.mp read
      exact ⟨offset, (Layout.takes_fraction isFraction).cons (by decide), ofOffset read⟩
    · exact ⟨afterSecond, .refl afterSecond, ofOffset read⟩
  exact ⟨offset, date.trans ((takes_separator isLetter rfl).trans (time.trans fraction)), isZone⟩

end Zoned

namespace DateTime

/-- The text a projection returns for a date time. -/
def projectedText (moment : DateTime) : String := String.ofList (Layout.projected.write moment)

/-- The text of a projection is no date as callers give it. -/
theorem ofInput?_projectedText (moment : DateTime) : ofInput? moment.projectedText = none := by
  have colons : moment.projectedText.toList.count ':' = 3 := by
    rw [projectedText, String.toList_ofList, Layout.count_colon_write]
    decide
  obtain ⟨front, ending⟩ : ∃ front, moment.projectedText.toList = front ++ ['Z'] := by
    refine ⟨Layout.write (Layout.date ++ .gap :: Layout.time ++ [.character ':', .millis]) moment,
      ?_⟩
    rw [projectedText, String.toList_ofList, Layout.write, Layout.write, Layout.projected]
    simp [Layout.partText]
  have notRead : ∀ layout : Layout, layout.count (.character ':') = 2 →
      layout.read? moment.projectedText.toList = none := by
    intro layout two
    cases read : layout.read? moment.projectedText.toList with
    | none => rfl
    | some found =>
        have count := Layout.count_colon_read read
        omega
  have notZoned : Zoned.read? moment.projectedText.toList = none := by
    cases read : Zoned.read? moment.projectedText.toList with
    | none => rfl
    | some found =>
        obtain ⟨offset, taken, isZone⟩ := Zoned.takes_read read
        have count := taken.count_eq
        rcases Zoned.isOffset_cases isZone with
          ⟨letter, rfl, noColon⟩ | ⟨before, digit, rfl, isDigit⟩
        · rw [List.count_singleton, if_neg (by simpa using noColon)] at count
          omega
        · obtain ⟨skipped, split⟩ := taken.suffix
          rw [ending, ← List.append_assoc] at split
          obtain rfl : digit = 'Z' := by simpa using List.append_inj_right' split rfl
          cases isDigit
  rw [ofInput?, notZoned, notRead _ (by decide), notRead _ (by decide)]
  rfl

end DateTime

namespace Payload

variable {table : TypeInfo} {field text : String}

/-- Text that no accepted layout reads is an invalid date for a `DateTime` field. -/
theorem truncateInput_refused (declared : table.fieldType? field = some .dateTime)
    (refused : truncateToSeconds? text = none) :
    truncateInput table field (.value (.string text)) = .error (.invalidDateTime text) := by
  simp only [truncateInput, declared, refused]

/-- Truncating an input fails only at a text that is no date. -/
theorem truncateInput_cases (table : TypeInfo) (field : String) (input : Input) :
    (∃ truncated, truncateInput table field input = .ok truncated) ∨
      ∃ text, truncateInput table field input = .error (.invalidDateTime text) := by
  unfold truncateInput
  split
  · split
    · exact .inl ⟨_, rfl⟩
    · exact .inr ⟨_, rfl⟩
  · exact .inl ⟨_, rfl⟩

/-- Entries with a text in a date field that is no date are refused, for it or for one
before it. -/
theorem truncateEntries_refused {entries : List (String × Input)}
    (declared : table.fieldType? field = some .dateTime) (refused : truncateToSeconds? text = none)
    (held : (field, .value (.string text)) ∈ entries) :
    ∃ found, truncateEntries table entries = .error (.invalidDateTime found) := by
  induction entries with
  | nil => cases held
  | cons entry rest ih =>
      obtain ⟨first, input⟩ := entry
      rw [truncateEntries]
      rcases truncateInput_cases table first input with ⟨truncated, isTruncated⟩ | ⟨found, failed⟩
      · rcases List.mem_cons.mp held with same | inRest
        · cases same
          cases (truncateInput_refused declared refused).symm.trans isTruncated
        · obtain ⟨found, failed⟩ := ih inRest
          refine ⟨found, ?_⟩
          rw [isTruncated, failed]
          rfl
      · refine ⟨found, ?_⟩
        rw [failed]
        rfl

/-- What a projection returns for a date is refused when it is written back: in an update and
in an insert, whatever else the payload holds. -/
theorem projected_refused (payload : Payload) (moment : DateTime)
    (declared : table.fieldType? field = some .dateTime)
    (held : payload.get? field = some (.value (.string moment.projectedText))) :
    (∃ found, payload.prepareUpdate table = .error (.invalidDateTime found)) ∧
      ∀ (explicitId : Option String) (freshId now : String),
        ∃ found, payload.prepareInsert table explicitId freshId now =
          .error (.invalidDateTime found) := by
  have refused : truncateToSeconds? moment.projectedText = none := by
    rw [truncateToSeconds?, DateTime.ofInput?_projectedText]
    rfl
  have mem := (Keyed.lookup?_eq_some_iff payload.entries.distinct _ _).mp held
  obtain ⟨found, failed⟩ := truncateEntries_refused declared refused mem
  have update : payload.prepareUpdate table = .error (.invalidDateTime found) := by
    rw [prepareUpdate, failed]
    rfl
  refine ⟨⟨found, update⟩, fun explicitId freshId now => ⟨found, ?_⟩⟩
  rw [prepareInsert, update]
  rfl

/-- A date of the spring of 2024, beside a name, is refused as it was projected. -/
theorem projected_refused_spring :
    let table : TypeInfo := .table "User" [("name", .string), ("createdAt", .dateTime)]
    let payload : Payload := (Payload.empty.set "name" (.string "ada")).set "createdAt"
      (.string "2024-03-05 06:07:08:000Z")
    let moment : DateTime := ⟨⟨2024, 3, 5, by decide⟩, 6, 7, 8, 0, by decide⟩
    table.fieldType? "createdAt" = some .dateTime ∧
      payload.get? "createdAt" = some (.value (.string moment.projectedText)) ∧
      (∃ found, payload.prepareUpdate table = .error (.invalidDateTime found)) ∧
      ∃ found, payload.prepareInsert table none "id" "2024-06-01T12:00:00" =
        .error (.invalidDateTime found) := by
  intro table payload moment
  have projected : moment.projectedText = "2024-03-05 06:07:08:000Z" := by decide
  have declared : table.fieldType? "createdAt" = some .dateTime := rfl
  have held : payload.get? "createdAt" = some (.value (.string moment.projectedText)) := by
    rw [projected]
    rfl
  obtain ⟨update, insert⟩ := projected_refused payload moment declared held
  exact ⟨declared, held, update, insert none "id" "2024-06-01T12:00:00"⟩

/-- A projection of a date is read back as that date, which has a stored text, but it cannot
be written back. -/
theorem projected_not_written_back :
    let table : TypeInfo := .table "User" [("createdAt", .dateTime)]
    let payload : Payload := Payload.empty.set "createdAt" (.string "2024-03-05 06:07:08:000Z")
    (∃ moment, DateTime.of? 2024 3 5 6 7 8 0 = some moment ∧
        moment.projectedText = "2024-03-05 06:07:08:000Z" ∧
        DateTime.ofProjected? "2024-03-05 06:07:08:000Z" = some moment ∧
        moment.storedText = "2024-03-05T06:07:08") ∧
      payload.prepareUpdate table = .error (.invalidDateTime "2024-03-05 06:07:08:000Z") ∧
      payload.prepareInsert table none "id" "2024-06-01T12:00:00" =
        .error (.invalidDateTime "2024-03-05 06:07:08:000Z") := by
  intro table payload
  refine ⟨⟨_, rfl, ?_, ?_, ?_⟩, rfl, rfl⟩
  · decide
  · decide
  · decide

end Payload

end CatalogSql
