import CatalogSql.Calendar.Stored
import CatalogSql.Proofs.Calendar.Projected
import Mathlib.Algebra.Group.Nat.Defs

/-!
# Written dates are read back

A layout reads what it writes, part by part, as long as what follows a part cannot be taken
for more of it. So the stored text of a date time is read as the second it names: truncating
a text that is stored already changes nothing.
-/

namespace CatalogSql

namespace Layout

/-! ## Numbers -/

/-- Digits are valued as decimal digits. -/
theorem digitsValue_eq (digits : List Char) :
    digitsValue digits = Nat.ofDigitChars 10 digits 0 := by
  simp only [digitsValue, Nat.ofDigitChars_eq_foldl, Nat.mul_comm]

/-- The value of a padded number is that number. -/
theorem digitsValue_padded (width value : Nat) : digitsValue (padded width value) = value := by
  rw [digitsValue_eq, padded, Nat.ofDigitChars_append, Nat.ofDigitChars_replicate_zero,
    Nat.mul_zero, Nat.ofDigitChars_ten_toDigits]

/-- A padded number has digits only. -/
theorem isDigit_padded (width value : Nat) : ∀ digit ∈ padded width value, isDigit digit := by
  intro digit mem
  rcases List.mem_append.mp mem with isZero | isDigit
  · obtain rfl := List.eq_of_mem_replicate isZero
    decide
  · exact (isDigit_iff digit).mpr (Nat.isDigit_of_mem_toDigits (by decide) (by decide) isDigit)

/-- A padded number is at least as long as its width. -/
theorem le_length_padded (width value : Nat) : width ≤ (padded width value).length := by
  simp only [padded, List.length_append, List.length_replicate]
  omega

/-- A number that fits its width is padded to exactly that width. -/
theorem length_padded {width value : Nat} (positive : 0 < width) (fits : value < 10 ^ width) :
    (padded width value).length = width := by
  have digits := (Nat.length_toDigits_le_iff (by decide) positive).mpr fits
  simp only [padded, List.length_append, List.length_replicate]
  omega

/-- A text that does not go on with a digit. -/
def EndsNumber (text : List Char) : Prop := ∀ next ∈ text.head?, isDigit next = false

/-- Digits are taken whole where no digit follows. -/
theorem takeWhile_append_of_ends {digits rest : List Char}
    (areDigits : ∀ digit ∈ digits, isDigit digit) (ends : EndsNumber rest) :
    (digits ++ rest).takeWhile isDigit = digits := by
  have stops : rest.takeWhile isDigit = [] := by
    cases rest with
    | nil => rfl
    | cons next others => rw [List.takeWhile_cons_of_neg (by simpa using ends next rfl)]
  rw [List.takeWhile_append_of_pos areDigits, stops, List.append_nil]

/-- Digits are read when no more of them may be taken, or when there are no more. -/
theorem readNumber?_append {least most : Nat} {digits rest : List Char}
    (areDigits : ∀ digit ∈ digits, isDigit digit) (enough : least ≤ digits.length)
    (atMost : digits.length ≤ most) (ends : digits.length = most ∨ EndsNumber rest) :
    readNumber? least most (digits ++ rest) = some (digitsValue digits, rest) := by
  have front : ((digits ++ rest).take most).takeWhile isDigit = digits := by
    rw [List.take_append, List.take_of_length_le atMost]
    refine takeWhile_append_of_ends areDigits ?_
    rcases ends with full | ends
    · rw [full, Nat.sub_self, List.take_zero]
      rintro next ⟨⟩
    · intro next isNext
      cases rest with
      | nil => simp at isNext
      | cons first others =>
          cases room : most - digits.length with
          | zero => simp [room] at isNext
          | succ more =>
              rw [room, List.take_succ_cons] at isNext
              exact ends next isNext
  simp only [readNumber?, front, if_neg (Nat.not_lt.mpr enough), List.drop_left]

/-- A padded number that fits its width is read back, whatever follows. -/
theorem readPadded {least width value : Nat} {rest : List Char} (enough : least ≤ width)
    (positive : 0 < width) (fits : value < 10 ^ width) :
    readNumber? least width (padded width value ++ rest) = some (value, rest) := by
  have length := length_padded positive fits
  rw [readNumber?_append (isDigit_padded width value) (by omega) (by omega) (.inl length),
    digitsValue_padded]

/-- A digit is no blank. -/
theorem not_blank_of_isDigit {character : Char} (digit : isDigit character) :
    Text.blank.contains character = false := by
  simp only [isDigit, Bool.and_eq_true, decide_eq_true_eq, Char.le_def, UInt32.le_iff_toNat_le]
    at digit
  simp only [Text.blank, Text.CodeSet.contains, Char.toNat, List.any_cons, List.any_nil]
  grind

/-- Nothing is trimmed before a character that is no blank. -/
theorem trimStart_of_not_blank {first : Char} (rest : List Char)
    (notBlank : Text.blank.contains first = false) :
    Text.trimStart (first :: rest) = first :: rest :=
  List.dropWhile_cons_of_neg (by simp [notBlank])

/-- A number with its zeros in front starts with a digit. -/
theorem exists_padded_eq_cons {width : Nat} (positive : 0 < width) (value : Nat) :
    ∃ first others, padded width value = first :: others ∧ isDigit first := by
  have length := le_length_padded width value
  cases isPadded : padded width value with
  | nil => simp [isPadded] at length; omega
  | cons first others =>
      exact ⟨first, others, rfl, isDigit_padded width value first (isPadded ▸ List.mem_cons_self)⟩

/-- Nothing is trimmed before a padded number. -/
theorem trimStart_padded {width : Nat} (positive : 0 < width) (value : Nat) (rest : List Char) :
    Text.trimStart (padded width value ++ rest) = padded width value ++ rest := by
  obtain ⟨first, others, isPadded, isDigit⟩ := exists_padded_eq_cons positive value
  rw [isPadded, List.cons_append, trimStart_of_not_blank _ (not_blank_of_isDigit isDigit)]

/-- A number of two digits is read back. -/
theorem readPair?_padded {value : Nat} (fits : value < 100) (rest : List Char) :
    readPair? (padded 2 value ++ rest) = some (value, rest) := by
  rw [readPair?, trimStart_padded (by decide), readPadded (by decide) (by decide) fits]

/-- A year of four or more digits is read back where no digit follows. -/
theorem readSigned_padded (value : Nat) {rest : List Char} (ends : EndsNumber rest) :
    readNumber? 1 (padded 4 value ++ rest).length (padded 4 value ++ rest) = some (value, rest) := by
  have length := le_length_padded 4 value
  rw [readNumber?_append (isDigit_padded 4 value) (by omega) (by simp) (.inr ends),
    digitsValue_padded]

/-- A year without a sign is read from its digits. -/
theorem readYear?_of_isDigit {first : Char} (isFirst : isDigit first) (others : List Char) :
    readYear? (first :: others) =
      (readNumber? 1 4 (first :: others)).map fun read => ((read.1 : Int), read.2) := by
  unfold readYear?
  split
  · rename_i same
    cases same
    exact absurd isFirst (by decide)
  · rename_i same
    cases same
    exact absurd isFirst (by decide)
  · rfl

/-- A year is read back with its sign where no digit follows. -/
theorem readYear?_yearText (year : Int) {rest : List Char} (ends : EndsNumber rest) :
    readYear? (yearText year ++ rest) = some (year, rest) := by
  unfold yearText
  split
  · rename_i short
    obtain ⟨first, others, isPadded, isDigit⟩ := exists_padded_eq_cons (by decide : 0 < 4) year.toNat
    have read := @readPadded 1 4 year.toNat rest (by decide) (by decide) (by omega)
    rw [isPadded, List.cons_append] at read ⊢
    rw [readYear?_of_isDigit isDigit, read, Option.map_some, Int.toNat_of_nonneg short.1]
  · have read := readSigned_padded year.natAbs ends
    split
    · rw [List.cons_append, readYear?, read, Option.map_some]
      simp only [Option.some.injEq, Prod.mk.injEq, and_true]
      omega
    · rw [List.cons_append, readYear?, read, Option.map_some]
      simp only [Option.some.injEq, Prod.mk.injEq, and_true]
      omega

/-- Nothing is trimmed before a year. -/
theorem trimStart_yearText (year : Int) (rest : List Char) :
    Text.trimStart (yearText year ++ rest) = yearText year ++ rest := by
  unfold yearText
  split
  · exact trimStart_padded (by decide) _ rest
  · split
    · exact trimStart_of_not_blank _ (by decide)
    · exact trimStart_of_not_blank _ (by decide)

/-- A fraction in nine digits is read as the nanoseconds it was written for. -/
theorem readFraction?_padded {nanos : Nat} (fits : nanos < 10 ^ 9) {rest : List Char}
    (ends : EndsNumber rest) : readFraction? (padded 9 nanos ++ rest) = some (nanos, rest) := by
  have length := length_padded (by decide : 0 < 9) fits
  have notEmpty : ¬ (padded 9 nanos).isEmpty := by
    intro isEmpty
    rw [List.isEmpty_iff] at isEmpty
    simp [isEmpty] at length
  have kept : (padded 9 nanos).take 9 = padded 9 nanos := List.take_of_length_le (by omega)
  simp only [readFraction?, takeWhile_append_of_ends (isDigit_padded 9 nanos) ends, if_neg notEmpty,
    kept, digitsValue_padded, length, List.drop_left' length, Nat.sub_self]
  exact congrArg (fun value => some (value, rest)) (Nat.mul_one nanos)

/-! ## Parts -/

/-- A text that may follow a part, as nothing in it is taken for more of the part. -/
def Follows : LayoutPart → List Char → Prop
  | .year, rest => EndsNumber rest
  | .gap, rest => ∀ next ∈ rest.head?, Text.blank.contains next = false
  | .fraction, rest => EndsNumber rest ∧ rest.head? ≠ some '.'
  | _, _ => True

/-- The numbers read so far, with that of a part of a date time. -/
def Draft.fill (moment : DateTime) (draft : Draft) : LayoutPart → Draft
  | .character _ | .gap => draft
  | .year => { draft with year := moment.date.year }
  | .month => { draft with month := moment.date.month }
  | .day => { draft with day := moment.date.day }
  | .hour => { draft with hour := moment.hour }
  | .minute => { draft with minute := moment.minute }
  | .second => { draft with second := moment.second }
  | .fraction => if moment.nanos = 0 then draft else { draft with nanos := moment.nanos }
  | .millis => { draft with nanos := moment.nanos / 1000000 * 1000000 }

/-- No month has more than 31 days. -/
theorem daysInMonth_le (year : Int) (month : Nat) : Calendar.daysInMonth year month ≤ 31 := by
  unfold Calendar.daysInMonth
  split_ifs <;> decide

/-- The month of a date has two digits. -/
theorem month_lt_of_isDate {year : Int} {month day : Nat} (isDate : Calendar.IsDate year month day) :
    month < 100 := by
  obtain ⟨-, -, first, last⟩ := isDate
  by_contra large
  have none : Calendar.daysInMonth year month = 0 := by
    unfold Calendar.daysInMonth
    split_ifs <;> omega
  omega

/-- A part is read as it was written. -/
theorem readPart?_partText (moment : DateTime) (draft : Draft) {part : LayoutPart}
    {rest : List Char} (follows : Follows part rest) :
    readPart? draft (partText moment part ++ rest) part = some (draft.fill moment part, rest) := by
  obtain ⟨hour, minute, second, nanos⟩ := moment.isTime
  cases part with
  | character value => simp [readPart?, partText, Draft.fill]
  | gap =>
      have kept : Text.trimStart rest = rest := by
        cases rest with
        | nil => rfl
        | cons next others => exact trimStart_of_not_blank others (follows next rfl)
      have skipped : Text.trimStart (' ' :: rest) = Text.trimStart rest := rfl
      exact congrArg (fun left => some (draft, left)) (skipped.trans kept)
  | year =>
      simp only [readPart?, partText, trimStart_yearText, readYear?_yearText _ follows,
        Option.map_some, Draft.fill]
  | month =>
      simp only [readPart?, partText, readPair?_padded (month_lt_of_isDate moment.date.isDate),
        Option.map_some, Draft.fill]
  | day =>
      have small : moment.date.day < 100 := by
        have last := moment.date.isDate.2.2.2
        have most := daysInMonth_le moment.date.year moment.date.month
        omega
      simp only [readPart?, partText, readPair?_padded small, Option.map_some, Draft.fill]
  | hour =>
      simp only [readPart?, partText, readPair?_padded (by omega : moment.hour < 100),
        Option.map_some, Draft.fill]
  | minute =>
      simp only [readPart?, partText, readPair?_padded (by omega : moment.minute < 100),
        Option.map_some, Draft.fill]
  | second =>
      simp only [readPart?, partText, readPair?_padded (by omega : moment.second < 100),
        Option.map_some, Draft.fill]
  | fraction =>
      obtain ⟨ends, noPoint⟩ := follows
      by_cases whole : moment.nanos = 0
      · simp only [partText, whole, if_true, List.nil_append, readPart?, Draft.fill]
        split
        · exact absurd rfl noPoint
        · rfl
      · simp only [partText, whole, if_false, fractionText, List.cons_append, readPart?,
          readFraction?_padded nanos ends, Option.map_some, Draft.fill]
  | millis =>
      have small : moment.nanos / 1000000 < 10 ^ 3 := by
        simp only [Calendar.nanosInSecond] at nanos
        omega
      have read := @readPadded 3 3 _ rest (by decide) (by decide) small
      simp only [readPart?, partText, read, Option.map_some, Draft.fill]

/-- Every part of a layout is followed by a text that ends it. -/
def Separated (moment : DateTime) (tail : List Char) : Layout → Prop
  | [] => True
  | part :: rest => Follows part (write rest moment ++ tail) ∧ Separated moment tail rest

/-- A layout reads what it has written, part by part. -/
theorem readParts?_write (moment : DateTime) {tail : List Char} {layout : Layout} {draft : Draft}
    (separated : Separated moment tail layout) :
    readParts? draft (write layout moment ++ tail) layout =
      some (layout.foldl (Draft.fill moment) draft, tail) := by
  induction layout generalizing draft with
  | nil => rfl
  | cons part rest ih =>
      obtain ⟨follows, others⟩ := separated
      have written : write (part :: rest) moment = partText moment part ++ write rest moment := rfl
      rw [written, List.append_assoc, readParts?, readPart?_partText moment draft follows]
      exact ih others

end Layout

namespace DateTime

/-! ## Stored texts -/

/-- The date time without the fraction of its second. -/
def wholeSecond (moment : DateTime) : DateTime :=
  { moment with
    nanos := 0
    isTime := ⟨moment.isTime.1, moment.isTime.2.1, moment.isTime.2.2.1, by decide⟩ }

/-- The numbers of a moment make that moment. -/
theorem of?_numbers (moment : DateTime) :
    of? moment.date.year moment.date.month moment.date.day moment.hour moment.minute moment.second
      moment.nanos = some moment := by
  simp only [of?, Date.of?, dif_pos moment.date.isDate, dif_pos moment.isTime]

/-- A step that gives a value leaves it to what follows that there is none. -/
theorem bind_eq_none_of {α β : Type} {step : Option α} {next : α → Option β} {value : α}
    (isStep : step = some value) (isNone : next value = none) : (step >>= next) = none := by
  rw [isStep]
  exact isNone

/-- A stored text has no zone: it ends where an offset would follow. -/
theorem zoned_storedText (moment : DateTime) :
    Zoned.read? (Layout.stored.write moment) = none := by
  obtain ⟨hour, minute, second, -⟩ := moment.isTime
  have month := Layout.month_lt_of_isDate moment.date.isDate
  have day : moment.date.day < 100 := by
    have last := moment.date.isDate.2.2.2
    have most := Layout.daysInMonth_le moment.date.year moment.date.month
    omega
  have pair {value : Nat} (small : value < 100) (rest : List Char) :
      Zoned.readDigits? 2 (Layout.padded 2 value ++ rest) = some (value, rest) :=
    Layout.readPadded (by decide) (by decide) small
  have text : Layout.stored.write moment =
      Layout.yearText moment.date.year ++ '-' :: (Layout.padded 2 moment.date.month ++
        '-' :: (Layout.padded 2 moment.date.day ++ 'T' :: (Layout.padded 2 moment.hour ++
          ':' :: (Layout.padded 2 moment.minute ++ ':' :: (Layout.padded 2 moment.second ++ []))))) := by
    rfl
  have readSecond := pair (by omega : moment.second < 100) []
  rw [List.append_nil] at readSecond
  rw [text, List.append_nil]
  unfold Layout.yearText
  split
  · rename_i short
    have year (rest : List Char) : Zoned.readDigits? 4
        (Layout.padded 4 moment.date.year.toNat ++ rest) = some (moment.date.year.toNat, rest) :=
      Layout.readPadded (by decide) (by decide) (by omega)
    have dash (rest : List Char) : Zoned.skip? (· = '-') ('-' :: rest) = some rest := rfl
    have colon (rest : List Char) : Zoned.skip? (· = ':') (':' :: rest) = some rest := rfl
    have letter (rest : List Char) : Zoned.skip?
        (fun letter => letter = 'T' || letter = 't' || letter = ' ') ('T' :: rest) = some rest :=
      rfl
    have hours : moment.hour < 100 := by omega
    have minutes : moment.minute < 100 := by omega
    refine bind_eq_none_of (year _) ?_
    refine bind_eq_none_of (dash _) ?_
    refine bind_eq_none_of (pair month _) ?_
    refine bind_eq_none_of (dash _) ?_
    refine bind_eq_none_of (pair day _) ?_
    refine bind_eq_none_of (letter _) ?_
    refine bind_eq_none_of (pair hours _) ?_
    refine bind_eq_none_of (colon _) ?_
    refine bind_eq_none_of (pair minutes _) ?_
    refine bind_eq_none_of (colon _) ?_
    refine bind_eq_none_of readSecond ?_
    -- Nothing is left where the offset should stand.
    rfl
  · split
    · rfl
    · rfl

/-- A stored text is read as the date time that was stored, without its fraction. -/
theorem ofInput?_storedText (moment : DateTime) :
    ofInput? moment.storedText = some moment.wholeSecond := by
  have separated : Layout.Separated moment.wholeSecond [] Layout.lettered := by
    simp only [Layout.Separated, Layout.lettered, Layout.date, Layout.time, Layout.Follows,
      Layout.EndsNumber, Layout.write, Layout.partText, List.cons_append, List.nil_append,
      List.flatMap_cons, List.flatMap_nil, List.append_nil, List.head?_cons, List.head?_nil,
      Option.mem_def, Option.some.injEq, forall_eq', reduceCtorEq, IsEmpty.forall_iff,
      implies_true, ne_eq, not_false_eq_true, and_self, and_true]
    rfl
  have written : Layout.lettered.write moment.wholeSecond = moment.storedText.toList := by
    rw [storedText, String.toList_ofList]
    rfl
  have parts := @Layout.readParts?_write moment.wholeSecond [] Layout.lettered .empty separated
  rw [List.append_nil, written] at parts
  have lettered : Layout.lettered.read? moment.storedText.toList = some moment.wholeSecond := by
    rw [Layout.read?, parts]
    exact of?_numbers moment.wholeSecond
  have noZone : Zoned.read? moment.storedText.toList = none := by
    rw [storedText, String.toList_ofList]
    exact zoned_storedText moment
  rw [ofInput?, noZone, lettered]
  rfl

end DateTime

/-- Truncating a stored text changes nothing. -/
theorem truncateToSeconds?_storedText (moment : DateTime) :
    truncateToSeconds? moment.storedText = some moment.storedText := by
  rw [truncateToSeconds?, DateTime.ofInput?_storedText]
  rfl

/-- Truncating twice is truncating once. -/
theorem truncateToSeconds?_of_truncated {text stored : String}
    (truncated : truncateToSeconds? text = some stored) :
    truncateToSeconds? stored = some stored := by
  obtain ⟨moment, -, rfl⟩ := Option.map_eq_some_iff.mp truncated
  exact truncateToSeconds?_storedText moment

end CatalogSql
