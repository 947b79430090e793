import CatalogSql.Proofs.Calendar.ReadBack

/-!
# Texts that spell dates

What a text says of a date is told apart from how it is read. A part of a layout is spelled by
the front of a text, up to where the part can take no more, and a layout is spelled by its
parts one after another. A layout reads a text as a date time exactly when the text spells the
numbers of that date time, so that a text spells at most one.
-/

namespace CatalogSql

namespace Layout

/-! ## Numerals -/

/-- The number of digits. -/
def numberOf (digits : List Char) : Nat := Nat.ofDigitChars 10 digits 0

/-- Digits in front of a text that does not go on with another one. -/
structure Numeral (digits rest : List Char) : Prop where
  areDigits : ∀ digit ∈ digits, isDigit digit
  nonempty : digits ≠ []
  ends : EndsNumber rest

/-- As many digits in front of a text as there are, up to so many. -/
structure BoundedNumeral (least most : Nat) (digits rest : List Char) : Prop where
  areDigits : ∀ digit ∈ digits, isDigit digit
  enough : least ≤ digits.length
  atMost : digits.length ≤ most
  ends : digits.length = most ∨ EndsNumber rest

/-- A number is read from as many digits as there are. -/
theorem readNumber?_eq_some_iff {least most value : Nat} {text rest : List Char} :
    readNumber? least most text = some (value, rest) ↔
      ∃ digits, text = digits ++ rest ∧ BoundedNumeral least most digits rest ∧
        value = numberOf digits := by
  constructor
  · intro read
    unfold readNumber? at read
    simp only at read
    split at read
    · cases read
    · rename_i enough
      cases read
      generalize isFront : (text.take most).takeWhile isDigit = digits at enough ⊢
      have isPrefix : digits <+: text := by
        rw [← isFront]
        exact (List.takeWhile_prefix _).trans (List.take_prefix most text)
      have split : text = digits ++ text.drop digits.length := by
        conv => lhs; rw [← List.take_append_drop digits.length text,
          ← List.prefix_iff_eq_take.mp isPrefix]
      have areDigits : ∀ digit ∈ digits, isDigit digit := by
        rw [← isFront]
        exact fun digit mem => List.mem_takeWhile_imp mem
      have atMost : digits.length ≤ most := by
        rw [← isFront]
        exact (List.takeWhile_prefix _).length_le.trans (List.length_take_le most text)
      refine ⟨digits, split, ⟨areDigits, Nat.le_of_not_lt enough, atMost, ?_⟩, digitsValue_eq digits⟩
      by_contra goesOn
      obtain ⟨notFull, notEnded⟩ := not_or.mp goesOn
      -- A digit that follows would have been taken as well.
      cases rest : text.drop digits.length with
      | nil =>
          rw [rest] at notEnded
          exact notEnded (by rintro next ⟨⟩)
      | cons next others =>
          have isNext : isDigit next := by
            by_contra noDigit
            rw [rest] at notEnded
            refine notEnded ?_
            rintro _ ⟨⟩
            exact Bool.not_eq_true _ ▸ noDigit
          obtain ⟨more, room⟩ : ∃ more, most = digits.length + (more + 1) :=
            ⟨most - digits.length - 1, by omega⟩
          rw [split, rest, room, List.take_length_add_append, List.take_succ_cons,
            List.takeWhile_append_of_pos areDigits, List.takeWhile_cons_of_pos isNext] at isFront
          have longer := congrArg List.length isFront
          simp at longer
  · rintro ⟨digits, rfl, numeral, rfl⟩
    rw [readNumber?_append numeral.areDigits numeral.enough numeral.atMost numeral.ends,
      digitsValue_eq, numberOf]

/-- A number that may have any count of digits is read from all of them. -/
theorem readNumber?_length_eq_some_iff {value : Nat} {text rest : List Char} :
    readNumber? 1 text.length text = some (value, rest) ↔
      ∃ digits, text = digits ++ rest ∧ Numeral digits rest ∧ value = numberOf digits := by
  rw [readNumber?_eq_some_iff]
  constructor
  · rintro ⟨digits, rfl, numeral, rfl⟩
    refine ⟨digits, rfl, ⟨numeral.areDigits, List.ne_nil_of_length_pos numeral.enough, ?_⟩, rfl⟩
    rcases numeral.ends with full | ends
    · obtain rfl : rest = [] := by simpa using full
      rintro next ⟨⟩
    · exact ends
  · rintro ⟨digits, rfl, numeral, rfl⟩
    exact ⟨digits, rfl, ⟨numeral.areDigits, List.length_pos_of_ne_nil numeral.nonempty, by simp,
      .inr numeral.ends⟩, rfl⟩

/-! ## Fractions -/

/-- The nanoseconds of a fraction of a second, given by the digits after its point: those after
the ninth are cut off. -/
def nanosOf (digits : List Char) : Nat := numberOf digits * 10 ^ 9 / 10 ^ digits.length

/-- The number of a joined text counts its front in higher places. -/
theorem numberOf_append (front rest : List Char) :
    numberOf (front ++ rest) = 10 ^ rest.length * numberOf front + numberOf rest := by
  rw [numberOf, numberOf, Nat.ofDigitChars_append, Nat.ofDigitChars_eq_ofDigitChars_zero]
  rfl

/-- The number of some digits is below the power of ten they fill. -/
theorem numberOf_lt {digits : List Char} (areDigits : ∀ digit ∈ digits, isDigit digit) :
    numberOf digits < 10 ^ digits.length := by
  induction digits with
  | nil => decide
  | cons first rest ih =>
      obtain ⟨isFirst, areRest⟩ := List.forall_mem_cons.mp areDigits
      have small : first.toNat - '0'.toNat < 10 := by
        simp only [isDigit, Bool.and_eq_true, decide_eq_true_eq, Char.le_def,
          UInt32.le_iff_toNat_le] at isFirst
        have nine : '9'.toNat = '0'.toNat + 9 := rfl
        have atMost : first.toNat ≤ '9'.toNat := isFirst.2
        omega
      have bound := ih areRest
      have place := numberOf_append [first] rest
      have number : numberOf [first] = first.toNat - '0'.toNat := by
        simp [numberOf, Nat.ofDigitChars_cons]
      rw [List.singleton_append] at place
      rw [place, number, List.length_cons, Nat.pow_succ]
      calc 10 ^ rest.length * (first.toNat - '0'.toNat) + numberOf rest
          < 10 ^ rest.length * (first.toNat - '0'.toNat) + 10 ^ rest.length := by omega
        _ = 10 ^ rest.length * (first.toNat - '0'.toNat + 1) := by rw [Nat.mul_succ]
        _ ≤ 10 ^ rest.length * 10 := Nat.mul_le_mul_left _ small

/-- The first nine digits of a fraction tell its nanoseconds. -/
theorem nanosOf_eq_take {digits : List Char} (areDigits : ∀ digit ∈ digits, isDigit digit) :
    nanosOf digits = numberOf (digits.take 9) * 10 ^ (9 - (digits.take 9).length) := by
  by_cases short : digits.length ≤ 9
  · obtain ⟨places, nine⟩ : ∃ places, 9 = digits.length + places := ⟨9 - digits.length, by omega⟩
    rw [List.take_of_length_le short, nanosOf, nine, Nat.pow_add, Nat.add_sub_cancel_left,
      Nat.mul_left_comm, Nat.mul_div_cancel_left _ (Nat.pow_pos (by decide))]
  · have kept : (digits.take 9).length = 9 := by simp; omega
    have cut : numberOf (digits.drop 9) < 10 ^ (digits.drop 9).length :=
      numberOf_lt fun digit mem => areDigits digit (List.mem_of_mem_drop mem)
    have places : digits.length = 9 + (digits.drop 9).length := by simp; omega
    have number := numberOf_append (digits.take 9) (digits.drop 9)
    rw [List.take_append_drop] at number
    rw [nanosOf, number, places, Nat.pow_add, kept, Nat.mul_comm _ (10 ^ 9),
      Nat.mul_div_mul_left _ _ (by decide), Nat.add_comm,
      Nat.add_mul_div_left _ _ (Nat.pow_pos (by decide)), Nat.div_eq_of_lt cut]
    simp

/-- The digits of a fraction are read up to nanoseconds. -/
theorem readFraction?_append {digits rest : List Char} (numeral : Numeral digits rest) :
    readFraction? (digits ++ rest) = some (nanosOf digits, rest) := by
  have notEmpty : ¬ digits.isEmpty := by
    rw [List.isEmpty_iff]
    exact numeral.nonempty
  rw [nanosOf_eq_take numeral.areDigits, numberOf, ← digitsValue_eq]
  simp only [readFraction?, takeWhile_append_of_ends numeral.areDigits numeral.ends, if_neg notEmpty,
    List.drop_left]
  rfl

/-- What is read as a fraction are its digits, up to nanoseconds. -/
theorem readFraction?_eq_some_iff {nanos : Nat} {text rest : List Char} :
    readFraction? text = some (nanos, rest) ↔
      ∃ digits, text = digits ++ rest ∧ Numeral digits rest ∧ nanos = nanosOf digits := by
  constructor
  · intro read
    have ends : EndsNumber (text.dropWhile isDigit) := by
      intro next isNext
      have stops := List.head?_dropWhile_not isDigit text
      rw [Option.mem_def] at isNext
      rwa [isNext] at stops
    have areDigits : ∀ digit ∈ text.takeWhile isDigit, isDigit digit :=
      fun digit mem => List.mem_takeWhile_imp mem
    by_cases none : text.takeWhile isDigit = []
    · simp only [readFraction?, none, List.isEmpty_nil, if_true] at read
      cases read
    · have again := readFraction?_append ⟨areDigits, none, ends⟩
      rw [List.takeWhile_append_dropWhile, read] at again
      cases again
      exact ⟨_, List.takeWhile_append_dropWhile.symm, ⟨areDigits, none, ends⟩, rfl⟩
  · rintro ⟨digits, rfl, numeral, rfl⟩
    exact readFraction?_append numeral

/-! ## Numbers after white space -/

/-- White space, which may be nothing. -/
def AreBlank (blanks : List Char) : Prop := ∀ blank ∈ blanks, Text.blank.contains blank

/-- A text that does not go on with white space. -/
def EndsBlanks (text : List Char) : Prop := ∀ next ∈ text.head?, Text.blank.contains next = false

/-- Exactly the blanks at the front are trimmed. -/
theorem trimStart_append {blanks rest : List Char} (areBlank : AreBlank blanks)
    (ends : EndsBlanks rest) : Text.trimStart (blanks ++ rest) = rest := by
  rw [Text.trimStart, List.dropWhile_append_of_pos areBlank]
  cases rest with
  | nil => rfl
  | cons next others => exact trimStart_of_not_blank others (ends next rfl)

/-- A text begins with the blanks that are trimmed. -/
theorem exists_blanks (text : List Char) :
    ∃ blanks, text = blanks ++ Text.trimStart text ∧ AreBlank blanks ∧
      EndsBlanks (Text.trimStart text) := by
  refine ⟨text.takeWhile Text.blank.contains, List.takeWhile_append_dropWhile.symm,
    fun blank mem => List.mem_takeWhile_imp mem, ?_⟩
  intro next isNext
  have stops := List.head?_dropWhile_not Text.blank.contains text
  rw [Option.mem_def, Text.trimStart] at isNext
  rwa [isNext] at stops

/-- Digits end a run of blanks. -/
theorem endsBlanks_of_isDigit {digits rest : List Char} (areDigits : ∀ digit ∈ digits, isDigit digit)
    (nonempty : digits ≠ []) : EndsBlanks (digits ++ rest) := by
  cases digits with
  | nil => exact absurd rfl nonempty
  | cons first others =>
      rintro _ ⟨⟩
      exact not_blank_of_isDigit (areDigits first List.mem_cons_self)

/-- A front of a text spells a number of one or two digits after white space. -/
def SpellsPair (value : Int) (front rest : List Char) : Prop :=
  ∃ blanks digits, front = blanks ++ digits ∧ AreBlank blanks ∧ BoundedNumeral 1 2 digits rest ∧
    value = numberOf digits

/-- What is read as a pair of digits is one spelled by its text. -/
theorem readPair?_eq_some_iff {value : Nat} {text rest : List Char} :
    readPair? text = some (value, rest) ↔
      ∃ front, text = front ++ rest ∧ SpellsPair value front rest := by
  constructor
  · intro read
    obtain ⟨blanks, split, areBlank, -⟩ := exists_blanks text
    obtain ⟨digits, trimmed, numeral, rfl⟩ := readNumber?_eq_some_iff.mp read
    refine ⟨blanks ++ digits, ?_, blanks, digits, rfl, areBlank, numeral, rfl⟩
    rw [List.append_assoc, ← trimmed, ← split]
  · rintro ⟨_, rfl, blanks, digits, rfl, areBlank, numeral, same⟩
    have nonempty := List.ne_nil_of_length_pos numeral.enough
    rw [readPair?, List.append_assoc,
      trimStart_append areBlank (endsBlanks_of_isDigit numeral.areDigits nonempty)]
    exact readNumber?_eq_some_iff.mpr ⟨digits, rfl, numeral, Int.ofNat.inj same⟩

/-- A front of a text spells a year after white space: up to four digits, or a sign and any
number of digits. -/
inductive SpellsYear : Int → List Char → List Char → Prop where
  | short {blanks digits rest : List Char} (areBlank : AreBlank blanks)
      (numeral : BoundedNumeral 1 4 digits rest) :
      SpellsYear (numberOf digits) (blanks ++ digits) rest
  | positive {blanks digits rest : List Char} (areBlank : AreBlank blanks)
      (numeral : Numeral digits rest) :
      SpellsYear (numberOf digits) (blanks ++ '+' :: digits) rest
  | negative {blanks digits rest : List Char} (areBlank : AreBlank blanks)
      (numeral : Numeral digits rest) :
      SpellsYear (-(numberOf digits : Int)) (blanks ++ '-' :: digits) rest

/-- What is read as a year is one spelled by its text. -/
theorem readYear?_eq_some_iff {year : Int} {text rest : List Char} :
    readYear? (Text.trimStart text) = some (year, rest) ↔
      ∃ front, text = front ++ rest ∧ SpellsYear year front rest := by
  constructor
  · intro read
    obtain ⟨blanks, split, areBlank, -⟩ := exists_blanks text
    generalize Text.trimStart text = trimmed at read split
    unfold readYear? at read
    split at read
    all_goals
      obtain ⟨⟨_, _⟩, number, same⟩ := Option.map_eq_some_iff.mp read
      cases same
    · obtain ⟨digits, rfl, numeral, rfl⟩ := readNumber?_length_eq_some_iff.mp number
      exact ⟨blanks ++ '-' :: digits, by simp [split], .negative areBlank numeral⟩
    · obtain ⟨digits, rfl, numeral, rfl⟩ := readNumber?_length_eq_some_iff.mp number
      exact ⟨blanks ++ '+' :: digits, by simp [split], .positive areBlank numeral⟩
    · obtain ⟨digits, rfl, numeral, rfl⟩ := readNumber?_eq_some_iff.mp number
      exact ⟨blanks ++ digits, by simp [split], .short areBlank numeral⟩
  · rintro ⟨front, rfl, spelled⟩
    cases spelled with
    | @short blanks digits _ areBlank numeral =>
        have read := readNumber?_eq_some_iff.mpr ⟨digits, rfl, numeral, rfl⟩
        have nonempty := List.ne_nil_of_length_pos numeral.enough
        rw [List.append_assoc,
          trimStart_append areBlank (endsBlanks_of_isDigit numeral.areDigits nonempty)]
        obtain ⟨first, others, rfl⟩ := List.exists_cons_of_ne_nil nonempty
        have isFirst := numeral.areDigits first List.mem_cons_self
        rw [List.cons_append] at read ⊢
        rw [readYear?_of_isDigit isFirst, read, Option.map_some]
    | @positive blanks digits _ areBlank numeral =>
        have read := readNumber?_length_eq_some_iff.mpr ⟨digits, rfl, numeral, rfl⟩
        have ends : EndsBlanks ('+' :: (digits ++ rest)) := by
          rintro _ ⟨⟩
          decide
        rw [List.append_assoc, List.cons_append, trimStart_append areBlank ends, readYear?, read,
          Option.map_some]
    | @negative blanks digits _ areBlank numeral =>
        have read := readNumber?_length_eq_some_iff.mpr ⟨digits, rfl, numeral, rfl⟩
        have ends : EndsBlanks ('-' :: (digits ++ rest)) := by
          rintro _ ⟨⟩
          decide
        rw [List.append_assoc, List.cons_append, trimStart_append areBlank ends, readYear?, read,
          Option.map_some]

/-- A front of a text spells the nanoseconds of a fraction: digits after a point, or nothing
when no point follows. -/
inductive SpellsFraction : Int → List Char → List Char → Prop where
  | whole {rest : List Char} (noPoint : rest.head? ≠ some '.') : SpellsFraction 0 [] rest
  | digits {digits rest : List Char} (numeral : Numeral digits rest) :
      SpellsFraction (nanosOf digits) ('.' :: digits) rest

/-- The nanoseconds that the front of a text gives, with what follows: those of a fraction after a
point, and none where no point stands. -/
def fraction? (text : List Char) : Option (Nat × List Char) :=
  match text with
  | '.' :: rest => readFraction? rest
  | _ => some (0, text)

/-- What is read as a fraction is one spelled by its text. -/
theorem fraction?_eq_some_iff {nanos : Nat} {text rest : List Char} :
    fraction? text = some (nanos, rest) ↔
      ∃ front, text = front ++ rest ∧ SpellsFraction nanos front rest := by
  constructor
  · intro read
    unfold fraction? at read
    split at read
    · obtain ⟨digits, rfl, numeral, rfl⟩ := readFraction?_eq_some_iff.mp read
      exact ⟨_, rfl, .digits numeral⟩
    · rename_i noPoint
      cases read
      refine ⟨[], rfl, .whole fun isPoint => ?_⟩
      obtain ⟨others, rfl⟩ := List.head?_eq_some_iff.mp isPoint
      exact noPoint others rfl
  · rintro ⟨front, rfl, spelled⟩
    generalize same : (nanos : Int) = number at spelled
    cases spelled with
    | whole noPoint =>
        obtain rfl : nanos = 0 := Int.ofNat.inj same
        rw [List.nil_append, fraction?]
        rintro _ rfl
        exact noPoint rfl
    | digits numeral =>
        obtain rfl := Int.ofNat.inj same
        exact readFraction?_append numeral

end Layout

/-! ## Parts -/

/-- The front of a text spells a number as a part of a layout, before the rest of the text. Parts
that stand for no number spell zero. -/
def LayoutPart.Spells (value : Int) (front rest : List Char) : LayoutPart → Prop
  | .character expected => value = 0 ∧ front = [expected]
  | .gap => value = 0 ∧ Layout.AreBlank front ∧ Layout.EndsBlanks rest
  | .year => Layout.SpellsYear value front rest
  | .month | .day | .hour | .minute | .second => Layout.SpellsPair value front rest
  | .fraction => Layout.SpellsFraction value front rest
  | .millis => Layout.BoundedNumeral 3 3 front rest ∧ value = Layout.numberOf front * 1000000

namespace Layout

namespace Draft

/-- The number of a part. -/
def number (numbers : Draft) : LayoutPart → Int
  | .character _ | .gap => 0
  | .year => numbers.year
  | .month => numbers.month
  | .day => numbers.day
  | .hour => numbers.hour
  | .minute => numbers.minute
  | .second => numbers.second
  | .fraction | .millis => numbers.nanos

/-- The numbers with that of a part replaced. -/
def set (numbers : Draft) (value : Int) : LayoutPart → Draft
  | .character _ | .gap => numbers
  | .year => { numbers with year := value }
  | .month => { numbers with month := value.toNat }
  | .day => { numbers with day := value.toNat }
  | .hour => { numbers with hour := value.toNat }
  | .minute => { numbers with minute := value.toNat }
  | .second => { numbers with second := value.toNat }
  | .fraction | .millis => { numbers with nanos := value.toNat }

end Draft

variable {draft next : Draft} {text rest : List Char}

/-- A number that a reader takes from a text is put in its place. -/
theorem placed_eq_some_iff {α : Type} (part : LayoutPart) (number : α → Int)
    {read : Option (α × List Char)}
    (reads : ∀ value, read = some (value, rest) ↔
      ∃ front, text = front ++ rest ∧ part.Spells (number value) front rest)
    (taken : ∀ value front, part.Spells value front rest → ∃ of, value = number of) :
    (read.map fun read => (draft.set (number read.1) part, read.2)) = some (next, rest) ↔
      ∃ value front, text = front ++ rest ∧ part.Spells value front rest ∧
        next = draft.set value part := by
  rw [Option.map_eq_some_iff]
  constructor
  · rintro ⟨⟨value, _⟩, isRead, same⟩
    cases same
    obtain ⟨front, split, spelled⟩ := (reads value).mp isRead
    exact ⟨number value, front, split, spelled, rfl⟩
  · rintro ⟨value, front, split, spelled, rfl⟩
    obtain ⟨of, rfl⟩ := taken value front spelled
    exact ⟨(of, rest), (reads of).mpr ⟨front, split, spelled⟩, rfl⟩

/-- A fraction that is left out leaves the nanoseconds of a draft as they are. -/
theorem readPart?_fraction (unread : draft.number .fraction = 0) :
    readPart? draft text .fraction =
      (fraction? text).map fun read => (draft.set read.1 .fraction, read.2) := by
  obtain ⟨year, month, day, hour, minute, second, nanos⟩ := draft
  obtain rfl : nanos = 0 := Int.ofNat.inj unread
  simp only [readPart?]
  split
  · rfl
  · rename_i noPoint
    rw [fraction?]
    · rfl
    · exact noPoint

/-- A part is read from the front of a text that spells its number. -/
theorem readPart?_eq_some_iff {part : LayoutPart} (unread : draft.number part = 0) :
    readPart? draft text part = some (next, rest) ↔
      ∃ value front, text = front ++ rest ∧ part.Spells value front rest ∧
        next = draft.set value part := by
  have pairs (value : Int) (front : List Char) (spelled : SpellsPair value front rest) :
      ∃ number : Nat, value = number := by
    obtain ⟨_, digits, -, -, -, same⟩ := spelled
    exact ⟨_, same⟩
  cases part with
  | character expected =>
      constructor
      · intro read
        cases text with
        | nil => cases read
        | cons first others =>
            simp only [readPart?] at read
            split at read
            · rename_i same
              cases read
              exact ⟨0, [first], rfl, ⟨rfl, congrArg (fun only => [only]) same⟩, rfl⟩
            · cases read
      · rintro ⟨_, _, rfl, ⟨rfl, rfl⟩, rfl⟩
        exact if_pos rfl
  | gap =>
      constructor
      · intro read
        cases read
        obtain ⟨blanks, split, areBlank, ends⟩ := exists_blanks text
        exact ⟨0, blanks, split, ⟨rfl, areBlank, ends⟩, rfl⟩
      · rintro ⟨_, blanks, rfl, ⟨rfl, areBlank, ends⟩, rfl⟩
        exact congrArg (fun left => some (_, left)) (trimStart_append areBlank ends)
  | year =>
      exact placed_eq_some_iff .year id (fun _ => readYear?_eq_some_iff)
        fun value _ _ => ⟨value, rfl⟩
  | month => exact placed_eq_some_iff .month Nat.cast (fun _ => readPair?_eq_some_iff) pairs
  | day => exact placed_eq_some_iff .day Nat.cast (fun _ => readPair?_eq_some_iff) pairs
  | hour => exact placed_eq_some_iff .hour Nat.cast (fun _ => readPair?_eq_some_iff) pairs
  | minute => exact placed_eq_some_iff .minute Nat.cast (fun _ => readPair?_eq_some_iff) pairs
  | second => exact placed_eq_some_iff .second Nat.cast (fun _ => readPair?_eq_some_iff) pairs
  | fraction =>
      rw [readPart?_fraction unread]
      refine placed_eq_some_iff .fraction Nat.cast (fun _ => fraction?_eq_some_iff) ?_
      rintro _ _ (- | -)
      · exact ⟨0, rfl⟩
      · exact ⟨_, rfl⟩
  | millis =>
      refine placed_eq_some_iff .millis (fun millis : Nat => millis * 1000000) (fun millis => ?_)
        fun _ front spelled => ⟨_, spelled.2⟩
      rw [readNumber?_eq_some_iff]
      constructor
      · rintro ⟨digits, split, numeral, rfl⟩
        exact ⟨digits, split, numeral, rfl⟩
      · rintro ⟨digits, split, numeral, same⟩
        exact ⟨digits, split, numeral, by omega⟩

/-! ## Layouts -/

/-- A text spells the numbers of the parts of a layout, one part after another. -/
inductive Spells (numbers : Draft) : Layout → List Char → Prop where
  | nil : Spells numbers [] []
  | cons {part : LayoutPart} {parts : Layout} {front rest : List Char}
      (first : part.Spells (numbers.number part) front rest) (others : Spells numbers parts rest) :
      Spells numbers (part :: parts) (front ++ rest)

/-- Two parts have numbers of their own. -/
def Apart (part other : LayoutPart) : Prop :=
  ∀ (numbers : Draft) (value : Int), (numbers.set value part).number other = numbers.number other ∧
    (numbers.set value other).number part = numbers.number part

/-- The numbers of the parts of a layout, put in their places in a draft. -/
def setAll (numbers : Draft) (layout : Layout) (draft : Draft) : Draft :=
  layout.foldl (fun draft part => draft.set (numbers.number part) part) draft

/-- The number of a part that was set is the spelled one. -/
theorem number_set {part : LayoutPart} {value : Int} {front rest : List Char}
    (spelled : part.Spells value front rest) (draft : Draft) :
    (draft.set value part).number part = value := by
  cases part with
  | character | gap => exact spelled.1.symm
  | year => rfl
  | month | day | hour | minute | second =>
      obtain ⟨_, digits, -, -, -, rfl⟩ := spelled
      rfl
  | fraction => cases spelled <;> rfl
  | millis =>
      obtain ⟨-, rfl⟩ := spelled
      rfl

/-- Setting other parts leaves the number of a part as it was. -/
theorem number_setAll {numbers : Draft} {part : LayoutPart} {layout : Layout}
    (apart : ∀ other ∈ layout, Apart part other) (draft : Draft) :
    (setAll numbers layout draft).number part = draft.number part := by
  induction layout generalizing draft with
  | nil => rfl
  | cons other rest ih =>
      obtain ⟨fromOther, fromRest⟩ := List.forall_mem_cons.mp apart
      rw [setAll, List.foldl_cons]
      exact (ih fromRest _).trans (fromOther draft _).2

/-- A layout reads a whole text when the text spells the numbers that are read. -/
theorem readParts?_eq_some_iff {layout : Layout} {draft final : Draft} {text : List Char}
    (apart : layout.Pairwise Apart) (unread : ∀ part ∈ layout, draft.number part = 0) :
    readParts? draft text layout = some (final, []) ↔
      Spells final layout text ∧ final = setAll final layout draft := by
  induction layout generalizing draft text with
  | nil =>
      constructor
      · rintro ⟨⟩
        exact ⟨.nil, rfl⟩
      · rintro ⟨⟨⟩, rfl⟩
        rfl
  | cons part parts ih =>
      obtain ⟨partApart, partsApart⟩ := List.pairwise_cons.mp apart
      obtain ⟨partUnread, partsUnread⟩ := List.forall_mem_cons.mp unread
      have stillUnread (value : Int) : ∀ other ∈ parts, (draft.set value part).number other = 0 :=
        fun other mem => (partApart other mem draft value).1.trans (partsUnread other mem)
      constructor
      · intro read
        rw [readParts?] at read
        split at read
        · rename_i next rest first
          obtain ⟨value, front, rfl, spelled, rfl⟩ := (readPart?_eq_some_iff partUnread).mp first
          obtain ⟨others, same⟩ := (ih partsApart (stillUnread value)).mp read
          obtain rfl : final.number part = value := by
            rw [same, number_setAll partApart, number_set spelled]
          exact ⟨.cons spelled others, same⟩
        · cases read
      · rintro ⟨spelled, same⟩
        cases spelled with
        | @cons _ _ front rest first others =>
            rw [readParts?, (readPart?_eq_some_iff partUnread).mpr ⟨_, front, rfl, first, rfl⟩]
            exact (ih partsApart (stillUnread _)).mpr ⟨others, same⟩

end Layout

namespace DateTime

/-- The numbers of a date time. -/
def numbers (moment : DateTime) : Layout.Draft :=
  ⟨moment.date.year, moment.date.month, moment.date.day, moment.hour, moment.minute, moment.second,
    moment.nanos⟩

/-- A draft names the date time that has its numbers. -/
theorem dateTime?_eq_some_iff {draft : Layout.Draft} {moment : DateTime} :
    draft.dateTime? = some moment ↔ draft = moment.numbers := by
  constructor
  · intro named
    unfold Layout.Draft.dateTime? of? at named
    split at named
    · rename_i date isDate
      unfold Date.of? at isDate
      split at isDate
      · cases isDate
        split at named
        · cases named
          rfl
        · cases named
      · cases isDate
    · cases named
  · rintro rfl
    exact of?_numbers moment

end DateTime

namespace Layout

/-- A layout tells every number of a date time once. -/
structure IsComplete (layout : Layout) : Prop where
  apart : layout.Pairwise Apart
  sets (numbers : Draft) : setAll numbers layout .empty = numbers

/-- The number of a part that was never set is zero. -/
theorem number_empty (part : LayoutPart) : Draft.empty.number part = 0 := by
  cases part <;> rfl

/-- A complete layout reads a text as the date time whose numbers the text spells. -/
theorem read?_eq_some_iff {layout : Layout} (complete : layout.IsComplete) {text : List Char}
    {moment : DateTime} : layout.read? text = some moment ↔ Spells moment.numbers layout text := by
  have reads (final : Draft) :
      readParts? .empty text layout = some (final, []) ↔ Spells final layout text := by
    rw [readParts?_eq_some_iff complete.apart fun part _ => number_empty part]
    exact and_iff_left (complete.sets final).symm
  constructor
  · intro read
    unfold read? at read
    split at read
    · rename_i final parts
      rw [← DateTime.dateTime?_eq_some_iff.mp read]
      exact (reads final).mp parts
    · cases read
  · intro spelled
    rw [read?, (reads _).mpr spelled]
    exact DateTime.dateTime?_eq_some_iff.mpr rfl

end Layout

end CatalogSql
