import CatalogSql.Json.Token
import Mathlib.Algebra.Group.Int.Defs
import Mathlib.Algebra.Group.Nat.Defs
import Mathlib.Data.List.Forall2

/-!
# Written values are cut into their tokens

The text of a json value is cut into the lexemes of the value, however far apart its parts are
set. Only numbers depend on what follows them: a digit, a point or an exponent would go on with
them. Values whose numbers are natural numbers of 64 bits are considered; configurations hold no
others.
-/

namespace CatalogSql.Json

/-! ## Strings -/

/-- A digit of a base up to sixteen is read back. -/
theorem hexDigit?_digitChar {digit : Nat} (small : digit < 16) :
    hexDigit? (Nat.digitChar digit) = some digit := by
  revert digit
  decide

/-- A character that stands for itself in a string. -/
theorem readString_plain {character : Char} (noQuote : character ≠ '"')
    (noBackslash : character ≠ '\\') (printable : ¬ character.toNat < 0x20) (offset : Nat)
    (reversed rest : List Char) :
    readString offset reversed (character :: rest) =
      readString (offset + character.utf8Size) (character :: reversed) rest := by
  rw [readString, if_neg printable]
  all_goals simp_all

/-- The escape of a control character is read back as that character. -/
theorem readString_control {code : Nat} (small : code < 0x20) (offset : Nat)
    (reversed rest : List Char) :
    readString offset reversed
        ('\\' :: 'u' :: '0' :: '0' :: Nat.digitChar (code / 16) :: Nat.digitChar (code % 16) ::
          rest) =
      readString (offset + 6) (Char.ofNat code :: reversed) rest := by
  have high := hexDigit?_digitChar (by omega : code / 16 < 16)
  have low := hexDigit?_digitChar (by omega : code % 16 < 16)
  have zero : hexDigit? '0' = some 0 := by decide
  have quad : hexQuad? '0' '0' (Nat.digitChar (code / 16)) (Nat.digitChar (code % 16)) =
      some code := by
    have together : code / 16 * 16 + code % 16 = code := by omega
    simp [hexQuad?, zero, high, low, together]
  have noTrailing : isTrailing code = false := by
    simp only [isTrailing]
    have below : ¬ 0xDC00 ≤ code := by omega
    simp [below]
  have noLeading : isLeading code = false := by
    have below : ¬ 0xD800 ≤ code := by omega
    simp [isLeading, below]
  rw [readString]
  simp [quad, noTrailing, noLeading]

/-- An escaped character is read as that character. -/
theorem readString_escapeCharacter (character : Char) (offset : Nat) (reversed rest : List Char) :
    ∃ after, readString offset reversed (escapeCharacter character ++ rest) =
      readString after (character :: reversed) rest := by
  by_cases named : character = '"' ∨ character = '\\' ∨ character = '\x08' ∨ character = '\t' ∨
      character = '\n' ∨ character = '\x0c' ∨ character = '\r'
  · refine ⟨offset + 2, ?_⟩
    rcases named with rfl | rfl | rfl | rfl | rfl | rfl | rfl <;> rfl
  · simp only [not_or] at named
    obtain ⟨noQuote, noBackslash, noBackspace, noTab, noNewline, noFeed, noReturn⟩ := named
    by_cases control : character.toNat < 0x20
    · have shape : escapeCharacter character = ['\\', 'u', '0', '0',
          Nat.digitChar (character.toNat / 16), Nat.digitChar (character.toNat % 16)] := by
        simp only [escapeCharacter, noQuote, noBackslash, noBackspace, noTab, noNewline, noFeed,
          noReturn, control, if_false, if_true]
      refine ⟨offset + 6, ?_⟩
      have reads := readString_control control offset reversed rest
      rw [Char.ofNat_toNat] at reads
      rw [shape]
      exact reads
    · have shape : escapeCharacter character = [character] := by
        simp only [escapeCharacter, noQuote, noBackslash, noBackspace, noTab, noNewline, noFeed,
          noReturn, control, if_false]
      rw [shape]
      exact ⟨_, readString_plain noQuote noBackslash control offset reversed rest⟩

/-- The characters of a written string are read as its text. -/
theorem readString_quoted (value reversed rest : List Char) (offset : Nat) :
    ∃ stop, readString offset reversed (value.flatMap escapeCharacter ++ '"' :: rest) =
      .ok ⟨String.ofList (reversed.reverse ++ value), stop, rest⟩ := by
  induction value generalizing reversed offset with
  | nil => exact ⟨offset + 1, by simp [readString]⟩
  | cons character others ih =>
      obtain ⟨after, first⟩ := readString_escapeCharacter character offset reversed
        (others.flatMap escapeCharacter ++ '"' :: rest)
      obtain ⟨stop, later⟩ := ih (character :: reversed) after
      refine ⟨stop, ?_⟩
      rw [List.flatMap_cons, List.append_assoc, first, later]
      simp

/-! ## Numbers -/

/-- Characters that do not go on with a number. -/
def EndsNumber (rest : List Char) : Prop :=
  ∀ character ∈ rest.head?, ¬ ('0' ≤ character ∧ character ≤ '9') ∧ character ≠ '.' ∧
    character ≠ 'e' ∧ character ≠ 'E'

/-- The digits of a number. -/
def digitsOf (number : Nat) : List Nat :=
  (Nat.toDigits 10 number).map fun character => character.toNat - '0'.toNat

/-- A number below ten is its only digit. -/
theorem digitsOf_small {number : Nat} (small : number < 10) : digitsOf number = [number] := by
  revert number
  decide

/-- The last digit of a number is its remainder by ten. -/
theorem digitsOf_large {number : Nat} (large : 10 ≤ number) :
    digitsOf number = digitsOf (number / 10) ++ [number % 10] := by
  have last : digitsOf (number % 10) = [number % 10] :=
    digitsOf_small (Nat.mod_lt _ (by decide))
  rw [digitsOf, Nat.toDigits_of_lt_base (Nat.mod_lt _ (by decide)), List.map_singleton] at last
  rw [digitsOf, Nat.toDigits_of_base_le (by decide) large, List.map_append, List.map_singleton,
    last]
  rfl

/-- The first digit of a number is zero for zero only. -/
theorem head_digitsOf {number : Nat} (positive : 0 < number) :
    ∃ first rest, digitsOf number = (first + 1) :: rest := by
  induction number using Nat.strongRecOn with
  | _ number ih =>
      by_cases small : number < 10
      · exact ⟨number - 1, [], by rw [digitsOf_small small]; congr 1; omega⟩
      · obtain ⟨first, rest, shape⟩ := ih (number / 10) (by omega) (by omega)
        exact ⟨first, rest ++ [number % 10], by rw [digitsOf_large (by omega), shape]; rfl⟩

/-- The digits of a number below `2 ^ 64` add up to it without overflow. -/
theorem takeWhole_digitsOf {number : Nat} (bounded : number < 2 ^ 64) :
    (digitsOf number).foldl Significand.takeWhole ⟨0, 0, false⟩ = ⟨number, 0, false⟩ := by
  have step : ∀ (front digit : Nat), front * 10 + digit < 2 ^ 64 →
      Significand.takeWhole ⟨front, 0, false⟩ digit = ⟨front * 10 + digit, 0, false⟩ := by
    intro front digit fits
    have isFit : front * 10 + digit < Nat.pow 2 64 := fits
    simp [Significand.takeWhole, Significand.fits, isFit]
  induction number using Nat.strongRecOn with
  | _ number ih =>
      by_cases small : number < 10
      · have only := step 0 number (by omega)
        simpa [digitsOf_small small] using only
      · have front := ih (number / 10) (by omega) (by omega)
        have together : number / 10 * 10 + number % 10 = number := by omega
        have last := step (number / 10) (number % 10) (by omega)
        rw [together] at last
        rw [digitsOf_large (by omega), List.foldl_append, front]
        exact last

/-- A run of digits is taken whole where the text does not go on with a number. -/
theorem takeDigits_append {digits rest : List Char} (allDigits : ∀ character ∈ digits,
    '0' ≤ character ∧ character ≤ '9') (ends : EndsNumber rest) :
    takeDigits (digits ++ rest) =
      (digits.map fun character => character.toNat - '0'.toNat, rest) := by
  induction digits with
  | nil =>
      cases rest with
      | nil => rfl
      | cons character others =>
          have noDigit := (ends character rfl).1
          simp [takeDigits, noDigit]
  | cons digit others ih =>
      obtain ⟨isDigit, othersDigits⟩ := List.forall_mem_cons.mp allDigits
      simp [takeDigits, isDigit, ih othersDigits]

/-- No exponent is read where the text does not go on with a number. -/
theorem readExponent_ends {rest : List Char} (ends : EndsNumber rest) (negative : Bool)
    (whole : List Nat) (fraction : Option (List Nat)) (offset : Nat) :
    readExponent negative whole fraction offset rest =
      .ok ⟨⟨negative, whole, fraction, none⟩, offset, offset, rest⟩ := by
  cases rest with
  | nil => rfl
  | cons character others =>
      obtain ⟨-, -, noSmall, noLarge⟩ := ends character rfl
      simp [readExponent, noSmall, noLarge]

/-- Digits with nothing of a number behind them are read as an integer. -/
theorem readUnsigned_digits {number : Nat} {digits rest : List Char}
    (taken : takeDigits digits = (digitsOf number, rest)) (ends : EndsNumber rest)
    (offset : Nat) :
    readUnsigned false offset digits =
      .ok ⟨⟨false, digitsOf number, none, none⟩, offset + (digitsOf number).length,
        offset + (digitsOf number).length, rest⟩ := by
  have exponent := readExponent_ends ends false (digitsOf number) none
    (offset + (digitsOf number).length)
  have noPoint : ∀ others, rest ≠ '.' :: others := by
    rintro others rfl
    exact (ends '.' rfl).2.1 rfl
  have leading : digitsOf number ≠ [] ∧ ∀ next others, digitsOf number ≠ 0 :: next :: others := by
    by_cases zero : number = 0
    · simp [zero, digitsOf_small]
    · obtain ⟨first, others, shape⟩ := head_digitsOf (Nat.pos_of_ne_zero zero)
      simp [shape]
  rw [readUnsigned, taken]
  split
  · rename_i same
    exact absurd (congrArg Prod.fst same) leading.1
  · rename_i same
    exact absurd (congrArg Prod.fst same) (leading.2 _ _)
  · rename_i whole others _ _ same
    obtain ⟨rfl, rfl⟩ := Prod.mk.inj same
    split
    · exact absurd rfl (noPoint _)
    · exact exponent

/-- A digit begins a number. -/
theorem nextToken_digit {character : Char} (isDigit : '0' ≤ character ∧ character ≤ '9')
    (start : Nat) (rest : List Char) :
    nextToken start character rest = numberToken start (character :: rest) := by
  unfold nextToken
  split
  case h_11 => exact if_pos (.inr isDigit)
  all_goals exact absurd isDigit (by decide)

/-- A digit is no gap between lexemes. -/
theorem isGap_digit {character : Char} (isDigit : '0' ≤ character ∧ character ≤ '9') :
    isGap character = false := by
  have notGap : character ≠ ' ' ∧ character ≠ '\n' ∧ character ≠ '\t' ∧ character ≠ '\r' := by
    refine ⟨?_, ?_, ?_, ?_⟩ <;> rintro rfl <;> exact absurd isDigit (by decide)
  simp [isGap, notGap]

/-- The digits of a natural number of 64 bits are read as that number. -/
theorem numberToken_natural {number : Nat} (bounded : number < 2 ^ 64) {rest : List Char}
    (ends : EndsNumber rest) (start : Nat) :
    ∃ stop, numberToken start (Nat.toDigits 10 number ++ rest) =
      (⟨.number (.integer number), start, stop⟩, rest) := by
  have allDigits : ∀ character ∈ Nat.toDigits 10 number, '0' ≤ character ∧ character ≤ '9' := by
    intro character mem
    have isDigit := Nat.isDigit_of_mem_toDigits (by decide) (by decide) mem
    simpa [Char.isDigit, Char.le_def] using isDigit
  have taken : takeDigits (Nat.toDigits 10 number ++ rest) = (digitsOf number, rest) :=
    takeDigits_append allDigits ends
  have notSigned : ∀ others, Nat.toDigits 10 number ++ rest ≠ '-' :: others := by
    intro others same
    cases shape : Nat.toDigits 10 number with
    | nil => exact absurd shape Nat.toDigits_ne_nil
    | cons first digits =>
        rw [shape] at same allDigits
        have isFirst : first = '-' := (List.cons.inj same).1
        have isDigit := allDigits first List.mem_cons_self
        rw [isFirst] at isDigit
        exact absurd isDigit (by decide)
  have reads : readNumber start (Nat.toDigits 10 number ++ rest) =
      .ok ⟨⟨false, digitsOf number, none, none⟩, start + (digitsOf number).length,
        start + (digitsOf number).length, rest⟩ := by
    rw [readNumber]
    · exact readUnsigned_digits taken ends start
    · exact notSigned
  refine ⟨start + (digitsOf number).length, ?_⟩
  have value : (⟨false, digitsOf number, none, none⟩ : NumberShape).value
      (start + (digitsOf number).length) (start + (digitsOf number).length) =
        .ok (.integer number) := by
    simp [NumberShape.value, takeWhole_digitsOf bounded]
  rw [numberToken, reads]
  simp only [value]

/-! ## Texts -/

/-- A text is cut into tokens with given lexemes, if what follows the text does not go on with a
number. What follows is then cut on its own. -/
def Cuts (text : List Char) (lexemes : List Lexeme) : Prop :=
  ∀ rest, EndsNumber rest → ∀ remaining offset, (text ++ rest).length ≤ remaining →
    ∃ tokens after stop, tokens.map (·.lexeme) = lexemes ∧ rest.length ≤ after ∧
      tokensFrom remaining offset (text ++ rest) = tokens ++ tokensFrom after stop rest

/-- A text is written in front of others as lexemes in front of theirs. -/
def Writes (text : List Char) (lexemes : List Lexeme) : Prop :=
  ∀ after others, EndsNumber after → Cuts after others → Cuts (text ++ after) (lexemes ++ others)

/-- A character that no number holds ends one. -/
theorem endsNumber_cons {character : Char}
    (ends : ¬ ('0' ≤ character ∧ character ≤ '9') ∧ character ≠ '.' ∧ character ≠ 'e' ∧
      character ≠ 'E') (rest : List Char) : EndsNumber (character :: rest) := by
  rintro _ ⟨⟩
  exact ends

/-- A text that ends a number does so with more behind it. -/
theorem EndsNumber.append {text rest : List Char} (ends : EndsNumber text)
    (restEnds : EndsNumber rest) : EndsNumber (text ++ rest) := by
  cases text with
  | nil => exact restEnds
  | cons character others => exact ends

/-- A gap ends a number. -/
theorem EndsNumber.of_gap {character : Char} (gap : isGap character = true) (rest : List Char) :
    EndsNumber (character :: rest) := by
  have cases : character = ' ' ∨ character = '\n' ∨ character = '\t' ∨ character = '\r' := by
    simpa [isGap, or_assoc] using gap
  rcases cases with rfl | rfl | rfl | rfl <;> exact endsNumber_cons (by decide) rest

/-- Gaps before a text that ends a number end one too. -/
theorem EndsNumber.gaps {blank rest : List Char}
    (areGaps : ∀ character ∈ blank, isGap character = true) (ends : EndsNumber rest) :
    EndsNumber (blank ++ rest) := by
  cases blank with
  | nil => exact ends
  | cons character others => exact .of_gap (areGaps character List.mem_cons_self) _

namespace Cuts

variable {text : List Char} {lexemes : List Lexeme}

/-- The empty text has no lexemes. -/
theorem nil : Cuts [] [] := fun _ _ remaining offset enough =>
  ⟨[], remaining, offset, rfl, enough, rfl⟩

/-- A gap adds no lexeme. -/
theorem gap {character : Char} (isGap : isGap character = true) (cuts : Cuts text lexemes) :
    Cuts (character :: text) lexemes := by
  intro rest ends remaining offset enough
  rw [List.cons_append, List.length_cons] at enough
  obtain ⟨remaining, rfl⟩ : ∃ less, remaining = less + 1 := ⟨remaining - 1, by omega⟩
  obtain ⟨tokens, after, stop, sameLexemes, enoughAfter, onwards⟩ :=
    cuts rest ends remaining (offset + 1) (by omega)
  refine ⟨tokens, after, stop, sameLexemes, enoughAfter, ?_⟩
  rw [List.cons_append, tokensFrom, if_pos isGap, onwards]

/-- Gaps before a text add no lexemes to it. -/
theorem gaps {blank : List Char} (areGaps : ∀ character ∈ blank, isGap character = true)
    (cuts : Cuts text lexemes) : Cuts (blank ++ text) lexemes := by
  induction blank with
  | nil => exact cuts
  | cons character others ih =>
      obtain ⟨first, rest⟩ := List.forall_mem_cons.mp areGaps
      exact gap first (ih rest)

/-- A token in front of a text. -/
theorem token {character : Char} {written : List Char} {lexeme : Lexeme}
    (noGap : isGap character = false)
    (reads : ∀ start rest, EndsNumber rest → ∃ stop,
      nextToken start character (written ++ (text ++ rest)) =
        (⟨lexeme, start, stop⟩, text ++ rest))
    (cuts : Cuts text lexemes) : Cuts (character :: (written ++ text)) (lexeme :: lexemes) := by
  intro rest ends remaining offset enough
  obtain ⟨firstStop, readsFirst⟩ := reads offset rest ends
  simp only [List.cons_append, List.append_assoc, List.length_cons, List.length_append] at enough
  obtain ⟨remaining, rfl⟩ : ∃ less, remaining = less + 1 := ⟨remaining - 1, by omega⟩
  obtain ⟨tokens, after, stop, sameLexemes, enoughAfter, onwards⟩ :=
    cuts rest ends remaining firstStop (by simp only [List.length_append]; omega)
  refine ⟨⟨lexeme, offset, firstStop⟩ :: tokens, after, stop, ?_, enoughAfter, ?_⟩
  · rw [List.map_cons, sameLexemes]
  · rw [List.cons_append, tokensFrom, noGap, List.append_assoc, readsFirst]
    simp [onwards]

/-- A mark in front of a text. -/
theorem mark {character : Char} {lexeme : Lexeme} (noGap : isGap character = false)
    (reads : ∀ start rest,
      nextToken start character rest = (⟨lexeme, start, start + 1⟩, rest))
    (cuts : Cuts text lexemes) : Cuts (character :: text) (lexeme :: lexemes) :=
  cuts.token noGap fun start rest _ => ⟨start + 1, reads start ([] ++ (text ++ rest))⟩

/-- A string in front of a text. -/
theorem string (value : String) (cuts : Cuts text lexemes) :
    Cuts (quoted value ++ text) (.string value :: lexemes) := by
  have shape : quoted value ++ text =
      '"' :: ((value.toList.flatMap escapeCharacter ++ ['"']) ++ text) := rfl
  rw [shape]
  refine token (by decide) (fun start rest _ => ?_) cuts
  obtain ⟨stop, reads⟩ := readString_quoted value.toList [] (text ++ rest) (start + 1)
  refine ⟨stop, ?_⟩
  rw [List.append_assoc, List.singleton_append]
  change stringToken start _ = _
  rw [stringToken, reads]
  simp

end Cuts

namespace Writes

/-- A quoted string is cut into that string. -/
theorem string (value : String) : Writes (quoted value) [.string value] :=
  fun _ _ _ cuts => cuts.string value

/-- A word in front of whatever follows it. -/
theorem word {character : Char} {written : List Char} {lexeme : Lexeme}
    (noGap : isGap character = false)
    (reads : ∀ start rest, ∃ stop, nextToken start character (written ++ rest) =
      (⟨lexeme, start, stop⟩, rest)) :
    Writes (character :: written) [lexeme] :=
  fun _ _ _ cuts => cuts.token noGap fun start _ _ => reads start _

/-- A natural number in decimal digits is cut into that number. -/
theorem natural {number : Nat} (bounded : number < 2 ^ 64) :
    Writes (Nat.toDigits 10 number) [.number (.integer number)] := by
  intro text lexemes ends cuts
  cases shape : Nat.toDigits 10 number with
  | nil => exact absurd shape Nat.toDigits_ne_nil
  | cons first digits =>
      have isDigit : first.isDigit = true :=
        Nat.isDigit_of_mem_toDigits (by decide) (by decide) (shape ▸ List.mem_cons_self)
      have inRange : '0' ≤ first ∧ first ≤ '9' := by
        simpa [Char.isDigit, Char.le_def] using isDigit
      refine cuts.token (isGap_digit inRange) fun start rest restEnds => ?_
      obtain ⟨stop, reads⟩ := numberToken_natural bounded (ends.append restEnds) start
      rw [shape] at reads
      exact ⟨stop, (nextToken_digit inRange start _).trans reads⟩

/-- Texts set apart by commas and white space. -/
theorem separated {gap : List Char} (areGaps : ∀ character ∈ gap, isGap character = true)
    {texts : List (List Char)} {lexemes : List (List Lexeme)}
    (write : List.Forall₂ Writes texts lexemes) :
    Writes (List.intercalate (',' :: gap) texts) (List.intercalate [.comma] lexemes) := by
  induction write with
  | nil => exact fun _ _ _ cuts => cuts
  | cons first others ih =>
      cases others with
      | nil => simpa using first
      | cons second rest =>
          intro after further ends cuts
          have onwards := (ih after further ends cuts).gaps areGaps
          have comma : Cuts (',' :: (gap ++ _)) (.comma :: _) :=
            onwards.mark (by decide) fun _ _ => rfl
          have together := first _ _ (endsNumber_cons (by decide) _) comma
          simpa [List.intercalate_cons_cons] using together

/-- What opens or closes a list or an object. -/
structure IsBracket (character : Char) (lexeme : Lexeme) : Prop where
  noGap : isGap character = false
  reads : ∀ start rest, nextToken start character rest = (⟨lexeme, start, start + 1⟩, rest)
  ends : ∀ rest, EndsNumber (character :: rest)

/-- Items between brackets. -/
theorem enclosed {spacing : Spacing}
    (areGaps : ∀ level, ∀ character ∈ spacing.lineStart level, isGap character = true)
    {opening closing : Char} {first last : Lexeme} (opens : IsBracket opening first)
    (closes : IsBracket closing last) {texts : List (List Char)} {lexemes : List (List Lexeme)}
    (write : List.Forall₂ Writes texts lexemes) (level : Nat) :
    Writes (spacing.enclosed level opening closing texts)
      (first :: (List.intercalate [.comma] lexemes ++ [last])) := by
  intro after further _ cuts
  have closed := cuts.mark closes.noGap closes.reads
  cases write with
  | nil => exact closed.mark opens.noGap opens.reads
  | cons head tail =>
      have items := separated (areGaps (level + 1)) (.cons head tail)
      have ended := (closes.ends after).gaps (areGaps level)
      have inside := (items _ _ ended (closed.gaps (areGaps level))).gaps (areGaps (level + 1))
      have together := inside.mark opens.noGap opens.reads
      simpa [Spacing.enclosed] using together

end Writes

/-! ## Values -/

mutual

/-- All numbers of a value are natural numbers of 64 bits. -/
def HasNaturals : Json → Prop
  | .null | .boolean _ | .string _ => True
  | .number (.integer value) => 0 ≤ value ∧ value < 2 ^ 64
  | .number (.double _) => False
  | .array items => ItemsHaveNaturals items
  | .object entries => EntriesHaveNaturals entries

/-- All numbers of the items of an array are natural numbers of 64 bits. -/
def ItemsHaveNaturals : List Json → Prop
  | [] => True
  | item :: rest => HasNaturals item ∧ ItemsHaveNaturals rest

/-- All numbers of the entries of an object are natural numbers of 64 bits. -/
def EntriesHaveNaturals : List (String × Json) → Prop
  | [] => True
  | (_, value) :: rest => HasNaturals value ∧ EntriesHaveNaturals rest

end

/-- An object has natural numbers only if its entries have. -/
theorem hasNaturals_object {entries : List (String × Json)}
    (each : ∀ entry ∈ entries, HasNaturals entry.2) : HasNaturals (.object entries) := by
  rw [HasNaturals]
  induction entries with
  | nil => trivial
  | cons entry rest ih =>
      obtain ⟨first, others⟩ := List.forall_mem_cons.mp each
      exact ⟨first, ih others⟩

mutual

/-- The lexemes of a value. -/
def lexemes : Json → List Lexeme
  | .null => [.null]
  | .boolean value => [.boolean value]
  | .number value => [.number value]
  | .string value => [.string value]
  | .array items => .listStart :: (List.intercalate [.comma] (itemLexemes items) ++ [.listEnd])
  | .object entries =>
      .objectStart :: (List.intercalate [.comma] (entryLexemes entries) ++ [.objectEnd])

/-- The lexemes of the items of an array. -/
def itemLexemes : List Json → List (List Lexeme)
  | [] => []
  | item :: rest => lexemes item :: itemLexemes rest

/-- The lexemes of the entries of an object. -/
def entryLexemes : List (String × Json) → List (List Lexeme)
  | [] => []
  | (key, value) :: rest => (.string key :: .colon :: lexemes value) :: entryLexemes rest

end

/-- Parts are set apart by white space only. -/
structure Spacing.IsBlank (spacing : Spacing) : Prop where
  lineStart : ∀ level, ∀ character ∈ spacing.lineStart level, isGap character = true
  afterColon : ∀ character ∈ spacing.afterColon, isGap character = true

/-- Indented text is spaced by blanks and line breaks. -/
theorem Spacing.isBlank_indented : Spacing.indented.IsBlank := by
  refine ⟨?_, by simp [Spacing.indented, isGap]⟩
  intro level character mem
  rcases List.mem_cons.mp mem with rfl | inBlanks
  · rfl
  · rw [List.eq_of_mem_replicate inBlanks]
    rfl

namespace Writes

/-- A natural number is cut into itself. -/
theorem number {value : JsonNumber} (natural : HasNaturals (.number value)) :
    Writes (numberText value).toList [.number value] := by
  cases value with
  | double value => exact natural.elim
  | integer value =>
      obtain ⟨notNegative, bounded⟩ := natural
      obtain ⟨number, rfl⟩ := Int.eq_ofNat_of_zero_le notNegative
      have digits : (numberText (.integer (number : Int))).toList = Nat.toDigits 10 number := by
        change (Nat.repr number).toList = _
        rw [Nat.repr, String.toList_ofList]
      rw [digits]
      exact Writes.natural (by omega)

/-- An entry is cut into its key, the colon and its value. -/
theorem entry {spacing : Spacing} (blank : spacing.IsBlank) (key : String) {text : List Char}
    {lexemes : List Lexeme} (writes : Writes text lexemes) :
    Writes (quoted key ++ ':' :: (spacing.afterColon ++ text))
      (.string key :: .colon :: lexemes) := by
  intro after further ends cuts
  have value := (writes after further ends cuts).gaps blank.afterColon
  have colon : Cuts (':' :: (spacing.afterColon ++ (text ++ after))) (.colon :: _) :=
    value.mark (by decide) fun _ _ => rfl
  simpa using colon.string key

end Writes

mutual

/-- The text of a value is cut into the lexemes of the value. -/
theorem writes_value {spacing : Spacing} (blank : spacing.IsBlank) :
    ∀ (level : Nat) (value : Json), HasNaturals value →
    Writes (spacing.valueText level value) value.lexemes
  | _, .null, _ => .word (by decide) fun start rest => ⟨start + 4, rfl⟩
  | _, .boolean true, _ => .word (by decide) fun start rest => ⟨start + 4, rfl⟩
  | _, .boolean false, _ => .word (by decide) fun start rest => ⟨start + 5, rfl⟩
  | _, .number _, natural => .number natural
  | _, .string value, _ => .string value
  | level, .array items, natural =>
      .enclosed blank.lineStart ⟨by decide, fun _ _ => rfl, endsNumber_cons (by decide)⟩
        ⟨by decide, fun _ _ => rfl, endsNumber_cons (by decide)⟩
        (writes_items blank (level + 1) items natural) level
  | level, .object entries, natural =>
      .enclosed blank.lineStart ⟨by decide, fun _ _ => rfl, endsNumber_cons (by decide)⟩
        ⟨by decide, fun _ _ => rfl, endsNumber_cons (by decide)⟩
        (writes_entries blank (level + 1) entries natural) level

/-- The items of an array are cut one by one. -/
theorem writes_items {spacing : Spacing} (blank : spacing.IsBlank) :
    ∀ (level : Nat) (items : List Json), ItemsHaveNaturals items →
    List.Forall₂ Writes (spacing.itemTexts level items) (itemLexemes items)
  | _, [], _ => .nil
  | level, item :: rest, natural =>
      .cons (writes_value blank level item natural.1) (writes_items blank level rest natural.2)

/-- The entries of an object are cut one by one. -/
theorem writes_entries {spacing : Spacing} (blank : spacing.IsBlank) :
    ∀ (level : Nat) (entries : List (String × Json)), EntriesHaveNaturals entries →
    List.Forall₂ Writes (spacing.entryTexts level entries) (entryLexemes entries)
  | _, [], _ => .nil
  | level, (key, value) :: rest, natural =>
      .cons (.entry blank key (writes_value blank level value natural.1))
        (writes_entries blank level rest natural.2)

end

end CatalogSql.Json
