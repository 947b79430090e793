import CatalogSql.Generated.Token
import CatalogSql.Proofs.Generated.Identifiers
import CatalogSql.Proofs.Json.Cutting
import Mathlib.Algebra.Group.Nat.Defs

/-!
# Lexemes of generated code

Code is read character by character into names, marks, texts, numbers and lifetimes, with the
escapes of texts undone. `read?_textOf` recovers the lexemes of tokens from their text: a blank
ends whatever stands in front of it, and so does a closing bracket.
-/

namespace CatalogSql.Generated

open Json (hexDigit? hexDigit?_digitChar)

/-- A lexeme of code. Keywords are names, too. -/
inductive Lexeme where
  | name (identifier : Identifier)
  | mark (character : Char)
  | text (value : String)
  | number (digits : List Char)
  | lifetime (name : List Char)
deriving DecidableEq, Repr

/-- What the characters read last begin. Characters are held with the latest first. -/
inductive Pending where
  | nothing
  | name (raw : Bool) (characters : List Char)
  | number (characters : List Char)
  | lifetime (characters : List Char)
  | slash
  | comment
  | text (characters : List Char)
  | escape (characters : List Char)
  | byte (characters : List Char) (high? : Option Nat)
  | codeMark (characters : List Char)
  | codePoint (characters : List Char) (value count : Nat)
  | verbatim (characters : List Char)
deriving DecidableEq, Repr

/-- How far code has been read: the lexemes in front of what is pending, the latest first. -/
structure Reading where
  pending : Pending
  lexemes : List Lexeme
deriving DecidableEq, Repr

namespace Reading

/-- The reading in front of any code. -/
def start : Reading := ⟨.nothing, []⟩

/-- Whether a character can be the first one of a name. -/
def startsName (character : Char) : Bool := character.isAlpha || character == '_'

/-- Whether a character can be a further one of a name. Other letters than those of ASCII are
not read. -/
def continuesName (character : Char) : Bool := character.isAlphanum || character == '_'

/-- The characters that are lexemes of their own. Slashes are read apart. -/
def marks : List Char :=
  ['=', '<', '>', '!', '~', '+', '-', '*', '%', '^', '&', '|', '@', '.', ',', ';', ':', '#', '$',
    '?', '(', ')', '[', ']', '{', '}']

/-- The character that a single one after a backslash stands for. -/
def plainEscape? (character : Char) : Option Char :=
  match character with
  | 'n' => some '\n'
  | 'r' => some '\r'
  | 't' => some '\t'
  | '0' => some '\x00'
  | '\\' => some '\\'
  | '\'' => some '\''
  | '"' => some '"'
  | _ => none

/-- Reads the first character of a lexeme, or one between lexemes. -/
def begin (lexemes : List Lexeme) (character : Char) : Option Reading :=
  if character = ' ' ∨ character = '\n' ∨ character = '\t' then some ⟨.nothing, lexemes⟩
  else if character = '"' then some ⟨.text [], lexemes⟩
  else if character = '/' then some ⟨.slash, lexemes⟩
  else if character = '\'' then some ⟨.lifetime [], lexemes⟩
  else if character.isDigit then some ⟨.number [character], lexemes⟩
  else if startsName character then some ⟨.name false [character], lexemes⟩
  else if character ∈ marks then some ⟨.nothing, .mark character :: lexemes⟩
  else none

/-- The lexemes when what is pending is over. A text is not over before its closing mark, and a
comment not before the end of its line. -/
def settle (reading : Reading) : Option (List Lexeme) :=
  match reading.pending with
  | .nothing => some reading.lexemes
  | .name _ [] | .lifetime [] => none
  | .name raw characters => some (.name ⟨characters.reverse, raw⟩ :: reading.lexemes)
  | .number characters => some (.number characters.reverse :: reading.lexemes)
  | .lifetime characters => some (.lifetime characters.reverse :: reading.lexemes)
  | .slash => some (.mark '/' :: reading.lexemes)
  | _ => none

/-- Reads a character in a text. -/
def advanceText (lexemes : List Lexeme) (characters : List Char) (character : Char) :
    Option Reading :=
  if character = '"' then some ⟨.nothing, .text (String.ofList characters.reverse) :: lexemes⟩
  else if character = '\\' then some ⟨.escape characters, lexemes⟩
  else if character = '\r' then none
  else some ⟨.text (character :: characters), lexemes⟩

/-- Reads the character after a backslash. -/
def advanceEscape (lexemes : List Lexeme) (characters : List Char) (character : Char) :
    Option Reading :=
  if character = 'x' then some ⟨.byte characters none, lexemes⟩
  else if character = 'u' then some ⟨.codeMark characters, lexemes⟩
  else (plainEscape? character).map fun escaped => ⟨.text (escaped :: characters), lexemes⟩

/-- Reads a digit of a byte. A byte in a text is below 128. -/
def advanceByte (lexemes : List Lexeme) (characters : List Char) (high? : Option Nat)
    (character : Char) : Option Reading :=
  match hexDigit? character, high? with
  | some high, none => some ⟨.byte characters (some high), lexemes⟩
  | some low, some high =>
      if high < 8 then some ⟨.text (Char.ofNat (high * 16 + low) :: characters), lexemes⟩
      else none
  | none, _ => none

/-- Reads a character of a code point: one of at most six digits, or the closing bracket. -/
def advanceCodePoint (lexemes : List Lexeme) (characters : List Char) (value count : Nat)
    (character : Char) : Option Reading :=
  if character = '\x7d' then
    if count ≠ 0 ∧ value.isValidChar then
      some ⟨.text (Char.ofNat value :: characters), lexemes⟩
    else none
  else if count < 6 then
    (hexDigit? character).map fun digit =>
      ⟨.codePoint characters (value * 16 + digit) (count + 1), lexemes⟩
  else none

/-- Reads a character after those of a name. Directly after the letter r a name may turn out to
be raw, or a text without escapes. -/
def advanceName (reading : Reading) (raw : Bool) (characters : List Char) (character : Char) :
    Option Reading :=
  if continuesName character then some ⟨.name raw (character :: characters), reading.lexemes⟩
  else if character = '"' ∨ character = '#' then
    if raw ∨ characters ≠ ['r'] then none
    else if character = '"' then some ⟨.verbatim [], reading.lexemes⟩
    else some ⟨.name true [], reading.lexemes⟩
  else reading.settle.bind fun lexemes => begin lexemes character

/-- Reads a character. -/
def advance (reading : Reading) (character : Char) : Option Reading :=
  match reading.pending with
  | .nothing => begin reading.lexemes character
  | .name raw characters => advanceName reading raw characters character
  | .number characters =>
      if continuesName character then
        some ⟨.number (character :: characters), reading.lexemes⟩
      else reading.settle.bind fun lexemes => begin lexemes character
  | .lifetime characters =>
      if continuesName character then
        some ⟨.lifetime (character :: characters), reading.lexemes⟩
      else if character = '\'' then none
      else reading.settle.bind fun lexemes => begin lexemes character
  | .slash =>
      if character = '/' then some ⟨.comment, reading.lexemes⟩
      else if character = '*' then none
      else reading.settle.bind fun lexemes => begin lexemes character
  | .comment =>
      if character = '\n' then some ⟨.nothing, reading.lexemes⟩ else some reading
  | .text characters => advanceText reading.lexemes characters character
  | .escape characters => advanceEscape reading.lexemes characters character
  | .byte characters high? => advanceByte reading.lexemes characters high? character
  | .codeMark characters =>
      if character = '\x7b' then some ⟨.codePoint characters 0 0, reading.lexemes⟩ else none
  | .codePoint characters value count =>
      advanceCodePoint reading.lexemes characters value count character
  | .verbatim characters =>
      if character = '"' then
        some ⟨.nothing, .text (String.ofList characters.reverse) :: reading.lexemes⟩
      else if character = '\r' then none
      else some ⟨.verbatim (character :: characters), reading.lexemes⟩

/-- Reads characters one after another. -/
def run (reading : Reading) (characters : List Char) : Option Reading :=
  characters.foldlM advance reading

@[simp] theorem run_nil (reading : Reading) : reading.run [] = some reading := rfl

@[simp] theorem run_cons (reading : Reading) (character : Char) (rest : List Char) :
    reading.run (character :: rest) =
      (reading.advance character).bind fun next => next.run rest := rfl

/-- Reading a text goes on where its front ended. -/
theorem run_append (reading : Reading) (before after : List Char) :
    reading.run (before ++ after) = (reading.run before).bind fun next => next.run after :=
  List.foldlM_append

/-- A name that was begun is a lexeme at the end of the text. -/
theorem settle_name (lexemes : List Lexeme) (raw : Bool) {characters : List Char}
    (some : characters ≠ []) :
    settle ⟨.name raw characters, lexemes⟩ = .some (.name ⟨characters.reverse, raw⟩ :: lexemes) := by
  cases characters with
  | nil => exact absurd rfl some
  | cons last rest => rfl

/-! ## Earlier lexemes -/

/-- The reading with lexemes in front of its own. -/
def behind (earlier : List Lexeme) (reading : Reading) : Reading :=
  ⟨reading.pending, reading.lexemes ++ earlier⟩

/-- Beginning a lexeme leaves the earlier ones as they are. -/
theorem begin_behind (earlier lexemes : List Lexeme) (character : Char) :
    begin (lexemes ++ earlier) character = (begin lexemes character).map (behind earlier) := by
  unfold begin
  repeat' split
  all_goals rfl

/-- Ending a text leaves the earlier lexemes as they are. -/
theorem settle_behind (earlier : List Lexeme) (reading : Reading) :
    (reading.behind earlier).settle = reading.settle.map (· ++ earlier) := by
  obtain ⟨pending, lexemes⟩ := reading
  cases pending with
  | name raw characters => cases characters <;> rfl
  | lifetime characters => cases characters <;> rfl
  | _ => rfl

/-- What is read does not depend on the lexemes in front of it. -/
theorem advance_behind (earlier : List Lexeme) (reading : Reading) (character : Char) :
    (reading.behind earlier).advance character =
      (reading.advance character).map (behind earlier) := by
  have settled := settle_behind earlier reading
  -- A character that ends the pending lexeme settles it and begins the next one.
  have settles : ((reading.behind earlier).settle.bind fun lexemes => begin lexemes character) =
      (reading.settle.bind fun lexemes => begin lexemes character).map (behind earlier) := by
    rw [settled]
    cases reading.settle with
    | none => rfl
    | some lexemes => exact begin_behind earlier lexemes character
  obtain ⟨pending, lexemes⟩ := reading
  cases pending with
  | nothing => exact begin_behind earlier lexemes character
  | name raw characters =>
      simp only [advance, behind, advanceName] at settles ⊢
      rw [settles]
      repeat' split
      all_goals rfl
  | number characters =>
      simp only [advance, behind] at settles ⊢
      rw [settles]
      split <;> rfl
  | lifetime characters =>
      simp only [advance, behind] at settles ⊢
      rw [settles]
      repeat' split
      all_goals rfl
  | slash =>
      simp only [advance, behind] at settles ⊢
      rw [settles]
      repeat' split
      all_goals rfl
  | comment =>
      simp only [advance, behind]
      split <;> rfl
  | text characters =>
      simp only [advance, behind, advanceText]
      repeat' split
      all_goals rfl
  | escape characters =>
      simp only [advance, behind, advanceEscape]
      cases plainEscape? character
      all_goals repeat' split
      all_goals rfl
  | byte characters high? =>
      simp only [advance, behind, advanceByte]
      repeat' split
      all_goals rfl
  | codeMark characters =>
      simp only [advance, behind]
      split <;> rfl
  | codePoint characters value count =>
      simp only [advance, behind, advanceCodePoint]
      cases hexDigit? character
      all_goals repeat' split
      all_goals rfl
  | verbatim characters =>
      simp only [advance, behind]
      repeat' split
      all_goals rfl

/-- Reading a text leaves the earlier lexemes as they are. -/
theorem run_behind (earlier : List Lexeme) (reading : Reading) (characters : List Char) :
    (reading.behind earlier).run characters = (reading.run characters).map (behind earlier) := by
  induction characters generalizing reading with
  | nil => rfl
  | cons character rest ih =>
      rw [run_cons, run_cons, advance_behind]
      cases reading.advance character with
      | none => rfl
      | some next => exact ih next

/-- Characters that end whatever is pending. -/
def enders : List Char := [' ', '\n', ')', ']']

/-- What is over may be ended by a blank or a closing bracket. -/
theorem advance_of_settle {reading : Reading} {lexemes : List Lexeme}
    (settled : reading.settle = some lexemes) {character : Char} (ends : character ∈ enders) :
    reading.advance character = begin lexemes character := by
  have isEnder : character = ' ' ∨ character = '\n' ∨ character = ')' ∨ character = ']' := by
    simpa [enders] using ends
  have noName : continuesName character = false := by
    rcases isEnder with rfl | rfl | rfl | rfl <;> rfl
  have others : character ≠ '"' ∧ character ≠ '#' ∧ character ≠ '\'' ∧ character ≠ '/' ∧
      character ≠ '*' := by
    rcases isEnder with rfl | rfl | rfl | rfl <;> simp
  obtain ⟨noText, noHash, noQuote, noSlash, noStar⟩ := others
  obtain ⟨pending, held⟩ := reading
  cases pending with
  | nothing =>
      cases settled
      rfl
  | name raw characters => simp [advance, advanceName, noName, noText, noHash, settled]
  | number characters => simp [advance, noName, settled]
  | lifetime characters => simp [advance, noName, noQuote, settled]
  | slash => simp [advance, noSlash, noStar, settled]
  | _ => cases settled

/-! ## Texts -/

section Texts

variable (lexemes : List Lexeme) (characters : List Char)

/-- No hexadecimal digit is a closing brace. -/
theorem digitChar_ne_brace {digit : Nat} (small : digit < 16) :
    Nat.digitChar digit ≠ '\x7d' := by
  revert digit
  decide

/-- Hexadecimal digits are read as the number they are the digits of. -/
theorem run_toDigits (value count number : Nat)
    (atMost : count + (Nat.toDigits 16 number).length ≤ 6) :
    (⟨.codePoint characters value count, lexemes⟩ : Reading).run (Nat.toDigits 16 number) =
      some ⟨.codePoint characters (value * 16 ^ (Nat.toDigits 16 number).length + number)
        (count + (Nat.toDigits 16 number).length), lexemes⟩ := by
  induction number using Nat.strong_induction_on with
  | _ number ih =>
      have last : ∀ (value count digit : Nat), digit < 16 → count < 6 →
          (⟨.codePoint characters value count, lexemes⟩ : Reading).run [Nat.digitChar digit] =
            some ⟨.codePoint characters (value * 16 + digit) (count + 1), lexemes⟩ := by
        intro value count digit small within
        simp [advance, advanceCodePoint, digitChar_ne_brace small, within,
          hexDigit?_digitChar small]
      by_cases small : number < 16
      · rw [Nat.toDigits_of_lt_base small, List.length_singleton] at atMost ⊢
        simpa using last value count number small (by omega)
      · have shape := Nat.toDigits_of_base_le (by decide : 1 < 16) (Nat.le_of_not_lt small)
        have length : (Nat.toDigits 16 number).length =
            (Nat.toDigits 16 (number / 16)).length + 1 := by simp [shape]
        have front := ih (number / 16) (by omega) (by omega)
        rw [length, shape, run_append, front, Option.bind_some,
          last _ _ _ (Nat.mod_lt _ (by decide)) (by omega)]
        have together : (value * 16 ^ (Nat.toDigits 16 (number / 16)).length + number / 16) * 16 +
            number % 16 = value * 16 ^ ((Nat.toDigits 16 (number / 16)).length + 1) + number := by
          rw [Nat.pow_succ, Nat.add_mul, Nat.mul_assoc]
          omega
        rw [together, Nat.add_assoc]

/-- A character has at most six hexadecimal digits. -/
theorem length_toDigits_toNat (character : Char) :
    (Nat.toDigits 16 character.toNat).length ≤ 6 := by
  refine (Nat.length_toDigits_le_iff (by decide) (by decide)).mpr ?_
  have valid : character.toNat.isValidChar := character.valid
  simp only [Nat.isValidChar] at valid
  omega

/-- A character shown by its code point is read as that character. -/
theorem run_codePointEscape (character : Char) :
    (⟨.text characters, lexemes⟩ : Reading).run (Text.codePointEscape character) =
      some ⟨.text (character :: characters), lexemes⟩ := by
  have digits := run_toDigits lexemes characters 0 0 character.toNat
    (by simpa using length_toDigits_toNat character)
  have some_digit : (Nat.toDigits 16 character.toNat).length ≠ 0 := by
    simp [Nat.toDigits_ne_nil]
  have valid : character.toNat.isValidChar := character.valid
  have opened : (⟨.text characters, lexemes⟩ : Reading).run ['\\', 'u', '\x7b'] =
      some ⟨.codePoint characters 0 0, lexemes⟩ := rfl
  rw [Text.codePointEscape, run_append, run_append, opened, Option.bind_some, digits]
  simp [advance, advanceCodePoint, some_digit, valid, Char.ofNat_toNat]

/-- A shown character is read as that character. -/
theorem run_shownCharacter (character : Char) :
    (⟨.text characters, lexemes⟩ : Reading).run (Text.shownCharacter character) =
      some ⟨.text (character :: characters), lexemes⟩ := by
  by_cases named : character = '\x00' ∨ character = '\t' ∨ character = '\r' ∨ character = '\n' ∨
      character = '"' ∨ character = '\\'
  · rcases named with rfl | rfl | rfl | rfl | rfl | rfl <;> rfl
  · simp only [not_or] at named
    obtain ⟨noNul, noTab, noReturn, noNewline, noQuote, noSlash⟩ := named
    by_cases hidden : (Text.isCombining character || Text.unprintable.contains character) = true
    · have shape : Text.shownCharacter character = Text.codePointEscape character := by
        simp only [Text.shownCharacter, noNul, noTab, noReturn, noNewline, noQuote, noSlash, hidden,
          if_false, if_true]
      rw [shape]
      exact run_codePointEscape lexemes characters character
    · have shape : Text.shownCharacter character = [character] := by
        simp only [Text.shownCharacter, noNul, noTab, noReturn, noNewline, noQuote, noSlash, hidden,
          if_false, Bool.false_eq_true]
      simp [shape, advance, advanceText, noReturn, noQuote, noSlash]

/-- Escaped characters are read as the characters they stand for. -/
theorem run_escaped (value : List Char) :
    (⟨.text characters, lexemes⟩ : Reading).run (Token.escaped value) =
      some ⟨.text (value.reverse ++ characters), lexemes⟩ := by
  induction value generalizing characters with
  | nil => rfl
  | cons character rest ih =>
      have first : (⟨.text characters, lexemes⟩ : Reading).run
          (if character = '\x00' ∧ rest.head?.any (fun next => '0' ≤ next ∧ next ≤ '7') then
            ['\\', 'x', '0', '0']
          else Text.shownCharacter character) = some ⟨.text (character :: characters), lexemes⟩ := by
        split
        · rename_i nul
          rw [nul.1]
          rfl
        · exact run_shownCharacter lexemes characters character
      rw [Token.escaped, run_append, first, Option.bind_some, ih]
      simp

end Texts

/-! ## Names -/

/-- A word begins with a letter or an underscore. -/
theorem startsName_of_isWord {word : List Char} (isWord : Identifier.IsWord word) :
    ∀ first ∈ word.head?, startsName first = true ∧ first.isDigit = false := by
  intro first isFirst
  have noDigit := isWord.noDigitFirst first isFirst
  have allowed := isWord.characters first (List.mem_of_mem_head? isFirst)
  simp only [Char.isAlphanum, noDigit, Bool.or_false] at allowed
  exact ⟨by simpa [startsName] using allowed, noDigit⟩

/-- Characters that a name goes on with. -/
theorem run_continued (lexemes : List Lexeme) (raw : Bool) (characters : List Char)
    {rest : List Char}
    (continued : ∀ character ∈ rest, character.isAlphanum = true ∨ character = '_') :
    (⟨.name raw characters, lexemes⟩ : Reading).run rest =
      some ⟨.name raw (rest.reverse ++ characters), lexemes⟩ := by
  induction rest generalizing characters with
  | nil => rfl
  | cons character rest ih =>
      obtain ⟨first, others⟩ := List.forall_mem_cons.mp continued
      have goesOn : continuesName character = true := by simpa [continuesName] using first
      simp [advance, advanceName, goesOn, ih _ others]

/-- A letter or an underscore begins a name. -/
theorem begin_name (lexemes : List Lexeme) {first : Char} (starts : startsName first = true)
    (noDigit : first.isDigit = false) : begin lexemes first = some ⟨.name false [first], lexemes⟩ := by
  have noBlank : first ≠ ' ' ∧ first ≠ '\n' ∧ first ≠ '\t' := by
    refine ⟨?_, ?_, ?_⟩ <;> rintro rfl <;> revert starts <;> decide
  have noMark : first ≠ '"' ∧ first ≠ '/' ∧ first ≠ '\'' := by
    refine ⟨?_, ?_, ?_⟩ <;> rintro rfl <;> revert starts <;> decide
  simp [begin, noBlank, noMark, noDigit, starts]

/-- A valid identifier is read as it is. -/
theorem run_identifier (lexemes : List Lexeme) {identifier : Identifier}
    (valid : identifier.IsValid) :
    (⟨.nothing, lexemes⟩ : Reading).run identifier.text.toList =
      some ⟨.name identifier.raw identifier.word.reverse, lexemes⟩ := by
  obtain ⟨word, raw⟩ := identifier
  have isWord : Identifier.IsWord word := valid.word
  cases raw with
  | true =>
      have named := run_continued lexemes true [] isWord.characters
      have shape : (Identifier.text ⟨word, true⟩).toList = 'r' :: '#' :: word := by
        simp [Identifier.text]
      rw [List.append_nil] at named
      rw [shape]
      exact named
  | false =>
      obtain ⟨found, mem, -⟩ := isWord.notBlank
      obtain ⟨first, rest, rfl⟩ := List.exists_cons_of_ne_nil (List.ne_nil_of_mem mem)
      obtain ⟨starts, noDigit⟩ := startsName_of_isWord isWord first rfl
      have others : ∀ character ∈ rest, character.isAlphanum = true ∨ character = '_' :=
        fun character mem => isWord.characters character (List.mem_cons_of_mem _ mem)
      simp [Identifier.text, advance, begin_name lexemes starts noDigit,
        run_continued lexemes false [first] others]

end Reading

namespace Lexeme

/-- The lexemes of code. -/
def read? (code : List Char) : Option (List Lexeme) :=
  ((Reading.start.run code).bind Reading.settle).map List.reverse

/-- The lexemes of code that can be read. -/
def read (code : List Char) : List Lexeme := (read? code).getD []

end Lexeme

end Generated

open Generated (Lexeme Reading)

namespace Token

/-- The lexemes of a token. -/
def lexemes (token : Token) : List Lexeme := Lexeme.read token.written

/-- A token that can be read. -/
def IsClosed (token : Token) : Prop := (Lexeme.read? token.written).isSome

instance (token : Token) : Decidable token.IsClosed := inferInstanceAs (Decidable (_ = true))

/-- What is read after a token: its lexemes behind those in front of it. Nothing is pending after
an opening bracket. -/
structure Ends (token : Token) (earlier : List Lexeme) (reading : Reading) : Prop where
  settled : reading.settle = some (token.lexemes.reverse ++ earlier)
  opened : ∀ bracket, token = .opening bracket → reading.pending = .nothing

/-- A closed token is read up to its end, behind its own lexemes. -/
theorem exists_run_written {token : Token} (closed : token.IsClosed) (earlier : List Lexeme) :
    ∃ reading, (⟨.nothing, earlier⟩ : Reading).run token.written = some reading ∧
      token.Ends earlier reading := by
  obtain ⟨lexemes, isRead⟩ := Option.isSome_iff_exists.mp closed
  have sameLexemes : token.lexemes = lexemes := by rw [Token.lexemes, Lexeme.read, isRead]; rfl
  obtain ⟨reversed, settles, rfl⟩ := Option.map_eq_some_iff.mp isRead
  obtain ⟨reading, runs, settled⟩ := Option.bind_eq_some_iff.mp settles
  refine ⟨reading.behind earlier, ?_, ?_, ?_⟩
  · have onwards := Reading.run_behind earlier Reading.start token.written
    rwa [runs] at onwards
  · rw [Reading.settle_behind, settled, sameLexemes, List.reverse_reverse]
    rfl
  · rintro bracket rfl
    cases bracket <;> cases runs <;> rfl

/-- A valid identifier is closed, and is read as itself. -/
theorem isClosed_name {identifier : Identifier} (valid : identifier.IsValid) :
    (Token.name identifier).IsClosed ∧ (Token.name identifier).lexemes = [.name identifier] := by
  have isRead : Lexeme.read? (Token.name identifier).written = some [.name identifier] := by
    obtain ⟨found, mem, -⟩ := valid.word.notBlank
    have some := List.ne_nil_of_mem (List.mem_reverse.mpr mem)
    rw [Lexeme.read?, written, Reading.start, Reading.run_identifier [] valid, Option.bind_some,
      Reading.settle_name [] identifier.raw some, List.reverse_reverse]
    rfl
  exact ⟨by rw [IsClosed, isRead]; rfl, by rw [Token.lexemes, Lexeme.read, isRead]; rfl⟩

/-- A string literal is closed, and is read as the string it stands for. -/
theorem isClosed_text (value : String) :
    (Token.text value).IsClosed ∧ (Token.text value).lexemes = [.text value] := by
  have isRead : Lexeme.read? (Token.text value).written = some [.text value] := by
    have opened : Reading.start.advance '"' = some ⟨.text [], []⟩ := rfl
    rw [Lexeme.read?, written, Reading.run_cons, opened, Option.bind_some, Reading.run_append,
      Reading.run_escaped]
    simp [Reading.advance, Reading.advanceText, Reading.settle]
  exact ⟨by rw [IsClosed, isRead]; rfl, by rw [Token.lexemes, Lexeme.read, isRead]; rfl⟩

/-! ## The text of tokens -/

/-- Tokens that join without an opening bracket in front join at a closing one. -/
theorem exists_closing_of_joins {token next : Token} (joined : token.joins next = true)
    (noOpening : ∀ bracket, token ≠ .opening bracket) :
    ∃ bracket, next = .closing bracket ∧ bracket.isTight = true := by
  cases token with
  | opening bracket => exact absurd rfl (noOpening bracket)
  | _ =>
      cases next with
      | closing bracket => exact ⟨bracket, rfl, joined⟩
      | _ => cases joined

/-- A token is read behind another one, whether a blank stands between them or not. -/
theorem exists_run_next {token next : Token} {earlier : List Lexeme} {reading : Reading}
    (ends : token.Ends earlier reading) (closed : next.IsClosed) :
    ∃ after, reading.run ((if token.joins next then [] else [' ']) ++ next.written) =
        some after ∧
      next.Ends (token.lexemes.reverse ++ earlier) after := by
  obtain ⟨after, runs, nextEnds⟩ := exists_run_written closed (token.lexemes.reverse ++ earlier)
  refine ⟨after, ?_, nextEnds⟩
  by_cases joined : token.joins next = true
  · rw [if_pos joined, List.nil_append]
    by_cases isOpening : ∃ bracket, token = .opening bracket
    · obtain ⟨bracket, isBracket⟩ := isOpening
      have nothing := ends.opened bracket isBracket
      have settled := ends.settled
      obtain ⟨pending, held⟩ := reading
      cases nothing
      cases settled
      exact runs
    · obtain ⟨bracket, rfl, tight⟩ :=
        exists_closing_of_joins joined fun bracket same => isOpening ⟨bracket, same⟩
      have ender : bracket.closed ∈ Reading.enders := by
        cases bracket with
        | curly => cases tight
        | _ => decide
      rw [written, Reading.run_cons, Reading.advance_of_settle ends.settled ender]
      exact runs
  · rw [if_neg joined, Reading.run_append, Reading.run_cons,
      Reading.advance_of_settle ends.settled (by decide)]
    exact runs

/-- Closed tokens are read one after another, each as its own lexemes. -/
theorem exists_run_writtenAfter {token : Token} {tokens : List Token} {earlier : List Lexeme}
    {reading : Reading} (ends : token.Ends earlier reading)
    (closed : ∀ next ∈ tokens, next.IsClosed) :
    ∃ final, reading.run (writtenAfter token tokens) = some final ∧
      final.settle =
        some ((tokens.flatMap Token.lexemes).reverse ++ (token.lexemes.reverse ++ earlier)) := by
  induction tokens generalizing token earlier reading with
  | nil => exact ⟨reading, rfl, by simpa using ends.settled⟩
  | cons next rest ih =>
      obtain ⟨nextClosed, restClosed⟩ := List.forall_mem_cons.mp closed
      obtain ⟨after, reaches, nextEnds⟩ := exists_run_next ends nextClosed
      obtain ⟨final, finishes, settled⟩ := ih nextEnds restClosed
      refine ⟨final, ?_, ?_⟩
      · rw [writtenAfter, ← List.append_assoc, Reading.run_append, reaches]
        exact finishes
      · rw [settled]
        simp

/-- The text of tokens that can be read, after whole lexemes and in front of a line's end, is
read as their lexemes. -/
theorem run_textOf (tokens : List Token) (closed : ∀ token ∈ tokens, token.IsClosed)
    (earlier : List Lexeme) :
    (⟨.nothing, earlier⟩ : Reading).run ((textOf tokens).toList ++ ['\n']) =
      some ⟨.nothing, (tokens.flatMap Token.lexemes).reverse ++ earlier⟩ := by
  cases tokens with
  | nil => rfl
  | cons token rest =>
      obtain ⟨tokenClosed, restClosed⟩ := List.forall_mem_cons.mp closed
      obtain ⟨reading, runs, ends⟩ := exists_run_written tokenClosed earlier
      obtain ⟨final, finishes, settled⟩ := exists_run_writtenAfter ends restClosed
      rw [textOf, String.toList_ofList, Reading.run_append, Reading.run_append, runs,
        Option.bind_some, finishes, Option.bind_some, Reading.run_cons,
        Reading.advance_of_settle settled (by decide)]
      simp [Reading.begin]

/-- Tokens with blanks between them are read as their lexemes. -/
theorem run_spaced (token : Token) (tokens : List Token)
    (closed : ∀ next ∈ token :: tokens, next.IsClosed) (earlier : List Lexeme) :
    ((⟨.nothing, earlier⟩ : Reading).run
        ([' '].intercalate ((token :: tokens).map Token.written))).bind Reading.settle =
      some (((token :: tokens).flatMap Token.lexemes).reverse ++ earlier) := by
  induction tokens generalizing token earlier with
  | nil =>
      obtain ⟨reading, runs, ends⟩ := exists_run_written (closed token (by simp)) earlier
      simp [runs, ends.settled]
  | cons next rest ih =>
      obtain ⟨tokenClosed, restClosed⟩ := List.forall_mem_cons.mp closed
      obtain ⟨reading, runs, ends⟩ := exists_run_written tokenClosed earlier
      have isEnder : ' ' ∈ Reading.enders := by decide
      have blank := Reading.advance_of_settle ends.settled isEnder
      have later := ih next restClosed (token.lexemes.reverse ++ earlier)
      rw [List.map_cons, List.map_cons, List.intercalate_cons_cons, Reading.run_append,
        Reading.run_append, runs, Option.bind_some]
      simpa [blank, Reading.begin] using later

/-- A word is written as it stands. -/
theorem written_ofWord (word : List Char) : (ofWord word).written = word := by
  unfold ofWord
  repeat' split
  all_goals simp_all [written, Bracket.opened, Bracket.closed]

/-- The tokens of a fixed text are written as that text. -/
theorem intercalate_written_code (fixed : String) :
    [' '].intercalate ((code fixed).map Token.written) = fixed.toList := by
  simp [code, List.map_map, Function.comp_def, written_ofWord, List.intercalate_splitOn]

/-- Fixed code is read as the lexemes of its tokens. -/
theorem read_code {fixed : String} (closed : ∀ token ∈ code fixed, token.IsClosed) :
    Lexeme.read fixed.toList = (code fixed).flatMap Token.lexemes := by
  have isText := intercalate_written_code fixed
  rw [← isText]
  cases shape : code fixed with
  | nil => rfl
  | cons token tokens =>
      rw [shape] at closed
      have spaced := run_spaced token tokens closed []
      rw [Lexeme.read, Lexeme.read?, Reading.start, spaced, List.append_nil, Option.map_some,
        List.reverse_reverse, Option.getD_some]

/-- Fixed code can be read, if its words can. -/
theorem isClosed_code {fixed : String} {characters : List Char}
    (isText : String.ofList characters = fixed)
    (closed : ∀ word ∈ characters.splitOn ' ', (Lexeme.read? word).isSome) :
    ∀ token ∈ code fixed, token.IsClosed := by
  subst isText
  intro token mem
  rw [code, String.toList_ofList] at mem
  obtain ⟨word, isWord, rfl⟩ := List.mem_map.mp mem
  rw [IsClosed, written_ofWord]
  exact closed word isWord

/-- A literal written without escapes is closed where its text needs none. -/
theorem isClosed_verbatim {value : String}
    (plain : ∀ character ∈ value.toList, character ≠ '"' ∧ character ≠ '\r') :
    (Token.verbatim value).IsClosed ∧ (Token.verbatim value).lexemes = [.text value] := by
  have grown : ∀ (held rest : List Char),
      (∀ character ∈ rest, character ≠ '"' ∧ character ≠ '\r') →
      (⟨.verbatim held, []⟩ : Reading).run rest = some ⟨.verbatim (rest.reverse ++ held), []⟩ := by
    intro held rest
    induction rest generalizing held with
    | nil => exact fun _ => rfl
    | cons character rest ih =>
        intro plain
        obtain ⟨first, others⟩ := List.forall_mem_cons.mp plain
        simp [Reading.advance, first, ih _ others]
  have isRead : Lexeme.read? (Token.verbatim value).written = some [.text value] := by
    have opened : Reading.start.run ['r', '"'] = some ⟨.verbatim [], []⟩ := rfl
    have shape : (Token.verbatim value).written = ['r', '"'] ++ (value.toList ++ ['"']) := rfl
    rw [Lexeme.read?, shape, Reading.run_append, opened, Option.bind_some, Reading.run_append,
      grown [] value.toList plain]
    simp [Reading.advance, Reading.settle]
  exact ⟨by rw [IsClosed, isRead]; rfl, by rw [Token.lexemes, Lexeme.read, isRead]; rfl⟩

end Token

end CatalogSql
