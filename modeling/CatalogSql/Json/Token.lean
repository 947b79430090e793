import CatalogSql.Json.Fault

/-!
# Json tokens

A json text is cut into brackets, commas, colons, words, numbers and strings with
their byte offsets. Reading is either strict, when the values matter, or skipping,
when they do not: skipping accepts strings with unpaired surrogates and numbers out
of range. Cutting stops at the first token that even skipping refuses.
-/

namespace CatalogSql.Json

/-- The kinds of tokens. A token that skipping accepts and strict reading refuses
carries the fault; so does one that both refuse, with the fault of either. -/
inductive Lexeme where
  | listStart
  | listEnd
  | objectStart
  | objectEnd
  | comma
  | colon
  | null
  | boolean (value : Bool)
  | number (value : JsonNumber)
  | string (value : String)
  | dubiousNumber (strict : Fault)
  | dubiousString (strict : Fault)
  | stray
  | malformed (strict skipping : Fault)
  | malformedString (strict skipping : Fault)

/-- A lexeme with the offsets of its first byte and of the byte after it. -/
structure Token where
  lexeme : Lexeme
  start : Nat
  stop : Nat

/-! ## Strings -/

/-- The value of a hexadecimal digit. -/
def hexDigit? (character : Char) : Option Nat :=
  if '0' ≤ character ∧ character ≤ '9' then some (character.toNat - '0'.toNat)
  else if 'a' ≤ character ∧ character ≤ 'f' then some (character.toNat - 'a'.toNat + 10)
  else if 'A' ≤ character ∧ character ≤ 'F' then some (character.toNat - 'A'.toNat + 10)
  else none

/-- The number four hexadecimal digits stand for. -/
def hexQuad? (first second third fourth : Char) : Option Nat := do
  let first ← hexDigit? first
  let second ← hexDigit? second
  let third ← hexDigit? third
  let fourth ← hexDigit? fourth
  return ((first * 16 + second) * 16 + third) * 16 + fourth

/-- The character a letter after a backslash stands for. -/
def plainEscape? (character : Char) : Option Char :=
  if character = '"' then some '"'
  else if character = '\\' then some '\\'
  else if character = '/' then some '/'
  else if character = 'b' then some '\x08'
  else if character = 'f' then some '\x0c'
  else if character = 'n' then some '\n'
  else if character = 'r' then some '\r'
  else if character = 't' then some '\t'
  else none

/-- Whether a code unit is the first of a surrogate pair. -/
def isLeading (unit : Nat) : Bool := 0xD800 ≤ unit && unit ≤ 0xDBFF

/-- Whether a code unit is the second of a surrogate pair. -/
def isTrailing (unit : Nat) : Bool := 0xDC00 ≤ unit && unit ≤ 0xDFFF

/-- The character of a surrogate pair. -/
def paired (leading trailing : Nat) : Char :=
  Char.ofNat (0x10000 + (leading - 0xD800) * 0x400 + (trailing - 0xDC00))

/-- The fault of four characters that are no hexadecimal digits: the text may end
before four bytes are there. -/
def badQuad (offset : Nat) (characters : List Char) : Fault :=
  if byteCount (characters.take 4) < 4 then
    .located .unfinishedString (offset + byteCount characters)
  else .located .badEscape (offset + 4)

/-- A string read after its opening quote: the text so far reversed, the offset
after the closing quote, and what follows. -/
structure StringRead where
  text : String
  stop : Nat
  rest : List Char

/-- Reads a string after its opening quote. -/
def readString (offset : Nat) (reversed : List Char) : List Char → Except Fault StringRead
  | [] => .error (.located .unfinishedString offset)
  | '"' :: rest => .ok ⟨String.ofList reversed.reverse, offset + 1, rest⟩
  | '\\' :: 'u' :: first :: second :: third :: fourth :: rest =>
      match hexQuad? first second third fourth with
      | none => .error (badQuad (offset + 2) (first :: second :: third :: fourth :: rest))
      | some unit =>
          if isTrailing unit then .error (.located .loneSurrogate (offset + 6))
          else if isLeading unit then
            match rest with
            | '\\' :: 'u' :: fifth :: sixth :: seventh :: eighth :: rest =>
                match hexQuad? fifth sixth seventh eighth with
                | none =>
                    .error (badQuad (offset + 8) (fifth :: sixth :: seventh :: eighth :: rest))
                | some following =>
                    if isTrailing following then
                      readString (offset + 12) (paired unit following :: reversed) rest
                    else .error (.located .loneSurrogate (offset + 12))
            | '\\' :: 'u' :: rest => .error (badQuad (offset + 8) rest)
            | ['\\'] => .error (.located .unfinishedString (offset + 7))
            | '\\' :: _ => .error (.located .unfinishedSurrogates (offset + 8))
            | [] => .error (.located .unfinishedString (offset + 6))
            | _ :: _ => .error (.located .unfinishedSurrogates (offset + 7))
          else readString (offset + 6) (Char.ofNat unit :: reversed) rest
  | '\\' :: 'u' :: rest => .error (badQuad (offset + 2) rest)
  | ['\\'] => .error (.located .unfinishedString (offset + 1))
  | '\\' :: escaped :: rest =>
      match plainEscape? escaped with
      | some character => readString (offset + 2) (character :: reversed) rest
      | none => .error (.located .badEscape (offset + 2))
  | character :: rest =>
      if character.toNat < 0x20 then .error (.located .controlCharacter (offset + 1))
      else readString (offset + character.utf8Size) (character :: reversed) rest

/-- Skips a string after its opening quote: the offset after it and what follows. -/
def skipString (offset : Nat) : List Char → Except Fault (Nat × List Char)
  | [] => .error (.located .unfinishedString offset)
  | '"' :: rest => .ok (offset + 1, rest)
  | '\\' :: 'u' :: first :: second :: third :: fourth :: rest =>
      match hexQuad? first second third fourth with
      | none => .error (badQuad (offset + 2) (first :: second :: third :: fourth :: rest))
      | some _ => skipString (offset + 6) rest
  | '\\' :: 'u' :: rest => .error (badQuad (offset + 2) rest)
  | ['\\'] => .error (.located .unfinishedString (offset + 1))
  | '\\' :: escaped :: rest =>
      match plainEscape? escaped with
      | some _ => skipString (offset + 2) rest
      | none => .error (.located .badEscape (offset + 2))
  | character :: rest =>
      if character.toNat < 0x20 then .error (.located .controlCharacter offset)
      else skipString (offset + character.utf8Size) rest

/-! ## Numbers -/

/-- The parts of a number as written. -/
structure NumberShape where
  negative : Bool
  whole : List Nat
  fraction : Option (List Nat)
  /-- Whether the exponent is negative, and its digits. -/
  exponent : Option (Bool × List Nat)

/-- The leading decimal digits of a text and what follows them. -/
def takeDigits : List Char → List Nat × List Char
  | [] => ([], [])
  | character :: rest =>
      if '0' ≤ character ∧ character ≤ '9' then
        let (digits, rest) := takeDigits rest
        ((character.toNat - '0'.toNat) :: digits, rest)
      else ([], character :: rest)

/-- A number's significand as read digit by digit, with the power of ten of its last
digit. Digits are taken as long as the significand fits an unsigned number of 64
bits. -/
structure Significand where
  value : Nat
  exponent : Int
  full : Bool

namespace Significand

/-- Whether one more digit still fits. -/
def fits (significand : Significand) (digit : Nat) : Bool :=
  significand.value * 10 + digit < Nat.pow 2 64

/-- Takes a digit in front of the point. When it does not fit, this digit and all
that follow it only raise the exponent. -/
def takeWhole (significand : Significand) (digit : Nat) : Significand :=
  if !significand.full && significand.fits digit then
    { significand with value := significand.value * 10 + digit }
  else { significand with exponent := significand.exponent + 1, full := true }

/-- Takes a digit behind the point. When it does not fit, it and all that follow it
are dropped. -/
def takeFraction (significand : Significand) (digit : Nat) : Significand :=
  if !significand.full && significand.fits digit then
    { significand with
      value := significand.value * 10 + digit, exponent := significand.exponent - 1 }
  else { significand with full := true }

end Significand

/-- The greatest exponent that is read in full. -/
def greatestExponent : Nat := Nat.pow 2 31 - 1

/-- The digits of an exponent as a number, or how many of them were read before the
number passed the greatest exponent. -/
def exponentValue (value count : Nat) : List Nat → Nat ⊕ Nat
  | [] => .inl value
  | digit :: rest =>
      if greatestExponent < value * 10 + digit then .inr (count + 1)
      else exponentValue (value * 10 + digit) (count + 1) rest

namespace NumberShape

/-- The sign put on a magnitude. -/
def signed (shape : NumberShape) (magnitude : Double) : Double :=
  if shape.negative then magnitude.negate else magnitude

/-- The double for a significand and an exponent, or the fault of leaving the range. -/
def scaled (shape : NumberShape) (significand : Nat) (exponent : Int) (stop : Nat) :
    Except Fault JsonNumber :=
  match Double.ofDecimal? significand exponent with
  | some magnitude => .ok (.double (shape.signed magnitude))
  | none => .error (.located .numberOutOfRange stop)

/-- The number a shape stands for. A whole number that fits 64 bits, signed or
unsigned, is an integer; `exponentStart` and `stop` are the offsets of the
exponent's digits and of the end, where leaving the range is noticed. -/
def value (shape : NumberShape) (exponentStart stop : Nat) : Except Fault JsonNumber :=
  let whole := shape.whole.foldl Significand.takeWhole ⟨0, 0, false⟩
  match shape.fraction, shape.exponent with
  | none, none =>
      if whole.full then shape.scaled whole.value whole.exponent stop
      else if !shape.negative then .ok (.integer whole.value)
      else if whole.value = 0 ∨ Nat.pow 2 63 < whole.value then
        .ok (.double (Double.ofNat whole.value).negate)
      else .ok (.integer (-(whole.value : Int)))
  | fraction, exponent =>
      let significand :=
        (fraction.getD []).foldl Significand.takeFraction { whole with full := false }
      match exponent with
      | none => shape.scaled significand.value significand.exponent stop
      | some (negative, digits) =>
          match exponentValue 0 0 digits with
          | .inl exponent =>
              shape.scaled significand.value
                (if negative then significand.exponent - exponent
                 else significand.exponent + exponent) stop
          | .inr count =>
              if significand.value ≠ 0 ∧ !negative then
                .error (.located .numberOutOfRange (exponentStart + count))
              else .ok (.double (shape.signed ⟨0⟩))

end NumberShape

/-- A number read up to its end: its parts, the offsets of the digits of its exponent
and of its end, and what follows. -/
structure NumberRead where
  shape : NumberShape
  exponentStart : Nat
  stop : Nat
  rest : List Char

/-- The faults of a number that lacks a digit where one is required. At the end of the
text strict reading reports an unfinished value; otherwise the offset reported is one
past the character in the digit's place. -/
def missingDigit (offset : Nat) : List Char → Fault × Fault
  | [] => (.located .unfinishedValue offset, .located .badNumber offset)
  | _ :: _ => (.located .badNumber (offset + 1), .located .badNumber (offset + 1))

/-- Reads the exponent of a number, if there is one. -/
def readExponent (negative : Bool) (whole : List Nat) (fraction : Option (List Nat))
    (offset : Nat) : List Char → Except (Fault × Fault) NumberRead
  | mark :: rest =>
      if mark = 'e' ∨ mark = 'E' then
        let sign : Option Bool :=
          match rest with
          | '+' :: _ => some false
          | '-' :: _ => some true
          | _ => none
        let start := offset + 1 + (if sign.isSome then 1 else 0)
        let afterSign := if sign.isSome then rest.drop 1 else rest
        match takeDigits afterSign with
        | ([], _) => .error (missingDigit start afterSign)
        | (digits, rest) =>
            .ok ⟨⟨negative, whole, fraction, some (sign.getD false, digits)⟩, start,
              start + digits.length, rest⟩
      else .ok ⟨⟨negative, whole, fraction, none⟩, offset, offset, mark :: rest⟩
  | [] => .ok ⟨⟨negative, whole, fraction, none⟩, offset, offset, []⟩

/-- Reads what follows the sign of a number. -/
def readUnsigned (negative : Bool) (offset : Nat) (characters : List Char) :
    Except (Fault × Fault) NumberRead :=
  match takeDigits characters with
  | ([], _) => .error (missingDigit offset characters)
  | (0 :: _ :: _, _) =>
      .error (.located .badNumber (offset + 2), .located .badNumber (offset + 2))
  | (whole, rest) =>
      let afterWhole := offset + whole.length
      match rest with
      | '.' :: fractional =>
          match takeDigits fractional with
          | ([], _) => .error (missingDigit (afterWhole + 1) fractional)
          | (fraction, rest) =>
              readExponent negative whole (some fraction) (afterWhole + 1 + fraction.length) rest
      | _ => readExponent negative whole none afterWhole rest

/-- Reads a number from its first character on. -/
def readNumber (offset : Nat) : List Char → Except (Fault × Fault) NumberRead
  | '-' :: rest => readUnsigned true (offset + 1) rest
  | characters => readUnsigned false offset characters

/-! ## Words -/

/-- Reads the characters of a word: the offset after it and what follows, or the fault
at the first character that differs. -/
def readWord (offset : Nat) : List Char → List Char → Except Fault (Nat × List Char)
  | [], rest => .ok (offset, rest)
  | _ :: _, [] => .error (.located .unfinishedValue offset)
  | expected :: word, character :: rest =>
      if character = expected then readWord (offset + 1) word rest
      else .error (.located .wordExpected (offset + 1))

/-! ## Cutting a text -/

/-- A token together with the characters after it; nothing follows a malformed one. -/
def wordToken (start : Nat) (lexeme : Lexeme) (word : List Char) (characters : List Char) :
    Token × List Char :=
  match readWord start word characters with
  | .ok (stop, rest) => (⟨lexeme, start, stop⟩, rest)
  | .error fault => (⟨.malformed fault fault, start, start⟩, [])

/-- A string token, from the characters after its opening quote. -/
def stringToken (start : Nat) (characters : List Char) : Token × List Char :=
  match readString (start + 1) [] characters with
  | .ok read => (⟨.string read.text, start, read.stop⟩, read.rest)
  | .error strict =>
      match skipString (start + 1) characters with
      | .ok (stop, rest) => (⟨.dubiousString strict, start, stop⟩, rest)
      | .error skipping => (⟨.malformedString strict skipping, start, start⟩, [])

/-- A number token, from its first character on. -/
def numberToken (start : Nat) (characters : List Char) : Token × List Char :=
  match readNumber start characters with
  | .error (strict, skipping) => (⟨.malformed strict skipping, start, start⟩, [])
  | .ok read =>
      match read.shape.value read.exponentStart read.stop with
      | .ok value => (⟨.number value, start, read.stop⟩, read.rest)
      | .error strict => (⟨.dubiousNumber strict, start, read.stop⟩, read.rest)

/-- The first token of a text that starts with a character other than white space. -/
def nextToken (start : Nat) (character : Char) (rest : List Char) : Token × List Char :=
  let sign (lexeme : Lexeme) : Token × List Char := (⟨lexeme, start, start + 1⟩, rest)
  match character with
  | '[' => sign .listStart
  | ']' => sign .listEnd
  | '\x7b' => sign .objectStart
  | '\x7d' => sign .objectEnd
  | ',' => sign .comma
  | ':' => sign .colon
  | 'n' => wordToken start .null "null".toList (character :: rest)
  | 't' => wordToken start (.boolean true) "true".toList (character :: rest)
  | 'f' => wordToken start (.boolean false) "false".toList (character :: rest)
  | '"' => stringToken start rest
  | _ =>
      if character = '-' ∨ ('0' ≤ character ∧ character ≤ '9') then
        numberToken start (character :: rest)
      else (⟨.stray, start, start⟩, [])

/-- The tokens of a text from an offset on. A text has at most as many tokens as
characters, so `remaining` is their number at the start. -/
def tokensFrom : Nat → Nat → List Char → List Token
  | 0, _, _ => []
  | _, _, [] => []
  | remaining + 1, offset, character :: rest =>
      if isGap character then tokensFrom remaining (offset + 1) rest
      else
        let (token, rest) := nextToken offset character rest
        token :: tokensFrom remaining token.stop rest

/-- The tokens of a text. -/
def tokens (characters : List Char) : List Token := tokensFrom characters.length 0 characters

end CatalogSql.Json
