/-!
# Punycode

Labels of host names outside ASCII are written in ASCII: first the characters that are
ASCII, then the others in ascending order, each by how far it lies from the one before
it. Distances are numbers of variable length in base 36 whose digit thresholds adapt.
Decoding puts the characters back one after another.
-/

namespace CatalogSql.Url.Punycode

/-- The character of a digit. -/
def digit (value : Nat) : Char :=
  if value < 26 then Char.ofNat (97 + value) else Char.ofNat (22 + value)

/-- The least value that does not end a number at a position. -/
def threshold (bias position : Nat) : Nat :=
  if position ≤ bias then 1 else if bias + 26 ≤ position then 26 else position - bias

/-- Thresholds are positive. -/
theorem threshold_pos (bias position : Nat) : 0 < threshold bias position := by
  unfold threshold
  split
  · omega
  · split <;> omega

/-- A distance as digits from a position on, the lowest first. -/
def number (bias position distance : Nat) : List Char :=
  if distance < threshold bias position then [digit distance]
  else
    digit (threshold bias position +
        (distance - threshold bias position) % (36 - threshold bias position)) ::
      number bias (position + 36)
        ((distance - threshold bias position) / (36 - threshold bias position))
termination_by distance
decreasing_by
  have positive := threshold_pos bias position
  have smaller := Nat.div_le_self (distance - threshold bias position)
    (36 - threshold bias position)
  omega

/-- The bias for a distance that has been scaled, and the position reached. -/
def settledBias (distance position : Nat) : Nat :=
  if 455 < distance then settledBias (distance / 35) (position + 36)
  else position + 36 * distance / (distance + 38)
termination_by distance
decreasing_by exact Nat.div_lt_self (by omega) (by omega)

/-- The bias after a distance has been written. The first one is scaled down more. -/
def nextBias (distance written : Nat) (first : Bool) : Nat :=
  let scaled := if first then distance / 700 else distance / 2
  settledBias (scaled + scaled / written) 0

/-- How far the encoding of a label has come. -/
structure Progress where
  output : List Char
  distance : Nat
  bias : Nat
  written : Nat

/-- Passes a character of the label while a code point is being placed. -/
def pass (code basicCount : Nat) (progress : Progress) (character : Char) : Progress :=
  if character.toNat < code then { progress with distance := progress.distance + 1 }
  else if character.toNat = code then
    { output := progress.output ++ number progress.bias 36 progress.distance
      distance := 0
      bias := nextBias progress.distance (progress.written + 1) (progress.written == basicCount)
      written := progress.written + 1 }
  else progress

/-- Places code points in ascending order, from the least one that may still come. -/
def place (label : List Char) (basicCount : Nat) : List Nat → Nat → Progress → Progress
  | [], _, progress => progress
  | code :: rest, least, progress =>
      let started :=
        { progress with distance := progress.distance + (code - least) * (progress.written + 1) }
      let passed := label.foldl (pass code basicCount) started
      place label basicCount rest (code + 1) { passed with distance := passed.distance + 1 }

/-- The code points of a label outside ASCII, each once and in ascending order. -/
def foreignCodes (label : List Char) : List Nat :=
  ((label.map Char.toNat).filter (128 ≤ ·)).mergeSort.eraseDups

/-- The encoded form of a label. -/
def encoded (label : List Char) : List Char :=
  let basic := label.filter fun character => character.toNat < 128
  let progress := place label basic.length (foreignCodes label) 128
    ⟨[], 0, 72, basic.length⟩
  basic ++ (if basic.isEmpty then [] else ['-']) ++ progress.output

/-! ## Decoding -/

/-- The value of a digit. -/
def digitValue? (character : Char) : Option Nat :=
  if 'a' ≤ character ∧ character ≤ 'z' then some (character.toNat - 97)
  else if '0' ≤ character ∧ character ≤ '9' then some (character.toNat - 22)
  else none

/-- Numbers of encoded labels stay below this one. -/
def numberLimit : Nat := Nat.pow 2 32

/-- Reads a distance whose digits count by their position and weight, and adds it to a
number. Gives the text after it as well. -/
def readNumber? (bias position weight total : Nat) : List Char → Option (Nat × List Char)
  | [] => none
  | character :: rest =>
      match digitValue? character with
      | none => none
      | some value =>
          if numberLimit ≤ total + value * weight then none
          else if value < threshold bias position then some (total + value * weight, rest)
          else if numberLimit ≤ weight * (36 - threshold bias position) then none
          else
            readNumber? bias (position + 36) (weight * (36 - threshold bias position))
              (total + value * weight) rest

/-- Reading a number takes at least one character. -/
theorem length_of_readNumber? {bias position weight total : Nat} {text : List Char}
    {read : Nat × List Char} (found : readNumber? bias position weight total text = some read) :
    read.2.length < text.length := by
  induction text generalizing position weight total with
  | nil => simp [readNumber?] at found
  | cons character rest inductionHypothesis =>
      simp only [readNumber?] at found
      split at found
      · simp at found
      · split at found
        · simp at found
        · split at found
          · simp only [Option.some.injEq] at found
            subst found
            simp
          · split at found
            · simp at found
            · have shorter := inductionHypothesis found
              simp only [List.length_cons]
              omega

/-- Whether a number is the code point of a character. -/
def isCodePoint (code : Nat) : Bool := code < 0xD800 || (0xDFFF < code && code < 0x110000)

/-- Puts the characters that distances stand for into a label. The code point and the
place of a character count on from those of the one before it. -/
def insertAll (bias code place : Nat) (label : List Char) (text : List Char) :
    Option (List Char) :=
  match text with
  | [] => some label
  | character :: rest =>
      match found : readNumber? bias 36 1 place (character :: rest) with
      | none => none
      | some read =>
          let count := label.length + 1
          let code := code + read.1 / count
          let here := read.1 % count
          if isCodePoint code then
            insertAll (nextBias (read.1 - place) count (place == 0)) code (here + 1)
              (label.insertIdx here (Char.ofNat code)) read.2
          else none
termination_by text.length
decreasing_by exact length_of_readNumber? found

/-- Cuts a text at its last hyphen, if one stands after other characters. -/
def cutBasic (text : List Char) : List Char × List Char :=
  let after := (text.reverse.takeWhile (· ≠ '-')).reverse
  if after.length + 1 < text.length then (text.take (text.length - after.length - 1), after)
  else ([], text)

/-- The label with an encoded form in small letters. -/
def decoded? (text : List Char) : Option (List Char) :=
  let (basic, rest) := cutBasic text
  insertAll 72 128 0 basic rest

end CatalogSql.Url.Punycode
