import CatalogSql.Text.Direction
import CatalogSql.Text.Joining
import CatalogSql.Url.Punycode
import CatalogSql.Url.Spelling

/-!
# Labels of host names

A name consists of labels with points between them. Labels outside ASCII have a form in
ASCII that starts with a mark of its own; either form names the same host. A label must
be readable: it starts with no mark, joiners stand where letters join, and letters that
are written from the right do not mix with others.
-/

namespace CatalogSql.Url

open Text

/-- A label in its one spelling, outside ASCII where it can be. -/
abbrev Label := List Char

namespace Label

/-- What the ASCII form of a label outside ASCII starts with. -/
def encodedMark : List Char := ['x', 'n', '-', '-']

/-- The greatest length of an encoded label after its mark. -/
def encodedLimit : Nat := 2000

/-- The greatest length of a label that is to be encoded. -/
def foreignLimit : Nat := 1000

/-- Whether a label is its own ASCII form. -/
def isAscii (label : Label) : Bool := label.all (·.toNat < 128)

/-- The label whose ASCII form follows the mark. It must be in its one spelling. -/
def ofEncoded? (encoded : List Char) : Option Label :=
  if !isAscii encoded || encoded.getLast?.all (· == '-') || encodedLimit < encoded.length then none
  else
    (Punycode.decoded? encoded).filter fun label =>
      label.all isSpelled && composed label == label

/-- The label for a part of a spelled name. -/
def ofSpelled? (part : List Char) : Option Label :=
  if encodedMark.isPrefixOf part then ofEncoded? (part.drop encodedMark.length) else some part

/-- The form in ASCII. -/
def ascii (label : Label) : List Char :=
  if label.isAscii then label else encodedMark ++ Punycode.encoded label

/-! ## Joiners -/

/-- The class of the signs that end a syllable. -/
def syllableEnd : Nat := 9

/-- Whether a joiner may stand between the characters before it, last first, and those
after it. -/
def admitsJoiner (joiner : Char) (before after : List Char) : Bool :=
  match before with
  | [] => false
  | last :: _ =>
      orderClass last == syllableEnd ||
        (joiner == '\u200C' &&
          (before.dropWhile isTransparent).head?.any joinsNext &&
          (after.dropWhile isTransparent).head?.any joinsPrevious)

/-- Whether the joiners of a label that goes on after some characters, last first, stand
where they may. -/
def joinsWell (before : List Char) : List Char → Bool
  | [] => true
  | character :: rest =>
      (!isJoiner character || admitsJoiner character before rest) &&
        joinsWell (character :: before) rest

/-- Whether a label can be read by itself. -/
def isSound (label : Label) : Bool :=
  !label.head?.any isMark && joinsWell [] label && (label.isAscii || label.length ≤ foreignLimit)

/-! ## Directions -/

/-- Whether a label holds characters that are written from the right. -/
def hasFromRight (label : Label) : Bool :=
  label.any fun character =>
    Direction.ofChar character == .fromRight || Direction.ofChar character == .arabicNumber

/-- Whether directions may follow the first letter of a label written from the left. -/
def runsFromLeft (directions : List Direction) : Bool :=
  directions.all fun direction =>
    direction != .fromRight && direction != .arabicNumber

/-- Whether directions may follow the first letter of a label written from the right:
numbers are of one kind. -/
def runsFromRight (directions : List Direction) : Bool :=
  !directions.contains .fromLeft &&
    !(directions.contains .arabicNumber && directions.contains .europeanNumber)

/-- The last direction that is not that of a mark. -/
def lastDirection? (directions : List Direction) : Option Direction :=
  directions.reverse.find? (· != .mark)

/-- Whether a label has one direction from its first letter to its last one. -/
def hasOneDirection (label : Label) : Bool :=
  let directions := label.map Direction.ofChar
  match directions with
  | [] => true
  | .fromLeft :: rest =>
      runsFromLeft rest && (lastDirection? rest).all fun last =>
        last == .fromLeft || last == .europeanNumber
  | .fromRight :: rest =>
      runsFromRight rest && (lastDirection? rest).all fun last =>
        last == .fromRight || last == .arabicNumber || last == .europeanNumber
  | _ => false

end Label

/-! ## Names -/

/-- The ASCII form of a name, if it names a host. When some label is written from the
right, every label must have one direction. -/
def asciiName? (name : List Char) : Option (List Char) := do
  let labels ← ((← spelled? name).splitOn '.').mapM Label.ofSpelled?
  if labels.all Label.isSound &&
      (!labels.any Label.hasFromRight || labels.all Label.hasOneDirection) then
    some (List.intercalate ['.'] (labels.map Label.ascii))
  else none

end CatalogSql.Url
