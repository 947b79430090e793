import CatalogSql.Calendar.DateTime
import CatalogSql.Text.Blank

/-!
# Layouts of date times

A layout lists the parts of a date time's text. It says both how a date time is
written and which texts are read: reading accepts white space in front of a number
and fewer digits than writing gives.
-/

namespace CatalogSql

/-- A part of a layout. -/
inductive LayoutPart where
  | character (value : Char)
  | gap
  | year
  | month
  | day
  | hour
  | minute
  | second
  | fraction
  | millis
deriving DecidableEq, Repr

/-- The parts of a date time's text in order. -/
abbrev Layout := List LayoutPart

namespace Layout

/-! ## Writing -/

/-- A number in decimal digits, filled up with zeros in front. -/
def padded (width value : Nat) : List Char :=
  let digits := Nat.toDigits 10 value
  List.replicate (width - digits.length) '0' ++ digits

/-- A year: four digits, and for a year that needs more or precedes the year zero its
sign and at least four digits. -/
def yearText (year : Int) : List Char :=
  if 0 ≤ year ∧ year ≤ 9999 then padded 4 year.toNat
  else (if year < 0 then '-' else '+') :: padded 4 year.natAbs

/-- The fraction of a second after a point, in nine digits. -/
def fractionText (nanos : Nat) : List Char := '.' :: padded 9 nanos

/-- Writes one part. A fraction of zero is left out. -/
def partText (moment : DateTime) : LayoutPart → List Char
  | .character value => [value]
  | .gap => [' ']
  | .year => yearText moment.date.year
  | .month => padded 2 moment.date.month
  | .day => padded 2 moment.date.day
  | .hour => padded 2 moment.hour
  | .minute => padded 2 moment.minute
  | .second => padded 2 moment.second
  | .fraction => if moment.nanos = 0 then [] else fractionText moment.nanos
  | .millis => padded 3 (moment.nanos / 1000000)

/-- Writes a date time. -/
def write (layout : Layout) (moment : DateTime) : List Char :=
  layout.flatMap (partText moment)

/-! ## Reading -/

/-- The numbers read so far, where a number that has not been read is zero. -/
structure Draft where
  year : Int
  month : Nat
  day : Nat
  hour : Nat
  minute : Nat
  second : Nat
  nanos : Nat

/-- Whether a character is a decimal digit. -/
def isDigit (character : Char) : Bool := '0' ≤ character && character ≤ '9'

/-- The number that digits write. -/
def digitsValue (digits : List Char) : Nat :=
  digits.foldl (fun value digit => value * 10 + (digit.toNat - '0'.toNat)) 0

/-- Reads a number of at least `least` digits, taking as many as there are but no more
than `most`. -/
def readNumber? (least most : Nat) (text : List Char) : Option (Nat × List Char) :=
  let digits := (text.take most).takeWhile isDigit
  if digits.length < least then none else some (digitsValue digits, text.drop digits.length)

/-- Reads a year: with a sign any number of digits, without one at most four. -/
def readYear? (text : List Char) : Option (Int × List Char) :=
  match text with
  | '-' :: rest => (readNumber? 1 rest.length rest).map fun read => (-(read.1 : Int), read.2)
  | '+' :: rest => (readNumber? 1 rest.length rest).map fun read => ((read.1 : Int), read.2)
  | _ => (readNumber? 1 4 text).map fun read => ((read.1 : Int), read.2)

/-- Reads digits after a point as nanoseconds: nine of them count. -/
def readFraction? (text : List Char) : Option (Nat × List Char) :=
  let digits := text.takeWhile isDigit
  if digits.isEmpty then none
  else
    let kept := digits.take 9
    some (digitsValue kept * Nat.pow 10 (9 - kept.length), text.drop digits.length)

/-- Reads a number of one or two digits after white space. -/
def readPair? (text : List Char) : Option (Nat × List Char) :=
  readNumber? 1 2 (Text.trimStart text)

/-- Reads one part. -/
def readPart? (draft : Draft) (text : List Char) : LayoutPart → Option (Draft × List Char)
  | .character value =>
      match text with
      | first :: rest => if first = value then some (draft, rest) else none
      | [] => none
  | .gap => some (draft, Text.trimStart text)
  | .year =>
      (readYear? (Text.trimStart text)).map fun read => ({ draft with year := read.1 }, read.2)
  | .month => (readPair? text).map fun read => ({ draft with month := read.1 }, read.2)
  | .day => (readPair? text).map fun read => ({ draft with day := read.1 }, read.2)
  | .hour => (readPair? text).map fun read => ({ draft with hour := read.1 }, read.2)
  | .minute => (readPair? text).map fun read => ({ draft with minute := read.1 }, read.2)
  | .second => (readPair? text).map fun read => ({ draft with second := read.1 }, read.2)
  | .fraction =>
      match text with
      | '.' :: rest =>
          (readFraction? rest).map fun read => ({ draft with nanos := read.1 }, read.2)
      | _ => some (draft, text)
  | .millis =>
      (readNumber? 3 3 text).map fun read => ({ draft with nanos := read.1 * 1000000 }, read.2)

/-- Reads the parts of a layout one after another. -/
def readParts? (draft : Draft) (text : List Char) : Layout → Option (Draft × List Char)
  | [] => some (draft, text)
  | part :: rest =>
      match readPart? draft text part with
      | some (draft, text) => readParts? draft text rest
      | none => none

namespace Draft

/-- A draft without numbers. -/
def empty : Draft := ⟨0, 0, 0, 0, 0, 0, 0⟩

/-- The date time of a draft, if its numbers name one. -/
def dateTime? (draft : Draft) : Option DateTime :=
  DateTime.of? draft.year draft.month draft.day draft.hour draft.minute draft.second draft.nanos

end Draft

/-- Reads a date time that makes up a whole text. -/
def read? (layout : Layout) (text : List Char) : Option DateTime :=
  match readParts? .empty text layout with
  | some (draft, []) => draft.dateTime?
  | _ => none

end Layout

end CatalogSql
