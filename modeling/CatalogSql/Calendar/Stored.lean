import CatalogSql.Calendar.Layout

/-!
# Stored dates

Dates are stored as wall-clock text of whole seconds. Callers may give a date time
with a zone, whose wall clock is kept and whose zone is dropped, or one without; the
fraction of a second is dropped. Projections return dates in a layout of their own.
-/

namespace CatalogSql

namespace Layout

/-- A date with dashes. -/
def date : Layout := [.year, .character '-', .month, .character '-', .day]

/-- A time of the day with colons. -/
def time : Layout := [.hour, .character ':', .minute, .character ':', .second]

/-- The layout dates are stored in. -/
def stored : Layout := date ++ .character 'T' :: time

/-- The layout projections return dates in. -/
def projected : Layout :=
  date ++ .gap :: time ++ [.character ':', .millis, .character 'Z']

/-- A date time without a zone, with a letter between its halves. -/
def lettered : Layout := date ++ .character 'T' :: time ++ [.fraction]

/-- A date time without a zone, with white space or nothing between its halves. -/
def spaced : Layout := date ++ .gap :: time ++ [.fraction]

end Layout

namespace Zoned

/-- Reads an exact number of digits. -/
def readDigits? (count : Nat) (text : List Char) : Option (Nat × List Char) :=
  Layout.readNumber? count count text

/-- Drops one given character. -/
def skip? (expected : Char → Bool) : List Char → Option (List Char)
  | first :: rest => if expected first then some rest else none
  | [] => none

/-- Whether a text is an offset from the zero meridian: the letter for none, or a sign,
hours and minutes that make up less than a day. -/
def isOffset (text : List Char) : Bool :=
  match text with
  | [letter] => letter = 'Z' || letter = 'z'
  | sign :: hours =>
      (sign = '+' || sign = '-' || sign = '−') &&
        match (do
          let (hour, rest) ← readDigits? 2 hours
          let rest ← skip? (· = ':') rest
          let (minute, rest) ← readDigits? 2 rest
          return (hour, minute, rest)) with
        | some (hour, minute, []) => hour < 24 && minute < 60
        | _ => false
  | [] => false

/-- The wall clock of a date time with a zone: every number has its full width, a letter
or a blank stands between date and time, and an offset ends the text. -/
def read? (text : List Char) : Option DateTime := do
  let (year, rest) ← readDigits? 4 text
  let rest ← skip? (· = '-') rest
  let (month, rest) ← readDigits? 2 rest
  let rest ← skip? (· = '-') rest
  let (day, rest) ← readDigits? 2 rest
  let rest ← skip? (fun letter => letter = 'T' || letter = 't' || letter = ' ') rest
  let (hour, rest) ← readDigits? 2 rest
  let rest ← skip? (· = ':') rest
  let (minute, rest) ← readDigits? 2 rest
  let rest ← skip? (· = ':') rest
  let (second, rest) ← readDigits? 2 rest
  let (nanos, rest) ←
    match rest with
    | '.' :: rest => Layout.readFraction? rest
    | _ => some (0, rest)
  if isOffset rest then DateTime.of? year month day hour minute second nanos else none

end Zoned

namespace DateTime

/-- The text a date is stored as. -/
def storedText (moment : DateTime) : String := String.ofList (Layout.stored.write moment)

/-- Reads a date as callers give it: with a zone, or without one in either layout. -/
def ofInput? (text : String) : Option DateTime :=
  (Zoned.read? text.toList).or
    ((Layout.lettered.read? text.toList).or (Layout.spaced.read? text.toList))

/-- Reads a date as a projection returns it. -/
def ofProjected? (text : String) : Option DateTime := Layout.projected.read? text.toList

end DateTime

/-- The stored text of a date as callers give it. -/
def truncateToSeconds? (text : String) : Option String :=
  (DateTime.ofInput? text).map (·.storedText)

end CatalogSql
