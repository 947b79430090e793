import CatalogSql.Json.Printer
import CatalogSql.Text.Escaped

/-!
# Json faults

Why a json text was refused, and where. A fault found in a text carries a byte
offset, or tells how far reading went on before the place was noted. A fault found
in a value has no place.
-/

namespace CatalogSql.Json

/-- What stood where something else was expected. -/
inductive Found where
  | null
  | boolean (value : Bool)
  | number (value : JsonNumber)
  | string (value : String)
  | sequence
  | map

namespace Found

/-- The words for what was found. -/
def text : Found → String
  | .null => "null"
  | .boolean value => "boolean `" ++ (if value then "true" else "false") ++ "`"
  | .number (.integer value) => "integer `" ++ toString value ++ "`"
  | .number (.double value) => "floating point `" ++ doubleLayout.text value ++ "`"
  | .string value => "string " ++ Text.shown value
  | .sequence => "sequence"
  | .map => "map"

end Found

/-- Why a json text or value was refused. -/
inductive Cause where
  | unfinishedList
  | unfinishedObject
  | unfinishedString
  | unfinishedValue
  | colonExpected
  | listCommaExpected
  | objectCommaExpected
  | wordExpected
  | valueExpected
  | badEscape
  | badNumber
  | numberOutOfRange
  | controlCharacter
  | keyExpected
  | loneSurrogate
  | trailingComma
  | trailingCharacters
  | unfinishedSurrogates
  | nestedTooDeep
  | wrongType (found : Found) (expected : String)
  | wrongValue (found : Found) (expected : String)
  | wrongLength (length : Nat) (expected : String)
  | unknownVariant (name : String) (variants : List String)
  | missingField (name : String)
  | duplicateField (name : String)
  | noVariant (type : String)

namespace Cause

/-- The names a value could have had. -/
def variantsText : List String → String
  | [] => "there are no variants"
  | [only] => "expected `" ++ only ++ "`"
  | [first, second] => "expected `" ++ first ++ "` or `" ++ second ++ "`"
  | variants => "expected one of " ++ ", ".intercalate (variants.map fun name => "`" ++ name ++ "`")

/-- The words for a cause. -/
def text : Cause → String
  | .unfinishedList => "EOF while parsing a list"
  | .unfinishedObject => "EOF while parsing an object"
  | .unfinishedString => "EOF while parsing a string"
  | .unfinishedValue => "EOF while parsing a value"
  | .colonExpected => "expected `:`"
  | .listCommaExpected => "expected `,` or `]`"
  | .objectCommaExpected => "expected `,` or `\x7d`"
  | .wordExpected => "expected ident"
  | .valueExpected => "expected value"
  | .badEscape => "invalid escape"
  | .badNumber => "invalid number"
  | .numberOutOfRange => "number out of range"
  | .controlCharacter => "control character (\\u0000-\\u001F) found while parsing a string"
  | .keyExpected => "key must be a string"
  | .loneSurrogate => "lone leading surrogate in hex escape"
  | .trailingComma => "trailing comma"
  | .trailingCharacters => "trailing characters"
  | .unfinishedSurrogates => "unexpected end of hex escape"
  | .nestedTooDeep => "recursion limit exceeded"
  | .wrongType found expected => "invalid type: " ++ found.text ++ ", expected " ++ expected
  | .wrongValue found expected => "invalid value: " ++ found.text ++ ", expected " ++ expected
  | .wrongLength length expected =>
      "invalid length " ++ toString length ++ ", expected " ++ expected
  | .unknownVariant name variants =>
      "unknown variant `" ++ name ++ "`, " ++ variantsText variants
  | .missingField name => "missing field `" ++ name ++ "`"
  | .duplicateField name => "duplicate field `" ++ name ++ "`"
  | .noVariant type => "data did not match any variant of untagged enum " ++ type

end Cause

/-- Where a fault lies: nowhere yet, at an offset, or where reading stood after it
tried to finish the list or object around a given offset. -/
inductive Place where
  | unplaced
  | offset (bytes : Nat)
  | closingList (bytes : Nat)
  | closingObject (bytes : Nat)
deriving DecidableEq, Repr

/-- A cause and its place. -/
structure Fault where
  cause : Cause
  place : Place

namespace Fault

/-- A fault at a byte offset. -/
def located (cause : Cause) (bytes : Nat) : Fault := ⟨cause, .offset bytes⟩

/-- A fault without a place. -/
def free (cause : Cause) : Fault := ⟨cause, .unplaced⟩

/-- Gives a fault without a place the one offered. -/
def orAt (fault : Fault) (place : Place) : Fault :=
  if fault.place = .unplaced then { fault with place := place } else fault

end Fault

/-- Whether a character is white space between json tokens. -/
def isGap (character : Char) : Bool :=
  character = ' ' || character = '\n' || character = '\t' || character = '\r'

/-- The number of bytes of characters in their usual encoding. -/
def byteCount : List Char → Nat
  | [] => 0
  | character :: rest => character.utf8Size + byteCount rest

/-- The characters from a byte offset on. -/
def dropBytes : Nat → List Char → List Char
  | 0, characters => characters
  | _, [] => []
  | bytes + 1, character :: rest => dropBytes (bytes + 1 - character.utf8Size) rest

/-- How many bytes of white space a text starts with. -/
def gapSize (characters : List Char) : Nat := (characters.takeWhile isGap).length

namespace Place

/-- The offset where reading stood after trying to close a list. -/
def afterClosingList (characters : List Char) (start : Nat) : Nat :=
  let rest := dropBytes start characters
  let next := start + gapSize rest
  match rest.dropWhile isGap with
  | ']' :: _ => next + 1
  | ',' :: following => next + 1 + gapSize following
  | _ => next

/-- The offset where reading stood after trying to close an object. -/
def afterClosingObject (characters : List Char) (start : Nat) : Nat :=
  let rest := dropBytes start characters
  let next := start + gapSize rest
  match rest.dropWhile isGap with
  | '\x7d' :: _ => next + 1
  | _ => next

/-- The offset of a place in a text. -/
def resolve? (characters : List Char) : Place → Option Nat
  | .unplaced => none
  | .offset bytes => some bytes
  | .closingList start => some (afterClosingList characters start)
  | .closingObject start => some (afterClosingObject characters start)

/-- The line, from one, and the column reached after the given number of bytes. -/
def lineAndColumn : Nat → List Char → Nat × Nat → Nat × Nat
  | 0, _, reached => reached
  | bytes, [], (line, column) => (line, column + bytes)
  | bytes + 1, character :: rest, (line, column) =>
      if character = '\n' then lineAndColumn bytes rest (line + 1, 0)
      else
        lineAndColumn (bytes + 1 - character.utf8Size) rest
          (line, column + min (bytes + 1) character.utf8Size)

end Place

/-- A fault as told to a caller who gave a text: its words and its line and column. -/
structure TextFault where
  message : String
  line : Nat
  column : Nat
deriving DecidableEq, Repr

namespace TextFault

/-- The words with the place. -/
def text (fault : TextFault) : String :=
  if fault.line = 0 then fault.message
  else fault.message ++ " at line " ++ toString fault.line ++ " column " ++ toString fault.column

end TextFault

namespace Fault

/-- The fault in terms of the lines of a text. -/
def inText (fault : Fault) (characters : List Char) : TextFault :=
  match fault.place.resolve? characters with
  | none => ⟨fault.cause.text, 0, 0⟩
  | some bytes =>
      let (line, column) := Place.lineAndColumn bytes characters (1, 0)
      ⟨fault.cause.text, line, column⟩

end Fault

end CatalogSql.Json
