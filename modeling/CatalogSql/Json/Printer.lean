import CatalogSql.Json.Value

/-!
# Json text

Two written forms of a json value: compact, without any white space, and indented,
with one item per line and two spaces for each level. Text outside the basic control
characters is written as it is.
-/

namespace CatalogSql.Json

/-- Doubles are written in full for exponents from -5 to 15, and a positive exponent
carries its sign. -/
def doubleLayout : DecimalLayout := ⟨-5, 16, true⟩

/-- The text of a number. -/
def numberText : JsonNumber → String
  | .integer value => toString value
  | .double value => doubleLayout.text value

/-- A character inside a json string. -/
def escapeCharacter (character : Char) : List Char :=
  if character = '"' then ['\\', '"']
  else if character = '\\' then ['\\', '\\']
  else if character = '\x08' then ['\\', 'b']
  else if character = '\t' then ['\\', 't']
  else if character = '\n' then ['\\', 'n']
  else if character = '\x0c' then ['\\', 'f']
  else if character = '\r' then ['\\', 'r']
  else if character.toNat < 0x20 then
    let code := character.toNat
    ['\\', 'u', '0', '0', Nat.digitChar (code / 16), Nat.digitChar (code % 16)]
  else [character]

/-- The characters of a json string, with its quotes. -/
def quoted (text : String) : List Char :=
  '"' :: (text.toList.flatMap escapeCharacter ++ ['"'])

/-- How the parts of a json text are set apart. -/
structure Spacing where
  /-- What stands between the opening bracket of a nonempty container and its content,
  and in front of every further item after its comma, for the content's level. -/
  lineStart : Nat → List Char
  /-- What stands after the colon of an entry. -/
  afterColon : List Char

namespace Spacing

/-- No white space at all. -/
def compact : Spacing := ⟨fun _ => [], []⟩

/-- A line for every item, indented by two spaces for each level. -/
def indented : Spacing := ⟨fun level => '\n' :: List.replicate (2 * level) ' ', [' ']⟩

/-- A container's items between brackets. -/
def enclosed (spacing : Spacing) (level : Nat) (first last : Char) (items : List (List Char)) :
    List Char :=
  match items with
  | [] => [first, last]
  | _ =>
      first :: (spacing.lineStart (level + 1) ++
        List.intercalate (',' :: spacing.lineStart (level + 1)) items ++
        spacing.lineStart level ++ [last])

mutual

/-- The text of a value whose container lies on a level. -/
def valueText (spacing : Spacing) (level : Nat) : Json → List Char
  | .null => "null".toList
  | .boolean true => "true".toList
  | .boolean false => "false".toList
  | .number value => (numberText value).toList
  | .string value => quoted value
  | .array items => spacing.enclosed level '[' ']' (itemTexts spacing (level + 1) items)
  | .object entries => spacing.enclosed level '\x7b' '\x7d' (entryTexts spacing (level + 1) entries)

/-- The texts of the items of an array. -/
def itemTexts (spacing : Spacing) (level : Nat) : List Json → List (List Char)
  | [] => []
  | item :: rest => valueText spacing level item :: itemTexts spacing level rest

/-- The texts of the entries of an object. -/
def entryTexts (spacing : Spacing) (level : Nat) : List (String × Json) → List (List Char)
  | [] => []
  | (key, value) :: rest =>
      (quoted key ++ ':' :: (spacing.afterColon ++ valueText spacing level value)) ::
        entryTexts spacing level rest

end

end Spacing

/-- The compact text of a value. -/
def compactText (value : Json) : String := String.ofList (Spacing.compact.valueText 0 value)

/-- The indented text of a value. -/
def indentedText (value : Json) : String := String.ofList (Spacing.indented.valueText 0 value)

end CatalogSql.Json
