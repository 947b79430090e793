import CatalogSql.Text.Unprintable
import CatalogSql.Text.Combining

/-!
# Escaped text

Diagnostics show text between double quotes with escapes, so that every shown
character is visible and stands by itself.
-/

namespace CatalogSql.Text

/-- A character by its code point in lower-case hexadecimal digits. -/
def codePointEscape (character : Char) : List Char :=
  ['\\', 'u', '{'] ++ Nat.toDigits 16 character.toNat ++ ['}']

/-- A character as shown between double quotes. -/
def shownCharacter (character : Char) : List Char :=
  if character = '\x00' then ['\\', '0']
  else if character = '\t' then ['\\', 't']
  else if character = '\r' then ['\\', 'r']
  else if character = '\n' then ['\\', 'n']
  else if character = '"' then ['\\', '"']
  else if character = '\\' then ['\\', '\\']
  else if isCombining character || unprintable.contains character then
    codePointEscape character
  else [character]

/-- Text between double quotes, every character shown. -/
def shown (text : String) : String :=
  String.ofList ('"' :: (text.toList.flatMap shownCharacter ++ ['"']))

end CatalogSql.Text
