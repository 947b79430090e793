/-!
# Percent encoding

A byte that may not stand in a part of an address is written as a percent sign and two
hexadecimal digits. Which characters are encoded depends on the part; those outside
ASCII always are.
-/

namespace CatalogSql.Url

/-- Whether a character is a control character or lies outside ASCII. -/
def isControl (character : Char) : Bool := character.toNat < 0x20 || 0x7E < character.toNat

/-- What is encoded in fragments. -/
def inFragment (character : Char) : Bool :=
  isControl character || [' ', '"', '<', '>', '`'].contains character

/-- What is encoded in paths. -/
def inPath (character : Char) : Bool :=
  inFragment character || ['#', '?', '\x7b', '\x7d'].contains character

/-- What is encoded in names and passwords. -/
def inCredentials (character : Char) : Bool :=
  inPath character || ['/', ':', ';', '=', '@', '[', '\\', ']', '^', '|'].contains character

/-- What is encoded in queries. In special schemes apostrophes are encoded too. -/
def inQuery (special : Bool) (character : Char) : Bool :=
  isControl character || [' ', '"', '#', '<', '>'].contains character ||
    (special && character == '\'')

/-- The capital hexadecimal digit of a value below sixteen. -/
def capitalDigit (value : Nat) : Char :=
  if value < 10 then Char.ofNat (48 + value) else Char.ofNat (55 + value)

/-- A byte as a percent sign and two digits. -/
def escapedByte (byte : UInt8) : List Char :=
  ['%', capitalDigit (byte.toNat / 16), capitalDigit (byte.toNat % 16)]

/-- Encodes the characters of a set. -/
def percentEncoded (encoded : Char → Bool) (text : List Char) : List Char :=
  text.flatMap fun character =>
    if encoded character then (String.utf8EncodeChar character).flatMap escapedByte
    else [character]

/-- The value of a hexadecimal digit. -/
def digitValue? (character : Char) : Option Nat :=
  if '0' ≤ character ∧ character ≤ '9' then some (character.toNat - 48)
  else if 'A' ≤ character ∧ character ≤ 'F' then some (character.toNat - 55)
  else if 'a' ≤ character ∧ character ≤ 'f' then some (character.toNat - 87)
  else none

/-- The bytes of a text after percent signs with two digits have been decoded. -/
def percentDecodedBytes : List Char → List UInt8
  | '%' :: first :: second :: rest =>
      match digitValue? first, digitValue? second with
      | some high, some low => UInt8.ofNat (16 * high + low) :: percentDecodedBytes rest
      | _, _ => '%'.toUInt8 :: percentDecodedBytes (first :: second :: rest)
  | character :: rest => String.utf8EncodeChar character ++ percentDecodedBytes rest
  | [] => []

/-- The text that was percent encoded, if its bytes are one. -/
def percentDecoded? (text : List Char) : Option (List Char) :=
  (String.fromUTF8? ⟨(percentDecodedBytes text).toArray⟩).map String.toList

end CatalogSql.Url
