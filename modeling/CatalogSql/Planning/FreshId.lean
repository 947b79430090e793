/-!
# Fresh identifiers

Identifiers of new rows are ordered by the time they were made: 48 bits of milliseconds
come first, random bits follow, and two fields tell the kind of identifier.
-/

namespace CatalogSql

/-- What an identifier is made from: milliseconds since 1970 and random bits, of which
twelve stand beside the version and sixty-two beside the variant. -/
structure FreshId where
  milliseconds : UInt64
  upperRandom : UInt16
  lowerRandom : UInt64
deriving DecidableEq, Repr

namespace FreshId

/-- A number in hexadecimal digits of a given count. -/
def hexadecimal (count value : Nat) : List Char :=
  (List.range count).reverse.map fun position => Nat.digitChar (value / Nat.pow 16 position % 16)

/-- The text of an identifier: version seven, in groups of 8, 4, 4, 4 and 12 digits. -/
def text (id : FreshId) : String :=
  let time := id.milliseconds.toNat
  let lower := id.lowerRandom.toNat
  String.ofList
    (hexadecimal 8 (time / Nat.pow 2 16) ++ '-' :: hexadecimal 4 time ++
      '-' :: '7' :: hexadecimal 3 id.upperRandom.toNat ++
      '-' :: hexadecimal 4 (Nat.pow 2 15 + lower / Nat.pow 2 48 % Nat.pow 2 14) ++
      '-' :: hexadecimal 12 lower)

end FreshId

end CatalogSql
