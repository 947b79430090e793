/-!
# Character sets

Properties of characters are sets of code points given by ranges.
-/

namespace CatalogSql.Text

/-- A set of code points as ranges, both ends included. -/
structure CodeSet where
  ranges : List (Nat × Nat)

namespace CodeSet

/-- Whether a character belongs to the set. -/
def contains (set : CodeSet) (character : Char) : Bool :=
  set.ranges.any fun range => range.1 ≤ character.toNat && character.toNat ≤ range.2

end CodeSet

end CatalogSql.Text
