import CatalogSql.Text.Compatibility
import CatalogSql.Text.Composition
import CatalogSql.Text.Unprintable

/-!
# The spelling of host names

Names of hosts that differ only in letter case, in the width of letters or in how letters
and marks are put together are the same name. A name is brought to its one spelling
character by character, and then composed. Some characters do not count, others no name
holds.
-/

namespace CatalogSql.Url

open Text

/-- The characters that do not count. -/
def dropped : CodeSet :=
  ⟨[
    (0xAD, 0xAD), (0x34F, 0x34F), (0x115F, 0x1160), (0x17B4, 0x17B5), (0x180B, 0x180F),
    (0x200B, 0x200B), (0x2060, 0x2064), (0x206A, 0x206F), (0x3164, 0x3164), (0xFE00, 0xFE0F),
    (0xFEFF, 0xFEFF), (0xFFA0, 0xFFA0), (0x1BCA0, 0x1BCA3), (0x1D173, 0x1D17A), (0xE0100, 0xE01EF)]⟩

/-- The printable characters that no name holds. -/
def refused : CodeSet :=
  ⟨[
    (0xA8, 0xA8), (0xAF, 0xAF), (0xB4, 0xB4), (0xB8, 0xB8), (0x2D8, 0x2DD),
    (0x37A, 0x37A), (0x384, 0x385), (0x1FBD, 0x1FBD), (0x1FBF, 0x1FC1), (0x1FCD, 0x1FCF),
    (0x1FDD, 0x1FDF), (0x1FED, 0x1FEE), (0x1FFD, 0x1FFE), (0x2017, 0x2017), (0x2024, 0x2026),
    (0x203E, 0x203E), (0x2488, 0x249B), (0x2FF0, 0x2FFF), (0x309B, 0x309C), (0x31EF, 0x31EF),
    (0x33C2, 0x33C2), (0x33C7, 0x33C7), (0x33D8, 0x33D8), (0xFC5E, 0xFC63), (0xFDFA, 0xFDFB),
    (0xFE12, 0xFE12), (0xFE19, 0xFE19), (0xFE30, 0xFE30), (0xFE49, 0xFE4C), (0xFE52, 0xFE52),
    (0xFE70, 0xFE70), (0xFE72, 0xFE72), (0xFE74, 0xFE74), (0xFE76, 0xFE76), (0xFE78, 0xFE78),
    (0xFE7A, 0xFE7A), (0xFE7C, 0xFE7C), (0xFE7E, 0xFE7E), (0xFFE3, 0xFFE3), (0xFFFC, 0xFFFD),
    (0x1F100, 0x1F100)]⟩

/-- Whether a character controls how its neighbours are joined. -/
def isJoiner (character : Char) : Bool := character == '\u200C' || character == '\u200D'

/-- Whether names hold a character. -/
def isHeld (character : Char) : Bool :=
  isJoiner character || (!unprintable.contains character && !refused.contains character)

/-- The letters that are spelled in upper case. -/
def upperSpelled : CodeSet := ⟨[(0x13A0, 0x13F5)]⟩

/-- The spelling of a character: nothing when it does not count, and none when names do
not hold it. -/
def spelling? (character : Char) : Option (List Char) :=
  if dropped.contains character then some []
  else if !isHeld character then none
  else
    match standsFor? character with
    | some text => some text
    | none => some (if upperSpelled.contains character then [character] else lower [character])

/-- Whether a character is spelled as it is. -/
def isSpelled (character : Char) : Bool := spelling? character == some [character]

/-- The one spelling of a name. -/
def spelled? (name : List Char) : Option (List Char) :=
  (name.mapM spelling?).map fun spellings => composed spellings.flatten

end CatalogSql.Url
