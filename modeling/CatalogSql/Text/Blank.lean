import CatalogSql.Text.CodeSet

/-!
# White space

The characters a reader of dates skips before a number.
-/

namespace CatalogSql.Text

/-- The white space characters. -/
def blank : CodeSet :=
  ⟨[
    (0x9, 0xD), (0x20, 0x20), (0x85, 0x85), (0xA0, 0xA0), (0x1680, 0x1680),
    (0x2000, 0x200A), (0x2028, 0x2029), (0x202F, 0x202F), (0x205F, 0x205F), (0x3000, 0x3000)]⟩

/-- Text without the white space it starts with. -/
def trimStart (text : List Char) : List Char := text.dropWhile blank.contains

end CatalogSql.Text
