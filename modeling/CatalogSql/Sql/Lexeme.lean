import CatalogSql.Text.Blank

/-!
# Lexemes of statements

The text of a statement cut into lexemes, none of which is empty, so that the lexemes
joined again are the text. A quoted part is one lexeme, whatever it holds; a mark inside
it is written twice or follows a backslash.
-/

namespace CatalogSql.Sql

/-- What a lexeme is to the layout of a statement. -/
inductive LexemeKind where
  | blank
  | comment
  /-- An opening parenthesis. -/
  | opening
  /-- A closing parenthesis. -/
  | closing
  /-- A word that starts a clause. -/
  | clause
  /-- A word that connects conditions. -/
  | connective
  | comma
  | point
  | other
deriving DecidableEq, Repr

/-- A piece of the text of a statement. -/
structure Lexeme where
  kind : LexemeKind
  text : List Char
deriving DecidableEq, Repr

namespace Lexeme

/-- The words that start a clause. -/
def clauseWords : List String :=
  ["ADD", "AFTER", "EXCEPT", "FROM", "GO", "HAVING", "INSERT", "LIMIT", "MODIFY", "RETURNING",
    "SELECT", "SET", "UPDATE", "VALUES", "WHERE"]

/-- The words that connect conditions, tables and cases. -/
def connectiveWords : List String := ["AND", "ELSE", "JOIN", "OR", "WHEN", "XOR"]

/-- Whether a character may stand in a word. -/
def inWord (character : Char) : Bool :=
  character.isAlphanum || character == '_' ||
    (0x80 ≤ character.toNat && !Text.blank.contains character)

/-- How many characters a quoted part takes after its opening mark, the closing mark
included. A closing mark after one of the escapes belongs to the part. -/
def quotedLength? (mark : Char) (escapes : List Char) : List Char → Option Nat
  | [] => none
  | [last] => if last = mark then some 1 else none
  | first :: second :: rest =>
      if escapes.contains first ∧ second = mark then
        (quotedLength? mark escapes rest).map (· + 2)
      else if first = mark then some 1
      else (quotedLength? mark escapes (second :: rest)).map (· + 1)

/-- How many characters of a comment follow its first two. -/
def commentLength : List Char → Nat
  | '*' :: '/' :: _ => 2
  | _ :: rest => commentLength rest + 1
  | [] => 0

/-- The closing mark of a quoted part, and what escapes it inside. -/
def quotation? (first : Char) : Option (Char × List Char) :=
  if first = '"' then some ('"', ['"', '\\'])
  else if first = '\'' then some ('\'', ['\'', '\\'])
  else if first = '\x60' then some ('\x60', ['\x60'])
  else if first = '[' then some (']', [']'])
  else none

/-- The kind of a word. After a point every word is a name. -/
def wordKind (afterPoint : Bool) (word : List Char) : LexemeKind :=
  let capitals := String.ofList (word.map Char.toUpper)
  if afterPoint then .other
  else if clauseWords.contains capitals then .clause
  else if connectiveWords.contains capitals then .connective
  else .other

/-- The kind of the lexeme that a character starts, and how many characters after it
belong to the lexeme. -/
def classify (afterPoint : Bool) (first : Char) (rest : List Char) : LexemeKind × Nat :=
  let takes (kind : LexemeKind) (isMember : Char → Bool) : LexemeKind × Nat :=
    (kind, (rest.takeWhile isMember).length)
  if Text.blank.contains first then takes .blank Text.blank.contains
  else if first = '#' ∨ (first = '-' ∧ rest.head? = some '-') then takes .comment (· ≠ '\n')
  else if first = '/' ∧ rest.head? = some '*' then (.comment, commentLength (rest.drop 1) + 1)
  else
    match (quotation? first).bind fun marks => quotedLength? marks.1 marks.2 rest with
    | some length => (.other, length)
    | none =>
        if first = '(' then (.opening, 0)
        else if first = ')' then (.closing, 0)
        else if first = ',' then (.comma, 0)
        else if first = '.' then (.point, 0)
        else if first.isDigit ∨ first = '$' then takes .other Char.isDigit
        else if inWord first then
          (wordKind afterPoint (first :: rest.takeWhile inWord),
            (rest.takeWhile inWord).length)
        else (.other, 0)

/-- The lexemes of a text. -/
def ofChars (afterPoint : Bool) (text : List Char) : List Lexeme :=
  match text with
  | [] => []
  | first :: rest =>
      let (kind, length) := classify afterPoint first rest
      ⟨kind, first :: rest.take length⟩ :: ofChars (kind = .point) (rest.drop length)
termination_by text.length
decreasing_by
  simp only [List.length_drop, List.length_cons]
  omega

/-- The lexemes of a statement. -/
def ofText (text : String) : List Lexeme := ofChars false text.toList

end Lexeme

end CatalogSql.Sql
