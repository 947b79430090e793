import CatalogSql.Generated.Identifier
import CatalogSql.Text.Escaped

/-!
# Tokens of generated code

Generated code is a list of tokens. Its text has one blank between tokens and none
inside round and square brackets.
-/

namespace CatalogSql

/-- The kinds of brackets. -/
inductive Bracket where
  | round
  | square
  | curly
deriving DecidableEq, Repr

namespace Bracket

/-- The opening mark. -/
def opened : Bracket → Char
  | .round => '('
  | .square => '['
  | .curly => '{'

/-- The closing mark. -/
def closed : Bracket → Char
  | .round => ')'
  | .square => ']'
  | .curly => '}'

/-- Whether the marks stand next to what they enclose. -/
def isTight : Bracket → Bool
  | .curly => false
  | _ => true

end Bracket

/-- A token: a fixed word or mark, an identifier, a text, a text without escapes, or a
bracket. -/
inductive Token where
  | plain (word : String)
  | name (identifier : Identifier)
  | text (value : String)
  | verbatim (value : String)
  | opening (bracket : Bracket)
  | closing (bracket : Bracket)
deriving DecidableEq, Repr

namespace Token

/-- Characters as a text holds them. Apostrophes stand as they are, and a NUL is
written at full length where a short escape would take in the digit after it. -/
def escaped : List Char → List Char
  | [] => []
  | character :: rest =>
      (if character = '\x00' ∧ rest.head?.any (fun next => '0' ≤ next ∧ next ≤ '7') then
        ['\\', 'x', '0', '0']
      else Text.shownCharacter character) ++ escaped rest

/-- The written form of a token. -/
def written : Token → List Char
  | .plain word => word.toList
  | .name identifier => identifier.text.toList
  | .text value => '"' :: (escaped value.toList ++ ['"'])
  | .verbatim value => 'r' :: '"' :: (value.toList ++ ['"'])
  | .opening bracket => [bracket.opened]
  | .closing bracket => [bracket.closed]

/-- Whether two tokens next to each other are written without a blank. -/
def joins : Token → Token → Bool
  | .opening bracket, second => bracket.isTight || joinsBefore second
  | _, second => joinsBefore second
where
  joinsBefore : Token → Bool
    | .closing bracket => bracket.isTight
    | _ => false

/-- The characters of the tokens after a token. -/
def writtenAfter (token : Token) : List Token → List Char
  | [] => []
  | next :: rest =>
      (if token.joins next then [] else [' ']) ++ (next.written ++ writtenAfter next rest)

/-- The text of tokens. -/
def textOf : List Token → String
  | [] => ""
  | token :: rest => String.ofList (token.written ++ writtenAfter token rest)

/-- The token for a fixed word or mark. -/
def ofWord (word : List Char) : Token :=
  if word = ['('] then .opening .round
  else if word = [')'] then .closing .round
  else if word = ['['] then .opening .square
  else if word = [']'] then .closing .square
  else .plain (String.ofList word)

/-- The tokens of fixed code whose words have single blanks between them. -/
def code (fixed : String) : List Token := (fixed.toList.splitOn ' ').map ofWord

/-- Tokens in brackets. -/
def within (bracket : Bracket) (tokens : List Token) : List Token :=
  .opening bracket :: (tokens ++ [.closing bracket])

/-- Tokens in round brackets. -/
def inRound : List Token → List Token := within .round

/-- Tokens in square brackets. -/
def inSquare : List Token → List Token := within .square

/-- Tokens in curly brackets. -/
def inCurly : List Token → List Token := within .curly

/-- Lists of tokens with commas between them. -/
def separated (items : List (List Token)) : List Token := List.intercalate [.plain ","] items

end Token

end CatalogSql
