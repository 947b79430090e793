import CatalogSql.Json.Value

/-!
# Prepared text

A statement is sent as a text in which the values of callers are numbered
placeholders. Names and literals stand in the text between quotes that are written
twice inside them.
-/

namespace CatalogSql.Sql

/-- A value bound to a placeholder. -/
inductive Param where
  | string (value : String)
  | integer (value : Int64)
  | double (value : Double)
  | json (value : Json)

/-- A part of a statement's text. -/
inductive Piece where
  | words (text : String)
  | identifier (name : String)
  | literal (text : String)
  | param (value : Param)

/-- Text between quotes, a quote inside it written twice. -/
def quote (mark : Char) (text : String) : List Char :=
  mark :: (text.toList.flatMap (fun character =>
    if character = mark then [mark, mark] else [character]) ++ [mark])

namespace Piece

/-- The text of a part, if a placeholder gets the given number. -/
def characters (number : Nat) : Piece → List Char
  | .words text => text.toList
  | .identifier name => quote '"' name
  | .literal text => quote '\'' text
  | .param _ => '$' :: Nat.toDigits 10 number

/-- The value a part binds. -/
def param? : Piece → Option Param
  | .param value => some value
  | _ => none

end Piece

/-- A text, the values bound to its placeholders and the number given last to one.
Placeholders are numbered from one. -/
structure Prepared where
  text : String
  params : List Param
  lastNumber : Nat

namespace Prepared

/-- No text and no values. -/
def empty : Prepared := ⟨"", [], 0⟩

/-- Adds a part at the end; a value takes the next number. -/
def append (prepared : Prepared) (piece : Piece) : Prepared :=
  let number :=
    match piece with
    | .param _ => prepared.lastNumber + 1
    | _ => prepared.lastNumber
  ⟨prepared.text ++ String.ofList (piece.characters number),
    prepared.params ++ piece.param?.toList, number⟩

/-- Adds parts at the end, one after another. -/
def appendAll (prepared : Prepared) (pieces : List Piece) : Prepared :=
  pieces.foldl append prepared

/-- The parts as one text. -/
def ofPieces (pieces : List Piece) : Prepared := empty.appendAll pieces

end Prepared

end CatalogSql.Sql
