import CatalogSql.Sql.Lexeme

/-!
# Statements over several lines

A statement is laid out for reading. Clauses and the operands of connectives start new
lines; what stands in parentheses is indented, unless it is short and holds neither. No
lexeme but white space is lost or changed.
-/

namespace CatalogSql.Sql

/-- What a line is indented for. -/
inductive Indent where
  | clause
  | parentheses
deriving DecidableEq, Repr

/-- The text laid out so far, last character first, and what the next line depends on. -/
structure Layout where
  reversed : List Char
  /-- The innermost comes first. -/
  indents : List Indent
  /-- The open parentheses whose content stays on one line. -/
  inlineDepth : Nat
  /-- Whether the last word that starts a clause or connects was a limit. -/
  inLimit : Bool
deriving Repr

namespace Layout

/-- Before the first lexeme. -/
def start : Layout := ⟨[], [], 0, false⟩

/-- The greatest length of parentheses that stay on one line, in bytes. -/
def greatestInline : Nat := 50

/-- Without the blanks at the end of the text. -/
def trimmed (layout : Layout) : Layout :=
  { layout with reversed := layout.reversed.dropWhile fun c => c == ' ' || c == '\t' }

/-- With a text after that so far. -/
def write (layout : Layout) (text : List Char) : Layout :=
  { layout with reversed := text.reverse ++ layout.reversed }

/-- On a new line. -/
def newLine (layout : Layout) : Layout :=
  let trimmed := layout.trimmed
  let ended := if trimmed.reversed.head? = some '\n' then trimmed else trimmed.write ['\n']
  ended.write (List.replicate (2 * layout.indents.length) ' ')

/-- Without the indent of the clause before. -/
def leaveClause (layout : Layout) : Layout :=
  match layout.indents with
  | .clause :: rest => { layout with indents := rest }
  | _ => layout

/-- The indents around the innermost parentheses. -/
def outside : List Indent → List Indent
  | [] => []
  | .parentheses :: rest => rest
  | .clause :: rest => outside rest

/-- Whether the parentheses that lexemes start with stay on one line; `length` bytes
and `depth` parentheses have been seen. -/
def isInline (length depth : Nat) : List Lexeme → Bool
  | [] => false
  | lexeme :: rest =>
      let length := length + (String.ofList lexeme.text).utf8ByteSize
      if greatestInline < length then false
      else
        match lexeme.kind with
        | .opening => isInline length (depth + 1) rest
        | .closing => depth ≤ 1 || isInline length (depth - 1) rest
        | .clause | .connective | .comment => false
        | _ => isInline length depth rest

/-- Lays out an opening parenthesis; `lexemes` start with it. Blanks in front of it are
kept only if the statement has some. -/
def openParentheses (layout : Layout) (before : Option LexemeKind) (lexemes : List Lexeme) :
    Layout :=
  let keepsBlanks := before = some .blank ∨ before = some .opening ∨ before = some .comment
  let written := (if keepsBlanks then layout else layout.trimmed).write ['(']
  if 0 < layout.inlineDepth ∨ isInline 0 0 lexemes then
    { written with inlineDepth := layout.inlineDepth + 1 }
  else newLine { written with indents := .parentheses :: layout.indents }

/-- Lays out a closing parenthesis. -/
def closeParentheses (layout : Layout) : Layout :=
  if 0 < layout.inlineDepth then
    { layout.trimmed.write [')', ' '] with inlineDepth := layout.inlineDepth - 1 }
  else (newLine { layout with indents := outside layout.indents }).write [')', ' ']

/-- Lays out the first of some lexemes. -/
def step (layout : Layout) (before : Option LexemeKind) (lexeme : Lexeme) (rest : List Lexeme) :
    Layout :=
  match lexeme.kind with
  | .blank => layout
  | .comment => (layout.write lexeme.text).newLine
  | .opening => layout.openParentheses before (lexeme :: rest)
  | .closing => layout.closeParentheses
  | .clause =>
      let left := layout.leaveClause
      let written := left.newLine.write lexeme.text
      newLine { written with
        indents := .clause :: left.indents
        inLimit := lexeme.text.map Char.toUpper == "LIMIT".toList }
  | .connective => { layout.newLine.write (lexeme.text ++ [' ']) with inLimit := false }
  | .comma =>
      let written := layout.trimmed.write [',', ' ']
      if 0 < layout.inlineDepth ∨ layout.inLimit then written else written.newLine
  | .point => layout.trimmed.write lexeme.text
  | .other => layout.write (lexeme.text ++ [' '])

/-- Lays out lexemes one after the other. -/
def run (layout : Layout) (before : Option LexemeKind) : List Lexeme → Layout
  | [] => layout
  | lexeme :: rest => (layout.step before lexeme rest).run (some lexeme.kind) rest

/-- The text laid out, without white space around it. -/
def text (layout : Layout) : String :=
  let untrailed := (layout.reversed.dropWhile Text.blank.contains).reverse
  String.ofList (untrailed.dropWhile Text.blank.contains)

end Layout

/-- A statement over several lines. -/
def laidOut (statement : String) : String :=
  (Layout.start.run none (Lexeme.ofText statement)).text

end CatalogSql.Sql
