import CatalogSql.Proofs.Sql.Separation
import CatalogSql.Proofs.Sql.Wrapping

/-!
# Restricted statements

A statement is restricted when its text has a condition clause outside its quoted parts.
No other word of a planned statement holds the letter that starts the clause's word, so
one clause between parts without that letter decides the question.
-/

namespace CatalogSql.Sql

/-- Whether a text has a condition clause outside its quoted parts. -/
def IsRestricted (text : String) : Prop :=
  " WHERE ".toList.map Token.character <:+: scan text.toList

/-- Parts without the letter that starts the word of a condition clause, quoted parts
aside. -/
def Quiet (pieces : List Piece) : Prop := Token.character 'W' ∉ tokens pieces

namespace Quiet

variable {pieces before after : List Piece}

/-- Nothing is quiet. -/
theorem nil : Quiet [] := List.not_mem_nil

/-- Words without a capital `W` are quiet. -/
theorem words {text : String} (quiet : text.toList.contains 'W' = false) (rest : Quiet pieces) :
    Quiet (.words text :: pieces) := by
  intro mem
  rcases List.mem_append.mp mem with inWords | inRest
  · obtain ⟨character, held, same⟩ := List.mem_map.mp inWords
    injection same with isLetter
    have contained := List.contains_iff_mem.mpr held
    rw [isLetter, quiet] at contained
    cases contained
  · exact rest inRest

/-- A quoted name is quiet whatever it holds. -/
theorem identifier (name : String) (rest : Quiet pieces) : Quiet (.identifier name :: pieces) := by
  intro mem
  rcases List.mem_cons.mp mem with same | inRest
  · cases same
  · exact rest inRest

/-- A quoted literal is quiet whatever it holds. -/
theorem literal (text : String) (rest : Quiet pieces) : Quiet (.literal text :: pieces) := by
  intro mem
  rcases List.mem_cons.mp mem with same | inRest
  · cases same
  · exact rest inRest

/-- A placeholder is quiet. -/
theorem param (value : Param) (rest : Quiet pieces) : Quiet (.param value :: pieces) := by
  intro mem
  rcases List.mem_cons.mp mem with same | inRest
  · cases same
  · exact rest inRest

/-- Quiet pieces one after another are quiet. -/
theorem append (first : Quiet before) (second : Quiet after) : Quiet (before ++ after) := by
  intro mem
  rw [tokens_append] at mem
  rcases List.mem_append.mp mem with inFirst | inSecond
  · exact first inFirst
  · exact second inSecond

/-- Items rendered quietly are quiet together. -/
theorem flatMap {Element : Type} {render : Element → List Piece} {items : List Element}
    (each : ∀ item ∈ items, Quiet (render item)) : Quiet (items.flatMap render) := by
  induction items with
  | nil => exact .nil
  | cons item rest ih =>
      rw [List.flatMap_cons]
      exact (each item (by simp)).append (ih fun other mem => each other (List.mem_cons_of_mem _ mem))

/-- Quiet items separated by commas are quiet. -/
theorem commaSeparated {items : List (List Piece)} (each : ∀ item ∈ items, Quiet item) :
    Quiet (commaSeparated items) := by
  cases items with
  | nil => exact .nil
  | cons item rest =>
      rw [commaSeparated_cons]
      refine (each item (by simp)).append (.flatMap ?_)
      intro other mem
      exact .words rfl (each other (List.mem_cons_of_mem _ mem))

/-- A table reference is quiet. -/
theorem tableReference (reference : TableReference) : Quiet reference.pieces := by
  cases reference with
  | stored schema table => exact .identifier schema (.words rfl (.identifier table .nil))
  | aliased name => exact .identifier name .nil

/-- A column reference is quiet. -/
theorem columnReference (reference : ColumnReference) : Quiet reference.pieces := by
  cases reference with
  | qualified table name =>
      exact (tableReference table).append (.words rfl (.identifier name .nil))
  | plain name => exact .identifier name .nil

/-- A `LIMIT` or `OFFSET` clause is quiet. -/
theorem countPieces {words : String} (quiet : words.toList.contains 'W' = false)
    (count : Option UInt32) :
    Quiet (countPieces words count) := by
  cases count with
  | none => exact .nil
  | some count =>
      have noDigits : count.toNat.repr.toList.contains 'W' = false := by
        rw [← Bool.not_eq_true, List.contains_iff_mem, Nat.toList_repr]
        intro mem
        have isDigit : 'W'.isDigit = true := isDigit_of_mem_toDigits mem
        cases isDigit
      refine .words ?_ .nil
      rw [String.toList_append, Nat.toString_eq_repr, List.contains_append, quiet, noDigits,
        Bool.or_false]

/-- The columns of a selection are quiet if their expressions are. -/
theorem columnPieces {columns : List (String × Expression)}
    (each : ∀ entry ∈ columns, Quiet entry.2.pieces) :
    Quiet (Sql.commaSeparated (columnPieces columns)) := by
  rw [columnPieces_eq_map]
  refine .commaSeparated ?_
  intro item mem
  obtain ⟨entry, inColumns, rfl⟩ := List.mem_map.mp mem
  exact (each entry inColumns).append (.words rfl (.identifier entry.1 .nil))

/-- Assignments are quiet if the assigned expressions are. -/
theorem assignmentPieces {assignments : List (String × Expression)}
    (each : ∀ entry ∈ assignments, Quiet entry.2.pieces) :
    Quiet (Sql.commaSeparated (assignmentPieces assignments)) := by
  rw [assignmentPieces_eq_map]
  refine .commaSeparated ?_
  intro item mem
  obtain ⟨entry, inAssignments, rfl⟩ := List.mem_map.mp mem
  exact .identifier entry.1 (.words rfl (each entry inAssignments))

/-- A `RETURNING` clause is quiet if its expressions are. -/
theorem returningPieces {returning : List (String × Expression)}
    (each : ∀ entry ∈ returning, Quiet entry.2.pieces) : Quiet (returningPieces returning) := by
  rw [returningPieces_eq]
  split
  · exact .nil
  · exact .words rfl (.columnPieces each)

end Quiet

/-- Numbering placeholders leaves the bare characters as they were. -/
theorem mem_numbered_iff (character : Char) (number : Nat) (tokens : List (Token Param)) :
    Token.character character ∈ numbered number tokens ↔ Token.character character ∈ tokens := by
  induction tokens generalizing number with
  | nil => simp [numbered]
  | cons token rest ih =>
      rw [numbered, List.mem_cons, List.mem_cons, ih]
      cases token <;> simp [Token.map]

/-- Numbering goes on behind the first token. -/
theorem tail_numbered (number : Nat) (tokens : List (Token Param)) :
    ∃ next, (numbered number tokens).tail = numbered next tokens.tail := by
  cases tokens with
  | nil => exact ⟨number, rfl⟩
  | cons token rest => exact ⟨_, rfl⟩

/-- An element behind the first of a joined list is behind the first of the one or in the other. -/
theorem mem_tail_append {Element : Type} {element : Element} {first second : List Element}
    (mem : element ∈ (first ++ second).tail) : element ∈ first.tail ∨ element ∈ second := by
  cases first with
  | nil => exact .inr (List.mem_of_mem_tail mem)
  | cons head tail => exact List.mem_append.mp mem

/-- A statement whose parts hold one condition clause, and the clause's letter nowhere else
but in front, is restricted unless the condition is left out. -/
theorem isRestricted_iff {statement : Statement} {condition : Expression}
    {before after : List Piece}
    (shape : statement.pieces = before ++ (condition.conditionPieces ++ after))
    (quietBefore : Token.character 'W' ∉ (tokens before).tail) (quietAfter : Quiet after) :
    IsRestricted (Prepared.ofPieces statement.pieces).text ↔ condition ≠ .always := by
  rw [IsRestricted, scan_statement, shape]
  constructor
  · rintro restricted rfl
    obtain ⟨first, last, split⟩ := restricted
    have quiet : Token.character 'W' ∉ (tokens (before ++ after)).tail := by
      intro mem
      rw [tokens_append] at mem
      rcases mem_tail_append mem with inBefore | inAfter
      · exact quietBefore inBefore
      · exact quietAfter inAfter
    obtain ⟨next, tail⟩ := tail_numbered 0 (tokens (before ++ after))
    -- The letter is the second of the word, so it stands behind the first token.
    have letter : Token.character 'W' ∈ (numbered 0 (tokens (before ++ after))).tail := by
      have split : first ++ " WHERE ".toList.map Token.character ++ last =
          numbered 0 (tokens (before ++ after)) := split
      rw [← split]
      cases first with
      | nil => exact List.mem_cons_self
      | cons token rest =>
          rw [List.append_assoc, List.cons_append, List.tail_cons]
          exact List.mem_append_right rest (List.mem_append_left last (by decide))
    rw [tail, mem_numbered_iff] at letter
    exact quiet letter
  · intro differs
    rw [conditionPieces_of_ne differs, tokens_append, numbered_append, List.cons_append, tokens_cons, numbered_append,
      Piece.tokens, numbered_characters, ← List.append_assoc]
    exact List.infix_append _ _ _

/-- The beginning of the wrapper of a read is quiet. -/
theorem quiet_wrappedReadBefore : Quiet wrappedReadBefore :=
  .words rfl (.words rfl (.identifier _ (.words rfl (.words rfl
    (.identifier _ (.words rfl (.words rfl (.words rfl .nil))))))))

/-- The word in front of a wrapped write starts with the letter, and holds it nowhere else. -/
theorem quiet_wrappedWriteBefore : Token.character 'W' ∉ (tokens wrappedWriteBefore).tail :=
  have rest : Quiet [.words "ITH ", .identifier mutatedTable, .words " AS ("] :=
    .words rfl (.identifier mutatedTable (.words rfl .nil))
  rest

/-- The end of the wrapper of a write is quiet. -/
theorem quiet_wrappedWriteAfter : Quiet wrappedWriteAfter :=
  .words rfl (.words rfl (.words rfl (.words rfl (.identifier _
    (.words rfl (.words rfl (.identifier _ (.words rfl (.words rfl
      (.identifier _ (.words rfl (.identifier _ .nil))))))))))))

/-- A statement that is written as a condition's clause between quiet parts. -/
inductive IsFramed (statement : Statement) (condition : Expression) : Prop where
  | parts (before after : List Piece)
      (shape : statement.pieces = before ++ (condition.conditionPieces ++ after))
      (quietBefore : Quiet before) (quietAfter : Quiet after) : IsFramed statement condition

namespace IsFramed

variable {statement : Statement} {condition : Expression}

/-- A framed statement is restricted in its text exactly if its condition is not `TRUE`. -/
theorem isRestricted_iff (framed : IsFramed statement condition) :
    IsRestricted (Prepared.ofPieces statement.pieces).text ↔ condition ≠ .always := by
  obtain ⟨before, after, shape, quietBefore, quietAfter⟩ := framed
  exact Sql.isRestricted_iff shape (fun mem => quietBefore (List.mem_of_mem_tail mem)) quietAfter

/-- Wrapping a statement adds no condition clause. -/
theorem isRestricted_wrapped_iff (framed : IsFramed statement condition) :
    IsRestricted (Prepared.ofPieces statement.wrapped.pieces).text ↔ condition ≠ .always := by
  obtain ⟨before, after, shape, quietBefore, quietAfter⟩ := framed
  have around : ∀ outerBefore outerAfter : List Piece,
      statement.wrapped.pieces = outerBefore ++ (statement.pieces ++ outerAfter) →
      Token.character 'W' ∉ (tokens outerBefore).tail → Quiet outerAfter →
      (IsRestricted (Prepared.ofPieces statement.wrapped.pieces).text ↔ condition ≠ .always) := by
    intro outerBefore outerAfter wrapped quietOuterBefore quietOuterAfter
    have wholeShape : statement.wrapped.pieces =
        (outerBefore ++ before) ++ (condition.conditionPieces ++ (after ++ outerAfter)) := by
      rw [wrapped, shape]
      simp only [List.append_assoc]
    refine Sql.isRestricted_iff wholeShape ?_ (quietAfter.append quietOuterAfter)
    intro mem
    rw [tokens_append] at mem
    rcases mem_tail_append mem with inOuter | inBefore
    · exact quietOuterBefore inOuter
    · exact quietBefore inBefore
  cases statement with
  | select read =>
      exact around wrappedReadBefore wrappedReadAfter read.asJsonRows_pieces
        (fun mem => quiet_wrappedReadBefore (List.mem_of_mem_tail mem))
        (.words rfl (.words rfl (.identifier rowTable .nil)))
  | insertion row =>
      exact around wrappedWriteBefore wrappedWriteAfter (Mutation.insertion row).asJsonRows_pieces
        quiet_wrappedWriteBefore quiet_wrappedWriteAfter
  | update change =>
      exact around wrappedWriteBefore wrappedWriteAfter (Mutation.update change).asJsonRows_pieces
        quiet_wrappedWriteBefore quiet_wrappedWriteAfter
  | deletion removal =>
      exact Sql.isRestricted_iff shape (fun mem => quietBefore (List.mem_of_mem_tail mem)) quietAfter

end IsFramed

end CatalogSql.Sql
