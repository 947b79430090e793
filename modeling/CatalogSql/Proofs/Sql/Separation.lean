import CatalogSql.Proofs.Sql.Numbered
import CatalogSql.Proofs.Sql.Structure

/-!
# Separated statements

The parts of a statement never run together: between any two names, literals and
placeholders stand words that hold no mark of them and start with no digit. This is what
lets `scan_written` read a rendered statement.
-/

namespace CatalogSql.Sql

/-- Whether a character starts neither a quoted part nor a placeholder. -/
def isPlainCharacter (character : Char) : Bool :=
  character != '"' && character != '\'' && character != '$'

/-- Words that keep their neighbours apart: plain characters, the first of them no
digit. -/
def isGap (text : String) : Bool :=
  text.toList.all isPlainCharacter && text.toList.head?.any fun first => !first.isDigit

/-- A character is a plain token when it is a plain character. -/
theorem isPlain_character_iff (character : Char) :
    (Token.character character : Token Param).IsPlain ↔ isPlainCharacter character = true := by
  simp [Token.IsPlain, isPlainCharacter, and_assoc]

/-- Plain characters in front keep tokens separated. -/
theorem separated_characters_append {text : List Char} {rest : List (Token Param)}
    (plain : text.all isPlainCharacter = true) (separated : Separated rest) :
    Separated (text.map .character ++ rest) := by
  induction text with
  | nil => exact separated
  | cons first text ih =>
      rw [List.all_cons, Bool.and_eq_true] at plain
      exact .cons_character ((isPlain_character_iff first).mpr plain.1) (ih plain.2)

section Parts

variable {text : String} {before after pieces : List Piece}

/-- Words that are a gap keep what follows them separated. -/
theorem separated_words_cons (gap : isGap text = true) (rest : Separated (tokens pieces)) :
    Separated (tokens (.words text :: pieces)) := by
  rw [isGap, Bool.and_eq_true] at gap
  exact separated_characters_append gap.1 rest

/-- Nothing at all breaks off what stands before it. -/
theorem breaks_nil : Breaks (tokens []) := by
  intro token mem
  cases mem

/-- A gap breaks off what stands before it. -/
theorem breaks_words_cons (gap : isGap text = true) : Breaks (tokens (.words text :: pieces)) := by
  rw [isGap, Bool.and_eq_true] at gap
  intro token mem
  cases shape : text.toList with
  | nil => simp [shape] at gap
  | cons first rest =>
      have isFirst : token = .character first := by
        simpa [Piece.tokens, shape, eq_comm] using mem
      subst isFirst
      simpa [shape, Token.IsBreak] using gap.2

/-- Two breaks after one another are a break. -/
theorem breaks_append (first : Breaks (tokens before)) (second : Breaks (tokens after)) :
    Breaks (tokens (before ++ after)) := by
  rw [tokens_append]
  cases shape : tokens before with
  | nil => exact second
  | cons token rest =>
      intro other mem
      exact first other (by simpa [shape] using mem)

/-- Separated parts are separated after one another when the second one breaks off the first. -/
theorem separated_append (first : Separated (tokens before)) (second : Separated (tokens after))
    (breaks : Breaks (tokens after)) : Separated (tokens (before ++ after)) := by
  rw [tokens_append]
  exact first.append second breaks

/-- Parts, words that keep apart, and more parts. -/
theorem separated_append_words (first : Separated (tokens before)) (gap : isGap text = true)
    (second : Separated (tokens after)) :
    Separated (tokens (before ++ .words text :: after)) :=
  separated_append first (separated_words_cons gap second) (breaks_words_cons gap)

/-- A quoted name stands for itself. -/
theorem separated_identifier (name : String) : Separated (tokens [.identifier name]) :=
  .singleton trivial

/-- A name, words that keep apart, and more parts. -/
theorem separated_identifier_words {name : String} (gap : isGap text = true)
    (rest : Separated (tokens pieces)) :
    Separated (tokens (.identifier name :: .words text :: pieces)) :=
  separated_append_words (separated_identifier name) gap rest

/-- Parts that may follow any others. -/
structure IsClause (pieces : List Piece) : Prop where
  separated : Separated (tokens pieces)
  breaks : Breaks (tokens pieces)

namespace IsClause

/-- A clause that is left out is a clause. -/
theorem nil : IsClause [] := ⟨.nil, breaks_nil⟩

/-- What a gap introduces is a clause. -/
theorem words (gap : isGap text = true) (rest : Separated (tokens pieces)) :
    IsClause (.words text :: pieces) :=
  ⟨separated_words_cons gap rest, breaks_words_cons gap⟩

/-- Clauses after one another are a clause. -/
theorem append (first : IsClause before) (second : IsClause after) : IsClause (before ++ after) :=
  ⟨separated_append first.separated second.separated second.breaks,
    breaks_append first.breaks second.breaks⟩

/-- The clauses of the items of a list are a clause. -/
theorem flatMap {Element : Type} {items : List Element} {render : Element → List Piece}
    (each : ∀ item ∈ items, IsClause (render item)) : IsClause (items.flatMap render) := by
  induction items with
  | nil => exact .nil
  | cons first rest ih =>
      have following := ih fun item mem => each item (List.mem_cons_of_mem _ mem)
      rw [List.flatMap_cons]
      exact (each first (by simp)).append following

end IsClause

/-- A clause may follow anything that is separated. -/
theorem separated_append_clause (first : Separated (tokens before)) (second : IsClause after) :
    Separated (tokens (before ++ after)) :=
  separated_append first second.separated second.breaks

/-- Separated items with commas between them are separated. -/
theorem separated_commaSeparated {items : List (List Piece)}
    (each : ∀ item ∈ items, Separated (tokens item)) :
    Separated (tokens (commaSeparated items)) := by
  cases items with
  | nil => exact .nil
  | cons first rest =>
      rw [commaSeparated_cons]
      refine separated_append_clause (each first (by simp)) (.flatMap ?_)
      intro item mem
      exact .words rfl (each item (List.mem_cons_of_mem _ mem))

end Parts

/-- The name of a table is separated, with or without its schema. -/
theorem separated_tableReference (reference : TableReference) :
    Separated (tokens reference.pieces) := by
  cases reference with
  | stored schema table => exact separated_identifier_words rfl (separated_identifier table)
  | aliased name => exact separated_identifier name

/-- The name of a column is separated, with or without its table. -/
theorem separated_columnReference (reference : ColumnReference) :
    Separated (tokens reference.pieces) := by
  cases reference with
  | qualified table name =>
      exact separated_append_words (separated_tableReference table) rfl
        (separated_identifier name)
  | plain name => exact separated_identifier name

/-- Decimal digits are plain characters. -/
theorem isPlainCharacter_of_mem_toDigits {number : Nat} {digit : Char}
    (mem : digit ∈ Nat.toDigits 10 number) : isPlainCharacter digit = true := by
  have isDigit := isDigit_of_mem_toDigits mem
  unfold isPlainCharacter
  have notMark : digit ≠ '"' ∧ digit ≠ '\'' ∧ digit ≠ '$' := by
    refine ⟨?_, ?_, ?_⟩ <;> rintro rfl <;> exact absurd isDigit Bool.false_ne_true
  simpa [and_assoc] using notMark

/-- A written number is made of plain characters. -/
theorem all_isPlainCharacter_repr (number : Nat) :
    number.repr.toList.all isPlainCharacter = true := by
  rw [Nat.toList_repr, List.all_eq_true]
  exact fun _ => isPlainCharacter_of_mem_toDigits

/-- A constant is separated: it is a placeholder, a quoted literal or a plain word. -/
theorem separated_constant (value : Constant) : Separated (tokens [value.piece]) := by
  cases value with
  | small value =>
      have plain : (toString value.toInt).toList.all isPlainCharacter = true := by
        rw [Int.toString_eq_repr, Int.repr_eq_if]
        split
        · exact all_isPlainCharacter_repr _
        · rw [String.toList_append, List.all_append, all_isPlainCharacter_repr, Bool.and_true]
          decide
      exact separated_characters_append plain .nil
  | boolean value => cases value <;> exact separated_words_cons rfl .nil
  | null => exact separated_words_cons rfl .nil
  | literal text => exact .singleton trivial
  | integer value => exact .singleton trivial
  | double value => exact .singleton trivial
  | string value => exact .singleton trivial
  | json value => exact .singleton trivial

/-- A select list is separated when its expressions are. -/
theorem separated_columnPieces {columns : List (String × Expression)}
    (each : ∀ entry ∈ columns, Separated (tokens entry.2.pieces)) :
    Separated (tokens (commaSeparated (columnPieces columns))) := by
  rw [columnPieces_eq_map]
  refine separated_commaSeparated ?_
  intro item mem
  obtain ⟨entry, inColumns, rfl⟩ := List.mem_map.mp mem
  exact separated_append_words (each entry inColumns) rfl (separated_identifier entry.1)

/-- A condition is a clause, and so is one that is left out. -/
theorem isClause_conditionPieces {condition : Expression}
    (separated : Separated (tokens condition.pieces)) : IsClause condition.conditionPieces := by
  unfold Expression.conditionPieces Expression.whereClause
  split
  · exact .nil
  · exact .words rfl separated

/-- What a write returns is a clause. -/
theorem isClause_returningPieces {returning : List (String × Expression)}
    (each : ∀ entry ∈ returning, Separated (tokens entry.2.pieces)) :
    IsClause (returningPieces returning) := by
  rw [returningPieces_eq]
  split
  · exact .nil
  · exact .words rfl (separated_columnPieces each)

/-- Orderings are a clause. -/
theorem isClause_orderByPieces {ordering : List (Expression × Direction)}
    (each : ∀ entry ∈ ordering, Separated (tokens entry.1.pieces)) :
    IsClause (orderByPieces ordering) := by
  unfold orderByPieces
  split
  · exact .nil
  · rw [orderingPieces_eq_map]
    refine .words rfl (separated_commaSeparated ?_)
    intro item mem
    obtain ⟨⟨expression, direction⟩, inOrdering, rfl⟩ := List.mem_map.mp mem
    have gap : isGap direction.words = true := by cases direction <;> rfl
    exact separated_append_words (each _ inOrdering) gap .nil

/-- A bound on the number of rows is a clause. -/
theorem isClause_countPieces {words : String} (gap : isGap words = true) (count : Option UInt32) :
    IsClause (countPieces words count) := by
  cases count with
  | none => exact .nil
  | some count =>
      refine .words ?_ .nil
      rw [isGap, Bool.and_eq_true] at gap ⊢
      rw [String.toList_append, List.all_append, gap.1, Nat.toString_eq_repr,
        all_isPlainCharacter_repr]
      refine ⟨rfl, ?_⟩
      cases shape : words.toList with
      | nil => simp [shape] at gap
      | cons first rest => simpa [shape] using gap.2

/-- What a read takes its rows from is a clause. -/
theorem isClause_sourcePieces {source : Option Source}
    (inner : ∀ read name, source = some (.select read name) → Separated (tokens read.pieces)) :
    IsClause (sourcePieces source) := by
  match source with
  | none => exact .nil
  | some (.table reference name) =>
      exact .words rfl (separated_words_cons rfl
        (separated_append_words (separated_tableReference reference) rfl
          (separated_identifier name)))
  | some (.select read name) =>
      exact .words rfl (separated_words_cons rfl (separated_words_cons rfl
        (separated_append_words (inner read name rfl) rfl
          (separated_words_cons rfl (separated_identifier name)))))

/-- Joins are a clause. -/
theorem isClause_joinPieces {joins : List Join}
    (each : ∀ join ∈ joins, Separated (tokens join.condition.pieces)) :
    IsClause (joinPieces joins) := by
  rw [joinPieces_eq_flatMap]
  refine .flatMap ?_
  intro join mem
  have gap : isGap join.kind.words = true := by cases join.kind <;> rfl
  exact .words gap (separated_append_words (separated_tableReference join.reference) rfl
    (separated_identifier_words rfl (each join mem)))

/-- Shared writes in front of a read are separated. -/
theorem separated_withPieces {shared : List (String × Mutation)}
    (each : ∀ entry ∈ shared, Separated (tokens entry.2.pieces)) :
    Separated (tokens (withPieces shared)) := by
  unfold withPieces
  split
  · exact .nil
  · rw [sharedPieces_eq_map]
    refine separated_words_cons rfl (separated_append_words
      (separated_commaSeparated ?_) rfl .nil)
    intro item mem
    obtain ⟨entry, inShared, rfl⟩ := List.mem_map.mp mem
    exact separated_identifier_words rfl
      (separated_append_words (each entry inShared) rfl .nil)

/-- A read is separated when the expressions, reads and writes inside it are. -/
theorem separated_select (select : Select)
    (shared : ∀ entry ∈ select.shared, Separated (tokens entry.2.pieces))
    (columns : ∀ entry ∈ select.columns, Separated (tokens entry.2.pieces))
    (source : ∀ read name, select.source = some (.select read name) →
      Separated (tokens read.pieces))
    (joins : ∀ join ∈ select.joins, Separated (tokens join.condition.pieces))
    (condition : Separated (tokens select.condition.pieces))
    (ordering : ∀ entry ∈ select.ordering, Separated (tokens entry.1.pieces)) :
    Separated (tokens select.pieces) := by
  have counts : IsClause (countPieces " LIMIT " select.limit ++
      countPieces " OFFSET " select.offset) :=
    (isClause_countPieces rfl _).append (isClause_countPieces rfl _)
  have clauses := (isClause_sourcePieces source).append ((isClause_joinPieces joins).append
    ((isClause_conditionPieces condition).append ((isClause_orderByPieces ordering).append counts)))
  rw [Select.pieces_eq]
  exact separated_append_words (separated_withPieces shared) rfl
    (separated_append_clause (separated_columnPieces columns) clauses)

/-- An insertion is separated when its values and what it returns are. -/
theorem separated_insertion (row : Insertion)
    (values : ∀ value ∈ row.values, Separated (tokens value.pieces))
    (returning : ∀ entry ∈ row.returning, Separated (tokens entry.2.pieces)) :
    Separated (tokens row.pieces) := by
  have columnNames : ∀ item ∈ row.columns.map fun column => [Piece.identifier column],
      Separated (tokens item) := by
    intro item mem
    obtain ⟨column, _, rfl⟩ := List.mem_map.mp mem
    exact separated_identifier column
  have rows : IsClause (rowPieces row.columns row.values) := by
    unfold rowPieces
    split
    · exact .words rfl .nil
    · rw [listPieces_eq_map]
      exact .words rfl (separated_append_words (separated_commaSeparated columnNames)
        rfl (separated_append_words (separated_commaSeparated (by simpa using values))
          rfl .nil))
  rw [Insertion.pieces_eq]
  exact separated_words_cons rfl (separated_identifier_words rfl
    (separated_append_clause (separated_identifier row.table)
      (rows.append (isClause_returningPieces returning))))

/-- An update is separated when its expressions are. -/
theorem separated_update (change : Update)
    (assignments : ∀ entry ∈ change.assignments, Separated (tokens entry.2.pieces))
    (condition : Separated (tokens change.condition.pieces))
    (returning : ∀ entry ∈ change.returning, Separated (tokens entry.2.pieces)) :
    Separated (tokens change.pieces) := by
  have each : ∀ item ∈ change.assignments.map assignmentEntryPieces, Separated (tokens item) := by
    intro item mem
    obtain ⟨entry, inAssignments, rfl⟩ := List.mem_map.mp mem
    exact separated_identifier_words rfl (assignments entry inAssignments)
  rw [Update.pieces_eq, assignmentPieces_eq_map]
  exact separated_words_cons rfl (separated_identifier_words rfl
    (separated_identifier_words rfl (separated_append_clause (separated_commaSeparated each)
      ((isClause_conditionPieces condition).append (isClause_returningPieces returning)))))

/-- The parts of every expression, read and write keep apart. -/
theorem separation : Induction (fun expression => Separated (tokens expression.pieces))
    (fun select => Separated (tokens select.pieces))
    (fun mutation => Separated (tokens mutation.pieces)) where
  conjunction left right first second := by
    rw [Expression.pieces]
    exact separated_words_cons rfl (separated_append_words first rfl
      (separated_append_words second rfl .nil))
  comparison left operator right first second := by
    have gap : isGap operator.words = true := by cases operator <;> rfl
    rw [Expression.pieces]
    exact separated_words_cons rfl (separated_append_words first gap
      (separated_append_words second rfl .nil))
  isNull operand inner := by
    rw [Expression.pieces]
    exact separated_words_cons rfl (separated_append_words inner rfl
      (separated_words_cons rfl .nil))
  inSelect left select first second := by
    rw [Expression.pieces]
    exact separated_words_cons rfl (separated_append_words first rfl
      (separated_append_words second rfl .nil))
  call function arguments each := by
    have gap : isGap function.words = true := by cases function <;> rfl
    rw [Expression.pieces, listPieces_eq_map]
    exact separated_words_cons gap (separated_words_cons rfl
      (separated_append_words (separated_commaSeparated (by simpa using each)) rfl .nil))
  epoch operand inner := by
    rw [Expression.pieces]
    exact separated_words_cons rfl (separated_append_words inner rfl .nil)
  rowToJson table := by
    rw [Expression.pieces]
    exact separated_words_cons rfl
      (separated_append_words (separated_tableReference table) rfl .nil)
  column reference := by
    rw [Expression.pieces]
    exact separated_columnReference reference
  constant value := by
    rw [Expression.pieces]
    exact separated_constant value
  cast operand type inner := by
    rw [Expression.pieces]
    exact separated_words_cons rfl (separated_append_words inner rfl
      (separated_identifier_words rfl .nil))
  select := separated_select
  insertion := separated_insertion
  update := separated_update

/-- A removal is separated. -/
theorem separated_deletion (deletion : Deletion) : Separated (tokens deletion.pieces) :=
  separated_words_cons rfl (separated_identifier_words rfl
    (separated_append_clause (separated_identifier deletion.table)
      (isClause_conditionPieces (separation.expression deletion.condition))))

/-- The parts of every statement keep apart. -/
theorem separated_statement (statement : Statement) : Separated (tokens statement.pieces) := by
  cases statement with
  | select read => exact separation.everySelect read
  | insertion row => exact separation.mutation (.insertion row)
  | update change => exact separation.mutation (.update change)
  | deletion removal => exact separated_deletion removal

/-- Scanning a statement's text finds the tokens of its parts, numbered from one. -/
theorem scan_statement (statement : Statement) :
    scan (Prepared.ofPieces statement.pieces).text.toList = numbered 0 (tokens statement.pieces) := by
  obtain ⟨text, -, -⟩ := Prepared.empty.appendAll_eq statement.pieces
  rw [Prepared.ofPieces, text]
  exact scan_written ((separated_statement statement).numbered 0)

end CatalogSql.Sql
