import CatalogSql.Proofs.Keyed.Related
import CatalogSql.Proofs.Sql.Numbering
import CatalogSql.Proofs.Sql.Wrapping

/-!
# Outlines

The outline of a part is the part without the value it binds. Parts with one outline are
one text, since a placeholder shows its number only. Expressions that differ in bound
constants alone have one outline, and so have the statements around them.
-/

namespace CatalogSql.Sql

/-- A part without the value it binds. -/
def Piece.outline : Piece → Piece
  | .param _ => .param (.string "")
  | piece => piece

/-- Parts without the values they bind. -/
def outline (pieces : List Piece) : List Piece := pieces.map Piece.outline

@[simp] theorem outline_nil : outline [] = [] := rfl

@[simp] theorem outline_cons (piece : Piece) (rest : List Piece) :
    outline (piece :: rest) = piece.outline :: outline rest := rfl

@[simp] theorem outline_append (before after : List Piece) :
    outline (before ++ after) = outline before ++ outline after := List.map_append

/-- Parts with one outline are equal, or both bind a value. -/
theorem Piece.eq_or_param {left right : Piece} (same : left.outline = right.outline) :
    left = right ∨ ∃ value other, left = .param value ∧ right = .param other := by
  cases left <;> cases right <;> first
    | exact .inr ⟨_, _, rfl, rfl⟩
    | exact .inl same
    | cases same

namespace Prepared

/-- Two buffers with one text that have numbered equally many values. -/
structure SameText (left right : Prepared) : Prop where
  text : left.text = right.text
  params : left.params.length = right.params.length
  lastNumber : left.lastNumber = right.lastNumber

namespace SameText

variable {left right : Prepared}

/-- Texts stay the same when pieces of one outline are appended. -/
theorem append {piece other : Piece} (same : SameText left right)
    (outlines : piece.outline = other.outline) :
    SameText (left.append piece) (right.append other) := by
  obtain ⟨text, params, lastNumber⟩ := same
  rcases Piece.eq_or_param outlines with rfl | ⟨value, otherValue, rfl, rfl⟩
  · cases piece <;> constructor <;>
      simp [Prepared.append, Piece.characters, Piece.param?, text, params, lastNumber]
  · constructor <;> simp [Prepared.append, Piece.characters, Piece.param?, text, params, lastNumber]

/-- Texts stay the same when lists of pieces of one outline are appended. -/
theorem appendAll {pieces others : List Piece} (same : SameText left right)
    (outlines : outline pieces = outline others) :
    SameText (left.appendAll pieces) (right.appendAll others) := by
  induction pieces generalizing left right others with
  | nil =>
      cases others with
      | nil => exact same
      | cons => cases outlines
  | cons piece rest ih =>
      cases others with
      | nil => cases outlines
      | cons other others =>
          injection outlines with first remaining
          have following := ih (same.append first) remaining
          exact following

/-- Parts with one outline are one text. -/
theorem ofPieces {pieces others : List Piece} (outlines : outline pieces = outline others) :
    SameText (.ofPieces pieces) (.ofPieces others) :=
  appendAll ⟨rfl, rfl, rfl⟩ outlines

end SameText

end Prepared

/-- Expressions that differ only in constants that are bound. -/
inductive Expression.Alike : Expression → Expression → Prop where
  | refl (expression : Expression) : Alike expression expression
  | bound {value other : Constant} (isBound : value.param?.isSome)
      (otherIsBound : other.param?.isSome) : Alike (.constant value) (.constant other)
  | conjunction {left right otherLeft otherRight : Expression} (first : Alike left otherLeft)
      (second : Alike right otherRight) :
      Alike (.conjunction left right) (.conjunction otherLeft otherRight)
  | comparison {left right otherLeft otherRight : Expression} (operator : Comparison)
      (first : Alike left otherLeft) (second : Alike right otherRight) :
      Alike (.comparison left operator right) (.comparison otherLeft operator otherRight)
  | inSelect (left : Expression) {select : Select} {condition : Expression}
      (conditions : Alike select.condition condition) :
      Alike (.inSelect left select) (.inSelect left { select with condition := condition })
  | call {left right otherLeft otherRight : Expression} (function : Function)
      (first : Alike left otherLeft) (second : Alike right otherRight) :
      Alike (.call function [left, right]) (.call function [otherLeft, otherRight])
  | epoch {operand other : Expression} (inner : Alike operand other) :
      Alike (.epoch operand) (.epoch other)
  | cast {operand other : Expression} (type : String) (inner : Alike operand other) :
      Alike (.cast operand type) (.cast other type)

/-- A bound constant is a placeholder in the outline. -/
theorem Constant.outline_piece {value : Constant} (isBound : value.param?.isSome) :
    value.piece.outline = .param (.string "") := by
  cases value <;> first
    | rfl
    | cases isBound

namespace Expression.Alike

variable {left right : Expression}

/-- Of two conditions alike, both or neither take every row. -/
theorem always_iff (alike : Alike left right) : left = .always ↔ right = .always := by
  cases alike with
  | refl => rfl
  | bound isBound otherIsBound =>
      constructor
      · rintro ⟨⟩
        cases isBound
      · rintro ⟨⟩
        cases otherIsBound
  | _ => constructor <;> rintro ⟨⟩

/-- `WHERE` clauses have one outline if their conditions have. -/
theorem outline_conditionPieces (same : outline left.pieces = outline right.pieces)
    (always : left = .always ↔ right = .always) :
    outline left.conditionPieces = outline right.conditionPieces := by
  by_cases isAlways : left = .always
  · rw [isAlways, always.mp isAlways]
  · rw [conditionPieces_of_ne isAlways, conditionPieces_of_ne (isAlways ∘ always.mpr),
      outline_cons, outline_cons, same]

/-- Selections that differ in their condition have one outline if their `WHERE` clauses have. -/
theorem outline_selectPieces {select : Select} {condition : Expression}
    (same : outline select.condition.conditionPieces = outline condition.conditionPieces) :
    outline select.pieces = outline { select with condition := condition }.pieces := by
  rw [Select.pieces_eq, Select.pieces_eq]
  simp only [outline_append, outline_cons, same]

/-- Expressions that differ only in bound constants have one outline. -/
theorem outline_pieces (alike : Alike left right) :
    outline left.pieces = outline right.pieces := by
  induction alike with
  | refl => rfl
  | bound isBound otherIsBound =>
      simp only [Expression.pieces, outline_cons, outline_nil, Constant.outline_piece isBound,
        Constant.outline_piece otherIsBound]
  | conjunction _ _ first second =>
      simp only [Expression.pieces, outline_cons, outline_append, first, second]
  | comparison operator _ _ first second =>
      simp only [Expression.pieces, outline_cons, outline_append, first, second]
  | inSelect left conditions inner =>
      have reads := outline_selectPieces (outline_conditionPieces inner conditions.always_iff)
      simp only [Expression.pieces, outline_cons, outline_append, reads]
  | call function _ _ first second =>
      simp only [Expression.pieces, Expression.listPieces, commaSeparated_cons, List.flatMap_cons,
        List.flatMap_nil, outline_cons, outline_append, first, second]
  | epoch _ inner => simp only [Expression.pieces, outline_cons, outline_append, inner]
  | cast type _ inner => simp only [Expression.pieces, outline_cons, outline_append, inner]

/-- Conjunctions of predicates that differ only in bound constants do so, too. -/
theorem conjoin {predicates others : List Expression}
    (alike : List.Forall₂ Alike predicates others) :
    Alike (Expression.conjoin predicates) (Expression.conjoin others) := by
  have fold : ∀ {predicates others : List Expression}, List.Forall₂ Alike predicates others →
      ∀ {first other : Expression}, Alike first other →
        Alike (predicates.foldl .conjunction first) (others.foldl .conjunction other) := by
    intro predicates others alike
    induction alike with
    | nil => exact id
    | cons head _ ih => exact fun first => ih (.conjunction first head)
  cases alike with
  | nil => exact .refl _
  | cons head rest => exact fold rest head

end Expression.Alike

/-- Entries under one name, whose expressions differ only in bound constants. -/
abbrev EntriesAlike (entries others : List (String × Expression)) : Prop :=
  Keyed.Related (fun _ => Expression.Alike) entries others

section Lists

/-- Items of one outline behind commas have one outline. -/
theorem outline_flatMap {items others : List (List Piece)}
    (same : List.Forall₂ (fun item other => outline item = outline other) items others) :
    outline (items.flatMap (.words ", " :: ·)) = outline (others.flatMap (.words ", " :: ·)) := by
  induction same with
  | nil => rfl
  | cons head _ ih => simp only [List.flatMap_cons, outline_append, outline_cons, head, ih]

/-- Lists of items of one outline have one outline. -/
theorem outline_commaSeparated {items others : List (List Piece)}
    (same : List.Forall₂ (fun item other => outline item = outline other) items others) :
    outline (commaSeparated items) = outline (commaSeparated others) := by
  cases same with
  | nil => rfl
  | cons head rest =>
      rw [commaSeparated_cons, commaSeparated_cons, outline_append, outline_append, head,
        outline_flatMap rest]

/-- The values of entries alike have one outline. -/
theorem outline_values {entries others : List (String × Expression)}
    (alike : EntriesAlike entries others) :
    outline (commaSeparated (Expression.listPieces (entries.map (·.2)))) =
      outline (commaSeparated (Expression.listPieces (others.map (·.2)))) := by
  rw [listPieces_eq_map, listPieces_eq_map]
  refine outline_commaSeparated ?_
  simp only [List.forall₂_map_left_iff, List.forall₂_map_right_iff]
  exact alike.imp fun _ _ both => both.2.outline_pieces

/-- Assignments alike have one outline. -/
theorem outline_assignments {entries others : List (String × Expression)}
    (alike : EntriesAlike entries others) :
    outline (commaSeparated (assignmentPieces entries)) =
      outline (commaSeparated (assignmentPieces others)) := by
  rw [assignmentPieces_eq_map, assignmentPieces_eq_map]
  refine outline_commaSeparated ?_
  rw [List.forall₂_map_left_iff, List.forall₂_map_right_iff]
  refine alike.imp ?_
  rintro ⟨name, value⟩ ⟨_, other⟩ ⟨rfl, both⟩
  simp only [assignmentEntryPieces, outline_cons, both.outline_pieces]

end Lists

/-- Two plans with one text, by themselves and as they are sent. -/
structure Plan.SameText (left right : Plan) : Prop where
  raw : Prepared.SameText left.raw right.raw
  query : Prepared.SameText left.query right.query

namespace Plan.SameText

variable {name otherName : String}

/-- Plans whose statements have one outline, raw and wrapped, have the same texts. -/
theorem ofOutlines {left right : Plan}
    (raw : outline left.statement.pieces = outline right.statement.pieces)
    (query : outline left.statement.wrapped.pieces = outline right.statement.wrapped.pieces) :
    SameText left right :=
  ⟨.ofPieces raw, .ofPieces query⟩

/-- Reads that differ in their conditions alone. -/
theorem select {read : Select} {condition : Expression}
    (alike : Expression.Alike read.condition condition) :
    SameText ⟨name, .select read⟩ ⟨otherName, .select { read with condition := condition }⟩ := by
  have same := Expression.Alike.outline_selectPieces
    (Expression.Alike.outline_conditionPieces alike.outline_pieces alike.always_iff)
  refine ofOutlines same ?_
  simp only [Statement.wrapped, Statement.pieces, Select.asJsonRows_pieces, outline_append, same]

/-- Mutations of one outline have one outline when their rows are wrapped as json. -/
theorem write {mutation other : Mutation}
    (same : outline mutation.pieces = outline other.pieces) :
    outline mutation.asJsonRows.pieces = outline other.asJsonRows.pieces := by
  simp only [Mutation.asJsonRows_pieces, outline_append, same]

/-- Insertions that differ in the values of their row alone. -/
theorem insertion {schema table : String} {entries others : List (String × Expression)}
    {returning : List (String × Expression)} (alike : EntriesAlike entries others) :
    SameText
      ⟨name, .insertion ⟨schema, table, entries.map (·.1), entries.map (·.2), returning⟩⟩
      ⟨otherName, .insertion ⟨schema, table, others.map (·.1), others.map (·.2), returning⟩⟩ := by
  have rows : outline (rowPieces (entries.map (·.1)) (entries.map (·.2))) =
      outline (rowPieces (others.map (·.1)) (others.map (·.2))) := by
    have names : entries.map (·.1) = others.map (·.1) := alike.keys
    rw [rowPieces, rowPieces, names]
    split
    · rfl
    · simp only [outline_cons, outline_append, outline_values alike]
  have same : outline (Insertion.pieces
        ⟨schema, table, entries.map (·.1), entries.map (·.2), returning⟩) =
      outline (Insertion.pieces
        ⟨schema, table, others.map (·.1), others.map (·.2), returning⟩) := by
    simp only [Insertion.pieces_eq, outline_cons, outline_append, rows]
  exact ofOutlines same (write same)

/-- Updates that differ in the values they write and in their conditions alone. -/
theorem update {schema table : String} {entries others : List (String × Expression)}
    {condition other : Expression} {returning : List (String × Expression)}
    (alike : EntriesAlike entries others) (conditions : Expression.Alike condition other) :
    SameText ⟨name, .update ⟨schema, table, entries, condition, returning⟩⟩
      ⟨otherName, .update ⟨schema, table, others, other, returning⟩⟩ := by
  have clauses := Expression.Alike.outline_conditionPieces conditions.outline_pieces
    conditions.always_iff
  have same : outline (Update.pieces ⟨schema, table, entries, condition, returning⟩) =
      outline (Update.pieces ⟨schema, table, others, other, returning⟩) := by
    simp only [Update.pieces_eq, outline_cons, outline_append, outline_assignments alike, clauses]
  exact ofOutlines same (write same)

/-- Removals that differ in their conditions alone. -/
theorem deletion {schema table : String} {condition other : Expression}
    (conditions : Expression.Alike condition other) :
    SameText ⟨name, .deletion ⟨schema, table, condition⟩⟩
      ⟨otherName, .deletion ⟨schema, table, other⟩⟩ := by
  have clauses := Expression.Alike.outline_conditionPieces conditions.outline_pieces
    conditions.always_iff
  have same : outline (Deletion.pieces ⟨schema, table, condition⟩) =
      outline (Deletion.pieces ⟨schema, table, other⟩) := by
    simp only [Deletion.pieces, outline_cons, clauses]
  exact ofOutlines same same

end Plan.SameText

end CatalogSql.Sql
