import CatalogSql.Sql.Plan
import CatalogSql.Proofs.Sql.Structure

/-!
# Wrapped statements

A statement that returns rows stands as it is inside the read that turns its rows into
json, between parts that do not depend on it.
-/

namespace CatalogSql.Sql

/-- The parts in front of a read that is wrapped. -/
def wrappedReadBefore : List Piece :=
  [.words "SELECT ", .words "row_to_json(", .identifier rowTable, .words ")", .words " AS ",
    .identifier rowColumn, .words " ", .words "FROM ", .words "("]

/-- The parts behind a read that is wrapped. -/
def wrappedReadAfter : List Piece := [.words ")", .words " AS ", .identifier rowTable]

/-- The parts in front of a write that is wrapped. -/
def wrappedWriteBefore : List Piece :=
  [.words "WITH ", .identifier mutatedTable, .words " AS ("]

/-- The parts behind a write that is wrapped. -/
def wrappedWriteAfter : List Piece :=
  [.words ")", .words " ", .words "SELECT ", .words "row_to_json(", .identifier mutatedTable,
    .words ")", .words " AS ", .identifier rowColumn, .words " ", .words "FROM ",
    .identifier mutatedTable, .words " AS ", .identifier mutatedTable]

theorem Select.asJsonRows_pieces (read : Select) :
    read.asJsonRows.pieces = wrappedReadBefore ++ (read.pieces ++ wrappedReadAfter) := by
  have clauses : read.asJsonRows.pieces =
      wrappedReadBefore ++ ((read.pieces ++ wrappedReadAfter) ++ []) := rfl
  rw [clauses, List.append_nil]

theorem Mutation.asJsonRows_pieces (mutation : Mutation) :
    mutation.asJsonRows.pieces = wrappedWriteBefore ++ (mutation.pieces ++ wrappedWriteAfter) := by
  have shared : commaSeparated (sharedPieces [(mutatedTable, mutation)]) =
      .identifier mutatedTable :: .words " AS (" :: (mutation.pieces ++ [.words ")"]) := by
    rw [sharedPieces_eq_map, List.map_singleton, commaSeparated_cons, List.flatMap_nil,
      List.append_nil, sharedEntryPieces]
  have clauses : mutation.asJsonRows.pieces =
      (.words "WITH " :: (commaSeparated (sharedPieces [(mutatedTable, mutation)]) ++
        [.words " "])) ++ wrappedWriteAfter.drop 2 := rfl
  rw [clauses, shared]
  simp [wrappedWriteBefore, wrappedWriteAfter]

end CatalogSql.Sql
