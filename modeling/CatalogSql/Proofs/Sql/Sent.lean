import CatalogSql.Proofs.Sql.Separation
import CatalogSql.Proofs.Sql.Wrapping

/-!
# Statements as they are sent

A read, and a write that returns rows, is sent between two texts that depend on nothing but
which of the two it is; a removal is sent as it is. The text between them is the statement's
own, with the same placeholders for the same values, since the texts around it hold none.
-/

namespace CatalogSql.Sql

/-- The texts around a statement in the text that is sent. -/
structure Wrapper where
  before : String
  after : String

namespace Wrapper

/-- The texts around a read. -/
def ofRead : Wrapper := ⟨"SELECT row_to_json(\"_row\") AS \"row\" FROM (", ") AS \"_row\""⟩

/-- The texts around a write that returns rows. -/
def ofWrite : Wrapper :=
  ⟨"WITH \"_mutated\" AS (",
    ") SELECT row_to_json(\"_mutated\") AS \"row\" FROM \"_mutated\" AS \"_mutated\""⟩

/-- A text between the texts of a wrapper. -/
def around (wrapper : Wrapper) (text : String) : String := wrapper.before ++ text ++ wrapper.after

/-- A wrapper without a dollar sign, which every placeholder starts with. -/
def HasNoPlaceholder (wrapper : Wrapper) : Prop :=
  '$' ∉ wrapper.before.toList ∧ '$' ∉ wrapper.after.toList

/-- A wrapped text is not the bare one. -/
theorem around_ne {wrapper : Wrapper} (opens : wrapper.before ≠ "") (text : String) :
    wrapper.around text ≠ text := by
  intro same
  have lengths := congrArg String.length same
  rw [around, String.length_append, String.length_append] at lengths
  have positive : wrapper.before.length ≠ 0 := by
    rwa [ne_eq, String.length_eq_zero_iff]
  omega

end Wrapper

/-- What is sent for a statement with the given text. -/
inductive Statement.IsSentAs (text : String) : Statement → String → Prop where
  | select (read : Select) : IsSentAs text (.select read) (Wrapper.ofRead.around text)
  | insertion (row : Insertion) : IsSentAs text (.insertion row) (Wrapper.ofWrite.around text)
  | update (change : Update) : IsSentAs text (.update change) (Wrapper.ofWrite.around text)
  | deletion (removal : Deletion) : IsSentAs text (.deletion removal) text

/-- Only a text that is sent for rows differs from the text of the statement. -/
theorem Statement.IsSentAs.ne_iff {text sent : String} {statement : Statement}
    (isSent : statement.IsSentAs text sent) : sent ≠ text ↔ statement.returnsRows = true := by
  cases isSent with
  | select => exact iff_of_true (Wrapper.around_ne (by decide) text) rfl
  | insertion | update => exact iff_of_true (Wrapper.around_ne (by decide) text) rfl
  | deletion => exact iff_of_false (fun differs => differs rfl) Bool.false_ne_true

namespace Prepared

variable {before inner after : List Piece}

/-- Parts that bind no value leave the text and the values of the parts between them alone. -/
theorem ofPieces_around (noneBefore : before.filterMap Piece.param? = [])
    (noneAfter : after.filterMap Piece.param? = []) :
    (ofPieces (before ++ (inner ++ after))).text =
        (ofPieces before).text ++ (ofPieces inner).text ++ (ofPieces after).text ∧
      (ofPieces (before ++ (inner ++ after))).params = (ofPieces inner).params ∧
      (ofPieces (before ++ (inner ++ after))).lastNumber = (ofPieces inner).lastNumber := by
  have values : (before ++ (inner ++ after)).filterMap Piece.param? =
      inner.filterMap Piece.param? := by
    rw [List.filterMap_append, List.filterMap_append, noneBefore, noneAfter, List.nil_append,
      List.append_nil]
  have unnumbered := numbered_of_boundValues_nil ((boundValues_tokens after).trans noneAfter)
  obtain ⟨wholeText, wholeParams, wholeNumber⟩ := empty.appendAll_eq (before ++ (inner ++ after))
  obtain ⟨beforeText, -, -⟩ := empty.appendAll_eq before
  obtain ⟨innerText, innerParams, innerNumber⟩ := empty.appendAll_eq inner
  obtain ⟨afterText, -, -⟩ := empty.appendAll_eq after
  refine ⟨String.toList_injective ?_, ?_, ?_⟩
  · rw [String.toList_append, String.toList_append]
    simp only [ofPieces, wholeText, beforeText, innerText, afterText]
    rw [tokens_append, tokens_append, numbered_append, numbered_append, boundValues_tokens before,
      noneBefore, unnumbered _ empty.lastNumber, List.flatMap_append, List.flatMap_append]
    simp [empty]
  · simp only [ofPieces, wholeParams, innerParams, values]
  · simp only [ofPieces, wholeNumber, innerNumber, values]

end Prepared

/-- The placeholders of a statement are numbered from one to the number of its values. -/
theorem placeholders_ofPieces (statement : Statement) :
    placeholders (Prepared.ofPieces statement.pieces).text.toList =
      List.range' 1 (Prepared.ofPieces statement.pieces).params.length := by
  obtain ⟨-, params, -⟩ := Prepared.empty.appendAll_eq statement.pieces
  rw [placeholders, scan_statement, boundValues_numbered, boundValues_tokens, Prepared.ofPieces,
    params]
  rfl

/-- What is sent for a statement: its own text as statements of its kind are sent, with the values
of the statement. -/
structure Statement.IsCarried (statement : Statement) (own sent : Prepared) : Prop where
  text : statement.IsSentAs own.text sent.text
  params : sent.params = own.params
  lastNumber : sent.lastNumber = own.lastNumber

/-- A wrapped write is the text of the write between two fixed texts. -/
theorem Mutation.ofPieces_asJsonRows (write : Mutation) :
    (Prepared.ofPieces write.asJsonRows.pieces).text =
        Wrapper.ofWrite.around (Prepared.ofPieces write.pieces).text ∧
      (Prepared.ofPieces write.asJsonRows.pieces).params =
        (Prepared.ofPieces write.pieces).params ∧
      (Prepared.ofPieces write.asJsonRows.pieces).lastNumber =
        (Prepared.ofPieces write.pieces).lastNumber := by
  rw [asJsonRows_pieces]
  exact Prepared.ofPieces_around rfl rfl

/-- A wrapped read is the text of the read between two fixed texts. -/
theorem Select.ofPieces_asJsonRows (read : Select) :
    (Prepared.ofPieces read.asJsonRows.pieces).text =
        Wrapper.ofRead.around (Prepared.ofPieces read.pieces).text ∧
      (Prepared.ofPieces read.asJsonRows.pieces).params = (Prepared.ofPieces read.pieces).params ∧
      (Prepared.ofPieces read.asJsonRows.pieces).lastNumber =
        (Prepared.ofPieces read.pieces).lastNumber := by
  rw [asJsonRows_pieces]
  exact Prepared.ofPieces_around rfl rfl

/-- The wrapped text carries the statement with its parameters and placeholders. -/
theorem Statement.isCarried_wrapped (statement : Statement) :
    statement.IsCarried (.ofPieces statement.pieces) (.ofPieces statement.wrapped.pieces) := by
  cases statement with
  | select read =>
      obtain ⟨text, params, lastNumber⟩ := read.ofPieces_asJsonRows
      exact ⟨text ▸ .select read, params, lastNumber⟩
  | insertion row =>
      obtain ⟨text, params, lastNumber⟩ := (Mutation.insertion row).ofPieces_asJsonRows
      exact ⟨text ▸ .insertion row, params, lastNumber⟩
  | update change =>
      obtain ⟨text, params, lastNumber⟩ := (Mutation.update change).ofPieces_asJsonRows
      exact ⟨text ▸ .update change, params, lastNumber⟩
  | deletion removal => exact ⟨.deletion removal, rfl, rfl⟩

/-- The text that is sent for a plan is the text of its statement between two fixed texts without
placeholders, or that text alone for a removal. Both texts number their placeholders from one,
for the same values, and they differ exactly when the statement returns rows. -/
theorem Plan.query_carries_statement (plan : Plan) :
    plan.statement.IsSentAs plan.raw.text plan.query.text ∧
      plan.query.params = plan.raw.params ∧
      plan.query.lastNumber = plan.raw.lastNumber ∧
      Wrapper.ofRead.HasNoPlaceholder ∧ Wrapper.ofWrite.HasNoPlaceholder ∧
      placeholders plan.query.text.toList = placeholders plan.raw.text.toList ∧
      placeholders plan.raw.text.toList = List.range' 1 plan.raw.params.length ∧
      (plan.query.text ≠ plan.raw.text ↔ plan.statement.returnsRows = true) := by
  have carried : plan.statement.IsCarried plan.raw plan.query := plan.statement.isCarried_wrapped
  have own : placeholders plan.raw.text.toList = List.range' 1 plan.raw.params.length :=
    placeholders_ofPieces plan.statement
  have sent : placeholders plan.query.text.toList = List.range' 1 plan.query.params.length :=
    placeholders_ofPieces plan.statement.wrapped
  rw [carried.params, ← own] at sent
  exact ⟨carried.text, carried.params, carried.lastNumber, ⟨by decide, by decide⟩,
    ⟨by decide, by decide⟩, sent, own, carried.text.ne_iff⟩

end CatalogSql.Sql
