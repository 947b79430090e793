import CatalogSql.Proofs.Access.Runs
import CatalogSql.Proofs.Planning.StoredColumns

/-!
# Rows that are kept whole

A statement that returns rows is sent inside a read that turns each of its rows into json, by the
name that read gives to it. In the database an unqualified name is first looked for among the
columns of what is read from, and stands for a whole row only when there is no such column; and
a write can be read from only when it returns columns.
-/

namespace CatalogSql

namespace Sql

/-! ## What a read reads from -/

/-- Something a read reads from: its name and the names of its columns. -/
structure FromItem where
  name : String
  columns : List String
deriving DecidableEq

/-- What an unqualified name stands for. -/
inductive Denotation where
  | column (item name : String)
  | row (item : FromItem)
deriving DecidableEq

/-- What an unqualified name stands for among the things a read reads from: the column of that
name, and the row of the thing of that name when there is none. -/
def denoted? (items : List FromItem) (name : String) : Option Denotation :=
  match items.filter fun item => name ∈ item.columns with
  | [] => (items.find? fun item => item.name = name).map .row
  | [item] => some (.column item.name name)
  | _ => none

/-- The names of the columns a write returns. -/
def Mutation.outputs : Mutation → List String
  | .insertion row => row.returning.map (·.1)
  | .update change => change.returning.map (·.1)

/-- The names of the columns a statement returns. -/
def Statement.outputs : Statement → List String
  | .select read => read.columns.map (·.1)
  | .insertion row => row.returning.map (·.1)
  | .update change => change.returning.map (·.1)
  | .deletion _ => []

/-- What a reference brings to a read under a name, given the columns of the stored tables. A
write that is shared by the read and returns nothing cannot be read from. -/
def TableReference.item? (stored : String → String → List String)
    (shared : List (String × Mutation)) (name : String) : TableReference → Option FromItem
  | .stored schema table => some ⟨name, stored schema table⟩
  | .aliased write =>
      match (Keyed.lookup? write shared).map Mutation.outputs with
      | none | some [] => none
      | some outputs => some ⟨name, outputs⟩

/-- What a source brings to a read. -/
def Source.item? (stored : String → String → List String) (shared : List (String × Mutation)) :
    Source → Option FromItem
  | .table reference name => reference.item? stored shared name
  | .select read name => some ⟨name, read.columns.map (·.1)⟩

/-- What the source and the joins of a read bring to it. -/
def Select.brought (stored : String → String → List String) (read : Select) :
    List (Option FromItem) :=
  (read.source.toList.map fun source : Source => source.item? stored read.shared) ++
    read.joins.map fun join => join.reference.item? stored read.shared join.name

/-! ## Wrapped statements -/

/-- Sending a statement keeps its rows: everything that is read from can be, and what is turned
into json is the whole row, with all columns that the statement returns. -/
def Statement.KeepsRows (stored : String → String → List String) (statement : Statement) : Prop :=
  ∃ read name items item, statement.wrapped = .select read ∧
    read.columns = [(rowColumn, .rowToJson (.aliased name))] ∧
    read.brought stored = items.map some ∧ denoted? items name = some (.row item) ∧
    item.columns = statement.outputs

variable {stored : String → String → List String}

/-- The name of an item denotes its column of that name, or else its whole row. -/
theorem denoted?_own_name (item : FromItem) :
    denoted? [item] item.name =
      if item.name ∈ item.columns then some (.column item.name item.name) else some (.row item) := by
  unfold denoted?
  by_cases clash : item.name ∈ item.columns
  · simp [clash]
  · simp [clash]

/-- The rows of a statement that is the one thing its wrapper reads from are kept unless one of
its columns bears the wrapper's name for it. -/
theorem Statement.keepsRows_iff_of_brought {statement : Statement} {read : Select} {name : String}
    (isWrapped : statement.wrapped = .select read)
    (columns : read.columns = [(rowColumn, .rowToJson (.aliased name))])
    (brought : read.brought stored = [some ⟨name, statement.outputs⟩]) :
    statement.KeepsRows stored ↔ name ∉ statement.outputs := by
  have denoted := denoted?_own_name ⟨name, statement.outputs⟩
  constructor
  · rintro ⟨_, _, items, item, wrappedAgain, columnsAgain, broughtAgain, isRow, -⟩ clash
    cases isWrapped.symm.trans wrappedAgain
    cases columns.symm.trans columnsAgain
    obtain ⟨_, rfl, same⟩ := List.map_eq_singleton_iff.mp (broughtAgain.symm.trans brought)
    cases same
    rw [denoted, if_pos clash] at isRow
    cases isRow
  · intro free
    rw [if_neg free] at denoted
    exact ⟨read, name, [⟨name, statement.outputs⟩], _, isWrapped, columns, brought, denoted, rfl⟩

/-- The rows of a read are kept unless one of its columns bears the wrapper's name for it. -/
theorem Statement.keepsRows_select_iff {read : Select} :
    (Statement.select read).KeepsRows stored ↔ rowTable ∉ read.columns.map (·.1) :=
  keepsRows_iff_of_brought rfl rfl rfl

/-- A wrapped mutation brings its outputs, or nothing where it returns none. -/
theorem Mutation.brought_asJsonRows (write : Mutation) :
    write.asJsonRows.brought stored =
      [if write.outputs = [] then none else some ⟨mutatedTable, write.outputs⟩] := by
  have found : Keyed.lookup? mutatedTable [(mutatedTable, write)] = some write := if_pos rfl
  have brought : write.asJsonRows.brought stored =
      [TableReference.item? stored [(mutatedTable, write)] mutatedTable (.aliased mutatedTable)] :=
    rfl
  rw [brought, TableReference.item?, found, Option.map_some]
  cases write.outputs <;> rfl

/-- The rows of a write are kept when it returns some column, unless one of its columns bears the
wrapper's name for it. -/
theorem Statement.keepsRows_write_iff {statement : Statement} {write : Mutation}
    (isWrapped : statement.wrapped = .select write.asJsonRows)
    (sameOutputs : statement.outputs = write.outputs) :
    statement.KeepsRows stored ↔ write.outputs ≠ [] ∧ mutatedTable ∉ write.outputs := by
  have brought : write.asJsonRows.brought stored = _ := write.brought_asJsonRows
  by_cases returnsNone : write.outputs = []
  · rw [if_pos returnsNone] at brought
    constructor
    · rintro ⟨_, _, items, _, wrappedAgain, -, broughtAgain, -, -⟩
      cases isWrapped.symm.trans wrappedAgain
      obtain ⟨_, -, same⟩ := List.map_eq_singleton_iff.mp (broughtAgain.symm.trans brought)
      cases same
    · exact fun returns => absurd returnsNone returns.1
  · rw [if_neg returnsNone, ← sameOutputs] at brought
    rw [keepsRows_iff_of_brought isWrapped rfl brought, sameOutputs]
    exact (and_iff_right returnsNone).symm

end Sql

/-! ## Planned statements -/

/-- The names of the columns a selection of a table's fields has. -/
def Selection.outputs (table : TypeInfo) : Selection → List String
  | .all => Projection.returnedColumns table
  | .fields names => names

/-- The outputs of a selection are the selected columns. -/
theorem Projection.map_fst_ofSelection (table : TypeInfo) (selection : Selection)
    (name : Option String) :
    (ofSelection table selection name).map (·.1) = selection.outputs table := by
  cases selection with
  | all => exact List.map_map
  | fields names =>
      rw [ofSelection, List.map_map]
      exact List.map_id _

/-- The outputs of a mutation are the returned columns. -/
theorem Projection.map_fst_returning (table : TypeInfo) :
    (returning table).map (·.1) = returnedColumns table := by
  rw [returning, List.map_map]
  exact List.map_id _

variable {stored : String → String → List String}

/-- A planned read keeps its rows unless it selects a field with the wrapper's name, an insertion
unless its table has such a field or no field with a column, and an update unless its table has
such a field. However a query is composed, it keeps its rows as the read it started from. -/
theorem keepsRows_of_planned (stored : String → String → List String) {scope : Scope}
    {tableName : String} {table : TypeInfo} (found : scope.lookupTable tableName = .ok table) :
    (∀ condition selection limit plan,
      scope.planSelect tableName condition selection limit = .ok plan →
      (plan.statement.KeepsRows stored ↔ Sql.rowTable ∉ selection.outputs table)) ∧
    (∀ (accessor : Accessor) condition selection start steps query,
      accessor.scope = scope → accessor.name = tableName →
      accessor.queryMany condition selection = .ok start → start.run steps = .ok query →
      (query.plan.statement.KeepsRows stored ↔ Sql.rowTable ∉ selection.outputs table)) ∧
    (∀ payload explicitId freshId now plan,
      scope.planInsert tableName payload explicitId freshId now = .ok plan →
      (plan.statement.KeepsRows stored ↔
        (∃ field, table.HasColumn field) ∧ ¬ table.HasColumn Sql.mutatedTable)) ∧
    ∀ condition payload plan, scope.planUpdate tableName condition payload = .ok plan →
      (plan.statement.KeepsRows stored ↔ ¬ table.HasColumn Sql.mutatedTable) := by
  have returns : Projection.returnedColumns table ≠ [] ↔ ∃ field, table.HasColumn field := by
    simp only [← TypeInfo.mem_returnedColumns_iff]
    exact ⟨List.exists_mem_of_ne_nil _, fun ⟨_, mem⟩ => List.ne_nil_of_mem mem⟩
  refine ⟨?_, ?_, ?_, ?_⟩
  · rintro condition selection limit plan planned
    obtain ⟨_, expression, foundAgain, -, rfl⟩ := Scope.planSelect_eq_ok_iff.mp planned
    cases found.symm.trans foundAgain
    rw [Sql.Statement.keepsRows_select_iff, Scope.readOf, Projection.map_fst_ofSelection]
  · rintro accessor condition selection start steps query rfl rfl started ran
    obtain ⟨_, expression, foundAgain, -, rfl⟩ := Accessor.queryMany_eq_ok_iff.mp started
    cases found.symm.trans foundAgain
    obtain ⟨added, ran⟩ := Query.ran_of_run ran
    rw [Query.plan, Sql.Statement.keepsRows_select_iff, ran.columns, Scope.readOf,
      Projection.map_fst_ofSelection]
  · rintro payload explicitId freshId now plan planned
    obtain ⟨_, row, written, foundAgain, -, -, rfl⟩ := Scope.planInsert_eq_ok_iff.mp planned
    cases found.symm.trans foundAgain
    rw [@Sql.Statement.keepsRows_write_iff stored _ (.insertion _) rfl rfl, Sql.Mutation.outputs,
      Projection.map_fst_returning, returns, TypeInfo.mem_returnedColumns_iff]
  · rintro condition payload plan planned
    obtain ⟨_, prepared, written, expression, foundAgain, -, typed, nonempty, -, rfl⟩ :=
      Scope.planUpdate_eq_ok_iff.mp planned
    cases found.symm.trans foundAgain
    have stores : ∃ field, table.HasColumn field := by
      obtain ⟨assignment, isWritten⟩ := List.exists_mem_of_ne_nil written nonempty
      exact ⟨_, (Scope.hasColumn_of_writtenValues typed assignment isWritten).1⟩
    rw [@Sql.Statement.keepsRows_write_iff stored _ (.update _) rfl rfl, Sql.Mutation.outputs,
      Projection.map_fst_returning, returns, TypeInfo.mem_returnedColumns_iff]
    exact and_iff_right stores

/-- Users with a name: they are read, queried, inserted and updated with their rows kept. -/
theorem keepsRows_of_planned_user :
    let user : TypeInfo := .table "User" [("id", .id), ("name", .string)]
    let scope : Scope := ⟨⟨[("User", user)], by decide +kernel⟩, "public"⟩
    let stored : String → String → List String := fun _ _ => ["id", "name"]
    let start : Query := ⟨scope, "User", [], scope.readOf user .all .always none⟩
    let payload : Payload := Payload.empty.set "name" (.string "ada")
    scope.lookupTable "User" = .ok user ∧
      (∃ plan, scope.planSelect "User" .empty .all (some 1) = .ok plan ∧
        plan.statement.KeepsRows stored) ∧
      (∃ query, start.run [.orderBy "name" .ascending, .limit 3] = .ok query ∧
        query.plan.statement.KeepsRows stored) ∧
      (∃ plan, scope.planInsert "User" payload none "u1" "2024-06-01T12:00:00" = .ok plan ∧
        plan.statement.KeepsRows stored) ∧
      ∃ plan, scope.planUpdate "User" .empty payload = .ok plan ∧
        plan.statement.KeepsRows stored := by
  intro user scope stored start payload
  have found : scope.lookupTable "User" = .ok user := rfl
  have noRow : Sql.rowTable ∉ Selection.all.outputs user := by decide
  have noMutated : ¬ user.HasColumn Sql.mutatedTable := by
    rw [← TypeInfo.mem_returnedColumns_iff]
    decide
  obtain ⟨selects, queries, inserts, updates⟩ := keepsRows_of_planned stored found
  have isSelect : scope.planSelect "User" .empty .all (some 1) = .ok _ := rfl
  have isInsert : scope.planInsert "User" payload none "u1" "2024-06-01T12:00:00" = .ok _ := rfl
  have isUpdate : scope.planUpdate "User" .empty payload = .ok _ := rfl
  have ran : start.run [.orderBy "name" .ascending, .limit 3] = .ok _ := rfl
  exact ⟨found, ⟨_, isSelect, (selects _ _ _ _ isSelect).mpr noRow⟩,
    ⟨_, ran, (queries ⟨scope, user⟩ .empty .all start _ _ rfl rfl rfl ran).mpr noRow⟩,
    ⟨_, isInsert, (inserts _ _ _ _ _ isInsert).mpr ⟨⟨"id", .id, rfl, rfl⟩, noMutated⟩⟩,
    ⟨_, isUpdate, (updates _ _ _ isUpdate).mpr noMutated⟩⟩

/-- Users with a field of the wrapper's name: their rows are lost, as that name stands for the
field. -/
theorem loses_rows :
    let user : TypeInfo := .table "User" [("id", .id), ("_row", .string)]
    let scope : Scope := ⟨⟨[("User", user)], by decide +kernel⟩, "public"⟩
    ∃ plan, scope.planSelect "User" .empty .all none = .ok plan ∧ plan.statement.returnsRows ∧
      ∀ stored, ¬ plan.statement.KeepsRows stored := by
  intro user scope
  refine ⟨_, rfl, rfl, fun stored keeps => ?_⟩
  exact Sql.Statement.keepsRows_select_iff.mp keeps (by decide)

end CatalogSql
