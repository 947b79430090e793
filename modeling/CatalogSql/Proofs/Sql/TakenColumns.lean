import CatalogSql.Proofs.Keyed.Sorted
import CatalogSql.Proofs.Sql.References

/-!
# Columns that statements take

A read takes columns of the stored tables it names, and so do the reads nested in it; a write
takes columns of the one table it works on. What a statement takes is told by the names of
the tables and of their columns.
-/

namespace CatalogSql.Sql

/-- The name a join gives to a stored table, with the name of that table. -/
def Join.table? (join : Join) : Option (String × String) :=
  match join.reference with
  | .stored _ table => some (join.name, table)
  | .aliased _ => none

namespace Select

/-- The names a read gives to stored tables, with the names of these tables. -/
def tables (read : Select) : List (String × String) :=
  let source :=
    match read.source with
    | some (.table (.stored _ table) name) => [(name, table)]
    | _ => []
  source ++ read.joins.filterMap Join.table?

/-- The expressions of a read, clause by clause. -/
def expressions (read : Select) : List Expression :=
  read.columns.map (·.2) ++ read.joins.map (·.condition) ++
    read.condition :: read.ordering.map (·.1)

/-- The columns a read names outside the reads nested in it. -/
def references (read : Select) : List ColumnReference :=
  read.expressions.flatMap Expression.references

/-- The reads nested in a read; those nested deeper are left out. -/
def reads (read : Select) : List Select := read.expressions.flatMap Expression.reads

end Select

/-- A column qualified by a name of a stored table, from which it may be taken. -/
def ColumnReference.IsFrom (tables : List (String × String)) (allowed : String → String → Prop)
    (reference : ColumnReference) : Prop :=
  ∃ name table field, reference = .qualified (.aliased name) field ∧
    Keyed.lookup? name tables = some table ∧ allowed table field

theorem ColumnReference.IsFrom.mono {tables : List (String × String)}
    {allowed others : String → String → Prop} {reference : ColumnReference}
    (isFrom : reference.IsFrom tables allowed)
    (included : ∀ table field, allowed table field → others table field) :
    reference.IsFrom tables others := by
  obtain ⟨name, table, field, isColumn, behind, isAllowed⟩ := isFrom
  exact ⟨name, table, field, isColumn, behind, included table field isAllowed⟩

/-- A reference stays resolved when tables are added behind. -/
theorem ColumnReference.IsFrom.append {tables : List (String × String)}
    {allowed : String → String → Prop} {reference : ColumnReference}
    (isFrom : reference.IsFrom tables allowed) (added : List (String × String)) :
    reference.IsFrom (tables ++ added) allowed := by
  obtain ⟨name, table, field, isColumn, behind, isAllowed⟩ := isFrom
  refine ⟨name, table, field, isColumn, ?_, isAllowed⟩
  rw [Keyed.lookup?_append, behind, Option.some_or]

namespace Select

/-- A read of a stored table that takes only allowed columns, as do the reads nested in it. -/
inductive TakesOnly (allowed : String → String → Prop) : Select → Prop where
  | nested {read : Select} (shared : read.shared = [])
      (source : ∃ schema table name, read.source = some (.table (.stored schema table) name))
      (own : ∀ reference ∈ read.references, reference.IsFrom read.tables allowed)
      (reads : ∀ inner ∈ read.reads, TakesOnly allowed inner) : TakesOnly allowed read

/-- A read takes a column of a table when it names that column, or a read nested in it does. -/
inductive Takes : Select → String → String → Prop where
  | own {read : Select} {name table field : String}
      (isReference : .qualified (.aliased name) field ∈ read.references)
      (behind : Keyed.lookup? name read.tables = some table) : Takes read table field
  | nested {read inner : Select} {table field : String} (isRead : inner ∈ read.reads)
      (takes : Takes inner table field) : Takes read table field

variable {allowed others : String → String → Prop} {read : Select} {table field : String}

theorem TakesOnly.mono (only : read.TakesOnly allowed)
    (included : ∀ table field, allowed table field → others table field) :
    read.TakesOnly others := by
  induction only with
  | nested shared source own _ ih =>
      exact .nested shared source (fun reference mem => (own reference mem).mono included) ih

/-- A column that is taken is an allowed one. -/
theorem TakesOnly.allowed_of_takes (only : read.TakesOnly allowed)
    (takes : read.Takes table field) : allowed table field := by
  induction takes with
  | own isReference behind =>
      cases only with
      | nested _ _ own _ =>
          obtain ⟨name, table, field, same, found, isAllowed⟩ := own _ isReference
          cases same
          cases found.symm.trans behind
          exact isAllowed
  | nested isRead _ ih =>
      cases only with
      | nested _ _ _ reads => exact ih (reads _ isRead)

end Select

/-- An expression that names allowed columns of the one table it is about, and nests no read. -/
def Expression.TakesPlain (allowed : String → Prop) (expression : Expression) : Prop :=
  expression.reads = [] ∧
    ∀ reference ∈ expression.references, ∃ field, reference = .plain field ∧ allowed field

/-- A statement that takes only allowed columns of its tables: to read them, to compare them, to
write them and to return them. -/
def Statement.TakesOnly (allowed : String → String → Prop) : Statement → Prop
  | .select read => read.TakesOnly allowed
  | .insertion row =>
      (∀ column ∈ row.columns, allowed row.table column) ∧
      (∀ value ∈ row.values, value.TakesPlain (allowed row.table)) ∧
      ∀ returned ∈ row.returning, returned.2.TakesPlain (allowed row.table)
  | .update change =>
      (∀ assignment ∈ change.assignments, allowed change.table assignment.1 ∧
        assignment.2.TakesPlain (allowed change.table)) ∧
      change.condition.TakesPlain (allowed change.table) ∧
      ∀ returned ∈ change.returning, returned.2.TakesPlain (allowed change.table)
  | .deletion removal => removal.condition.TakesPlain (allowed removal.table)

/-- A conjunction takes what its predicates take. -/
theorem Expression.takesPlain_conjoin {allowed : String → Prop} {predicates : List Expression}
    (each : ∀ predicate ∈ predicates, predicate.TakesPlain allowed) :
    (conjoin predicates).TakesPlain allowed := by
  constructor
  · rw [reads_conjoin, List.flatMap_eq_nil_iff]
    exact fun predicate mem => (each predicate mem).1
  · intro reference mem
    rw [references_conjoin] at mem
    obtain ⟨predicate, isPredicate, inPredicate⟩ := List.mem_flatMap.mp mem
    exact (each predicate isPredicate).2 reference inPredicate

end CatalogSql.Sql
