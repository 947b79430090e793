import CatalogSql.Access.Call
import CatalogSql.Proofs.Access.WellFormed
import CatalogSql.Proofs.Sql.Unambiguity
import Mathlib

/-!
# Pages of rows

A database answers a read by a page of the rows that its other clauses determine: less the first
ones, and at most so many. Any rows at all can be paged in this way, since the statement that is
sent tells the read. The first row of a query is then the head of all its rows, unless the query
keeps no row at all: its first row is fetched as if it kept one.
-/

namespace CatalogSql

/-! ## Pages -/

namespace Sql.Select

variable {α : Type}

/-- A read without its bounds. -/
def unbounded (read : Select) : Select := { read with limit := none, offset := none }

/-- The rows behind those that a read skips. -/
def remaining (read : Select) (rows : List α) : List α :=
  match read.offset with
  | some count => rows.drop count.toNat
  | none => rows

/-- The rows that a read keeps. -/
def page (read : Select) (rows : List α) : List α :=
  match read.limit with
  | some count => (read.remaining rows).take count.toNat
  | none => read.remaining rows

/-- A page with a limit is the front of the rows that are left. -/
theorem page_of_limit {read : Select} {count : UInt32} (limit : read.limit = some count)
    (rows : List α) : read.page rows = (read.remaining rows).take count.toNat := by
  rw [page, limit]

/-- A read that keeps some rows keeps the first one it does not skip. -/
theorem page_of_cons {read : Select} {rows : List α} {row : α} {rest : List α}
    (keeps : read.limit ≠ some 0) (left : read.remaining rows = row :: rest) :
    ∃ others, read.page rows = row :: others := by
  unfold page
  split
  · rename_i count limit
    have positive : count.toNat ≠ 0 := by
      intro none
      exact keeps (limit.trans (congrArg some (UInt32.toNat_inj.mp none)))
    obtain ⟨number, isNext⟩ := Nat.exists_eq_succ_of_ne_zero positive
    exact ⟨rest.take number, by rw [left, isNext, List.take_succ_cons]⟩
  · exact ⟨rest, left⟩

/-- A page of no rows is empty. -/
theorem page_of_nil {read : Select} {rows : List α} (left : read.remaining rows = []) :
    read.page rows = [] := by
  unfold page
  split
  · rw [left, List.take_nil]
  · exact left

end Sql.Select

variable {σ : Type}

/-- A database that answers every read, on either channel, by a page of the rows that the other
clauses of the read determine. -/
def Database.Pages (database : Database σ) (rowsOf : σ → Channel → Sql.Select → List ReturnedRow) :
    Prop :=
  ∀ state channel table read, read.IsWellFormed →
    (database.answer state ⟨channel, (Sql.Plan.mk table (.select read)).query⟩).1 =
      .rows (read.page (rowsOf state channel read.unbounded))

/-- Whether a message is sent for a read. -/
def Message.IsSentFor (message : Message) (read : Sql.Select) : Prop :=
  read.IsWellFormed ∧ message.sql = .ofPieces (Sql.Statement.select read).wrapped.pieces

/-- A message is sent for one read at most. -/
theorem Message.IsSentFor.unique {message : Message} {read other : Sql.Select}
    (isSent : message.IsSentFor read) (again : message.IsSentFor other) : read = other := by
  obtain ⟨wellFormed, sql⟩ := isSent
  obtain ⟨otherWellFormed, otherSql⟩ := again
  have same := sql.symm.trans otherSql
  have sameTokens := Sql.Statement.tokens_eq_of_text (congrArg Sql.Prepared.text same)
    (congrArg Sql.Prepared.params same)
  have sameWrapped := Sql.Statement.tokens_injective
    (@Sql.Statement.wrapped_isWellFormed (.select read) wellFormed)
    (@Sql.Statement.wrapped_isWellFormed (.select other) otherWellFormed) sameTokens
  injection Sql.Statement.wrapped_injective sameWrapped

open Classical in
/-- A database that pages given rows, and says nothing to any other message. -/
noncomputable def Database.paging (rowsOf : σ → Channel → Sql.Select → List ReturnedRow) :
    Database σ where
  answer state message :=
    if sent : ∃ read, message.IsSentFor read then
      (.rows (sent.choose.page (rowsOf state message.channel sent.choose.unbounded)), state)
    else (.rows [], state)

/-- Rows can be paged whatever they are. -/
theorem Database.pages_paging (rowsOf : σ → Channel → Sql.Select → List ReturnedRow) :
    (paging rowsOf).Pages rowsOf := by
  intro state channel table read wellFormed
  let message : Message := ⟨channel, (Sql.Plan.mk table (.select read)).query⟩
  have isSent : message.IsSentFor read := ⟨wellFormed, rfl⟩
  have sent : ∃ read, message.IsSentFor read := ⟨read, isSent⟩
  have same : sent.choose = read := sent.choose_spec.unique isSent
  have answered : (paging rowsOf).answer state message =
      (.rows (sent.choose.page (rowsOf state channel sent.choose.unbounded)), state) := dif_pos sent
  rw [answered, same]

/-! ## First rows -/

namespace Reply

/-- What the first of some rows is read as, if there is one. -/
def readFirst : List ReturnedRow → Except AccessError (Option Json)
  | [] => .ok none
  | row :: _ => (readRow row).map some

/-- Rows are read one by one. -/
theorem mapM_readRow_cons_eq_ok_iff {row : ReturnedRow} {rest : List ReturnedRow}
    {values : List Json} :
    (row :: rest).mapM readRow = .ok values ↔
      ∃ value others, readRow row = .ok value ∧ rest.mapM readRow = .ok others ∧
        values = value :: others := by
  rw [List.mapM_cons]
  simp only [bind_eq_ok_iff]
  constructor
  · rintro ⟨value, isValue, others, areOthers, same⟩
    cases same
    exact ⟨value, others, isValue, areOthers, rfl⟩
  · rintro ⟨value, others, isValue, areOthers, rfl⟩
    exact ⟨value, isValue, others, areOthers, rfl⟩

/-- The first row holds the value of the json text in its column. -/
theorem readFirst_of_text {text : String} {value : Json} (parsed : Json.ofText text = .ok value)
    (rest : List ReturnedRow) :
    readFirst ([(Sql.rowColumn, .json text)] :: rest) = .ok (some value) := by
  have read : readRow [(Sql.rowColumn, .json text)] = .ok value := by
    rw [readRow, Keyed.lookup?, if_pos rfl]
    simp only [parsed]
  rw [readFirst, read]
  rfl

/-- One row is read as the first of all rows is. -/
theorem mapM_readRow_take_one (rows : List ReturnedRow) :
    ((rows.take 1).mapM readRow).map List.head? = readFirst rows := by
  cases rows with
  | nil => rfl
  | cons row rest =>
      rw [List.take_succ_cons, List.take_zero, List.mapM_cons, List.mapM_nil, readFirst]
      cases readRow row <;> rfl

end Reply

/-- What is made of the rows that a plan is sent for. -/
theorem Call.run_fetch {α σ : Type} {plan : Sql.Plan} (returnsRows : plan.statement.returnsRows)
    (make : List Json → α) (channel : Channel) (database : Database σ) (state : σ) :
    ((Call.fetch plan fun rows => .ok (make rows)).run channel database state).2.1 =
      ((database.answer state ⟨channel, plan.query⟩).1.readRows).map make := by
  rw [Call.fetch, if_pos returnsRows]
  change (do let rows ← (database.answer state ⟨channel, plan.query⟩).1.readRows
             Except.ok (make rows)) = _
  cases (database.answer state ⟨channel, plan.query⟩).1.readRows <;> rfl

namespace Query

/-- What is fetched first agrees with all that is fetched: it is the head of all rows, there is
none exactly when there are no rows, and it fails only as all of them do. -/
structure IsHead (first : Except AccessError (Option Json)) (all : Except AccessError (List Json)) :
    Prop where
  head : ∀ rows, all = .ok rows → first = .ok rows.head?
  none_iff : first = .ok none ↔ all = .ok []
  failed : ∀ error, first = .error error → all = .error error

/-- The first of no rows is none. -/
theorem isHead_nil : IsHead (Reply.readFirst []) (([] : List ReturnedRow).mapM Reply.readRow) where
  head rows isRows := by
    cases isRows
    rfl
  none_iff := iff_of_true rfl rfl
  failed := by rintro error ⟨⟩

/-- The first row is the head of what is read, whatever follows. -/
theorem isHead_cons (row : ReturnedRow) (rest others : List ReturnedRow) :
    IsHead (Reply.readFirst (row :: rest)) ((row :: others).mapM Reply.readRow) where
  head rows isRows := by
    obtain ⟨value, others, isValue, -, rfl⟩ := Reply.mapM_readRow_cons_eq_ok_iff.mp isRows
    rw [Reply.readFirst, isValue]
    rfl
  none_iff := by
    constructor
    · intro isNone
      obtain ⟨value, -, absurd⟩ := map_eq_ok_iff.mp isNone
      cases absurd
    · intro isNil
      obtain ⟨value, others, -, -, absurd⟩ := Reply.mapM_readRow_cons_eq_ok_iff.mp isNil
      cases absurd
  failed error isError := by
    rw [List.mapM_cons, map_eq_error_iff.mp isError]
    rfl

variable {σ : Type} {database : Database σ}
  {rowsOf : σ → Channel → Sql.Select → List ReturnedRow} {catalog : Catalog} {query : Query}

/-- All rows of a query are those of its page. -/
theorem fetchAll_of_pages (pages : database.Pages rowsOf) (reachable : Reachable catalog query)
    (channel : Channel) (state : σ) :
    (query.fetchAll.run channel database state).2.1 =
      (query.select.page (rowsOf state channel query.select.unbounded)).mapM Reply.readRow := by
  have ran : (query.fetchAll.run channel database state).2.1 =
      ((database.answer state ⟨channel, query.plan.query⟩).1.readRows).map id :=
    Call.run_fetch rfl id channel database state
  rw [ran, plan, pages state channel query.table query.select (isWellFormed_of_reachable reachable),
    Reply.readRows]
  exact congrFun Except.map_id _

/-- The first row of a query is the first that it does not skip, however many it keeps. -/
theorem fetchOptional_of_pages (pages : database.Pages rowsOf)
    (reachable : Reachable catalog query) (channel : Channel) (state : σ) :
    (query.fetchOptional.run channel database state).2.1 =
      Reply.readFirst
        (query.select.remaining (rowsOf state channel query.select.unbounded)) := by
  have limited : Reachable catalog (query.limit 1) :=
    @Reachable.step _ _ _ (.limit 1) reachable (by rintro _ _ ⟨⟩) rfl
  have ran : (query.fetchOptional.run channel database state).2.1 =
      ((database.answer state ⟨channel, (query.limit 1).plan.query⟩).1.readRows).map List.head? :=
    Call.run_fetch rfl List.head? channel database state
  rw [ran, plan, pages state channel (query.limit 1).table (query.limit 1).select
    (isWellFormed_of_reachable limited), Reply.readRows, Sql.Select.page_of_limit rfl]
  exact Reply.mapM_readRow_take_one _

/-- The first row of a query is the head of all its rows, exactly when the query keeps some row or
skips all of them; whatever it keeps, its first row is the first that it does not skip. -/
theorem fetches_head_iff (pages : database.Pages rowsOf) (reachable : Reachable catalog query)
    (channel : Channel) (state : σ) :
    let all := (query.fetchAll.run channel database state).2.1
    let first := (query.fetchOptional.run channel database state).2.1
    let left := query.select.remaining (rowsOf state channel query.select.unbounded)
    first = Reply.readFirst left ∧
      (IsHead first all ↔ query.select.limit ≠ some 0 ∨ left = []) := by
  intro all first left
  have isFirst : first = Reply.readFirst left :=
    fetchOptional_of_pages pages reachable channel state
  have areAll : all =
      (query.select.page (rowsOf state channel query.select.unbounded)).mapM Reply.readRow :=
    fetchAll_of_pages pages reachable channel state
  refine ⟨isFirst, ?_⟩
  rw [isFirst, areAll]
  cases shape : left with
  | nil =>
      rw [Sql.Select.page_of_nil shape]
      exact iff_of_true isHead_nil (.inr rfl)
  | cons row rest =>
      constructor
      · intro isHead
        refine .inl fun limit => ?_
        have none : query.select.page (rowsOf state channel query.select.unbounded) = [] :=
          (Sql.Select.page_of_limit limit _).trans List.take_zero
        rw [none] at isHead
        obtain ⟨_, -, absurd⟩ := map_eq_ok_iff.mp (isHead.none_iff.mpr rfl)
        cases absurd
      · rintro (keeps | none)
        · obtain ⟨others, isPage⟩ := Sql.Select.page_of_cons keeps shape
          rw [isPage]
          exact isHead_cons row rest others
        · cases none

/-- Users in the order of their names, two at a time: the second page starts with the third user,
and so does what is fetched first. -/
theorem fetches_head_iff_users :
    let user : TypeInfo := .table "User" [("id", .id), ("name", .string)]
    let scope : Scope := ⟨.ofTypes [user], "public"⟩
    let start : Query := ⟨scope, "User", [], scope.readOf user (.fields ["id"]) .always none⟩
    let row (text : String) : ReturnedRow := [(Sql.rowColumn, .json text)]
    let rowsOf : Unit → Channel → Sql.Select → List ReturnedRow :=
      fun _ _ _ => [row "1", row "2", row "\x7b\"id\":\"u3\"\x7d", row "4", row "5"]
    let database : Database Unit := .paging rowsOf
    ∃ query, start.run [.orderBy "name" .ascending, .limit 2, .offset 2] = .ok query ∧
      Reachable scope.catalog query ∧ database.Pages rowsOf ∧
      IsHead (query.fetchOptional.run .pool database ()).2.1
        (query.fetchAll.run .pool database ()).2.1 ∧
      (query.fetchOptional.run .pool database ()).2.1 =
        .ok (some (.object [("id", .string "u3")])) := by
  intro user scope start row rowsOf database
  have pages : database.Pages rowsOf := Database.pages_paging rowsOf
  have started : Reachable scope.catalog start :=
    @Reachable.start _ ⟨scope, user⟩ .empty (.fields ["id"]) _ rfl rfl
  have ran : start.run [.orderBy "name" .ascending, .limit 2, .offset 2] = .ok _ := rfl
  have reachable := started.run (by simp) ran
  have parsed : Json.ofText "\x7b\"id\":\"u3\"\x7d" = .ok (.object [("id", .string "u3")]) := by
    cbv
  obtain ⟨isFirst, isHead_iff⟩ := fetches_head_iff pages reachable .pool ()
  refine ⟨_, ran, reachable, pages, isHead_iff.mpr (.inl (by decide)), ?_⟩
  exact isFirst.trans (Reply.readFirst_of_text parsed _)

/-- A query that keeps no row: it has no rows, and yet a first one is fetched. -/
theorem fetches_row_beyond_limit :
    let user : TypeInfo := .table "User" [("id", .id)]
    let scope : Scope := ⟨.ofTypes [user], "public"⟩
    let start : Query := ⟨scope, "User", [], scope.readOf user (.fields ["id"]) .always none⟩
    let rowsOf : Unit → Channel → Sql.Select → List ReturnedRow :=
      fun _ _ _ => [[(Sql.rowColumn, .json "\x7b\"id\":\"u1\"\x7d")]]
    ∃ (database : Database Unit) (query : Query), database.Pages rowsOf ∧
      start.run [.limit 0] = .ok query ∧ Reachable scope.catalog query ∧
      (query.fetchAll.run .pool database ()).2.1 = .ok [] ∧
      (query.fetchOptional.run .pool database ()).2.1 =
        .ok (some (.object [("id", .string "u1")])) := by
  intro user scope start rowsOf
  have pages := Database.pages_paging rowsOf
  have started : Reachable scope.catalog start :=
    @Reachable.start _ ⟨scope, user⟩ .empty (.fields ["id"]) _ rfl rfl
  have ran : start.run [.limit 0] = .ok _ := rfl
  have reachable := started.run (by simp) ran
  have parsed : Json.ofText "\x7b\"id\":\"u1\"\x7d" = .ok (.object [("id", .string "u1")]) := by
    cbv
  refine ⟨.paging rowsOf, _, pages, ran, reachable, ?_, ?_⟩
  · exact fetchAll_of_pages pages reachable .pool ()
  · exact (fetchOptional_of_pages pages reachable .pool ()).trans
      (Reply.readFirst_of_text parsed [])

end Query

end CatalogSql
