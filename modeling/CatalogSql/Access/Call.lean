import CatalogSql.Access.Accessor
import CatalogSql.Json.Decoder

/-!
# Calls on the database

A call either fails before anything is sent, or sends one statement and draws its
result from the one reply to it. Where the statement is sent, to a transaction of the
caller or to the pool, is not the call's choice.
-/

namespace CatalogSql

/-- A value in a column of a returned row. -/
inductive Cell where
  | json (text : String)
  | null
  | other
deriving DecidableEq

/-- A returned row: its columns by name. -/
abbrev ReturnedRow := List (String × Cell)

/-- What the database answers to one statement. -/
inductive Reply where
  | rows (rows : List ReturnedRow)
  | affected (count : Nat)
  | failed (code message : String)

namespace Reply

/-- Reads the json object of a row. -/
def readRow (row : ReturnedRow) : Except AccessError Json :=
  match Keyed.lookup? Sql.rowColumn row with
  | none => .error (.unreadableRow (.missingColumn Sql.rowColumn))
  | some .null => .error (.unreadableRow (.nullColumn Sql.rowColumn))
  | some .other => .error (.unreadableRow (.notJson Sql.rowColumn))
  | some (.json text) =>
      match Json.ofText text with
      | .ok value => .ok value
      | .error fault => .error (.unreadableRow (.badJson Sql.rowColumn fault))

/-- The rows of a reply, all of them or none. Only statements that return rows are sent for them,
and the database answers those with rows or a failure, so a count cannot occur here. -/
def readRows : Reply → Except AccessError (List Json)
  | .rows returned => returned.mapM readRow
  | .affected _ => .ok []
  | .failed code message => .error (.database code message)

/-- The number of rows a reply reports. Only removals are sent for it, and they return no rows, so
that the database answers them with a count or a failure: rows cannot occur here. -/
def readCount : Reply → Except AccessError Nat
  | .rows _ => .ok 0
  | .affected count => .ok count
  | .failed code message => .error (.database code message)

end Reply

/-- A statement to send and how its reply is read. -/
structure Sending (α : Type) where
  plan : Sql.Plan
  conclude : Reply → Except AccessError α

/-- An operation that fails at once or sends one statement. -/
abbrev Call (α : Type) := Except AccessError (Sending α)

namespace Call

variable {α : Type}

/-- Sends a plan for its rows; one that returns none is not sent. -/
def fetch (plan : Sql.Plan) (conclude : List Json → Except AccessError α) : Call α :=
  if plan.statement.returnsRows then
    .ok ⟨plan, fun reply => do conclude (← reply.readRows)⟩
  else .error (.notARowStatement plan.rootTable)

/-- Sends a plan for the number of rows it affects. -/
def execute (plan : Sql.Plan) : Call Nat := .ok ⟨plan, Reply.readCount⟩

end Call

namespace Accessor

/-- The first row that satisfies a condition. -/
def queryOne (accessor : Accessor) (condition : Condition) (selection : Selection) :
    Call (Option Json) :=
  (accessor.planQueryOne condition selection).bind fun plan =>
    Call.fetch plan fun rows => .ok rows.head?

/-- Inserts a row and gives it as stored. -/
def insert (accessor : Accessor) (payload : Payload) (explicitId : Option String)
    (freshId now : String) : Call Json :=
  (accessor.planInsert payload explicitId freshId now).bind fun plan =>
    Call.fetch plan fun rows =>
      match rows.head? with
      | some row => .ok row
      | none => .error (.noRowReturned accessor.name)

/-- Updates the rows that satisfy a condition and gives the first of them as stored. -/
def updateOne (accessor : Accessor) (condition : Condition) (payload : Payload) :
    Call (Option Json) :=
  (accessor.planUpdate condition payload).bind fun plan =>
    Call.fetch plan fun rows => .ok rows.head?

/-- Removes the rows that satisfy a condition and gives their number. -/
def delete (accessor : Accessor) (condition : Condition) : Call Nat :=
  (accessor.planDelete condition).bind Call.execute

end Accessor

namespace Query

/-- All rows of the query. -/
def fetchAll (query : Query) : Call (List Json) := Call.fetch query.plan .ok

/-- The first row of the query. -/
def fetchOptional (query : Query) : Call (Option Json) :=
  Call.fetch (query.limit 1).plan fun rows => .ok rows.head?

end Query

/-- Where a statement is sent. -/
inductive Channel where
  | pool
  | transaction
deriving DecidableEq, Repr

/-- A statement as the database receives it. -/
structure Message where
  channel : Channel
  sql : Sql.Prepared

/-- A database: how a state answers a message and changes. -/
structure Database (σ : Type) where
  answer : σ → Message → Reply × σ

namespace Call

variable {α σ : Type}

/-- Runs a call: the messages sent, the result and the database's next state. -/
def run (call : Call α) (channel : Channel) (database : Database σ) (state : σ) :
    List Message × Except AccessError α × σ :=
  match call with
  | .error error => ([], .error error, state)
  | .ok sending =>
      let message : Message := ⟨channel, sending.plan.query⟩
      let (reply, next) := database.answer state message
      ([message], sending.conclude reply, next)

end Call

end CatalogSql
