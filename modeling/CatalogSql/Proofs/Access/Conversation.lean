import CatalogSql.Access.Connection
import CatalogSql.Proofs.Planning.Statements
import Mathlib.Data.List.Forall2

/-!
# Conversations with the database

Calls are made one after another, each on the pool or on a transaction of its caller. A
conversation is what the database sees of them: one statement for each call that can be planned,
and nothing for the others. What a call gives is drawn from the one reply to its statement.
-/

namespace CatalogSql

/-! ## Calls -/

/-- A call on a table or on a composed query. -/
inductive DatabaseCall where
  | queryOne (accessor : Accessor) (condition : Condition) (selection : Selection)
  | insert (accessor : Accessor) (payload : Payload) (explicitId : Option String)
  | updateOne (accessor : Accessor) (condition : Condition) (payload : Payload)
  | delete (accessor : Accessor) (condition : Condition)
  | fetchAll (query : Query)
  | fetchOptional (query : Query)

/-- What a call gives: a row if there is one, the row that was stored, all rows, or the number of
rows that were removed. -/
inductive CallResult where
  | optional (row : Option Json)
  | stored (row : Json)
  | all (rows : List Json)
  | removed (count : Nat)

/-- A call that sends the same, with its result changed. -/
def Call.mapResult {α β : Type} (call : Call α) (change : α → β) : Call β :=
  call.map fun sending => ⟨sending.plan, fun reply => (sending.conclude reply).map change⟩

namespace DatabaseCall

/-- What is sent for a call and how the reply is read, given the next fresh identifier and the
time. -/
def sending (freshId now : String) : DatabaseCall → Call CallResult
  | .queryOne accessor condition selection =>
      (accessor.queryOne condition selection).mapResult .optional
  | .insert accessor payload explicitId =>
      (accessor.insert payload explicitId freshId now).mapResult .stored
  | .updateOne accessor condition payload =>
      (accessor.updateOne condition payload).mapResult .optional
  | .delete accessor condition => (accessor.delete condition).mapResult .removed
  | .fetchAll query => query.fetchAll.mapResult .all
  | .fetchOptional query => query.fetchOptional.mapResult .optional

/-- The plan of a call, given the next fresh identifier and the time. -/
def plan (freshId now : String) : DatabaseCall → Except AccessError Sql.Plan
  | .queryOne accessor condition selection => accessor.planQueryOne condition selection
  | .insert accessor payload explicitId => accessor.planInsert payload explicitId freshId now
  | .updateOne accessor condition payload => accessor.planUpdate condition payload
  | .delete accessor condition => accessor.planDelete condition
  | .fetchAll query => .ok query.plan
  | .fetchOptional query => .ok (query.limit 1).plan

/-- The number of fresh identifiers a call takes. -/
def idsTaken : DatabaseCall → Nat
  | .insert accessor _ explicitId => if accessor.takesFreshId explicitId then 1 else 0
  | _ => 0

end DatabaseCall

/-- A call with the time it is made at and the channel it is given. -/
structure IssuedCall where
  channel : Channel
  now : String
  call : DatabaseCall

namespace IssuedCall

variable {σ : Type}

/-- Makes calls one after another. Fresh identifiers are taken from one sequence, of which a number
is already taken. -/
def run (ids : Nat → String) (database : Database σ) :
    List IssuedCall → Nat → σ → List (Except AccessError CallResult) × σ
  | [], _, state => ([], state)
  | issued :: rest, taken, state =>
      let made := (issued.call.sending (ids taken) issued.now).run issued.channel database state
      let others := run ids database rest (taken + issued.call.idsTaken) made.2.2
      (made.2.1 :: others.1, others.2)

end IssuedCall

/-- A database that keeps a record of every message it gets and of its replies. -/
def Database.recorded {σ : Type} (database : Database σ) :
    Database (σ × List (Message × Reply)) where
  answer state message :=
    let (reply, next) := database.answer state.1 message
    (reply, next, state.2 ++ [(message, reply)])

/-! ## What replies mean -/

namespace Reply

/-- The rows of a reply. -/
def returned : Reply → List ReturnedRow
  | .rows returned => returned
  | _ => []

/-- The number of rows that a reply says were affected. -/
def count : Reply → Nat
  | .affected number => number
  | _ => 0

/-- A reply that is no error. -/
def IsAnswer (reply : Reply) : Prop := ∀ code message, reply ≠ .failed code message

/-- What a returned row is read as: the json value in its one column, or what is wrong with it. -/
inductive ReadsAs (row : ReturnedRow) : Except RowFault Json → Prop where
  | value {text : String} {value : Json}
      (held : Keyed.lookup? Sql.rowColumn row = some (.json text))
      (isJson : Json.ofText text = .ok value) : ReadsAs row (.ok value)
  | missing (absent : Keyed.lookup? Sql.rowColumn row = none) :
      ReadsAs row (.error (.missingColumn Sql.rowColumn))
  | null (held : Keyed.lookup? Sql.rowColumn row = some .null) :
      ReadsAs row (.error (.nullColumn Sql.rowColumn))
  | other (held : Keyed.lookup? Sql.rowColumn row = some .other) :
      ReadsAs row (.error (.notJson Sql.rowColumn))
  | badJson {text : String} {fault : Json.TextFault}
      (held : Keyed.lookup? Sql.rowColumn row = some (.json text))
      (notJson : Json.ofText text = .error fault) :
      ReadsAs row (.error (.badJson Sql.rowColumn fault))

/-- What returned rows are read as: the values of all of them in order, or what is wrong with the
first that cannot be read. -/
inductive RowsReadAs : List ReturnedRow → Except RowFault (List Json) → Prop where
  | values {rows : List ReturnedRow} {values : List Json}
      (each : List.Forall₂ (fun row value => ReadsAs row (.ok value)) rows values) :
      RowsReadAs rows (.ok values)
  | fault {before after : List ReturnedRow} {row : ReturnedRow} {fault : RowFault}
      (readable : ∀ earlier ∈ before, ∃ value, ReadsAs earlier (.ok value))
      (unreadable : ReadsAs row (.error fault)) :
      RowsReadAs (before ++ row :: after) (.error fault)

/-- Every returned row is read as a json value or with a fault. -/
theorem readsAs_readRow (row : ReturnedRow) :
    ∃ read, ReadsAs row read ∧ readRow row = read.mapError .unreadableRow := by
  unfold readRow
  cases held : Keyed.lookup? Sql.rowColumn row with
  | none => exact ⟨_, .missing held, rfl⟩
  | some cell =>
      cases cell with
      | null => exact ⟨_, .null held, rfl⟩
      | other => exact ⟨_, .other held, rfl⟩
      | json text =>
          cases parsed : Json.ofText text with
          | ok value => exact ⟨_, .value held parsed, by simp only [parsed]; rfl⟩
          | error fault => exact ⟨_, .badJson held parsed, by simp only [parsed]; rfl⟩

/-- What a row is read as is what the reading returns. -/
theorem ReadsAs.readRow_eq {row : ReturnedRow} {read : Except RowFault Json}
    (reads : ReadsAs row read) : readRow row = read.mapError .unreadableRow := by
  unfold readRow
  cases reads with
  | missing held | null held | other held =>
      rw [held]
      rfl
  | value held parsed | badJson held parsed =>
      simp only [held, parsed]
      rfl

/-- Every list of rows is read as values or with the first fault. -/
theorem rowsReadAs_mapM (rows : List ReturnedRow) :
    ∃ read, RowsReadAs rows read ∧ rows.mapM readRow = read.mapError .unreadableRow := by
  induction rows with
  | nil => exact ⟨.ok [], .values .nil, rfl⟩
  | cons row rest ih =>
      rw [List.mapM_cons]
      obtain ⟨read, reads, isRead⟩ := readsAs_readRow row
      obtain ⟨others, restReads, restRead⟩ := ih
      rw [isRead, restRead]
      cases read with
      | error fault => exact ⟨_, .fault (List.forall_mem_nil _) reads, rfl⟩
      | ok value =>
          cases restReads with
          | values each => exact ⟨_, .values (.cons reads each), rfl⟩
          | @fault before after bad _ readable unreadable =>
              have allReadable := List.forall_mem_cons.mpr ⟨⟨value, reads⟩, readable⟩
              exact ⟨_, .fault allReadable unreadable, rfl⟩

/-- What rows are read as is what the reading returns. -/
theorem RowsReadAs.mapM_eq {rows : List ReturnedRow} {read : Except RowFault (List Json)}
    (reads : RowsReadAs rows read) : rows.mapM readRow = read.mapError .unreadableRow := by
  cases reads with
  | values each =>
      induction each with
      | nil => rfl
      | cons first _ ih =>
          rw [List.mapM_cons, first.readRow_eq, ih]
          rfl
  | @fault before after row fault readable unreadable =>
      induction before with
      | nil =>
          rw [List.nil_append, List.mapM_cons, unreadable.readRow_eq]
          rfl
      | cons earlier rest ih =>
          obtain ⟨⟨value, reads⟩, restReadable⟩ := List.forall_mem_cons.mp readable
          rw [List.cons_append, List.mapM_cons, reads.readRow_eq, ih restReadable]
          rfl

/-- Rows are read as one thing only. -/
theorem RowsReadAs.unique {rows : List ReturnedRow} {read other : Except RowFault (List Json)}
    (reads : RowsReadAs rows read) (again : RowsReadAs rows other) : read = other := by
  have same := reads.mapM_eq.symm.trans again.mapM_eq
  cases read <;> cases other <;> cases same <;> rfl

end Reply

namespace DatabaseCall

/-- A call that wants rows and not their number. -/
def WantsRows (call : DatabaseCall) : Prop :=
  ∀ accessor condition, call ≠ .delete accessor condition

/-- What a call makes of the rows it gets. -/
inductive Makes : DatabaseCall → List Json → Except AccessError CallResult → Prop where
  | queryOne {accessor : Accessor} {condition : Condition} {selection : Selection}
      (rows : List Json) :
      Makes (.queryOne accessor condition selection) rows (.ok (.optional rows.head?))
  | inserted {accessor : Accessor} {payload : Payload} {explicitId : Option String}
      (row : Json) (rest : List Json) :
      Makes (.insert accessor payload explicitId) (row :: rest) (.ok (.stored row))
  | notInserted {accessor : Accessor} {payload : Payload} {explicitId : Option String} :
      Makes (.insert accessor payload explicitId) [] (.error (.noRowReturned accessor.name))
  | updateOne {accessor : Accessor} {condition : Condition} {payload : Payload}
      (rows : List Json) :
      Makes (.updateOne accessor condition payload) rows (.ok (.optional rows.head?))
  | fetchAll {query : Query} (rows : List Json) : Makes (.fetchAll query) rows (.ok (.all rows))
  | fetchOptional {query : Query} (rows : List Json) :
      Makes (.fetchOptional query) rows (.ok (.optional rows.head?))

/-- What a call gives for the reply to its statement. An error of the database is the error of the
call, and so is the first row that cannot be read. -/
inductive Concludes : DatabaseCall → Reply → Except AccessError CallResult → Prop where
  | failed {call : DatabaseCall} (code message : String) :
      Concludes call (.failed code message) (.error (.database code message))
  | removed {accessor : Accessor} {condition : Condition} {reply : Reply}
      (isAnswer : reply.IsAnswer) :
      Concludes (.delete accessor condition) reply (.ok (.removed reply.count))
  | unreadable {call : DatabaseCall} {reply : Reply} {fault : RowFault}
      (wantsRows : call.WantsRows) (isAnswer : reply.IsAnswer)
      (read : Reply.RowsReadAs reply.returned (.error fault)) :
      Concludes call reply (.error (.unreadableRow fault))
  | made {call : DatabaseCall} {reply : Reply} {rows : List Json}
      {result : Except AccessError CallResult} (isAnswer : reply.IsAnswer)
      (read : Reply.RowsReadAs reply.returned (.ok rows)) (makes : call.Makes rows result) :
      Concludes call reply result

variable {call : DatabaseCall} {α : Type}

/-- A call makes one result of the rows only. -/
theorem Makes.unique {rows : List Json} {result other : Except AccessError CallResult}
    (makes : call.Makes rows result) (again : call.Makes rows other) : result = other := by
  cases makes <;> cases again <;> rfl

/-- A call gives one thing for a reply. -/
theorem Concludes.unique {reply : Reply} {result other : Except AccessError CallResult}
    (concludes : call.Concludes reply result) (again : call.Concludes reply other) :
    result = other := by
  cases concludes with
  | failed code message =>
      cases again with
      | failed => rfl
      | unreadable _ isAnswer _ | made isAnswer _ _ => exact absurd rfl (isAnswer code message)
      | removed isAnswer => exact absurd rfl (isAnswer code message)
  | removed isAnswer =>
      cases again with
      | failed code message => exact absurd rfl (isAnswer code message)
      | removed => rfl
      | unreadable wantsRows _ _ => exact absurd rfl (wantsRows _ _)
      | made _ _ makes => cases makes
  | unreadable wantsRows isAnswer read =>
      cases again with
      | failed code message => exact absurd rfl (isAnswer code message)
      | removed => exact absurd rfl (wantsRows _ _)
      | unreadable _ _ readAgain =>
          cases read.unique readAgain
          rfl
      | made _ readAgain _ => cases read.unique readAgain
  | made isAnswer read makes =>
      cases again with
      | failed code message => exact absurd rfl (isAnswer code message)
      | removed => cases makes
      | unreadable _ _ readAgain => cases read.unique readAgain
      | made _ readAgain makesAgain =>
          cases read.unique readAgain
          exact makes.unique makesAgain

/-- A plan that is fetched is sent as it is, and its rows are read before the call makes anything
of them. -/
theorem concludes_fetch {plan : Sql.Plan} {conclude : List Json → Except AccessError α}
    {change : α → CallResult} (wantsRows : call.WantsRows)
    (returnsRows : plan.statement.returnsRows)
    (makes : ∀ rows, call.Makes rows ((conclude rows).map change)) :
    ∃ read, (Call.fetch plan conclude).mapResult change = .ok ⟨plan, read⟩ ∧
      ∀ reply, call.Concludes reply (read reply) := by
  rw [Call.fetch, if_pos returnsRows]
  refine ⟨_, rfl, fun reply => ?_⟩
  have ofRows (isAnswer : reply.IsAnswer) {read : Except RowFault (List Json)}
      (reads : Reply.RowsReadAs reply.returned read)
      (same : reply.readRows = read.mapError .unreadableRow) :
      call.Concludes reply ((do conclude (← reply.readRows)).map change) := by
    rw [same]
    cases read with
    | error fault => exact .unreadable wantsRows isAnswer reads
    | ok rows => exact .made isAnswer reads (makes rows)
  cases reply with
  | failed code message => exact .failed code message
  | rows returned =>
      obtain ⟨read, reads, same⟩ := Reply.rowsReadAs_mapM returned
      exact ofRows (by rintro _ _ ⟨⟩) reads same
  | affected count => exact ofRows (by rintro _ _ ⟨⟩) (.values .nil) rfl

/-- A removal concludes with the number of removed rows. -/
theorem concludes_execute {accessor : Accessor} {condition : Condition} (plan : Sql.Plan) :
    ∃ read, (Call.execute plan).mapResult .removed = .ok ⟨plan, read⟩ ∧
      ∀ reply, Concludes (.delete accessor condition) reply (read reply) := by
  refine ⟨_, rfl, fun reply => ?_⟩
  cases reply with
  | failed code message => exact .failed code message
  | rows returned => exact @Concludes.removed accessor condition (.rows returned) (by rintro _ _ ⟨⟩)
  | affected count =>
      exact @Concludes.removed accessor condition (.affected count) (by rintro _ _ ⟨⟩)

/-- A call sends nothing and fails with the error of its plan, or it sends its plan and draws its
result from the reply. -/
def SendsPlan (call : DatabaseCall) (freshId now : String) : Prop :=
  (∃ error, call.plan freshId now = .error error ∧ call.sending freshId now = .error error) ∨
    ∃ plan read, call.plan freshId now = .ok plan ∧
      call.sending freshId now = .ok ⟨plan, read⟩ ∧ ∀ reply, call.Concludes reply (read reply)

/-- A call that plans first and then sends its plan sends that plan. -/
theorem sendsPlan_of_bind {freshId now : String} {send : Sql.Plan → Call α}
    {change : α → CallResult}
    (isSending : call.sending freshId now =
      Call.mapResult ((call.plan freshId now).bind send) change)
    (concludes : ∀ plan, call.plan freshId now = .ok plan →
      ∃ read, (send plan).mapResult change = .ok ⟨plan, read⟩ ∧
        ∀ reply, call.Concludes reply (read reply)) : call.SendsPlan freshId now := by
  cases planned : call.plan freshId now with
  | error error =>
      rw [planned] at isSending
      exact .inl ⟨error, planned, isSending⟩
  | ok plan =>
      obtain ⟨read, sent, concludes⟩ := concludes plan planned
      rw [planned] at isSending
      exact .inr ⟨plan, read, planned, isSending.trans sent, concludes⟩

/-- Every call sends its plan, if it has one. -/
theorem sendsPlan (call : DatabaseCall) (freshId now : String) : call.SendsPlan freshId now := by
  cases call with
  | queryOne accessor condition selection =>
      refine sendsPlan_of_bind rfl fun plan planned =>
        concludes_fetch (by rintro _ _ ⟨⟩) ?_ fun rows => .queryOne rows
      obtain ⟨_, _, -, -, rfl⟩ := Scope.planSelect_eq_ok_iff.mp (mapError_eq_ok_iff.mp planned)
      rfl
  | insert accessor payload explicitId =>
      refine sendsPlan_of_bind rfl fun plan planned =>
        concludes_fetch (by rintro _ _ ⟨⟩) ?_ fun rows => ?_
      · obtain ⟨_, _, _, -, -, -, rfl⟩ :=
          Scope.planInsert_eq_ok_iff.mp (mapError_eq_ok_iff.mp planned)
        rfl
      · cases rows with
        | nil => exact .notInserted
        | cons row rest => exact .inserted row rest
  | updateOne accessor condition payload =>
      refine sendsPlan_of_bind rfl fun plan planned =>
        concludes_fetch (by rintro _ _ ⟨⟩) ?_ fun rows => .updateOne rows
      obtain ⟨_, _, _, _, -, -, -, -, -, rfl⟩ :=
        Scope.planUpdate_eq_ok_iff.mp (mapError_eq_ok_iff.mp planned)
      rfl
  | delete accessor condition =>
      exact sendsPlan_of_bind rfl fun plan _ => concludes_execute plan
  | fetchAll query =>
      refine @sendsPlan_of_bind _ _ _ _ (fun plan => Call.fetch plan .ok) .all rfl ?_
      rintro plan ⟨⟩
      exact concludes_fetch (by rintro _ _ ⟨⟩) rfl fun rows => .fetchAll rows
  | fetchOptional query =>
      refine @sendsPlan_of_bind _ _ _ _
        (fun plan => Call.fetch plan fun rows => .ok rows.head?) .optional rfl ?_
      rintro plan ⟨⟩
      exact concludes_fetch (by rintro _ _ ⟨⟩) rfl fun rows => .fetchOptional rows

end DatabaseCall

/-! ## Conversations -/

namespace IssuedCall

/-- The plan of an issued call when a number of fresh identifiers is already taken. -/
def plan (ids : Nat → String) (taken : Nat) (issued : IssuedCall) : Except AccessError Sql.Plan :=
  issued.call.plan (ids taken) issued.now

/-- What calls and the database say to each other, and what the calls give. A call that cannot be
planned fails with the error of its plan and says nothing. Any other sends the one statement of
its plan on its channel, and gives what it concludes from the reply. -/
inductive Conversation (ids : Nat → String) : Nat → List IssuedCall →
    List (Message × Reply) → List (Except AccessError CallResult) → Prop where
  | nil (taken : Nat) : Conversation ids taken [] [] []
  | refused {taken : Nat} {issued : IssuedCall} {rest : List IssuedCall}
      {exchanges : List (Message × Reply)} {results : List (Except AccessError CallResult)}
      {error : AccessError} (failed : issued.plan ids taken = .error error)
      (others : Conversation ids (taken + issued.call.idsTaken) rest exchanges results) :
      Conversation ids taken (issued :: rest) exchanges (.error error :: results)
  | sent {taken : Nat} {issued : IssuedCall} {rest : List IssuedCall}
      {exchanges : List (Message × Reply)} {results : List (Except AccessError CallResult)}
      {plan : Sql.Plan} {reply : Reply} {result : Except AccessError CallResult}
      (planned : issued.plan ids taken = .ok plan) (concludes : issued.call.Concludes reply result)
      (others : Conversation ids (taken + issued.call.idsTaken) rest exchanges results) :
      Conversation ids taken (issued :: rest) ((⟨issued.channel, plan.query⟩, reply) :: exchanges)
        (result :: results)

/-- The messages that calls send, whatever they are answered. -/
def messages (ids : Nat → String) : Nat → List IssuedCall → List Message
  | _, [] => []
  | taken, issued :: rest =>
      let others := messages ids (taken + issued.call.idsTaken) rest
      match issued.plan ids taken with
      | .ok plan => ⟨issued.channel, plan.query⟩ :: others
      | .error _ => others

variable {σ : Type} {ids : Nat → String} {taken : Nat} {calls : List IssuedCall}

/-- What is sent in a conversation does not depend on the replies. -/
theorem Conversation.messages_eq {exchanges : List (Message × Reply)}
    {results : List (Except AccessError CallResult)}
    (conversation : Conversation ids taken calls exchanges results) :
    exchanges.map (·.1) = messages ids taken calls := by
  induction conversation with
  | nil => rfl
  | refused failed _ ih => rw [messages, failed, ih]
  | sent planned _ _ ih => rw [messages, planned, List.map_cons, ih]

/-- What calls give follows from the calls and the replies. -/
theorem Conversation.results_unique {exchanges : List (Message × Reply)}
    {results others : List (Except AccessError CallResult)}
    (conversation : Conversation ids taken calls exchanges results)
    (again : Conversation ids taken calls exchanges others) : others = results := by
  induction conversation generalizing others with
  | nil =>
      cases again
      rfl
  | refused failed _ ih =>
      cases again with
      | refused failedAgain restAgain =>
          cases failed.symm.trans failedAgain
          rw [ih restAgain]
      | sent planned _ _ => cases failed.symm.trans planned
  | @sent _ issued _ following _ plan reply _ planned concludes _ ih =>
      let message : Message := ⟨issued.channel, plan.query⟩
      generalize isSame : (message, reply) :: following = exchanges at again
      cases again with
      | refused failed _ => cases failed.symm.trans planned
      | sent plannedAgain concludesAgain restAgain =>
          cases planned.symm.trans plannedAgain
          cases isSame
          rw [ih restAgain, concludes.unique concludesAgain]

/-- The database is told of calls and answers them: what it records is a conversation, and it
records no more than the calls make it do without a record. -/
theorem exists_conversation (ids : Nat → String) (database : Database σ) (calls : List IssuedCall)
    (taken : Nat) (state : σ) :
    ∃ exchanges results last, run ids database calls taken state = (results, last) ∧
      (∀ record, run ids database.recorded calls taken (state, record) =
        (results, last, record ++ exchanges)) ∧
      Conversation ids taken calls exchanges results := by
  induction calls generalizing taken state with
  | nil => exact ⟨[], [], state, rfl, fun record => by rw [List.append_nil]; rfl, .nil taken⟩
  | cons issued rest ih =>
      rcases issued.call.sendsPlan (ids taken) issued.now with
        ⟨error, failed, refused⟩ | ⟨plan, read, planned, sent, concludes⟩
      · obtain ⟨exchanges, results, last, ran, recorded, others⟩ :=
          ih (taken + issued.call.idsTaken) state
        refine ⟨exchanges, .error error :: results, last, ?_, fun record => ?_,
          .refused failed others⟩
        · simp only [run, refused, Call.run, ran]
        · simp only [run, refused, Call.run, recorded]
      · let message : Message := ⟨issued.channel, plan.query⟩
        obtain ⟨exchanges, results, last, ran, recorded, others⟩ :=
          ih (taken + issued.call.idsTaken) (database.answer state message).2
        refine ⟨(message, (database.answer state message).1) :: exchanges, _ :: results, last, ?_,
          fun record => ?_, .sent planned (concludes _) others⟩
        · simp only [run, sent, Call.run]
          rw [ran]
        · simp only [run, sent, Call.run, Database.recorded] at recorded ⊢
          rw [recorded, List.append_assoc, List.singleton_append]

/-- However calls on a bridge are made and whatever its database replies, the database gets one
statement for each call that can be planned, and nothing else: the messages follow from the calls
alone. Every call gives what it concludes from the reply to its own statement, or the error of
its plan, and it can give nothing else. -/
theorem one_statement_per_call (bridge : Bridge σ) (ids : Nat → String) (calls : List IssuedCall) :
    ∃ exchanges results last, run ids bridge.database calls 0 bridge.state = (results, last) ∧
      run ids bridge.database.recorded calls 0 (bridge.state, []) = (results, last, exchanges) ∧
      Conversation ids 0 calls exchanges results ∧
      exchanges.map (·.1) = messages ids 0 calls ∧
      ∀ others, Conversation ids 0 calls exchanges others → others = results := by
  obtain ⟨exchanges, results, last, ran, recorded, conversation⟩ :=
    exists_conversation ids bridge.database calls 0 bridge.state
  exact ⟨exchanges, results, last, ran, recorded [], conversation, conversation.messages_eq,
    fun _ again => conversation.results_unique again⟩

end IssuedCall

end CatalogSql
