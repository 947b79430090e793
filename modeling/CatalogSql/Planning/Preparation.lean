import CatalogSql.Request.Input
import CatalogSql.Calendar.Stored

/-!
# Prepared payloads

What is written differs from what a caller gives: dates lose their zone and their
fraction of a second, and a new row gets an identifier and the times of its creation
and last change.
-/

namespace CatalogSql

/-- The fields a new row gets a value for. -/
def idField : String := "id"

/-- The field that holds when a row was created. -/
def createdField : String := "createdAt"

/-- The field that holds when a row was last changed. -/
def updatedField : String := "updatedAt"

namespace Payload

/-- An input with the date in it truncated, if the field holds dates. -/
def truncateInput (table : TypeInfo) (field : String) (input : Input) :
    Except RequestError Input :=
  match table.fieldType? field, input with
  | some .dateTime, .value (.string text) =>
      match truncateToSeconds? text with
      | some stored => .ok (.value (.string stored))
      | none => .error (.invalidDateTime text)
  | _, input => .ok input

/-- Entries with their dates truncated; the first text that is no date is refused. -/
def truncateEntries (table : TypeInfo) :
    List (String × Input) → Except RequestError (List (String × Input))
  | [] => .ok []
  | (field, input) :: rest => do
      let input ← truncateInput table field input
      let following ← truncateEntries table rest
      return (field, input) :: following

/-- A payload for an update: dates are truncated, nothing else changes. -/
def prepareUpdate (payload : Payload) (table : TypeInfo) : Except RequestError Payload :=
  (truncateEntries table payload.entries.entries).map fun entries => ⟨.ofList entries⟩

/-- Whether inserting into a table takes a fresh identifier. -/
def takesFreshId (table : TypeInfo) (explicitId : Option String) : Bool :=
  (table.fieldType? idField).isSome && explicitId.isNone

/-- The values a new row has before the caller's: those fields of the bookkeeping ones
that the table declares. -/
def defaults (table : TypeInfo) (id now : String) : Payload :=
  let declared (field value : String) : List (String × String) :=
    if (table.fieldType? field).isSome then [(field, value)] else []
  (declared idField id ++ declared createdField now ++ declared updatedField now).foldl
    (fun row entry => row.set entry.1 (.string entry.2)) .empty

/-- A payload for an insert: the defaults, overridden by the values of the caller. An
explicit identifier wins over one in the payload. -/
def prepareInsert (payload : Payload) (table : TypeInfo) (explicitId : Option String)
    (freshId now : String) : Except RequestError Payload := do
  let truncated ← payload.prepareUpdate table
  let given := truncated.values.filter fun entry => !(entry.1 == idField && explicitId.isSome)
  return given.foldl (fun row entry => row.set entry.1 entry.2)
    (defaults table (explicitId.getD freshId) now)

end Payload

end CatalogSql
