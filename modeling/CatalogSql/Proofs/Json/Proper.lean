import CatalogSql.Json.Decoder
import CatalogSql.Proofs.Keyed.Ordered
import CatalogSql.Proofs.Number.Nearest

/-!
# Proper values

The type of json values allows what no reader gives: objects that repeat a key, integers of any
length and doubles that are not finite. A proper value has none of these, and it is what its own
node stands for.
-/

namespace CatalogSql

/-- An integer between the least signed and the greatest unsigned number of 64 bits, or a finite
double. -/
def JsonNumber.IsProper : JsonNumber → Prop
  | .integer value => -2 ^ 63 ≤ value ∧ value < 2 ^ 64
  | .double value => value.isFinite

/-- A proper number is a finite double. -/
theorem JsonNumber.IsProper.isFinite {number : JsonNumber} (proper : number.IsProper) :
    number.toDouble.isFinite := by
  cases number with
  | integer value =>
      obtain ⟨least, most⟩ := proper
      exact (Double.isNearest_ofInt (by omega)).finite
  | double value => exact proper

namespace Json

mutual

/-- A value whose numbers are proper and whose objects give each key once. -/
def IsProper : Json → Prop
  | .null | .boolean _ | .string _ => True
  | .number given => given.IsProper
  | .array items => ItemsAreProper items
  | .object entries => (Keyed.keys entries).Nodup ∧ EntriesAreProper entries

/-- The items of an array are proper. -/
def ItemsAreProper : List Json → Prop
  | [] => True
  | item :: rest => IsProper item ∧ ItemsAreProper rest

/-- The entries of an object have proper values. -/
def EntriesAreProper : List (String × Json) → Prop
  | [] => True
  | (_, value) :: rest => IsProper value ∧ EntriesAreProper rest

end

/-- Every entry of a proper object is proper. -/
theorem EntriesAreProper.of_mem {entries : List (String × Json)} (proper : EntriesAreProper entries)
    {entry : String × Json} (mem : entry ∈ entries) : IsProper entry.2 := by
  induction entries with
  | nil => cases mem
  | cons first rest ih =>
      obtain ⟨isFirst, others⟩ := proper
      rcases List.mem_cons.mp mem with rfl | inRest
      · exact isFirst
      · exact ih others inRest

mutual

/-- The node of a proper value stands for the value. -/
theorem value_ofValue : ∀ (value : Json), value.IsProper → (Node.ofValue value).value = .ok value
  | .null, _ | .boolean _, _ | .number _, _ | .string _, _ => by rw [Node.ofValue, Node.value]
  | .array items, proper => by
      rw [Node.ofValue, Node.value, values_ofValues items proper]
      rfl
  | .object entries, ⟨distinct, proper⟩ => by
      rw [Node.ofValue, Node.value, entries_ofEntries entries proper, Keyed.putAll_nil distinct]
      rfl

/-- Proper items are the values of their nodes. -/
theorem values_ofValues : ∀ (items : List Json), ItemsAreProper items →
    Node.values (Node.ofValues items) = .ok items
  | [], _ => by rw [Node.ofValues, Node.values]
  | item :: rest, ⟨first, others⟩ => by
      rw [Node.ofValues, Node.values, value_ofValue item first, values_ofValues rest others]
      rfl

/-- Proper entries are put one by one when their nodes are read. -/
theorem entries_ofEntries : ∀ (entries : List (String × Json)), EntriesAreProper entries →
    ∀ {collected : List (String × Json)},
      Node.entries (Node.ofEntries entries) collected = .ok (Keyed.putAll entries collected)
  | [], _, collected => by
      rw [Node.ofEntries, Node.entries]
      rfl
  | (key, value) :: rest, ⟨first, others⟩, collected => by
      rw [Node.ofEntries, Node.entries, value_ofValue value first]
      exact entries_ofEntries rest others

end

end Json

end CatalogSql
