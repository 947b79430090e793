import CatalogSql.Proofs.Planning.GivenValues

/-!
# What an insertion adds on its own

An insertion adds an identifier and the current time to the fields of their names that a table
declares, whatever their types are, and writes both as texts. So a payload whose values all fit
is inserted when each of these fields that it leaves open takes a text, and is refused for the
first one that does not.
-/

namespace CatalogSql

/-! ## Faults of entries that are set over others -/

namespace Keyed

variable {α ε : Type} {fault : String × α → ε → Prop} {error : ε}

/-- An entry without a fault takes the place of one with a fault under its key. -/
theorem firstFault_put {key : String} {value : α} (passes : ∀ other, ¬ fault (key, value) other)
    (keeps : String → Bool) {held : List (String × α)} (distinct : (keys held).Nodup) :
    FirstFault fault ((put key value held).filter fun entry => keeps entry.1) error ↔
      FirstFault fault (held.filter fun entry => entry.1 ≠ key && keeps entry.1) error := by
  -- The entry that is set never decides, whether it is kept or not.
  have skipped (rest : List (String × α)) :
      FirstFault fault (((key, value) :: rest).filter fun entry => keeps entry.1) error ↔
        FirstFault fault (rest.filter fun entry => keeps entry.1) error := by
    rw [List.filter_cons]
    split
    · rw [firstFault_cons_iff, or_iff_right (passes error), and_iff_right passes]
    · exact Iff.rfl
  induction held with
  | nil => exact skipped []
  | cons entry rest ih =>
      obtain ⟨candidate, old⟩ := entry
      rw [keys_cons, List.nodup_cons] at distinct
      rw [put]
      split
      · rename_i same
        subst same
        have others : (rest.filter fun entry => entry.1 ≠ candidate && keeps entry.1) =
            rest.filter fun entry => keeps entry.1 := by
          refine List.filter_congr fun entry mem => ?_
          have differs : entry.1 ≠ candidate := by
            rintro rfl
            exact distinct.1 (List.mem_map_of_mem (f := (·.1)) mem)
          simp [differs]
        rw [skipped, List.filter_cons_of_neg (by simp), others]
      · rename_i differs
        rw [List.filter_cons, List.filter_cons]
        simp only [ne_eq, differs, not_false_eq_true, decide_true, Bool.true_and]
        split
        · rw [firstFault_cons_iff, firstFault_cons_iff]
          exact or_congr_right (and_congr_right fun _ => ih distinct.2)
        · exact ih distinct.2

/-- Setting entries without a fault leaves the faults of the entries under other keys. -/
theorem firstFault_putAll {given held : List (String × α)}
    (passes : ∀ entry ∈ given, ∀ other, ¬ fault entry other) (distinct : (keys held).Nodup) :
    FirstFault fault (putAll given held) error ↔
      FirstFault fault (held.filter fun entry => entry.1 ∉ keys given) error := by
  induction given generalizing held with
  | nil => simp [putAll]
  | cons entry rest ih =>
      obtain ⟨key, value⟩ := entry
      obtain ⟨passesEntry, passesRest⟩ := List.forall_mem_cons.mp passes
      have others : putAll ((key, value) :: rest) held = putAll rest (put key value held) := rfl
      rw [others, ih passesRest (nodup_keys_put key value distinct),
        firstFault_put passesEntry (fun other => decide (other ∉ keys rest)) distinct]
      simp

end Keyed

/-! ## Own values -/

/-- A field of a type takes texts. -/
def SemanticType.TakesTexts (type : SemanticType) : Prop :=
  type.isTextual ∨ type = .dateTime ∨ type = .json

/-- A type takes one text exactly if it takes texts. -/
theorem SemanticType.takes_string_iff {type : SemanticType} {text : String} :
    type.Takes (.string text) ↔ type.TakesTexts := by
  constructor
  · rintro (- | textual | - | - | -)
    · exact textual.imp_right .inl
    · exact .inr (.inr rfl)
  · rintro (textual | rfl | rfl)
    · exact .text (.inl textual) text
    · exact .text (.inr rfl) text
    · exact .json _

namespace Payload

variable {table : TypeInfo} {payload row : Payload} {freshId now : String}

/-- What an insertion adds to a payload: an identifier and the times, in the fields of their names
that are declared and that the payload leaves open. -/
def ownValues (payload : Payload) (table : TypeInfo) (freshId now : String) :
    List (String × Json) :=
  (keptValues table freshId now).filter fun entry => entry.1 ∉ Keyed.keys payload.values

/-- Without an explicit id every prepared value is given. -/
theorem givenValues_none (prepared : Payload) : givenValues prepared none = prepared.values := by
  simp [givenValues]

end Payload

namespace Scope

open Payload (IsDated newValues ownValues keptValues)

variable {scope : Scope} {table : TypeInfo} {tableName : String} {payload : Payload}
  {freshId now : String} {error : RequestError}

/-- A text fits a field unless its declared type takes no texts. -/
theorem fits_text_iff {field text : String} :
    ((table.fieldType? field).isSome → Fits table (field, .string text)) ↔
      ∀ type, table.fieldType? field = some type → type.TakesTexts := by
  simp only [← @SemanticType.takes_string_iff _ text]
  constructor
  · intro fits type declared
    obtain ⟨_, declaredAgain, takes⟩ := fits (declared ▸ rfl)
    cases declared.symm.trans declaredAgain
    exact takes
  · intro takes isDeclared
    obtain ⟨type, declared⟩ := Option.isSome_iff_exists.mp isDeclared
    exact ⟨type, declared, takes type declared⟩

/-- An own value fits its field when the type of the field takes texts. -/
theorem fits_ownValues_iff (freshId now : String) :
    (∀ entry ∈ payload.ownValues table freshId now, Fits table entry) ↔
      ∀ field ∈ [idField, createdField, updatedField], field ∉ Keyed.keys payload.values →
        ∀ type, table.fieldType? field = some type → type.TakesTexts := by
  simp only [ownValues, keptValues, List.filter_filter, List.mem_filter, Bool.and_eq_true,
    decide_eq_true_eq, and_imp, List.forall_mem_cons, fits_text_iff, List.not_mem_nil,
    false_imp_iff, implies_true, and_true]

/-- A new row without an explicit identifier whose given values fit has the faults of its own
values. -/
theorem firstFault_newValues (fits : ∀ entry ∈ payload.values, Fits table entry) :
    FirstFault (FieldFault table) (payload.newValues table none freshId now) error ↔
      FirstFault (FieldFault table) (payload.ownValues table freshId now) error := by
  rw [newValues, Payload.givenValues_none, ownValues]
  exact Keyed.firstFault_putAll (fun entry mem => (fits entry mem).not_fault)
    (Payload.nodup_keys_keptValues table _ now)

/-- A payload whose values fit is refused for the first of its own values that does not. -/
theorem planInsert_eq_error_iff_of_fits (found : scope.lookupTable tableName = .ok table)
    (dated : ∀ entry ∈ payload.values, IsDated table entry)
    (fits : ∀ entry ∈ payload.values, Fits table entry) :
    scope.planInsert tableName payload none freshId now = .error error ↔
      FirstFault (FieldFault table) (payload.ownValues table freshId now) error := by
  rw [planInsert_eq_error_iff found, ← firstFault_newValues fits]
  constructor
  · rintro (noDate | ⟨-, first⟩)
    · exact absurd noDate ((forall_iff_not_firstFault fun _ => Payload.isDated_iff).mp dated error)
    · exact first
  · exact .field dated

/-- A payload without an explicit identifier whose values all fit is inserted exactly when every
field for an identifier or a time that its table declares and it leaves open takes texts. Otherwise
it is refused for the first of these fields, with the fault of the text that was added for it. -/
theorem inserts_typed_iff (found : scope.lookupTable tableName = .ok table)
    (dated : ∀ entry ∈ payload.values, IsDated table entry)
    (fits : ∀ entry ∈ payload.values, Fits table entry) (freshId now : String) :
    ((∃ plan, scope.planInsert tableName payload none freshId now = .ok plan) ↔
        ∀ field ∈ [idField, createdField, updatedField], field ∉ Keyed.keys payload.values →
          ∀ type, table.fieldType? field = some type → type.TakesTexts) ∧
      ∀ error, scope.planInsert tableName payload none freshId now = .error error ↔
        FirstFault (FieldFault table) (payload.ownValues table freshId now) error := by
  refine ⟨?_, fun error => planInsert_eq_error_iff_of_fits found dated fits⟩
  rw [exists_ok_iff, ← fits_ownValues_iff freshId now, forall_iff_not_firstFault fun _ => fits_iff]
  simp only [ne_eq, planInsert_eq_error_iff_of_fits found dated fits]

/-- A user with a name who gets an identifier and the time of creation. -/
theorem inserts_typed_iff_user :
    let user : TypeInfo := .table "User"
      [("id", .id), ("name", .string), ("createdAt", .dateTime)]
    let scope : Scope := ⟨⟨[("User", user)], by decide +kernel⟩, "public"⟩
    let payload : Payload := Payload.empty.set "name" (.string "ada")
    scope.lookupTable "User" = .ok user ∧ (∀ entry ∈ payload.values, IsDated user entry) ∧
      (∀ entry ∈ payload.values, Fits user entry) ∧
      ∃ plan, scope.planInsert "User" payload none "u1" "2024-06-01T12:00:00" = .ok plan := by
  intro user scope payload
  have found : scope.lookupTable "User" = .ok user := rfl
  have dated : ∀ entry ∈ payload.values, IsDated user entry :=
    List.forall_mem_singleton.mpr fun _ _ declared => nomatch declared
  have fits : ∀ entry ∈ payload.values, Fits user entry :=
    List.forall_mem_singleton.mpr ⟨.string, rfl, .text (.inl rfl) "ada"⟩
  refine ⟨found, dated, fits, ?_⟩
  refine (inserts_typed_iff found dated fits "u1" "2024-06-01T12:00:00").1.mpr ?_
  have id : user.fieldType? idField = some .id := rfl
  have created : user.fieldType? createdField = some .dateTime := rfl
  have updated : user.fieldType? updatedField = none := rfl
  simp [id, created, updated, SemanticType.TakesTexts, SemanticType.isTextual]

/-- A user whose identifiers are numbers is not inserted without one, whatever text is made up
for it, though the values given fit their fields and the identifier has a column. -/
theorem refuses_typed_insertion :
    let user : TypeInfo := .table "User" [("id", .number), ("email", .string)]
    let scope : Scope := ⟨⟨[("User", user)], by decide +kernel⟩, "public"⟩
    let payload : Payload := Payload.empty.set "email" (.string "a@x.com")
    scope.lookupTable "User" = .ok user ∧ user.fieldType? idField = some .number ∧
      SemanticType.number.isStorable ∧ (∀ entry ∈ payload.values, IsDated user entry) ∧
      (∀ entry ∈ payload.values, Fits user entry) ∧
      ∀ freshId now, scope.planInsert "User" payload none freshId now =
        .error (.typeMismatch "id" .number (.string freshId)) := by
  intro user scope payload
  refine ⟨rfl, rfl, rfl, ?_, ?_, fun _ _ => rfl⟩
  · exact List.forall_mem_singleton.mpr fun _ _ declared => nomatch declared
  · exact List.forall_mem_singleton.mpr ⟨.string, rfl, .text (.inl rfl) "a@x.com"⟩

end Scope

end CatalogSql
