import CatalogSql.Proofs.Planning.Meaning
import CatalogSql.Proofs.Planning.StoredColumns
import CatalogSql.Proofs.Sql.Numbering

/-!
# What is written to fields

A value is written to a field when the field is declared, has a column and takes the value; a
fault of any other value names the error. Values that are written one after another fail with
the first fault among them.
-/

namespace CatalogSql

/-! ## First faults -/

section FirstFault

variable {ε α β γ δ : Type}

/-- The error of the first item with a fault. -/
inductive FirstFault (fault : α → ε → Prop) : List α → ε → Prop where
  | here {item : α} {rest : List α} {error : ε} (found : fault item error) :
      FirstFault fault (item :: rest) error
  | later {item : α} {rest : List α} {error : ε} (passed : ∀ other, ¬ fault item other)
      (others : FirstFault fault rest error) : FirstFault fault (item :: rest) error

variable {fault : α → ε → Prop} {items : List α} {error : ε}

theorem firstFault_nil : ¬ FirstFault fault [] error := by rintro ⟨⟩

/-- The first fault is in the first item, or behind it if that one has none. -/
theorem firstFault_cons_iff {item : α} :
    FirstFault fault (item :: items) error ↔
      fault item error ∨ (∀ other, ¬ fault item other) ∧ FirstFault fault items error := by
  constructor
  · intro first
    cases first with
    | here found => exact .inl found
    | later passed others => exact .inr ⟨passed, others⟩
  · rintro (found | ⟨passed, others⟩)
    · exact .here found
    · exact .later passed others

/-- Items with the same faults have the same first fault. -/
theorem firstFault_congr {otherFault : β → ε → Prop} {relation : α → β → Prop} {others : List β}
    (related : List.Forall₂ relation items others)
    (same : ∀ item other, relation item other →
      ∀ error, fault item error ↔ otherFault other error) :
    FirstFault fault items error ↔ FirstFault otherFault others error := by
  induction related with
  | nil => exact iff_of_false firstFault_nil firstFault_nil
  | cons head _ ih => simp only [firstFault_cons_iff, same _ _ head, ih]

/-- The only item with a fault decides. -/
theorem firstFault_of_only {item : α} (mem : item ∈ items) (faulty : fault item error)
    (others : ∀ other ∈ items, other = item ∨ ∀ found, ¬ fault other found) :
    FirstFault fault items error := by
  induction items with
  | nil => cases mem
  | cons first rest ih =>
      obtain ⟨ofFirst, ofRest⟩ := List.forall_mem_cons.mp others
      rcases ofFirst with rfl | passes
      · exact .here faulty
      · have inRest : item ∈ rest := by
          rcases List.mem_cons.mp mem with rfl | inRest
          · exact absurd faulty (passes error)
          · exact inRest
        exact .later passes (ih inRest ofRest)

/-- Items without a fault have no first one. -/
theorem forall_iff_not_firstFault {passes : α → Prop}
    (decides : ∀ item, passes item ↔ ∀ error, ¬ fault item error) :
    (∀ item ∈ items, passes item) ↔ ∀ error, ¬ FirstFault fault items error := by
  induction items with
  | nil => exact iff_of_true (List.forall_mem_nil _) fun _ => firstFault_nil
  | cons item rest ih =>
      rw [List.forall_mem_cons, ih, decides]
      simp only [firstFault_cons_iff, not_or, not_and]
      constructor
      · rintro ⟨passed, others⟩ error
        exact ⟨passed error, fun _ => others error⟩
      · intro none
        exact ⟨fun error => (none error).1, fun error => (none error).2 fun other => (none other).1⟩

/-- A step for an item and the steps for the others fail with the first fault among all items. -/
theorem steps_eq_error_iff {item : α} {step : Except ε β} {rest : Except ε γ} {join : β → γ → δ}
    (isFault : ∀ error, step = .error error ↔ fault item error)
    (areFaults : rest = .error error ↔ FirstFault fault items error) :
    (step >>= fun value => rest >>= fun others => pure (join value others)) = .error error ↔
      FirstFault fault (item :: items) error := by
  rw [firstFault_cons_iff, ← areFaults]
  simp only [← isFault]
  cases step with
  | error => simp [bind, Except.bind]
  | ok => cases rest <;> simp [bind, Except.bind, pure, Except.pure]

end FirstFault

/-! ## Values that fit -/

/-- The values that a field of a type takes: null in a column of any type, texts, truth values
and numbers in columns of their own types, and anything in a json column. -/
inductive SemanticType.Takes : SemanticType → Json → Prop where
  | null {type : SemanticType} (storable : type.isStorable) : Takes type .null
  | text {type : SemanticType} (textual : type.isTextual ∨ type = .dateTime) (text : String) :
      Takes type (.string text)
  | boolean (value : Bool) : Takes .boolean (.boolean value)
  | number (number : JsonNumber) : Takes .number (.number number)
  | json (value : Json) : Takes .json value

/-- Only storable types take values. -/
theorem SemanticType.Takes.isStorable {type : SemanticType} {value : Json}
    (takes : type.Takes value) : type.isStorable := by
  cases takes with
  | null storable => exact storable
  | text textual =>
      rcases textual with textual | rfl
      · cases type <;> first | rfl | cases textual
      · rfl
  | boolean | number | json => rfl

namespace TypedValue

variable {type : SemanticType} {value : Json}

/-- A value its type takes is typed. -/
theorem ofJson_of_takes (table field : String) (takes : type.Takes value) :
    ∃ typed, ofJson table field type value = .ok typed := by
  cases takes with
  | null storable => cases type <;> first | exact ⟨_, rfl⟩ | cases storable
  | text textual text =>
      rcases textual with textual | rfl
      · cases type <;> first | exact ⟨_, rfl⟩ | cases textual
      · exact ⟨_, rfl⟩
  | boolean | number => exact ⟨_, rfl⟩
  | json value => cases value <;> exact ⟨_, rfl⟩

/-- A value that its field does not take is refused with the field, its type and the value. -/
theorem ofJson_of_not_takes (table field : String) (storable : type.isStorable)
    (misfit : ¬ type.Takes value) :
    ofJson table field type value = .error (.typeMismatch field type value) := by
  unfold ofJson
  split
  · cases storable
  · cases storable
  · exact absurd (.null storable) misfit
  · exact absurd (.json _) misfit
  · exact absurd (.text (.inl rfl) _) misfit
  · exact absurd (.text (.inl rfl) _) misfit
  · exact absurd (.text (.inl rfl) _) misfit
  · exact absurd (.text (.inr rfl) _) misfit
  · exact absurd (.boolean _) misfit
  · exact absurd (.number _) misfit
  · rfl

end TypedValue

namespace Scope

variable {table : TypeInfo} {field : String} {value : Json} {error : RequestError}

/-! ## Faults of values -/

/-- What is wrong with a value that is written to a field, and the error that says so. -/
inductive FieldFault (table : TypeInfo) : String × Json → RequestError → Prop where
  | undeclared {field : String} {value : Json} (unknown : table.fieldType? field = none) :
      FieldFault table (field, value) (.lookup (.unknownField table.name field))
  | noColumn {field : String} {value : Json} {type : SemanticType}
      (declared : table.fieldType? field = some type) (noColumn : ¬ type.isStorable) :
      FieldFault table (field, value) (.unsupportedFieldType table.name field type)
  | misfit {field : String} {value : Json} {type : SemanticType}
      (declared : table.fieldType? field = some type) (storable : type.isStorable)
      (misfit : ¬ type.Takes value) :
      FieldFault table (field, value) (.typeMismatch field type value)

/-- A value fits a field that is declared and takes it. -/
def Fits (table : TypeInfo) (entry : String × Json) : Prop :=
  ∃ type, table.fieldType? entry.1 = some type ∧ type.Takes entry.2

/-- An entry fits its table or has a fault. -/
theorem fits_or_fault (table : TypeInfo) (entry : String × Json) :
    Fits table entry ∨ ∃ error, FieldFault table entry error := by
  obtain ⟨field, value⟩ := entry
  cases declared : table.fieldType? field with
  | none => exact .inr ⟨_, .undeclared declared⟩
  | some type =>
      by_cases takes : type.Takes value
      · exact .inl ⟨type, declared, takes⟩
      · by_cases storable : type.isStorable
        · exact .inr ⟨_, .misfit declared storable takes⟩
        · exact .inr ⟨_, .noColumn declared storable⟩

/-- A fitting entry has no fault. -/
theorem Fits.not_fault {entry : String × Json} (fits : Fits table entry) (error : RequestError) :
    ¬ FieldFault table entry error := by
  obtain ⟨type, declared, takes⟩ := fits
  intro fault
  cases fault with
  | undeclared unknown => cases unknown.symm.trans declared
  | noColumn declaredAgain noColumn =>
      cases declaredAgain.symm.trans declared
      exact noColumn takes.isStorable
  | misfit declaredAgain _ misfit =>
      cases declaredAgain.symm.trans declared
      exact misfit takes

/-- An entry fits exactly if it has no fault. -/
theorem fits_iff {entry : String × Json} :
    Fits table entry ↔ ∀ error, ¬ FieldFault table entry error :=
  ⟨Fits.not_fault, fun noFault =>
    (fits_or_fault table entry).resolve_right (not_exists.mpr noFault)⟩

/-- A fitting entry is written. -/
theorem writtenValue_of_fits (fits : Fits table (field, value)) :
    ∃ written, writtenValue table field value = .ok written := by
  obtain ⟨type, declared, takes⟩ := fits
  obtain ⟨typed, accepted⟩ := TypedValue.ofJson_of_takes table.name field takes
  exact ⟨_, writtenValue_eq_ok_iff.mpr ⟨type, typed, declared, accepted, rfl⟩⟩

/-- A faulty entry is refused with its fault. -/
theorem writtenValue_of_fault (fault : FieldFault table (field, value) error) :
    writtenValue table field value = .error error := by
  cases fault with
  | undeclared unknown =>
      simp only [writtenValue, TypeInfo.requireField, TypeInfo.lookupField, unknown]
      rfl
  | noColumn declared noColumn => exact writtenValue_of_not_storable declared noColumn value
  | misfit declared storable misfit =>
      rw [writtenValue, TypeInfo.requireField_eq_ok_iff.mpr declared]
      simp only [bind, Except.bind, TypedValue.ofJson_of_not_takes table.name field storable misfit]

/-- Writing a value fails with its fault. -/
theorem writtenValue_eq_error_iff :
    writtenValue table field value = .error error ↔ FieldFault table (field, value) error := by
  refine ⟨fun failed => ?_, writtenValue_of_fault⟩
  rcases fits_or_fault table (field, value) with fits | ⟨found, fault⟩
  · obtain ⟨_, isWritten⟩ := writtenValue_of_fits fits
    cases isWritten.symm.trans failed
  · cases (writtenValue_of_fault fault).symm.trans failed
    exact fault

/-- Writing values one after another fails with the first fault among them. -/
theorem writtenValues_eq_error_iff {entries : List (String × Json)} :
    writtenValues table entries = .error error ↔
      FirstFault (FieldFault table) entries error := by
  induction entries with
  | nil => exact iff_of_false (by rintro ⟨⟩) firstFault_nil
  | cons entry rest ih => exact steps_eq_error_iff (fun _ => writtenValue_eq_error_iff) ih

/-- Values are written when each of them fits its field. -/
theorem exists_writtenValues_iff {entries : List (String × Json)} :
    (∃ written, writtenValues table entries = .ok written) ↔
      ∀ entry ∈ entries, Fits table entry := by
  rw [exists_ok_iff, forall_iff_not_firstFault fun _ => fits_iff]
  simp only [ne_eq, writtenValues_eq_error_iff]

end Scope

end CatalogSql
