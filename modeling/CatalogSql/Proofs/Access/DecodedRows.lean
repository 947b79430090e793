import CatalogSql.Proofs.Access.TypedRows
import CatalogSql.Proofs.Json.Proper
import CatalogSql.Proofs.Planning.Written

/-!
# Decoded rows

An object is decoded as a row when each stored field that it names has null or a value that the
field takes; other keys are passed over. The row then holds the stored fields that the object gives
a value, numbers as doubles and other values as they are, and it is decoded again from its own
object.
-/

namespace CatalogSql

/-- What a row keeps of a value of a type: a number as a double, any other value as it is. -/
def SemanticType.kept : SemanticType → Json → Json
  | .number, .number given => .number (.double given.toDouble)
  | _, value => value

/-! ## Values of one field -/

namespace RowValue

variable {type : SemanticType} {value : Json}

/-- A value other than `null` is read by the decoder of its type. -/
theorem read_of_ne_null (type : SemanticType) (given : value ≠ .null) :
    read type value =
      ((decoder type .value (Json.Node.ofValue value)).map some).mapError (·.cause) := by
  cases value with
  | null => exact absurd rfl given
  | boolean | number | string | array | object => rfl

/-- A value other than null is read when the field takes it, and what is kept of it is read
again. -/
theorem read_of_takes (takes : type.Takes value) (proper : value.IsProper) (given : value ≠ .null) :
    ∃ held, read type value = .ok (some held) ∧ toJson type held = type.kept value ∧
      read type (type.kept value) = .ok (some held) := by
  cases takes with
  | null => exact absurd rfl given
  | text textual text =>
      rcases textual with textual | rfl
      · cases type <;> first | exact ⟨text, rfl, rfl, rfl⟩ | cases textual
      · exact ⟨text, rfl, rfl, rfl⟩
  | boolean value => exact ⟨value, rfl, rfl, rfl⟩
  | number number => exact ⟨number.toDouble, rfl, if_pos proper.isFinite, rfl⟩
  | json value =>
      have isRead : read .json value = .ok (some value) := by
        rw [read_of_ne_null .json given, decoder, Json.Decoder.json,
          Json.value_ofValue value proper]
        rfl
      exact ⟨value, isRead, rfl, isRead⟩

/-- A value the type does not take is refused. -/
theorem read_of_not_takes (storable : type.isStorable) (misfit : ¬ type.Takes value) :
    ∃ cause, read type value = .error cause := by
  have given : value ≠ .null := by
    rintro rfl
    exact misfit (.null storable)
  rw [read_of_ne_null type given]
  cases type with
  | relation | unknown => cases storable
  | json => exact absurd (.json value) misfit
  | number =>
      cases value with
      | number number => exact absurd (.number number) misfit
      | null | boolean | string | array | object => exact ⟨_, rfl⟩
  | boolean =>
      cases value with
      | boolean value => exact absurd (.boolean value) misfit
      | null | number | string | array | object => exact ⟨_, rfl⟩
  | id | string | dateTime | enumeration =>
      cases value with
      | string text => exact absurd (.text (by decide) text) misfit
      | null | boolean | number | array | object => exact ⟨_, rfl⟩

end RowValue

namespace Row

/-- What a field keeps of the members of an object: the value under its name, unless that is
null. -/
def keptValue? (field : String × SemanticType) (members : List (String × Json)) : Option Json :=
  match Keyed.lookup? field.1 members with
  | none | some .null => none
  | some value => some (field.2.kept value)

/-- What a row keeps of the members of an object, in the order of its fields. -/
def keptOf (fields : List (String × SemanticType)) (members : List (String × Json)) :
    List (String × Json) :=
  fields.filterMap fun field => (keptValue? field members).map (Prod.mk field.1)

section Members

variable {field : String × SemanticType} {fields : List (String × SemanticType)}
  {members : List (String × Json)}

/-- A field keeps a value exactly if it is given one other than `null`. -/
theorem keptValue?_eq_some_iff {kept : Json} :
    keptValue? field members = some kept ↔
      ∃ value, Keyed.lookup? field.1 members = some value ∧ value ≠ .null ∧
        field.2.kept value = kept := by
  rw [keptValue?]
  cases Keyed.lookup? field.1 members with
  | none => simp
  | some value => cases value <;> simp

/-- What is kept of an object are the given values of its fields other than `null`. -/
theorem mem_keptOf_iff {name : String} {kept : Json} :
    (name, kept) ∈ keptOf fields members ↔
      ∃ type value, (name, type) ∈ fields ∧ Keyed.lookup? name members = some value ∧
        value ≠ .null ∧ type.kept value = kept := by
  simp only [keptOf, List.mem_filterMap, Option.map_eq_some_iff, keptValue?_eq_some_iff]
  constructor
  · rintro ⟨⟨_, type⟩, mem, _, ⟨value, found, given, rfl⟩, ⟨⟩⟩
    exact ⟨type, value, mem, found, given, rfl⟩
  · rintro ⟨type, value, mem, found, given, rfl⟩
    exact ⟨(name, type), mem, _, ⟨value, found, given, rfl⟩, rfl⟩

/-- A member no field is named after changes nothing. -/
theorem readMember_of_not_mem {name : String} (absent : name ∉ Keyed.keys fields) (value : Json)
    (row : Row fields) : readMember name value fields row = .ok row := by
  induction fields with
  | nil => rfl
  | cons field rest ih =>
      rw [Keyed.keys_cons, List.mem_cons, not_or] at absent
      rw [readMember, if_neg (Ne.symm absent.1), ih absent.2]
      rfl

/-- The members are read one after another. -/
theorem readMembers_step {name : String} {value : Json} {rest : List (String × Json)}
    {row last : Row fields} :
    readMembers fields ((name, value) :: rest) row = .ok last ↔
      ∃ next, readMember name value fields row = .ok next ∧ readMembers fields rest next = .ok last :=
  bind_eq_ok_iff

/-- A row without fields reads any members. -/
theorem readMembers_nil (members : List (String × Json)) : readMembers [] members () = .ok () := by
  induction members with
  | nil => rfl
  | cons entry rest ih => exact readMembers_step.mpr ⟨(), rfl, ih⟩

/-- What a slot holds after the members of an object are read. -/
def readSlot (field : String × SemanticType) (slot : Option (RowValue field.2))
    (members : List (String × Json)) : Except Json.Cause (Option (RowValue field.2)) :=
  match Keyed.lookup? field.1 members with
  | none => .ok slot
  | some value => RowValue.read field.2 value

/-- The members of an object are read into each field on its own. -/
theorem readMembers_cons_eq_ok_iff (absent : field.1 ∉ Keyed.keys fields)
    (distinct : (Keyed.keys members).Nodup) {row last : Row (field :: fields)} :
    readMembers (field :: fields) members row = .ok last ↔
      readSlot field row.1 members = .ok last.1 ∧ readMembers fields members row.2 = .ok last.2 := by
  induction members generalizing row with
  | nil =>
      constructor
      · rintro ⟨⟩
        exact ⟨rfl, rfl⟩
      · obtain ⟨slot, others⟩ := row
        obtain ⟨lastSlot, lastOthers⟩ := last
        rintro ⟨⟨⟩, ⟨⟩⟩
        rfl
  | cons entry rest ih =>
      obtain ⟨name, value⟩ := entry
      rw [Keyed.keys_cons, List.nodup_cons] at distinct
      have read := @ih distinct.2
      rw [readMembers_step, readMembers_step, readMember, readSlot, Keyed.lookup?]
      by_cases same : field.1 = name
      · -- The first field takes this member and no other, and the other fields pass it over.
        subst same
        have onlyOnce := (Keyed.lookup?_eq_none_iff _ _).mpr distinct.1
        rw [if_pos rfl, if_pos rfl, readMember_of_not_mem absent]
        constructor
        · rintro ⟨_, isRead, others⟩
          obtain ⟨held, isHeld, rfl⟩ := map_eq_ok_iff.mp isRead
          obtain ⟨isLast, areRead⟩ := read.mp others
          rw [readSlot, onlyOnce] at isLast
          cases isLast
          exact ⟨isHeld, row.2, rfl, areRead⟩
        · rintro ⟨isHeld, _, ⟨⟩, areRead⟩
          refine ⟨(last.1, row.2), map_eq_ok_iff.mpr ⟨last.1, isHeld, rfl⟩, read.mpr ⟨?_, areRead⟩⟩
          rw [readSlot, onlyOnce]
      · -- The first field is left as it is.
        rw [if_neg same, if_neg (Ne.symm same), ← readSlot]
        constructor
        · rintro ⟨_, isRead, others⟩
          obtain ⟨passed, isPassed, rfl⟩ := map_eq_ok_iff.mp isRead
          obtain ⟨isLast, areRead⟩ := read.mp others
          exact ⟨isLast, passed, isPassed, areRead⟩
        · rintro ⟨isLast, passed, isPassed, areRead⟩
          exact ⟨(row.1, passed), map_eq_ok_iff.mpr ⟨passed, isPassed, rfl⟩,
            read.mpr ⟨isLast, areRead⟩⟩

/-- A blank slot takes what the field takes. It then holds what is kept, and reads it again. -/
theorem readSlot_cases (storable : field.2.isStorable) (proper : Json.EntriesAreProper members) :
    ((∀ value, Keyed.lookup? field.1 members = some value → field.2.Takes value) ∧
        ∃ slot, readSlot field none members = .ok slot ∧
          slot.map (RowValue.toJson field.2) = keptValue? field members ∧
          ∀ held, slot = some held →
            RowValue.read field.2 (RowValue.toJson field.2 held) = .ok (some held)) ∨
      ((∃ value, Keyed.lookup? field.1 members = some value ∧ ¬ field.2.Takes value) ∧
        ∃ cause, readSlot field none members = .error cause) := by
  rw [readSlot, keptValue?]
  cases found : Keyed.lookup? field.1 members with
  | none => exact .inl ⟨nofun, none, rfl, rfl, nofun⟩
  | some value =>
      by_cases takes : field.2.Takes value
      · refine .inl ⟨fun _ same => by cases same; exact takes, ?_⟩
        by_cases given : value = .null
        · subst given
          exact ⟨none, rfl, rfl, nofun⟩
        · have isProper := proper.of_mem (Keyed.mem_of_lookup? found)
          obtain ⟨held, isRead, isKept, again⟩ := RowValue.read_of_takes takes isProper given
          refine ⟨some held, isRead, ?_, ?_⟩
          · rw [Option.map_some, isKept]
            cases value <;> first | exact absurd rfl given | rfl
          · rintro _ ⟨⟩
            rwa [isKept]
      · exact .inr ⟨⟨value, rfl, takes⟩, RowValue.read_of_not_takes storable takes⟩

/-- A slot is read exactly if its type takes every value given for it. -/
theorem exists_readSlot_iff (storable : field.2.isStorable)
    (proper : Json.EntriesAreProper members) :
    (∃ slot, readSlot field none members = .ok slot) ↔
      ∀ value, Keyed.lookup? field.1 members = some value → field.2.Takes value := by
  rcases readSlot_cases storable proper with
    ⟨takes, slot, isSlot, -⟩ | ⟨⟨value, found, misfit⟩, cause, refused⟩
  · exact iff_of_true ⟨slot, isSlot⟩ takes
  · refine iff_of_false ?_ fun takes => misfit (takes value found)
    rintro ⟨slot, isSlot⟩
    cases refused.symm.trans isSlot

/-- A slot that was read holds the kept value. -/
theorem kept_of_readSlot (storable : field.2.isStorable) (proper : Json.EntriesAreProper members)
    {slot : Option (RowValue field.2)} (isSlot : readSlot field none members = .ok slot) :
    slot.map (RowValue.toJson field.2) = keptValue? field members := by
  rcases readSlot_cases storable proper with ⟨-, _, isSlotAgain, isKept, -⟩ | ⟨-, cause, refused⟩
  · cases isSlotAgain.symm.trans isSlot
    exact isKept
  · cases refused.symm.trans isSlot

/-- What a slot holds is read back from its encoding. -/
theorem read_of_readSlot (storable : field.2.isStorable) (proper : Json.EntriesAreProper members)
    {slot : Option (RowValue field.2)} (isSlot : readSlot field none members = .ok slot)
    (held : RowValue field.2) (isHeld : slot = some held) :
    RowValue.read field.2 (RowValue.toJson field.2 held) = .ok (some held) := by
  rcases readSlot_cases storable proper with ⟨-, _, isSlotAgain, -, reads⟩ | ⟨-, cause, refused⟩
  · cases isSlotAgain.symm.trans isSlot
    exact reads held isHeld
  · cases refused.symm.trans isSlot

/-- Members are read into a blank row when each field takes the value under its name. -/
theorem exists_readMembers_iff (storable : ∀ field ∈ fields, field.2.isStorable)
    (declared : (Keyed.keys fields).Nodup) (distinct : (Keyed.keys members).Nodup)
    (proper : Json.EntriesAreProper members) :
    (∃ row, readMembers fields members (blank fields) = .ok row) ↔
      ∀ field ∈ fields, ∀ value, Keyed.lookup? field.1 members = some value →
        field.2.Takes value := by
  induction fields with
  | nil => exact iff_of_true ⟨(), readMembers_nil members⟩ (List.forall_mem_nil _)
  | cons field rest ih =>
      obtain ⟨first, others⟩ := List.forall_mem_cons.mp storable
      obtain ⟨absent, apart⟩ := List.nodup_cons.mp declared
      rw [List.forall_mem_cons, ← ih others apart, ← exists_readSlot_iff first proper]
      constructor
      · rintro ⟨row, isRead⟩
        obtain ⟨isSlot, areRead⟩ := (readMembers_cons_eq_ok_iff absent distinct).mp isRead
        exact ⟨⟨row.1, isSlot⟩, row.2, areRead⟩
      · rintro ⟨⟨slot, isSlot⟩, row, areRead⟩
        exact ⟨(slot, row), (readMembers_cons_eq_ok_iff absent distinct).mpr ⟨isSlot, areRead⟩⟩

/-- A row that is read holds what is kept of the members. -/
theorem entries_of_readMembers (storable : ∀ field ∈ fields, field.2.isStorable)
    (declared : (Keyed.keys fields).Nodup) (distinct : (Keyed.keys members).Nodup)
    (proper : Json.EntriesAreProper members) {row : Row fields}
    (isRead : readMembers fields members (blank fields) = .ok row) :
    entries fields row = keptOf fields members := by
  induction fields with
  | nil => rfl
  | cons field rest ih =>
      obtain ⟨first, others⟩ := List.forall_mem_cons.mp storable
      obtain ⟨absent, apart⟩ := List.nodup_cons.mp declared
      obtain ⟨isSlot, areRead⟩ := (readMembers_cons_eq_ok_iff absent distinct).mp isRead
      have following := ih others apart areRead
      rw [keptOf, List.filterMap_cons, ← kept_of_readSlot first proper isSlot, ← keptOf, ← following]
      obtain ⟨_ | held, row⟩ := row <;> rfl

/-- A row that is read is read from its own entries. -/
theorem readMembers_entries (storable : ∀ field ∈ fields, field.2.isStorable)
    (declared : (Keyed.keys fields).Nodup) (distinct : (Keyed.keys members).Nodup)
    (proper : Json.EntriesAreProper members) {row : Row fields}
    (isRead : readMembers fields members (blank fields) = .ok row) :
    readMembers fields (entries fields row) (blank fields) = .ok row := by
  induction fields with
  | nil => rfl
  | cons field rest ih =>
      obtain ⟨first, others⟩ := List.forall_mem_cons.mp storable
      obtain ⟨absent, apart⟩ := List.nodup_cons.mp declared
      obtain ⟨isSlot, areRead⟩ := (readMembers_cons_eq_ok_iff absent distinct).mp isRead
      have following := ih others apart areRead
      have distinctEntries := declared.sublist (keys_entries_sublist (field :: rest) row)
      have reads := read_of_readSlot first proper isSlot
      refine (readMembers_cons_eq_ok_iff absent distinctEntries).mpr ?_
      -- The other fields pass over the entry of the first one, if it has any.
      obtain ⟨_ | held, row⟩ := row
      · have notHeld : field.1 ∉ Keyed.keys (entries rest row) :=
          fun mem => absent ((keys_entries_sublist rest row).subset mem)
        have isEntries : entries (field :: rest) (none, row) = entries rest row := rfl
        refine ⟨?_, following⟩
        rw [isEntries, readSlot, (Keyed.lookup?_eq_none_iff _ _).mpr notHeld]
        rfl
      · have isEntries : entries (field :: rest) (some held, row) =
            (field.1, RowValue.toJson field.2 held) :: entries rest row := rfl
        refine ⟨?_, readMembers_step.mpr ⟨_, readMember_of_not_mem absent _ _, following⟩⟩
        rw [isEntries, readSlot, Keyed.lookup?, if_pos rfl]
        exact reads held rfl

end Members

end Row

/-! ## Rows of a table -/

section Rows

variable {names : TableNames} {members : List (String × Json)}

/-- No stored field of a table is named twice. -/
theorem TypeInfo.nodup_keys_storableFields (table : TypeInfo) :
    (Keyed.keys table.storableFields).Nodup :=
  table.fields.distinct.sublist (List.filter_sublist.map _)

/-- The stored fields of a table are of storable types. -/
theorem TypeInfo.isStorable_of_mem {table : TypeInfo} :
    ∀ field ∈ table.storableFields, field.2.isStorable :=
  fun _ mem => (List.mem_filter.mp mem).2

/-- A row is decoded exactly if its members are read into the blank row. -/
theorem TableNames.decodeRow_eq_ok_iff {row : Row names.table.storableFields} :
    names.decodeRow (.object members) = .ok row ↔
      Row.readMembers names.table.storableFields members (Row.blank _) = .ok row :=
  mapError_eq_ok_iff

variable (proper : (Json.object members).IsProper)
include proper

/-- An object is decoded when each stored field takes the value that the object has for it. -/
theorem TableNames.exists_decodeRow_iff :
    (∃ row, names.decodeRow (.object members) = .ok row) ↔
      ∀ field type value, (field, type) ∈ names.table.storableFields → (field, value) ∈ members →
        type.Takes value := by
  simp only [decodeRow_eq_ok_iff, Row.exists_readMembers_iff TypeInfo.isStorable_of_mem
    names.table.nodup_keys_storableFields proper.1 proper.2, Prod.forall,
    Keyed.lookup?_eq_some_iff proper.1]
  constructor
  · exact fun takes field type value isField isMember => takes field type isField value isMember
  · exact fun takes field type isField value isMember => takes field type value isField isMember

variable {row : Row names.table.storableFields}
  (decoded : names.decodeRow (.object members) = .ok row)
include decoded

/-- A decoded row holds what it keeps of the object. -/
theorem TableNames.entries_of_decodeRow :
    row.entries names.table.storableFields = Row.keptOf names.table.storableFields members :=
  Row.entries_of_readMembers TypeInfo.isStorable_of_mem names.table.nodup_keys_storableFields
    proper.1 proper.2 (decodeRow_eq_ok_iff.mp decoded)

/-- A decoded row is decoded again from its own object. -/
theorem TableNames.decodeRow_toJson :
    names.decodeRow (row.toJson names.table.storableFields) = .ok row :=
  decodeRow_eq_ok_iff.mpr (Row.readMembers_entries TypeInfo.isStorable_of_mem
    names.table.nodup_keys_storableFields proper.1 proper.2 (decodeRow_eq_ok_iff.mp decoded))

end Rows

/-- An object of a table is decoded into the row struct, whose members are named apart and renamed
to the stored fields, exactly when each stored field takes what the object has for it. As a payload
the row then gives the fields with a value other than null, in the order of the table; as a
condition it gives the same, in the order of their names; and it is decoded again from its own
object. -/
theorem decoded_rows_keep_members {catalog : Catalog} {names : TableNames}
    (declared : names ∈ catalog.tableNames) {members : List (String × Json)}
    (proper : (Json.object members).IsProper) :
    let fields := names.table.storableFields
    let kept := Input.ofValues (Row.keptOf fields members)
    (names.members.map (fun member => (member.field, member.type)) = fields ∧
        (names.members.map (·.identifier.word)).Nodup ∧
        Generated.renames (Generated.rowStruct names) = Keyed.keys fields) ∧
      ((∃ row, names.decodeRow (.object members) = .ok row) ↔
        ∀ field type value, (field, type) ∈ fields → (field, value) ∈ members →
          type.Takes value) ∧
      ∀ row, names.decodeRow (.object members) = .ok row →
        (Payload.ofJson (row.toJson fields) = .ok (row.payload fields) ∧
            (row.payload fields).entries.entries = kept) ∧
          (Condition.ofJson (row.toJson fields) = .ok (row.condition fields) ∧
            (row.condition fields).entries.entries.Perm kept ∧
            (row.condition fields).entries.keys.Pairwise (· < ·)) ∧
          names.decodeRow (row.toJson fields) = .ok row := by
  intro fields kept
  have isMembers := Catalog.members_of_mem_tableNamesIn declared
  have sameFields : names.members.map (fun member => (member.field, member.type)) = fields := by
    rw [isMembers]
    exact names.table.map_field_members .standard
  refine ⟨⟨sameFields, ?_, ?_⟩, TableNames.exists_decodeRow_iff proper, fun row decoded => ?_⟩
  · have distinct := (names.table.declares_members .standard).distinct
    rw [← isMembers, List.map_map] at distinct
    exact distinct
  · rw [Generated.renames_rowStruct, ← sameFields, Keyed.keys, List.map_map]
    rfl
  · have isKept : Input.ofValues (row.entries fields) = kept :=
      congrArg Input.ofValues (TableNames.entries_of_decodeRow proper decoded)
    have distinct : (Keyed.keys (Input.ofValues (row.entries fields))).Nodup := by
      rw [Input.keys_ofValues]
      exact row.nodup_keys_entries
    refine ⟨⟨rfl, ?_⟩, ⟨rfl, ?_, (row.condition fields).entries.ascending⟩,
      TableNames.decodeRow_toJson proper decoded⟩
    · exact (OrderedMap.entries_ofList distinct).trans isKept
    · exact (Keyed.perm_entries_ofList distinct).trans (isKept ▸ .refl _)

/-- A post with an unknown key and without a note: the row gives the identifier and the score, in
the order of the table. -/
theorem decoded_rows_keep_members_post :
    let post : TypeInfo :=
      .table "Post" [("id", .id), ("author", .relation), ("score", .number), ("note", .json)]
    let catalog : Catalog := .ofTypes [post]
    let members : List (String × Json) :=
      [("score", .integer 3), ("rank", .boolean true), ("note", .null), ("id", .string "p1")]
    ∃ names ∈ catalog.tableNames, names.table = post ∧
      ∃ row, names.decodeRow (.object members) = .ok row ∧
        (row.payload names.table.storableFields).entries.entries =
          [("id", .value (.string "p1")), ("score", .value (.number (.double (Double.ofInt 3))))] ∧
        names.decodeRow (row.toJson names.table.storableFields) = .ok row := by
  intro post catalog members
  obtain ⟨⟨_, _, _, _, _, _⟩, declared, rfl⟩ :=
    catalog.exists_mem_tableNamesIn .standard post List.mem_cons_self
  have proper : (Json.object members).IsProper :=
    ⟨by decide +kernel, ⟨by decide, by decide⟩, trivial, trivial, trivial, trivial⟩
  obtain ⟨-, -, keeps⟩ := decoded_rows_keep_members declared proper
  obtain ⟨⟨-, given⟩, -, again⟩ := keeps (some "p1", some (Double.ofInt 3), none, ()) rfl
  exact ⟨_, declared, rfl, _, rfl, given, again⟩

end CatalogSql
