import CatalogSql.Json.Decoder
import CatalogSql.Proofs.Failing
import CatalogSql.Proofs.Json.Shown
import CatalogSql.Proofs.Keyed.Sorted

/-!
# Written values are decoded

A decoder gives a value back from its written form if it does so from every node that shows the
written form. Levels are bounded, so a written form needs room for the lists and objects that it
nests.
-/

namespace CatalogSql.Json

variable {α β σ : Type}

/-- A decoder reads a written form that nests at most so many lists and objects as a value. -/
def Decodes (room : Nat) (decoder : Decoder α) (written : Json) (value : α) : Prop :=
  ∀ depth node, depth + room ≤ Node.greatestLevel → written.Shows depth node →
    decoder .text node = .ok value

/-- A level up to the greatest one is accepted. -/
theorem checkLevel_of_le {level : Nat} (enough : level ≤ Node.greatestLevel) (start : Nat) :
    Node.checkLevel level start = .ok () := if_neg (by omega)

/-- A text is decoded when its value is and nothing follows the value. -/
theorem decodeText_eq_ok_iff {decoder : Decoder α} {text : String} {value : α} :
    decodeText decoder text = .ok value ↔
      decoder .text (Document.ofText text.toList).root = .ok value ∧
        (Document.ofText text.toList).trailing = none := by
  simp only [decodeText]
  generalize Document.ofText text.toList = document
  cases decoder .text document.root with
  | error fault => simp
  | ok given => cases document.trailing <;> simp

namespace Decodes

variable {room : Nat} {decoder : Decoder α} {written : Json} {value : α}

/-- A value decoded in little room is decoded in more. -/
theorem mono {more : Nat} (decodes : Decodes room decoder written value) (atMost : room ≤ more) :
    Decodes more decoder written value :=
  fun depth node enough => decodes depth node (by omega)

/-- A string is decoded from itself. -/
theorem string (value : String) : Decodes 0 Decoder.string (.string value) value := by
  rintro depth _ - ⟨start, stop, rfl⟩
  rfl

/-- A natural number below the bound is decoded from itself. -/
theorem natural {bound number : Nat} (below : number < bound) (expected : String) :
    Decodes 0 (Decoder.natural bound expected) (.integer number) number := by
  rintro depth _ - ⟨start, stop, rfl⟩
  have inRange : (0 : Int) ≤ number ∧ (number : Int) < bound := by omega
  simp [Decoder.natural, inRange]

/-- What decodes to a value decodes to the changed value. -/
theorem map (decodes : Decodes room decoder written value) (change : α → β) :
    Decodes room (fun origin node => (decoder origin node).map change) written (change value) := by
  intro depth node enough shows
  exact congrArg (Except.map change) (decodes depth node enough shows)

/-- `null` is decoded to nothing. -/
theorem option_none : Decodes 0 (Decoder.option decoder) .null none := by
  rintro depth _ - ⟨start, stop, rfl⟩
  rfl

/-- Anything but `null` is decoded as the value itself. -/
theorem option_some (decodes : Decodes room decoder written value) (notNull : written ≠ .null) :
    Decodes room (Decoder.option decoder) written (some value) := by
  intro depth node enough shows
  have decoded := congrArg (Except.map some) (decodes depth node enough shows)
  cases node with
  | null start stop =>
      cases written with
      | null => exact absurd rfl notNull
      | boolean | number | string | array | object => simp [Shows] at shows
  | _ => exact decoded

/-- The name of a choice is decoded to it. -/
theorem choice {choices : List (String × α)} {name : String} {value : α}
    (found : Keyed.lookup? name choices = some value) :
    Decodes 0 (Decoder.choice choices) (.string name) value := by
  rintro depth _ - ⟨start, stop, rfl⟩
  simp [Decoder.choice, Decoder.choose, found]
  rfl

/-! ## Maps -/

section Maps

variable (encode : α → Json) {given : List (String × α)}

/-- The members of an object are decoded one by one, in their order. -/
theorem members (each : ∀ entry ∈ given, Decodes room decoder (encode entry.2) entry.2)
    {depth : Nat} (enough : depth + room ≤ Node.greatestLevel) {members : List (Key × Node)}
    (shows : EntriesShow depth (given.map fun entry => (entry.1, encode entry.2)) members) :
    Decoder.members decoder .text members = .ok given := by
  induction given generalizing members with
  | nil =>
      obtain rfl : members = [] := shows
      rfl
  | cons entry rest ih =>
      obtain ⟨first, others⟩ := List.forall_mem_cons.mp each
      obtain ⟨stop, node, following, rfl, isValue, areOthers⟩ := shows
      have value := first depth node enough isValue
      have later := ih others areOthers
      rw [Decoder.members, value, later]
      rfl

/-- An object is decoded to the list of its entries. -/
theorem entries (each : ∀ entry ∈ given, Decodes room decoder (encode entry.2) entry.2) :
    Decodes (room + 1) (Decoder.entries decoder)
      (.object (given.map fun entry => (entry.1, encode entry.2))) given := by
  rintro depth _ enough ⟨start, stop, nodes, bracket, rfl, shows⟩
  have inside := members encode each (by omega : depth + 1 + room ≤ _) shows
  have level := checkLevel_of_le (by omega : depth + 1 ≤ _) start
  rw [Decoder.entries, level, inside]
  rfl

/-- The entries of an ordered map are decoded to that map. -/
theorem orderedMap {map : OrderedMap α}
    (each : ∀ entry ∈ map.entries, Decodes room decoder (encode entry.2) entry.2) :
    Decodes (room + 1) (Decoder.orderedMap decoder)
      (.object (map.entries.map fun entry => (entry.1, encode entry.2))) map := by
  have decodes := (entries encode each).map OrderedMap.ofList
  rwa [map.ofList_entries] at decodes

/-- The entries of a sorted map are decoded to that map. -/
theorem sortedMap {map : SortedMap α}
    (each : ∀ entry ∈ map.entries, Decodes room decoder (encode entry.2) entry.2) :
    Decodes (room + 1) (Decoder.sortedMap decoder)
      (.object (map.entries.map fun entry => (entry.1, encode entry.2))) map := by
  have sameMap : SortedMap.ofList map.entries = map :=
    SortedMap.ext (Keyed.entries_ofList_of_ascending map.ascending)
  have decodes := (entries encode each).map SortedMap.ofList
  rwa [sameMap] at decodes

end Maps

end Decodes

/-! ## Records -/

namespace Decoder

/-- A required member is there exactly if its slot is filled. -/
theorem required_eq_ok_iff {name : String} {slot : Option α} {value : α} :
    required name slot = .ok value ↔ slot = some value := by
  cases slot <;> simp [required]

/-- A member of a record is skipped, or it gives a field that has not been given before. -/
theorem Record.readMembers_cons_eq_ok_iff {record : Record σ α} {origin : Origin} {key : Key}
    {node : Node} {rest : List (Key × Node)} {draft last : σ} :
    record.readMembers origin ((key, node) :: rest) draft = .ok last ↔
      ∃ name, key.text = .ok name ∧
        ((record.fields.find? (·.name == name) = none ∧ node.skip = .ok () ∧
            record.readMembers origin rest draft = .ok last) ∨
          ∃ field next, record.fields.find? (·.name == name) = some field ∧
            field.isGiven draft = false ∧ field.read origin node draft = .ok next ∧
            record.readMembers origin rest next = .ok last) := by
  rw [readMembers, bind_eq_ok_iff]
  refine exists_congr fun name => and_congr_right fun _ => ?_
  cases record.fields.find? (·.name == name) with
  | none =>
      constructor
      · intro onwards
        obtain ⟨_, skipped, later⟩ := bind_eq_ok_iff.mp onwards
        exact .inl ⟨rfl, skipped, later⟩
      · rintro (⟨-, skipped, later⟩ | ⟨_, _, found, -⟩)
        · exact bind_eq_ok_iff.mpr ⟨(), skipped, later⟩
        · cases found
  | some field =>
      cases given : field.isGiven draft with
      | true => simp [given]
      | false => simp [given, bind_eq_ok_iff, mapError_eq_ok_iff]

end Decoder

mutual

/-- A node that shows a value can be skipped. -/
theorem skip_of_shows : ∀ {depth : Nat} (value : Json) {node : Node}, value.Shows depth node →
    node.skip = .ok ()
  | _, .null, _, ⟨_, _, same⟩ | _, .boolean _, _, ⟨_, _, same⟩ | _, .number _, _, ⟨_, _, same⟩
  | _, .string _, _, ⟨_, _, same⟩ => by rw [same, Node.skip]
  | _, .array items, _, ⟨_, _, _, _, same, areShown⟩ => by
      rw [same, Node.skip, skip_of_itemsShow items areShown]
      rfl
  | _, .object entries, _, ⟨_, _, _, _, same, areShown⟩ => by
      rw [same, Node.skip, skip_of_entriesShow entries areShown]
      rfl

/-- Items that show values are skipped. -/
theorem skip_of_itemsShow : ∀ {depth : Nat} (items : List Json) {nodes : List Node},
    ItemsShow depth items nodes → Node.skipItems nodes = .ok ()
  | _, [], _, same => by rw [same, Node.skipItems]
  | _, item :: rest, _, ⟨_, _, same, shows, areShown⟩ => by
      rw [same, Node.skipItems, skip_of_shows item shows]
      exact skip_of_itemsShow rest areShown

/-- Members that show values are skipped. -/
theorem skip_of_entriesShow : ∀ {depth : Nat} (entries : List (String × Json))
    {members : List (Key × Node)}, EntriesShow depth entries members →
    Node.skipMembers members = .ok ()
  | _, [], _, same => by rw [same, Node.skipMembers]
  | _, (_, value) :: rest, _, ⟨_, _, _, same, shows, areShown⟩ => by
      rw [same, Node.skipMembers, skip_of_shows value shows]
      exact skip_of_entriesShow rest areShown

end

/-- Entries put their values into a draft of a record, one after another. Those under other names
than the fields have are skipped. -/
inductive Fills (room : Nat) (record : Decoder.Record σ α) :
    List (String × Json) → σ → σ → Prop where
  | nil (draft : σ) : Fills room record [] draft draft
  | field {name : String} {written : Json} {field : Decoder.Field σ}
      {rest : List (String × Json)} {draft next last : σ}
      (found : record.fields.find? (·.name == name) = some field)
      (fresh : field.isGiven draft = false)
      (reads : Decodes room (fun origin node => field.read origin node draft) written next)
      (others : Fills room record rest next last) :
      Fills room record ((name, written) :: rest) draft last
  | other {name : String} {written : Json} {rest : List (String × Json)} {draft last : σ}
      (unknown : record.fields.find? (·.name == name) = none)
      (others : Fills room record rest draft last) :
      Fills room record ((name, written) :: rest) draft last

namespace Fills

variable {room : Nat} {record : Decoder.Record σ α} {entries : List (String × Json)}
  {draft last : σ}

/-- Two stretches of entries fill a draft one after the other. -/
theorem append {others : List (String × Json)} {next : σ}
    (first : Fills room record entries draft next) (second : Fills room record others next last) :
    Fills room record (entries ++ others) draft last := by
  induction first with
  | nil => exact second
  | field found fresh reads _ ih => exact .field found fresh reads (ih second)
  | other unknown _ ih => exact .other unknown (ih second)

/-- Entries that fill a draft do so when they are read from a text that shows them. -/
theorem readMembers (fills : Fills room record entries draft last) {depth : Nat}
    (enough : depth + room ≤ Node.greatestLevel) {members : List (Key × Node)}
    (shows : EntriesShow depth entries members) :
    record.readMembers .text members draft = .ok last := by
  induction fills generalizing members with
  | nil =>
      obtain rfl : members = [] := shows
      rfl
  | field found fresh reads _ ih =>
      obtain ⟨stop, node, following, rfl, isValue, areOthers⟩ := shows
      have value := reads depth node enough isValue
      exact Decoder.Record.readMembers_cons_eq_ok_iff.mpr
        ⟨_, rfl, .inr ⟨_, _, found, fresh, value, ih areOthers⟩⟩
  | other unknown _ ih =>
      obtain ⟨stop, node, following, rfl, isValue, areOthers⟩ := shows
      exact Decoder.Record.readMembers_cons_eq_ok_iff.mpr
        ⟨_, rfl, .inl ⟨unknown, skip_of_shows _ isValue, ih areOthers⟩⟩

/-- An object whose entries fill a complete draft is decoded to the value. -/
theorem decodes {value : α} (fills : Fills room record entries record.draft last)
    (complete : record.complete last = .ok value) :
    Decodes (room + 1) record.decoder (.object entries) value := by
  rintro depth _ enough ⟨start, stop, nodes, bracket, rfl, shows⟩
  have inside := fills.readMembers (by omega : depth + 1 + room ≤ _) shows
  have level := checkLevel_of_le (by omega : depth + 1 ≤ _) start
  rw [Decoder.Record.decoder]
  simp only [level, inside, Node.Finish.strict]
  change (record.complete last).mapError _ = _
  rw [complete]
  rfl

end Fills

/-- The text of a written form is decoded, if the form nests few enough lists and objects. -/
theorem Decodes.decodeText {room : Nat} {decoder : Decoder α} {written : Json} {value : α}
    (decodes : Decodes room decoder written value) (enough : room ≤ Node.greatestLevel)
    (natural : written.HasNaturals) :
    Json.decodeText decoder (written.indentedText ++ "\n") = .ok value := by
  obtain ⟨node, shows, isRead⟩ := shows_ofText natural
  have decoded := decodes 0 node (by omega) shows
  simp only [Json.decodeText, isRead, decoded]

end CatalogSql.Json
