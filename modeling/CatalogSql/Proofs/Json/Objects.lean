import CatalogSql.Proofs.Json.Decoded
import CatalogSql.Proofs.Keyed.Ordered

/-!
# Objects read entry by entry

An object in a text is read as a json value, or entry by entry in the order of the text. Both
readings meet the same entries and refuse the same texts; the value holds each key in the place
where it is first given, with the value given last for it.
-/

namespace CatalogSql.Json

variable {α β : Type}

namespace Decoder

/-- Members decoded to changed values are the changed members. -/
theorem members_map (decoder : Decoder α) (change : α → β) (origin : Origin)
    (nodes : List (Key × Node)) :
    members (fun origin node => (decoder origin node).map change) origin nodes =
      (members decoder origin nodes).map
        (List.map fun entry => (entry.1, change entry.2)) := by
  induction nodes with
  | nil => rfl
  | cons member rest ih =>
      rw [members, members, ih]
      cases member.1.text with
      | error => rfl
      | ok key =>
          cases decoder origin member.2 with
          | error => rfl
          | ok value => cases members decoder origin rest <;> rfl

/-- The values of entries may be changed as they are read or afterwards. -/
theorem entries_map (decoder : Decoder α) (change : α → β) (origin : Origin) (node : Node) :
    entries (fun origin node => (decoder origin node).map change) origin node =
      (entries decoder origin node).map (List.map fun entry => (entry.1, change entry.2)) := by
  cases node with
  | object level start stop nodes finish =>
      rw [entries, entries, members_map]
      cases Node.checkLevel level start with
      | error => rfl
      | ok =>
          cases members decoder origin nodes with
          | error => rfl
          | ok given => cases finish <;> rfl
  | _ => rfl

end Decoder

/-- A text decoded to a changed value is the changed value. -/
theorem decodeText_map (decoder : Decoder α) (change : α → β) (text : String) :
    decodeText (fun origin node => (decoder origin node).map change) text =
      (decodeText decoder text).map change := by
  simp only [decodeText]
  generalize Document.ofText text.toList = document
  cases decoder .text document.root with
  | error => rfl
  | ok value => cases document.trailing <;> rfl

/-- The value of an object collects the entries that are read one by one. -/
theorem Node.entries_eq_ok_iff {members : List (Key × Node)}
    {collected entries : List (String × Json)} :
    Node.entries members collected = .ok entries ↔
      ∃ given, Decoder.members Decoder.json .text members = .ok given ∧
        Keyed.putAll given collected = entries := by
  induction members generalizing collected with
  | nil =>
      rw [Node.entries, Decoder.members]
      constructor
      · rintro ⟨⟩
        exact ⟨[], rfl, rfl⟩
      · rintro ⟨_, ⟨⟩, rfl⟩
        rfl
  | cons member rest ih =>
      obtain ⟨key, node⟩ := member
      rw [Node.entries, Decoder.members]
      constructor
      · intro collects
        obtain ⟨text, isText, collects⟩ := bind_eq_ok_iff.mp collects
        obtain ⟨value, isValue, collects⟩ := bind_eq_ok_iff.mp collects
        obtain ⟨given, isGiven, rfl⟩ := ih.mp collects
        refine ⟨(text, value) :: given, ?_, rfl⟩
        have read : (Decoder.json .text node).mapError (·.orAt (.closingObject node.stop)) =
            .ok value := mapError_eq_ok_iff.mpr isValue
        rw [isText, read, isGiven]
        rfl
      · rintro ⟨_, reads, rfl⟩
        obtain ⟨text, isText, reads⟩ := bind_eq_ok_iff.mp reads
        obtain ⟨value, isValue, reads⟩ := bind_eq_ok_iff.mp reads
        obtain ⟨given, isGiven, reads⟩ := bind_eq_ok_iff.mp reads
        cases reads
        refine bind_eq_ok_iff.mpr ⟨text, isText, bind_eq_ok_iff.mpr ⟨value, ?_, ?_⟩⟩
        · exact mapError_eq_ok_iff.mp isValue
        · exact ih.mpr ⟨given, isGiven, rfl⟩

/-- A node is an object exactly if its entries are read, the last of each key counting. -/
theorem Node.value_eq_object_iff {node : Node} {entries : List (String × Json)} :
    node.value = .ok (.object entries) ↔
      ∃ given, Decoder.entries Decoder.json .text node = .ok given ∧
        Keyed.putAll given [] = entries := by
  cases node with
  | object level start stop members finish =>
      rw [Node.value, Decoder.entries]
      constructor
      · intro isValue
        obtain ⟨_, isLevel, isValue⟩ := bind_eq_ok_iff.mp isValue
        obtain ⟨collected, collects, isValue⟩ := bind_eq_ok_iff.mp isValue
        obtain ⟨_, isClosed, isValue⟩ := bind_eq_ok_iff.mp isValue
        cases isValue
        obtain ⟨given, isGiven, isCollected⟩ := Node.entries_eq_ok_iff.mp collects
        refine ⟨given, ?_, isCollected⟩
        rw [isLevel, isGiven, isClosed]
        rfl
      · rintro ⟨_, reads, isCollected⟩
        obtain ⟨_, isLevel, reads⟩ := bind_eq_ok_iff.mp reads
        obtain ⟨given, isGiven, reads⟩ := bind_eq_ok_iff.mp reads
        obtain ⟨_, isClosed, reads⟩ := bind_eq_ok_iff.mp reads
        cases reads
        have collects := Node.entries_eq_ok_iff.mpr ⟨_, isGiven, isCollected⟩
        rw [isLevel, collects, isClosed]
        rfl
  | list level start stop items finish =>
      rw [Node.value]
      constructor
      · intro isValue
        obtain ⟨_, -, isValue⟩ := bind_eq_ok_iff.mp isValue
        obtain ⟨_, -, isValue⟩ := bind_eq_ok_iff.mp isValue
        obtain ⟨_, -, isValue⟩ := bind_eq_ok_iff.mp isValue
        cases isValue
      · rintro ⟨_, ⟨⟩, -⟩
  | null | boolean | number | string | dubious | broken =>
      rw [Node.value]
      constructor
      · rintro ⟨⟩
      · rintro ⟨_, ⟨⟩, -⟩

/-- A text that parses to an object is read entry by entry, and the other way round. -/
theorem ofText_eq_object_iff {text : String} {entries : List (String × Json)} :
    ofText text = .ok (.object entries) ↔
      ∃ given, decodeText (Decoder.entries Decoder.json) text = .ok given ∧
        Keyed.putAll given [] = entries := by
  rw [ofText, decodeText_eq_ok_iff]
  constructor
  · rintro ⟨isValue, ends⟩
    obtain ⟨given, isGiven, collects⟩ := Node.value_eq_object_iff.mp isValue
    exact ⟨given, decodeText_eq_ok_iff.mpr ⟨isGiven, ends⟩, collects⟩
  · rintro ⟨given, decoded, collects⟩
    obtain ⟨isGiven, ends⟩ := decodeText_eq_ok_iff.mp decoded
    exact ⟨Node.value_eq_object_iff.mpr ⟨given, isGiven, collects⟩, ends⟩

end CatalogSql.Json
