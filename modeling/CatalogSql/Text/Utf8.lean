/-!
# Bytes as text

Where a sequence of bytes stops being the encoding of a text. A fault lies behind the
longest part that is one; it is as long as the bytes that began a character, and has no
length when the bytes end inside a character.
-/

namespace CatalogSql

/-- The first fault of an encoding. -/
structure EncodingFault where
  /-- The number of bytes in front of the fault. -/
  index : Nat
  /-- The number of bytes that are no character, unless the bytes ended too early. -/
  length : Option Nat
deriving DecidableEq, Repr

namespace EncodingFault

/-- The words for a fault. -/
def message (fault : EncodingFault) : String :=
  match fault.length with
  | some length =>
      "invalid utf-8 sequence of " ++ toString length ++ " bytes from index " ++
        toString fault.index
  | none => "incomplete utf-8 byte sequence from index " ++ toString fault.index

end EncodingFault

namespace Text

/-- The ranges that the bytes after a first byte must lie in. -/
def following? (first : UInt8) : Option (List (UInt8 × UInt8)) :=
  let any : UInt8 × UInt8 := (0x80, 0xBF)
  if first < 0x80 then some []
  else if first < 0xC2 then none
  else if first < 0xE0 then some [any]
  else if first = 0xE0 then some [(0xA0, 0xBF), any]
  else if first = 0xED then some [(0x80, 0x9F), any]
  else if first < 0xF0 then some [any, any]
  else if first = 0xF0 then some [(0x90, 0xBF), any, any]
  else if first < 0xF4 then some [any, any, any]
  else if first = 0xF4 then some [(0x80, 0x8F), any, any]
  else none

/-- Compares bytes with the ranges of a character that began at an index; `taken` of its
bytes have been read. -/
def characterFault? (index taken : Nat) : List (UInt8 × UInt8) → List UInt8 → Option EncodingFault
  | [], _ => none
  | _ :: _, [] => some ⟨index, none⟩
  | (low, high) :: ranges, byte :: rest =>
      if low ≤ byte ∧ byte ≤ high then characterFault? index (taken + 1) ranges rest
      else some ⟨index, some taken⟩

/-- Finds the first fault; `awaited` bytes belong to a character that has been checked. -/
def encodingFaultFrom? (index awaited : Nat) : List UInt8 → Option EncodingFault
  | [] => none
  | byte :: rest =>
      match awaited with
      | awaited + 1 => encodingFaultFrom? (index + 1) awaited rest
      | 0 =>
          match following? byte with
          | none => some ⟨index, some 1⟩
          | some ranges =>
              match characterFault? index 1 ranges rest with
              | some fault => some fault
              | none => encodingFaultFrom? (index + 1) ranges.length rest

/-- The first fault of an encoding, if it has any. -/
def encodingFault? (bytes : List UInt8) : Option EncodingFault := encodingFaultFrom? 0 0 bytes

end Text

end CatalogSql
