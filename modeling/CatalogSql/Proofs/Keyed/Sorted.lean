import CatalogSql.Keyed.Sorted

/-!
# The order and the values of sorted maps

Keys of a sorted map ascend character by character. Encoding a character keeps the order:
the encodings of two characters differ at some byte, and there the lower character has the
lower byte. So keys ascend byte by byte, too. Under each key a map holds the value that was
given last for it, in whatever order keys were given, and what it holds under each key is all
there is to a map.
-/

namespace CatalogSql.Keyed

/-- The bytes of a text. -/
def bytes (text : String) : List UInt8 := text.toUTF8.data.toList

/-- The bytes of a text are those of its characters, one after another. -/
theorem bytes_eq_flatMap (text : String) : bytes text = text.toList.flatMap String.utf8EncodeChar := by
  rw [bytes, String.toUTF8_eq_toByteArray, ← String.utf8Encode_toList, List.utf8Encode]
  simp

/-- Bytes that are lower where they first differ from others. -/
inductive Below : List UInt8 → List UInt8 → Prop where
  | differ {low high : UInt8} (ordered : low < high) (left right : List UInt8) :
      Below (low :: left) (high :: right)
  | shared (byte : UInt8) {left right : List UInt8} (below : Below left right) :
      Below (byte :: left) (byte :: right)

namespace Below

variable {left right : List UInt8}

/-- Bytes given as numbers are compared as numbers, and then by what follows them. -/
theorem of_nat {low high : Nat} (bounded : high < 256)
    (ordered : low < high ∨ low = high ∧ Below left right) :
    Below (UInt8.ofNat low :: left) (UInt8.ofNat high :: right) := by
  rcases ordered with less | ⟨rfl, below⟩
  · refine .differ ?_ left right
    rw [UInt8.lt_iff_toNat_lt, UInt8.toNat_ofNat', UInt8.toNat_ofNat']
    omega
  · exact .shared _ below

/-- Texts whose fronts are below one another are so whatever follows. -/
theorem append_lt (below : Below left right) (rest others : List UInt8) :
    left ++ rest < right ++ others := by
  induction below with
  | differ ordered => exact List.Lex.rel ordered
  | shared byte _ ih => exact List.Lex.cons ih

end Below

/-- The bytes of a lower character are below those of a higher one, and neither
begins the other. -/
theorem below_utf8EncodeChar {left right : Char} (before : left < right) :
    Below (String.utf8EncodeChar left) (String.utf8EncodeChar right) := by
  have ordered : left.val.toNat < right.val.toNat := before
  have bounded : right.val.toNat < 0x110000 := by
    have valid : right.val.toNat.isValidChar := right.valid
    simp only [Nat.isValidChar] at valid
    omega
  generalize lower : left.val.toNat = low at ordered
  generalize higher : right.val.toNat = high at ordered bounded
  unfold String.utf8EncodeChar
  simp only [lower, higher]
  -- Encodings of different lengths differ in their first byte, others at a digit to base 64.
  by_cases lowOne : low ≤ 0x7f
  · rw [if_pos lowOne]
    by_cases highOne : high ≤ 0x7f
    · rw [if_pos highOne]
      exact .of_nat (by omega) (.inl (by omega))
    · rw [if_neg highOne]
      split
      · exact .of_nat (by omega) (.inl (by omega))
      · split <;> exact .of_nat (by omega) (.inl (by omega))
  rw [if_neg lowOne, if_neg (by omega : ¬ high ≤ 0x7f)]
  by_cases lowTwo : low ≤ 0x7ff
  · rw [if_pos lowTwo]
    by_cases highTwo : high ≤ 0x7ff
    · rw [if_pos highTwo]
      refine .of_nat (by omega) ?_
      by_cases first : low / 64 < high / 64
      · exact .inl (by omega)
      · exact .inr ⟨by omega, .of_nat (by omega) (.inl (by omega))⟩
    · rw [if_neg highTwo]
      split <;> exact .of_nat (by omega) (.inl (by omega))
  rw [if_neg lowTwo, if_neg (by omega : ¬ high ≤ 0x7ff)]
  by_cases lowThree : low ≤ 0xffff
  · rw [if_pos lowThree]
    by_cases highThree : high ≤ 0xffff
    · rw [if_pos highThree]
      refine .of_nat (by omega) ?_
      by_cases first : low / 4096 < high / 4096
      · exact .inl (by omega)
      · refine .inr ⟨by omega, .of_nat (by omega) ?_⟩
        by_cases second : low / 64 < high / 64
        · exact .inl (by omega)
        · exact .inr ⟨by omega, .of_nat (by omega) (.inl (by omega))⟩
    · rw [if_neg highThree]
      exact .of_nat (by omega) (.inl (by omega))
  rw [if_neg lowThree, if_neg (by omega : ¬ high ≤ 0xffff)]
  refine .of_nat (by omega) ?_
  by_cases first : low / 262144 < high / 262144
  · exact .inl (by omega)
  · refine .inr ⟨by omega, .of_nat (by omega) ?_⟩
    by_cases second : low / 4096 < high / 4096
    · exact .inl (by omega)
    · refine .inr ⟨by omega, .of_nat (by omega) ?_⟩
      by_cases third : low / 64 < high / 64
      · exact .inl (by omega)
      · exact .inr ⟨by omega, .of_nat (by omega) (.inl (by omega))⟩

/-- Lower texts have lower bytes. -/
theorem bytes_lt {left right : String} (before : left < right) : bytes left < bytes right := by
  rw [bytes_eq_flatMap, bytes_eq_flatMap]
  have characters : List.Lex (· < ·) left.toList right.toList := before
  generalize left.toList = first at characters ⊢
  generalize right.toList = second at characters ⊢
  induction characters with
  | nil =>
      rename_i character rest
      obtain ⟨byte, others, shape⟩ :=
        List.exists_cons_of_ne_nil (String.utf8EncodeChar_ne_nil (c := character))
      rw [List.flatMap_cons, shape]
      exact List.Lex.nil
  | rel ordered => exact (below_utf8EncodeChar ordered).append_lt _ _
  | cons _ ih =>
      rw [List.flatMap_cons, List.flatMap_cons]
      exact List.append_left_lt ih

/-- The keys of a sorted map ascend in the order of their bytes. -/
theorem ascending_bytes {α : Type} (map : SortedMap α) :
    (map.keys.map bytes).Pairwise (· < ·) :=
  List.pairwise_map.mpr (map.ascending.imp bytes_lt)

section Values

variable {α : Type}

/-- Among distinct keys, a lookup finds exactly the entry that is there. -/
theorem lookup?_eq_some_iff {entries : List (String × α)} (distinct : (keys entries).Nodup)
    (key : String) (value : α) : lookup? key entries = some value ↔ (key, value) ∈ entries := by
  induction entries with
  | nil => simp [lookup?]
  | cons entry rest ih =>
      obtain ⟨candidate, held⟩ := entry
      rw [keys_cons, List.nodup_cons] at distinct
      have inRest := ih distinct.2
      by_cases same : candidate = key
      · subst same
        have absent : (candidate, value) ∉ rest :=
          fun mem => distinct.1 (List.mem_map.mpr ⟨_, mem, rfl⟩)
        simp [lookup?, absent, eq_comm]
      · have differs : ¬ key = candidate := fun equal => same equal.symm
        simp [lookup?, same, differs, inRest]

/-- What a lookup finds is an entry. -/
theorem mem_of_lookup? {entries : List (String × α)} {key : String} {value : α}
    (found : lookup? key entries = some value) : (key, value) ∈ entries := by
  induction entries with
  | nil => cases found
  | cons entry rest ih =>
      obtain ⟨candidate, held⟩ := entry
      by_cases same : candidate = key
      · subst same
        rw [lookup?, if_pos rfl] at found
        cases found
        exact List.mem_cons_self
      · rw [lookup?, if_neg same] at found
        exact List.mem_cons_of_mem _ (ih found)

/-- The value given last under a key. -/
def lastGiven (given : List (String × α)) (key : String) : Option α := lookup? key given.reverse

/-- A lookup goes on in the second list where the first has no such key. -/
theorem lookup?_append (key : String) (first second : List (String × α)) :
    lookup? key (first ++ second) = (lookup? key first).or (lookup? key second) := by
  induction first with
  | nil => rfl
  | cons entry rest ih =>
      obtain ⟨candidate, held⟩ := entry
      by_cases same : candidate = key
      · simp [lookup?, same]
      · simp [lookup?, same, ih]

/-- The first entry counts only where no later one has its key. -/
theorem lastGiven_cons (entry : String × α) (rest : List (String × α)) (key : String) :
    lastGiven (entry :: rest) key =
      (lastGiven rest key).or (if entry.1 = key then some entry.2 else none) := by
  rw [lastGiven, lastGiven, List.reverse_cons, lookup?_append]
  rfl

/-- Among distinct keys, the value given last is the only one. -/
theorem lastGiven_eq_some_iff {given : List (String × α)} (distinct : (keys given).Nodup)
    (key : String) (value : α) : lastGiven given key = some value ↔ (key, value) ∈ given := by
  have reversed : (keys given.reverse).Nodup := by
    rw [keys, List.map_reverse]
    exact List.pairwise_reverse.mpr (distinct.imp Ne.symm)
  rw [lastGiven, lookup?_eq_some_iff reversed, List.mem_reverse]

/-- Under distinct keys, what was given last is what was given. -/
theorem lastGiven_of_nodup {given : List (String × α)} (distinct : (keys given).Nodup)
    (key : String) : lastGiven given key = lookup? key given :=
  Option.ext fun value => by
    rw [lastGiven_eq_some_iff distinct, lookup?_eq_some_iff distinct]

/-- Of the entries inserted one by one, the value given last is held. -/
theorem get?_foldl_insert (given : List (String × α)) (map : SortedMap α) (key : String) :
    (given.foldl (fun map entry => map.insert entry.1 entry.2) map).get? key =
      (lastGiven given key).or (map.get? key) := by
  induction given generalizing map with
  | nil => rfl
  | cons entry rest ih =>
      rw [List.foldl_cons, ih, SortedMap.get?_insert, lastGiven_cons, Option.or_assoc]
      by_cases same : entry.1 = key
      · rw [if_pos same.symm, if_pos same, Option.some_or]
      · rw [if_neg fun equal => same equal.symm, if_neg same, Option.none_or]

/-- A sorted map holds under each key what was given last for it. -/
theorem get?_ofList (given : List (String × α)) (key : String) :
    (SortedMap.ofList given).get? key = lastGiven given key :=
  (get?_foldl_insert given .empty key).trans (Option.or_none ..)

/-- The keys of a sorted map are distinct. -/
theorem nodup_keys (map : SortedMap α) : (keys map.entries).Nodup := by
  refine map.ascending.imp ?_
  rintro key _ before rfl
  exact String.lt_irrefl key before

/-- A sorted map holds what was given last under each key. -/
theorem mem_entries_ofList_iff (given : List (String × α)) (key : String) (value : α) :
    (key, value) ∈ (SortedMap.ofList given).entries ↔ lastGiven given key = some value := by
  rw [← lookup?_eq_some_iff (nodup_keys _), ← get?_ofList]
  rfl

/-- Entries of distinct keys are distinct. -/
theorem nodup_of_nodup_keys {entries : List (String × α)} (distinct : (keys entries).Nodup) :
    entries.Nodup :=
  List.Pairwise.of_map _ (fun _ _ differ same => differ (congrArg Prod.fst same)) distinct

/-- A sorted map holds the entries given under distinct keys, in another order. -/
theorem perm_entries_ofList {given : List (String × α)} (distinct : (keys given).Nodup) :
    (SortedMap.ofList given).entries.Perm given := by
  refine (List.perm_ext_iff_of_nodup (nodup_of_nodup_keys (nodup_keys _))
    (nodup_of_nodup_keys distinct)).mpr ?_
  rintro ⟨key, value⟩
  rw [mem_entries_ofList_iff, lastGiven_eq_some_iff distinct]

/-- Sorted maps that hold the same value under every key are equal. -/
theorem ext_get? {left right : SortedMap α} (same : ∀ key, left.get? key = right.get? key) :
    left = right := by
  have members : ∀ entry, entry ∈ left.entries ↔ entry ∈ right.entries := by
    rintro ⟨key, value⟩
    rw [← lookup?_eq_some_iff (nodup_keys left), ← lookup?_eq_some_iff (nodup_keys right)]
    exact iff_of_eq (congrArg (· = some value) (same key))
  have perm := (List.perm_ext_iff_of_nodup (nodup_of_nodup_keys (nodup_keys left))
    (nodup_of_nodup_keys (nodup_keys right))).mpr members
  have leftAscending := List.pairwise_map.mp left.ascending
  have rightAscending := List.pairwise_map.mp right.ascending
  refine SortedMap.ext (perm.eq_of_pairwise ?_ leftAscending rightAscending)
  intro first second _ _ before after
  exact absurd (String.lt_trans before after) (String.lt_irrefl _)

/-- A key above all others is put at the end. -/
theorem putSorted_of_forall_lt {key : String} {entries : List (String × α)}
    (above : ∀ held ∈ keys entries, held < key) (value : α) :
    putSorted key value entries = entries ++ [(key, value)] := by
  induction entries with
  | nil => rfl
  | cons entry rest ih =>
      obtain ⟨candidate, held⟩ := entry
      rw [keys_cons, List.forall_mem_cons] at above
      have notBefore : ¬ key < candidate := fun before =>
        String.lt_irrefl _ (String.lt_trans before above.1)
      have differs : ¬ candidate = key := by
        rintro rfl
        exact String.lt_irrefl _ above.1
      rw [putSorted, if_neg notBefore, if_neg differs, ih above.2, List.cons_append]

/-- Entries given in ascending order of their keys are the entries of their map. -/
theorem entries_ofList_of_ascending {given : List (String × α)}
    (ascending : (keys given).Pairwise (· < ·)) : (SortedMap.ofList given).entries = given := by
  suffices grown : ∀ map : SortedMap α,
      (∀ held ∈ keys map.entries, ∀ key ∈ keys given, held < key) →
      (given.foldl (fun map entry => map.insert entry.1 entry.2) map).entries =
        map.entries ++ given from
    grown .empty (List.forall_mem_nil _)
  induction given with
  | nil => exact fun map _ => (List.append_nil _).symm
  | cons entry rest ih =>
      intro map above
      rw [keys_cons, List.pairwise_cons] at ascending
      have atEnd : putSorted entry.1 entry.2 map.entries = map.entries ++ [entry] :=
        putSorted_of_forall_lt (fun held mem => above held mem _ List.mem_cons_self) entry.2
      rw [List.foldl_cons, ih ascending.2, SortedMap.entries_insert, atEnd, List.append_assoc,
        List.singleton_append]
      rw [SortedMap.entries_insert, atEnd]
      intro held mem key isKey
      rw [keys, List.map_append, List.mem_append] at mem
      rcases mem with before | isEntry
      · exact above held before key (List.mem_cons_of_mem _ isKey)
      · rw [List.mem_singleton.mp isEntry]
        exact ascending.1 key isKey

end Values

end CatalogSql.Keyed
