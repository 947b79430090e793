import CatalogSql.Json.Node
import CatalogSql.Proofs.Json.Cutting

/-!
# Written values are read as their trees

The tokens of a written value are put together to a node that shows the value: its lists and
objects are closed, and no part of it holds a fault. The offsets of a node do not matter. What
has been read before is kept in frames, and a value is added to the innermost of them.
-/

namespace CatalogSql.Json

mutual

/-- A node shows a value that lies in a number of lists and objects: it stands for the value, and
its lists and objects end with their brackets. -/
def Shows : Nat → Json → Node → Prop
  | _, .null, node => ∃ start stop, node = .null start stop
  | _, .boolean value, node => ∃ start stop, node = .boolean value start stop
  | _, .number value, node => ∃ start stop, node = .number value start stop
  | _, .string value, node => ∃ start stop, node = .string value start stop
  | depth, .array items, node => ∃ start stop nodes bracket,
      node = .list (depth + 1) start stop nodes (.closed bracket) ∧
        ItemsShow (depth + 1) items nodes
  | depth, .object entries, node => ∃ start stop members bracket,
      node = .object (depth + 1) start stop members (.closed bracket) ∧
        EntriesShow (depth + 1) entries members

/-- Nodes show the items of an array. -/
def ItemsShow : Nat → List Json → List Node → Prop
  | _, [], nodes => nodes = []
  | depth, item :: rest, nodes => ∃ node others, nodes = node :: others ∧
      Shows depth item node ∧ ItemsShow depth rest others

/-- Members show the entries of an object. -/
def EntriesShow : Nat → List (String × Json) → List (Key × Node) → Prop
  | _, [], members => members = []
  | depth, (key, value) :: rest, members => ∃ stop node others,
      members = (⟨.ok key, stop⟩, node) :: others ∧
        Shows depth value node ∧ EntriesShow depth rest others

end

/-! ## Putting tokens together -/

/-- A value is expected, whatever else may come instead of it. -/
def Expectation.TakesValue : Expectation → Prop
  | .value | .firstItem | .item => True
  | _ => False

namespace Progress

/-- Where a value is expected, a token other than the end of a list begins one. -/
theorem advance_takesValue {expectation : Expectation} (takes : expectation.TakesValue)
    (frames : List Frame) {token : Token} (noEnd : token.lexeme ≠ .listEnd) :
    advance (.inside expectation frames) token = takeValue frames token := by
  obtain ⟨lexeme, start, stop⟩ := token
  cases expectation <;> first | exact takes.elim | skip
  all_goals cases lexeme <;> first | rfl | exact absurd rfl noEnd

end Progress

open Progress (advance resume)

/-- Tokens with the lexemes of a value are put together to a node that shows the value. -/
def Builds (value : Json) : Prop :=
  ∀ (tokens : List Token) (frames : List Frame) (expectation : Expectation),
    tokens.map (·.lexeme) = value.lexemes → expectation.TakesValue →
    ∃ node, value.Shows frames.length node ∧
      tokens.foldl advance (.inside expectation frames) = resume node frames

namespace Builds

/-- A value of one token. -/
theorem single {value : Json} {lexeme : Lexeme} {node : Nat → Nat → Node}
    (isLexeme : value.lexemes = [lexeme]) (noEnd : lexeme ≠ .listEnd)
    (takes : ∀ frames start stop,
      Progress.takeValue frames ⟨lexeme, start, stop⟩ = resume (node start stop) frames)
    (shows : ∀ depth start stop, value.Shows depth (node start stop)) : Builds value := by
  intro tokens frames expectation same isTaken
  rw [isLexeme] at same
  obtain ⟨⟨_, start, stop⟩, rfl, rfl⟩ := List.map_eq_singleton_iff.mp same
  refine ⟨node start stop, shows _ start stop, ?_⟩
  rw [List.foldl_cons, Progress.advance_takesValue isTaken frames noEnd, takes]
  rfl

/-- The tokens of a value in front of others. -/
theorem front {value : Json} (builds : Builds value) {tokens : List Token} {rest : List Lexeme}
    (same : tokens.map (·.lexeme) = value.lexemes ++ rest) (frames : List Frame)
    {expectation : Expectation} (takes : expectation.TakesValue) :
    ∃ (node : Node) (others : List Token), others.map (·.lexeme) = rest ∧
      value.Shows frames.length node ∧
      tokens.foldl advance (.inside expectation frames) =
        others.foldl advance (resume node frames) := by
  obtain ⟨front, others, rfl, isValue, isRest⟩ := List.map_eq_append_iff.mp same
  obtain ⟨node, shows, reads⟩ := builds front frames expectation isValue takes
  exact ⟨node, others, isRest, shows, by rw [List.foldl_append, reads]⟩

/-- The items of an array, after those that have been read before. -/
theorem items {items : List Json} (each : ∀ item ∈ items, Builds item) (some : items ≠ [])
    {tokens : List Token} {expectation : Expectation} (takes : expectation.TakesValue)
    (same : tokens.map (·.lexeme) =
      List.intercalate [.comma] (itemLexemes items) ++ [.listEnd])
    (start : Nat) (earlier : List Node) (frames : List Frame) :
    ∃ nodes stop bracket, ItemsShow (frames.length + 1) items nodes ∧
      tokens.foldl advance (.inside expectation (.list start earlier :: frames)) =
        resume (.list (frames.length + 1) start stop (earlier.reverse ++ nodes)
          (.closed bracket)) frames := by
  induction items generalizing tokens expectation earlier with
  | nil => exact absurd rfl some
  | cons item rest ih =>
      obtain ⟨builds, others⟩ := List.forall_mem_cons.mp each
      cases rest with
      | nil =>
          rw [itemLexemes, itemLexemes, List.intercalate_singleton] at same
          obtain ⟨node, back, isEnd, shows, reads⟩ :=
            builds.front same (.list start earlier :: frames) takes
          obtain ⟨⟨_, bracket, stop⟩, rfl, rfl⟩ := List.map_eq_singleton_iff.mp isEnd
          refine ⟨[node], stop, bracket, ⟨node, [], rfl, shows, rfl⟩, ?_⟩
          rw [reads]
          simp [resume, Frame.add, advance, Progress.close, Frame.node]
      | cons second rest =>
          have shape : List.intercalate [.comma] (itemLexemes (item :: second :: rest)) ++
              [Lexeme.listEnd] = item.lexemes ++ .comma ::
                (List.intercalate [.comma] (itemLexemes (second :: rest)) ++ [.listEnd]) := by
            simp [itemLexemes, List.intercalate_cons_cons]
          rw [shape] at same
          obtain ⟨node, back, isRest, shows, reads⟩ :=
            builds.front same (.list start earlier :: frames) takes
          obtain ⟨⟨_, commaStart, commaStop⟩, later, rfl, rfl, isLater⟩ :=
            List.map_eq_cons_iff.mp isRest
          have takesNext : Expectation.item.TakesValue := trivial
          obtain ⟨nodes, stop, bracket, allShow, onwards⟩ :=
            ih others (by simp) takesNext isLater (node :: earlier)
          refine ⟨node :: nodes, stop, bracket, ⟨node, nodes, rfl, shows, allShow⟩, ?_⟩
          rw [reads, List.foldl_cons]
          change later.foldl advance (.inside .item (.list start (node :: earlier) :: frames)) = _
          rw [onwards]
          simp

/-- An array is built of its items. -/
theorem array {items : List Json} (each : ∀ item ∈ items, Builds item) :
    Builds (.array items) := by
  intro tokens frames expectation same takes
  obtain ⟨⟨_, start, afterStart⟩, rest, rfl, rfl, isRest⟩ := List.map_eq_cons_iff.mp same
  rw [List.foldl_cons, Progress.advance_takesValue takes frames (by simp)]
  change ∃ node, _ ∧ rest.foldl advance (.inside .firstItem (.list start [] :: frames)) = _
  by_cases empty : items = []
  · subst empty
    obtain ⟨⟨_, bracket, stop⟩, rfl, rfl⟩ := List.map_eq_singleton_iff.mp isRest
    exact ⟨_, ⟨start, stop, [], bracket, rfl, rfl⟩, rfl⟩
  · have takesFirst : Expectation.firstItem.TakesValue := trivial
    obtain ⟨nodes, stop, bracket, allShow, reads⟩ :=
      Builds.items each empty takesFirst isRest start [] frames
    exact ⟨_, ⟨start, stop, nodes, bracket, rfl, allShow⟩, reads⟩

/-- An entry of an object in front of other tokens. -/
theorem entry {key : String} {value : Json} (builds : Builds value) {expectation : Expectation}
    (takes : expectation = .firstKey ∨ expectation = .key) {tokens : List Token}
    {rest : List Lexeme}
    (same : tokens.map (·.lexeme) = .string key :: .colon :: (value.lexemes ++ rest))
    (start : Nat) (earlier : List (Key × Node)) (frames : List Frame) :
    ∃ (keyStop : Nat) (node : Node) (others : List Token), others.map (·.lexeme) = rest ∧
      value.Shows (frames.length + 1) node ∧
      tokens.foldl advance (.inside expectation (.object start earlier none :: frames)) =
        others.foldl advance (.inside .memberSeparator
          (.object start ((⟨.ok key, keyStop⟩, node) :: earlier) none :: frames)) := by
  obtain ⟨⟨_, keyStart, keyStop⟩, _, rfl, rfl, onwards⟩ := List.map_eq_cons_iff.mp same
  obtain ⟨⟨_, colonStart, colonStop⟩, _, rfl, rfl, isValue⟩ := List.map_eq_cons_iff.mp onwards
  have takesValue : Expectation.value.TakesValue := trivial
  obtain ⟨node, others, isRest, shows, reads⟩ := builds.front isValue
    (.object start earlier (some ⟨.ok key, keyStop⟩) :: frames) takesValue
  refine ⟨keyStop, node, others, isRest, shows, ?_⟩
  rcases takes with rfl | rfl <;> exact reads

/-- The entries of an object, after those that have been read before. -/
theorem entries {entries : List (String × Json)} (each : ∀ entry ∈ entries, Builds entry.2)
    (some : entries ≠ []) {tokens : List Token} {expectation : Expectation}
    (takes : expectation = .firstKey ∨ expectation = .key)
    (same : tokens.map (·.lexeme) =
      List.intercalate [.comma] (entryLexemes entries) ++ [.objectEnd])
    (start : Nat) (earlier : List (Key × Node)) (frames : List Frame) :
    ∃ members stop bracket, EntriesShow (frames.length + 1) entries members ∧
      tokens.foldl advance (.inside expectation (.object start earlier none :: frames)) =
        resume (.object (frames.length + 1) start stop (earlier.reverse ++ members)
          (.closed bracket)) frames := by
  induction entries generalizing tokens expectation earlier with
  | nil => exact absurd rfl some
  | cons entry rest ih =>
      obtain ⟨key, value⟩ := entry
      obtain ⟨builds, others⟩ := List.forall_mem_cons.mp each
      cases rest with
      | nil =>
          have shape : List.intercalate [.comma] (entryLexemes [(key, value)]) ++
              [Lexeme.objectEnd] = .string key :: .colon :: (value.lexemes ++ [.objectEnd]) := by
            simp [entryLexemes]
          rw [shape] at same
          obtain ⟨keyStop, node, back, isEnd, shows, reads⟩ :=
            builds.entry takes same start earlier frames
          obtain ⟨⟨_, bracket, stop⟩, rfl, rfl⟩ := List.map_eq_singleton_iff.mp isEnd
          refine ⟨_, stop, bracket, ⟨keyStop, node, [], rfl, shows, rfl⟩, ?_⟩
          rw [reads]
          simp [resume, advance, Progress.close, Frame.node]
      | cons second rest =>
          have shape : List.intercalate [.comma] (entryLexemes ((key, value) :: second :: rest)) ++
              [Lexeme.objectEnd] = .string key :: .colon :: (value.lexemes ++ .comma ::
                (List.intercalate [.comma] (entryLexemes (second :: rest)) ++ [.objectEnd])) := by
            simp [entryLexemes, List.intercalate_cons_cons]
          rw [shape] at same
          obtain ⟨keyStop, node, back, isRest, shows, reads⟩ :=
            builds.entry takes same start earlier frames
          obtain ⟨⟨_, commaStart, commaStop⟩, later, rfl, rfl, isLater⟩ :=
            List.map_eq_cons_iff.mp isRest
          obtain ⟨members, stop, bracket, allShow, onwards⟩ := ih others (by simp) (.inr rfl)
            isLater ((⟨.ok key, keyStop⟩, node) :: earlier)
          refine ⟨_, stop, bracket, ⟨keyStop, node, members, rfl, shows, allShow⟩, ?_⟩
          rw [reads, List.foldl_cons]
          change later.foldl advance (.inside .key (.object start _ none :: frames)) = _
          rw [onwards]
          simp

/-- An object is built of its entries. -/
theorem object {entries : List (String × Json)} (each : ∀ entry ∈ entries, Builds entry.2) :
    Builds (.object entries) := by
  intro tokens frames expectation same takes
  obtain ⟨⟨_, start, afterStart⟩, rest, rfl, rfl, isRest⟩ := List.map_eq_cons_iff.mp same
  rw [List.foldl_cons, Progress.advance_takesValue takes frames (by simp)]
  change ∃ node, _ ∧ rest.foldl advance (.inside .firstKey (.object start [] none :: frames)) = _
  by_cases empty : entries = []
  · subst empty
    obtain ⟨⟨_, bracket, stop⟩, rfl, rfl⟩ := List.map_eq_singleton_iff.mp isRest
    exact ⟨_, ⟨start, stop, [], bracket, rfl, rfl⟩, rfl⟩
  · obtain ⟨members, stop, bracket, allShow, reads⟩ :=
      Builds.entries each empty (.inl rfl) isRest start [] frames
    exact ⟨_, ⟨start, stop, members, bracket, rfl, allShow⟩, reads⟩

end Builds

mutual

/-- Every value is built of its own tokens. -/
theorem builds_value : ∀ value : Json, Builds value
  | .null => .single rfl (by simp) (fun _ _ _ => rfl) fun _ start stop => ⟨start, stop, rfl⟩
  | .boolean _ => .single rfl (by simp) (fun _ _ _ => rfl) fun _ start stop => ⟨start, stop, rfl⟩
  | .number _ => .single rfl (by simp) (fun _ _ _ => rfl) fun _ start stop => ⟨start, stop, rfl⟩
  | .string _ => .single rfl (by simp) (fun _ _ _ => rfl) fun _ start stop => ⟨start, stop, rfl⟩
  | .array items => .array (builds_items items)
  | .object entries => .object (builds_entries entries)

theorem builds_items : ∀ items : List Json, ∀ item ∈ items, Builds item
  | [] => List.forall_mem_nil _
  | item :: rest => List.forall_mem_cons.mpr ⟨builds_value item, builds_items rest⟩

theorem builds_entries : ∀ entries : List (String × Json), ∀ entry ∈ entries, Builds entry.2
  | [] => List.forall_mem_nil _
  | (_, value) :: rest => List.forall_mem_cons.mpr ⟨builds_value value, builds_entries rest⟩

end

/-- The indented text of a value, with the end of its line, is read as a node that shows the
value, and nothing follows it. -/
theorem shows_ofText {value : Json} (natural : value.HasNaturals) :
    ∃ node, value.Shows 0 node ∧
      Document.ofText (value.indentedText ++ "\n").toList = ⟨node, none⟩ := by
  have cuts : Cuts (Spacing.indented.valueText 0 value ++ ['\n']) (value.lexemes ++ []) :=
    writes_value Spacing.isBlank_indented 0 value natural ['\n'] []
      (endsNumber_cons (by decide) []) (Cuts.nil.gap rfl)
  have isText : (value.indentedText ++ "\n").toList =
      Spacing.indented.valueText 0 value ++ ['\n'] := by
    simp [indentedText]
  rw [isText]
  generalize Spacing.indented.valueText 0 value ++ ['\n'] = characters at cuts
  obtain ⟨cut, after, stop, sameLexemes, -, isCut⟩ :=
    cuts [] (by rintro _ ⟨⟩) characters.length 0 (by simp)
  have none : tokensFrom after stop [] = [] := by cases after <;> rfl
  rw [List.append_nil, none, List.append_nil] at isCut
  rw [List.append_nil] at sameLexemes
  have takes : Expectation.value.TakesValue := trivial
  obtain ⟨node, shows, reads⟩ := builds_value value cut [] .value sameLexemes takes
  refine ⟨node, shows, ?_⟩
  rw [Document.ofText, tokens, isCut, reads]
  rfl

end CatalogSql.Json
