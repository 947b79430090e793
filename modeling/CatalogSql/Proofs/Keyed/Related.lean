import CatalogSql.Proofs.Keyed.Ordered
import Mathlib.Data.List.Forall2

/-!
# Related entries

Two lists of entries under the same keys in the same order, whose values are related key by
key. Setting related values in both keeps them related.
-/

namespace CatalogSql.Keyed

variable {α β : Type} {relation : String → α → β → Prop}

/-- Entries under the same keys, in the same order, with related values. -/
def Related (relation : String → α → β → Prop) (left : List (String × α))
    (right : List (String × β)) : Prop :=
  List.Forall₂ (fun entry other => entry.1 = other.1 ∧ relation entry.1 entry.2 other.2) left right

namespace Related

variable {left : List (String × α)} {right : List (String × β)}

/-- Related entries have the same keys in the same order. -/
theorem keys (related : Related relation left right) : Keyed.keys left = Keyed.keys right := by
  induction related with
  | nil => rfl
  | cons head _ ih => rw [keys_cons, keys_cons, head.1, ih]

/-- Every entry on the right has one of its key on the left. -/
theorem exists_of_mem_right {other : String × β} (related : Related relation left right)
    (mem : other ∈ right) :
    ∃ entry ∈ left, entry.1 = other.1 ∧ relation entry.1 entry.2 other.2 := by
  induction related with
  | nil => cases mem
  | @cons entry _ _ _ head _ ih =>
      rcases List.mem_cons.mp mem with rfl | inRest
      · exact ⟨entry, List.mem_cons_self, head⟩
      · obtain ⟨entry, isEntry, holds⟩ := ih inRest
        exact ⟨entry, List.mem_cons_of_mem _ isEntry, holds⟩

/-- Every entry on the left has one of its key on the right. -/
theorem exists_of_mem_left {entry : String × α} (related : Related relation left right)
    (mem : entry ∈ left) :
    ∃ other ∈ right, entry.1 = other.1 ∧ relation entry.1 entry.2 other.2 := by
  induction related with
  | nil => cases mem
  | @cons _ other _ _ head _ ih =>
      rcases List.mem_cons.mp mem with rfl | inRest
      · exact ⟨other, List.mem_cons_self, head⟩
      · obtain ⟨other, isOther, holds⟩ := ih inRest
        exact ⟨other, List.mem_cons_of_mem _ isOther, holds⟩

theorem weaken {weaker : String → α → β → Prop} (related : Related relation left right)
    (implies : ∀ key value other, relation key value other → weaker key value other) :
    Related weaker left right :=
  List.Forall₂.imp (fun _ _ both => ⟨both.1, implies _ _ _ both.2⟩) related

/-- Entries related to related entries are related through them. -/
theorem comp {γ : Type} {next : String → β → γ → Prop} {last : List (String × γ)}
    (first : Related relation left right) (second : Related next right last) :
    Related (fun key value final => ∃ middle, relation key value middle ∧ next key middle final)
      left last := by
  induction first generalizing last with
  | nil =>
      cases second
      exact .nil
  | cons head _ ih =>
      cases second with
      | cons nextHead nextTail =>
          obtain ⟨sameKey, values⟩ := head
          rw [← sameKey] at nextHead
          exact .cons ⟨nextHead.1, _, values, nextHead.2⟩ (ih nextTail)

theorem append {leftRest : List (String × α)} {rightRest : List (String × β)}
    (first : Related relation left right) (second : Related relation leftRest rightRest) :
    Related relation (left ++ leftRest) (right ++ rightRest) := List.rel_append first second

/-- Related values put under one key leave related entries. -/
theorem put {key : String} {value : α} {other : β} (related : Related relation left right)
    (values : relation key value other) :
    Related relation (put key value left) (put key other right) := by
  induction related with
  | nil => exact .cons ⟨rfl, values⟩ .nil
  | @cons entry otherEntry rest others head tail ih =>
      obtain ⟨candidate, held⟩ := entry
      obtain ⟨_, otherHeld⟩ := otherEntry
      obtain ⟨rfl, heads⟩ := head
      by_cases same : candidate = key
      · subst same
        simp only [Keyed.put, if_true]
        exact .cons ⟨rfl, values⟩ tail
      · simp only [Keyed.put, if_neg same]
        exact .cons ⟨rfl, heads⟩ ih

/-- Related entries put into related entries leave related entries. -/
theorem putAll {given : List (String × α)} {others : List (String × β)}
    (related : Related relation given others) (held : Related relation left right) :
    Related relation (Keyed.putAll given left) (Keyed.putAll others right) := by
  induction related generalizing left right with
  | nil => exact held
  | @cons entry other _ _ head _ ih =>
      obtain ⟨key, value⟩ := entry
      obtain ⟨_, otherValue⟩ := other
      obtain ⟨rfl, values⟩ := head
      exact ih (held.put values)

theorem filter (related : Related relation left right) (keeps : String → Bool) :
    Related relation (left.filter fun entry => keeps entry.1)
      (right.filter fun entry => keeps entry.1) := by
  induction related with
  | nil => exact .nil
  | cons head tail ih =>
      rw [List.filter_cons, List.filter_cons, ← head.1]
      split
      · exact .cons head ih
      · exact ih

/-- Setting related entries one after another in related maps. -/
theorem foldl_insert {γ δ : Type} {given : List (String × γ)} {others : List (String × δ)}
    {between : String → γ → δ → Prop} (related : Related between given others)
    {change : γ → α} {otherChange : δ → β}
    (step : ∀ key value other, between key value other →
      relation key (change value) (otherChange other))
    {map : OrderedMap α} {otherMap : OrderedMap β}
    (maps : Related relation map.entries otherMap.entries) :
    Related relation
      (given.foldl (fun map entry => map.insert entry.1 (change entry.2)) map).entries
      (others.foldl (fun map entry => map.insert entry.1 (otherChange entry.2)) otherMap).entries := by
  induction related generalizing map otherMap with
  | nil => exact maps
  | @cons entry other _ _ head _ ih =>
      obtain ⟨key, value⟩ := entry
      obtain ⟨_, otherValue⟩ := other
      obtain ⟨rfl, values⟩ := head
      exact ih (maps.put (step key value otherValue values))

/-- Maps of related entries are related. -/
theorem ofList (related : Related relation left right) :
    Related relation (OrderedMap.ofList left).entries (OrderedMap.ofList right).entries :=
  related.foldl_insert (fun _ _ _ values => values) .nil

end Related

end CatalogSql.Keyed
