import CatalogSql.Sql.Statement
import Mathlib.Data.List.Infix

/-!
# Values of expressions

What an expression is worth on a row, under the logic of three values in which null stands
for the unknown. Comparisons and functions are strict: they give null exactly when they are
given null. What they compute on other values is left to the database, except for the
search of a text in another one.
-/

namespace CatalogSql.Sql

/-- A value that is not null: one that a constant can denote, or one of the database's own. -/
inductive Datum (δ : Type) where
  | text (value : String)
  | whole (value : Int)
  | double (value : Double)
  | boolean (value : Bool)
  | json (value : Json)
  | own (value : δ)

/-- What a database computes on values that are not null, and which rows a nested read gives. -/
structure Engine (δ : Type) where
  equal : Datum δ → Datum δ → Bool
  less : Datum δ → Datum δ → Bool
  epoch : Datum δ → Datum δ
  apply : Function → List (Datum δ) → Datum δ
  cast : Datum δ → String → Datum δ
  rowToJson : TableReference → Datum δ
  isAmong : Option (Datum δ) → Select → Option Bool

/-- The place of the first occurrence of a text in another one, counted from one; zero when
there is none. -/
def position (text sought : List Char) : Nat :=
  match text.tails.findIdx? (sought.isPrefixOf ·) with
  | some index => index + 1
  | none => 0

/-- A text has a place in another one when it is a part of it, whatever its characters are. -/
theorem position_pos_iff {text sought : List Char} :
    0 < position text sought ↔ sought <:+: text := by
  rw [List.infix_iff_prefix_suffix]
  unfold position
  split
  · rename_i index found
    obtain ⟨bound, isPrefix, -⟩ := List.findIdx?_eq_some_iff_getElem.mp found
    have isSuffix := (List.mem_tails _ text).mp (List.getElem_mem bound)
    exact iff_of_true (Nat.succ_pos index) ⟨_, List.isPrefixOf_iff_prefix.mp isPrefix, isSuffix⟩
  · rename_i notFound
    refine iff_of_false (Nat.lt_irrefl 0) ?_
    rintro ⟨rest, isPrefix, isSuffix⟩
    have refused :=
      List.findIdx?_eq_none_iff.mp notFound rest ((List.mem_tails rest text).mpr isSuffix)
    rw [List.isPrefixOf_iff_prefix.mpr isPrefix] at refused
    cases refused

/-- Characters that stand for others in patterns stand for themselves here. -/
example : position "50%_off".toList "%_".toList = 3 ∧ position "500 off".toList "%".toList = 0 ∧
    position "off".toList [] = 1 := by decide

/-- The value of a constant. -/
def Constant.datum? {δ : Type} : Constant → Option (Datum δ)
  | .small value => some (.whole value.toInt)
  | .integer value => some (.whole value.toInt)
  | .double value => some (.double value)
  | .boolean value => some (.boolean value)
  | .string value => some (.text value)
  | .null => none
  | .json value => some (.json value)
  | .literal value => some (.text value)

/-- What is known to be true or false of a value. -/
def truth? {δ : Type} : Option (Datum δ) → Option Bool
  | some (.boolean value) => some value
  | _ => none

/-- Conjunction: false wins over the unknown, and the unknown over true. -/
def both : Option Bool → Option Bool → Option Bool
  | some false, _ | _, some false => some false
  | some true, some true => some true
  | _, _ => none

namespace Engine

variable {δ : Type} (engine : Engine δ)

/-- Compares two values. Which of two whole numbers is greater is not the database's to say. -/
def compare : Comparison → Datum δ → Datum δ → Bool
  | .equals, left, right => engine.equal left right
  | .lessThan, left, right => engine.less left right
  | .greaterThan, .whole left, .whole right => decide (right < left)
  | .greaterThan, left, right => engine.less right left

/-- Calls a function. -/
def call : Function → List (Datum δ) → Datum δ
  | .strpos, [.text text, .text sought] => .whole (position text.toList sought.toList)
  | function, arguments => engine.apply function arguments

end Engine

section Evaluation

variable {δ : Type} (engine : Engine δ) (columns : ColumnReference → Option (Datum δ))

mutual

/-- The value of an expression, given those of columns; none stands for null. -/
def Expression.eval : Expression → Option (Datum δ)
  | .conjunction left right => (both (truth? left.eval) (truth? right.eval)).map .boolean
  | .comparison left operator right =>
      match left.eval, right.eval with
      | some first, some second => some (.boolean (engine.compare operator first second))
      | _, _ => none
  | .isNull operand => some (.boolean operand.eval.isNone)
  | .inSelect left select => (engine.isAmong left.eval select).map .boolean
  | .call function arguments => (Expression.listEval arguments).map (engine.call function)
  | .epoch operand => operand.eval.map engine.epoch
  | .rowToJson table => some (engine.rowToJson table)
  | .column reference => columns reference
  | .constant value => value.datum?
  | .cast operand type => operand.eval.map fun value => engine.cast value type

/-- The values of expressions, if none of them is null. -/
def Expression.listEval : List Expression → Option (List (Datum δ))
  | [] => some []
  | first :: rest =>
      match first.eval, Expression.listEval rest with
      | some value, some values => some (value :: values)
      | _, _ => none

end

/-- Whether a row is kept by a condition: unknown is not enough. -/
def Expression.Holds (condition : Expression) : Prop :=
  condition.eval engine columns = some (.boolean true)

variable {engine : Engine δ} {columns : ColumnReference → Option (Datum δ)}

theorem both_eq_some_true_iff {left right : Option Bool} :
    both left right = some true ↔ left = some true ∧ right = some true := by
  rcases left with _ | _ | _ <;> rcases right with _ | _ | _ <;> simp [both]

theorem truth?_eq_some_iff {value : Option (Datum δ)} {known : Bool} :
    truth? value = some known ↔ value = some (.boolean known) := by
  unfold truth?
  split
  · simp
  · rename_i notBoolean
    constructor
    · rintro ⟨⟩
    · intro isBoolean
      exact absurd isBoolean (notBoolean known)

/-- A comparison holds between values that are not null and compare so. -/
theorem Expression.holds_comparison_iff {left right : Expression} {operator : Comparison} :
    (Expression.comparison left operator right).Holds engine columns ↔
      ∃ first second, left.eval engine columns = some first ∧
        right.eval engine columns = some second ∧
        engine.compare operator first second = true := by
  unfold Holds
  rw [eval]
  split
  · rename_i first second isFirst isSecond
    rw [isFirst, isSecond]
    simp
  · rename_i notBoth
    refine iff_of_false (by simp) ?_
    rintro ⟨first, second, isFirst, isSecond, -⟩
    exact notBoth first second isFirst isSecond

/-- A test for null holds of null. -/
theorem Expression.holds_isNull_iff {operand : Expression} :
    (Expression.isNull operand).Holds engine columns ↔ operand.eval engine columns = none := by
  unfold Holds
  rw [eval, Option.some_inj, Datum.boolean.injEq, Option.isNone_iff_eq_none]

/-- A conjunction holds where both sides hold. -/
theorem Expression.holds_conjunction_iff {left right : Expression} :
    (Expression.conjunction left right).Holds engine columns ↔
      left.Holds engine columns ∧ right.Holds engine columns := by
  unfold Holds
  rw [eval, Option.map_eq_some_iff]
  constructor
  · rintro ⟨_, known, same⟩
    cases same
    rwa [both_eq_some_true_iff, truth?_eq_some_iff, truth?_eq_some_iff] at known
  · intro holds
    rw [← truth?_eq_some_iff, ← truth?_eq_some_iff, ← both_eq_some_true_iff] at holds
    exact ⟨true, holds, rfl⟩

/-- A conjunction holds on a row when all of its predicates do. -/
theorem Expression.holds_conjoin_iff {predicates : List Expression} :
    (Expression.conjoin predicates).Holds engine columns ↔
      ∀ predicate ∈ predicates, predicate.Holds engine columns := by
  cases predicates with
  | nil => exact iff_of_true rfl (List.forall_mem_nil _)
  | cons first rest =>
      rw [conjoin, List.forall_mem_cons]
      induction rest generalizing first with
      | nil => simp
      | cons second rest ih =>
          rw [List.foldl_cons, ih, holds_conjunction_iff, List.forall_mem_cons, and_assoc]

end Evaluation

end CatalogSql.Sql
