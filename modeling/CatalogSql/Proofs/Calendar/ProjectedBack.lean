import CatalogSql.Proofs.Calendar.WallClock
import CatalogSql.Proofs.Planning.Meaning
import CatalogSql.Proofs.Planning.StoredColumns

/-!
# Projected dates are read back

The layout projections return dates in tells all of a date time but what its milliseconds leave
of a second, so that a date time of whole milliseconds is read back as it was written. A
database writes the timestamps of four years' digits by the pattern of projections in this
layout, and so a stored date that is projected is read as the second it was stored for.
-/

namespace CatalogSql

open Sql (Datum Engine)

namespace Layout

/-- Every part of a layout is spelled by a part of the text. -/
theorem Spells.exists_of_mem {numbers : Draft} {layout : Layout} {text : List Char}
    (spelled : Spells numbers layout text) {part : LayoutPart} (mem : part ∈ layout) :
    ∃ front rest, part.Spells (numbers.number part) front rest := by
  induction spelled with
  | nil => cases mem
  | cons first _ ih =>
      rcases List.mem_cons.mp mem with rfl | inOthers
      · exact ⟨_, _, first⟩
      · exact ih inOthers

end Layout

namespace DateTime

variable {moment other second : DateTime}

/-! ## The layout of projections -/

/-- A date time of whole milliseconds. -/
def IsMillis (moment : DateTime) : Prop := moment.nanos % 1000000 = 0

/-- A date time of whole milliseconds is read back from its projection. -/
theorem ofProjected?_projectedText (millis : moment.IsMillis) :
    ofProjected? moment.projectedText = some moment := by
  have separated : Layout.Separated moment [] Layout.projected := by
    obtain ⟨first, others, isPadded, isDigit⟩ :=
      Layout.exists_padded_eq_cons (by decide : 0 < 2) moment.hour
    simp [Layout.Separated, Layout.projected, Layout.date, Layout.time, Layout.Follows,
      Layout.EndsNumber, Layout.write, Layout.partText, Layout.isDigit, isPadded,
      Layout.not_blank_of_isDigit isDigit]
  have parts := @Layout.readParts?_write moment [] Layout.projected .empty separated
  have kept : moment.nanos / 1000000 * 1000000 = moment.nanos :=
    Nat.div_mul_cancel (Nat.dvd_of_mod_eq_zero millis)
  have named : of? moment.date.year moment.date.month moment.date.day moment.hour moment.minute
      moment.second (moment.nanos / 1000000 * 1000000) = some moment := by
    rw [kept]
    exact moment.of?_numbers
  rw [List.append_nil] at parts
  rw [ofProjected?, projectedText, String.toList_ofList, Layout.read?, parts]
  exact named

/-- A text is read as a projection when it spells a date time of whole milliseconds. -/
theorem ofProjected?_eq_some_iff {text : String} :
    ofProjected? text = some moment ↔ Layout.Spells moment.numbers .projected text.toList :=
  Layout.read?_eq_some_iff Layout.isComplete_projected

/-- A projected text is read as a moment of whole milliseconds. -/
theorem isMillis_of_ofProjected? {text : String} (read : ofProjected? text = some moment) :
    moment.IsMillis := by
  obtain ⟨front, rest, -, number⟩ :=
    (ofProjected?_eq_some_iff.mp read).exists_of_mem (by decide : LayoutPart.millis ∈ Layout.projected)
  have nanos : (moment.nanos : Int) = Layout.numberOf front * 1000000 := number
  unfold IsMillis
  omega

/-- Moments of whole milliseconds are told apart by their projected texts. -/
theorem eq_of_projectedText (millis : moment.IsMillis) (otherMillis : other.IsMillis)
    (same : moment.projectedText = other.projectedText) : moment = other := by
  have read := ofProjected?_projectedText millis
  rw [same, ofProjected?_projectedText otherMillis] at read
  exact (Option.some.inj read).symm

/-! ## Timestamps -/

/-- A second that a timestamp with a year of four digits holds. -/
structure IsTimestamp (second : DateTime) : Prop where
  firstYear : 1 ≤ second.date.year
  lastYear : second.date.year ≤ 9999
  noLeap : second.second < 60
  whole : second.nanos = 0

/-- What the pattern of dates writes for a timestamp of whole seconds. -/
def patternText (second : DateTime) : String :=
  String.ofList (Layout.padded 4 second.date.year.toNat ++ '-' :: (Layout.padded 2 second.date.month ++
    '-' :: (Layout.padded 2 second.date.day ++ ' ' :: (Layout.padded 2 second.hour ++
      ':' :: (Layout.padded 2 second.minute ++ ':' :: (Layout.padded 2 second.second ++
        ":000Z".toList))))))

/-- The pattern writes timestamps in the layout of projections. -/
theorem IsTimestamp.patternText_eq (isTimestamp : second.IsTimestamp) :
    second.patternText = second.projectedText := by
  obtain ⟨firstYear, lastYear, -, whole⟩ := isTimestamp
  have year : Layout.yearText second.date.year = Layout.padded 4 second.date.year.toNat :=
    if_pos ⟨by omega, lastYear⟩
  have millis : Layout.padded 3 (second.nanos / 1000000) = "000".toList := by
    rw [whole]
    rfl
  rw [patternText, projectedText, ← year]
  simp [Layout.write, Layout.projected, Layout.date, Layout.time, Layout.partText, millis]

/-- A timestamp is a moment of whole milliseconds. -/
theorem IsTimestamp.isMillis (isTimestamp : second.IsTimestamp) : second.IsMillis := by
  rw [IsMillis, isTimestamp.whole]

end DateTime

/-- A database writes timestamps by the pattern of dates with four digits for the year and two
for each other number, and with the milliseconds of the fraction, which there is none of. -/
def Sql.Engine.WritesDates {δ : Type} (engine : Engine δ) (timestamp : DateTime → δ) : Prop :=
  ∀ second : DateTime, second.IsTimestamp →
    engine.apply .toChar [.own (timestamp second), .text datePattern] = .text second.patternText

section Reading

variable {δ : Type} {engine : Engine δ} {timestamp : DateTime → δ} {second : DateTime}

/-- A date field that holds a timestamp is projected as the text of the timestamp. -/
theorem StoredRow.eval_projected (writes : engine.WritesDates timestamp)
    (isTimestamp : second.IsTimestamp) {table : TypeInfo} (row : StoredRow table δ)
    (name : Option String) {field : String}
    (holds : row.value? field = some (.own (timestamp second))) :
    (Projection.ofField name (field, .dateTime)).eval engine (row.columns name) =
      some (.text second.projectedText) := by
  have column : (Sql.Expression.columnOf name field).eval engine (row.columns name) =
      some (.own (timestamp second)) := (row.eval_columnOf name field).trans holds
  have written : engine.call .toChar [.own (timestamp second), .text datePattern] =
      .text second.projectedText := (writes second isTimestamp).trans (by
        rw [isTimestamp.patternText_eq])
  simp only [Projection.ofField, Sql.Expression.eval, Sql.Expression.listEval, column,
    Sql.Constant.datum?, Option.map_some, written]

/-- A stored date is read back as the same second: what is stored for an accepted text, held as a
timestamp and projected, is read as a date time that is stored as the same text. The layout of
projections reads back every date time of whole milliseconds and no others, and no two stored
seconds are projected to one text. -/
theorem stored_date_reads_back (writes : engine.WritesDates timestamp) :
    (∀ (text stored : String) (moment : DateTime), truncateToSeconds? text = some stored →
      moment.IsWrittenBy text → 1 ≤ moment.date.year → moment.date.year ≤ 9999 →
      moment.second < 60 →
      ∃ second, Layout.stored.read? stored.toList = some second ∧ second.IsSecondOf moment ∧
        ∀ (table : TypeInfo) (row : StoredRow table δ) (name : Option String) (field : String),
          table.fieldType? field = some .dateTime →
          row.value? field = some (.own (timestamp second)) →
          ∃ expression projected read, (field, expression) ∈ Projection.ofTable table name ∧
            expression.eval engine (row.columns name) = some (.text projected) ∧
            DateTime.ofProjected? projected = some read ∧ read.storedText = stored) ∧
      (∀ moment : DateTime, moment.IsMillis →
        DateTime.ofProjected? moment.projectedText = some moment) ∧
      (∀ (text : String) (moment : DateTime), DateTime.ofProjected? text = some moment →
        moment.IsMillis ∧ Layout.Spells moment.numbers .projected text.toList) ∧
      (∀ second other : DateTime, second.IsTimestamp → other.IsTimestamp →
        engine.apply .toChar [.own (timestamp second), .text datePattern] =
          engine.apply .toChar [.own (timestamp other), .text datePattern] → second = other) ∧
      ∀ moment other : DateTime, moment.IsMillis → other.IsMillis →
        moment.projectedText = other.projectedText → moment = other := by
  refine ⟨fun text stored moment truncated written firstYear lastYear noLeap => ?_,
    fun moment millis => DateTime.ofProjected?_projectedText millis,
    fun text moment read => ⟨DateTime.isMillis_of_ofProjected? read,
      DateTime.ofProjected?_eq_some_iff.mp read⟩,
    fun second other isTimestamp isOther same => ?_,
    fun moment other millis otherMillis => DateTime.eq_of_projectedText millis otherMillis⟩
  · rw [truncateToSeconds?, DateTime.ofInput?_eq_some_iff.mpr written, Option.map_some,
      Option.some.injEq] at truncated
    subst truncated
    have isTimestamp : moment.wholeSecond.IsTimestamp := ⟨firstYear, lastYear, noLeap, rfl⟩
    refine ⟨moment.wholeSecond, moment.stored_read?_storedText, DateTime.isSecondOf_iff.mpr rfl,
      fun table row name field declared holds => ?_⟩
    have stored : (field, SemanticType.dateTime) ∈ table.storableFields :=
      TypeInfo.mem_storableFields_iff.mpr ⟨declared, rfl⟩
    exact ⟨_, _, _, List.mem_map_of_mem stored, row.eval_projected writes isTimestamp name holds,
      DateTime.ofProjected?_projectedText isTimestamp.isMillis, rfl⟩
  · rw [writes second isTimestamp, writes other isOther, Datum.text.injEq,
      isTimestamp.patternText_eq, isOther.patternText_eq] at same
    exact DateTime.eq_of_projectedText isTimestamp.isMillis isOther.isMillis same

end Reading

/-- A database that holds timestamps as date times and knows no other function than the one that
writes them. -/
def timestampEngine : Engine DateTime where
  equal _ _ := false
  less _ _ := false
  epoch value := value
  apply
    | .toChar, [.own second, .text pattern] =>
        if pattern = datePattern then .text second.patternText else .text ""
    | _, _ => .text ""
  cast value _ := value
  rowToJson _ := .text ""
  isAmong _ _ := none

/-- A row that holds a timestamp in its only field. -/
def StoredRow.ofCreation (second : DateTime) :
    StoredRow (.table "User" [("createdAt", .dateTime)]) DateTime where
  value? field := if field = "createdAt" then some (.own second) else none
  textual := by
    intro field type held declared textual holds
    by_cases isCreation : field = "createdAt"
    · subst isCreation
      cases declared
      cases textual
    · rw [if_neg isCreation] at holds
      cases holds

/-- A date of the spring of 2024 is read back without its fraction. -/
theorem stored_date_reads_back_spring :
    let text := "2024-03-05T06:07:08.456Z"
    let stored := "2024-03-05T06:07:08"
    let moment : DateTime := ⟨⟨2024, 3, 5, by decide⟩, 6, 7, 8, 456000000, by decide⟩
    timestampEngine.WritesDates id ∧ truncateToSeconds? text = some stored ∧
      moment.IsWrittenBy text ∧ 1 ≤ moment.date.year ∧ moment.date.year ≤ 9999 ∧
      moment.second < 60 ∧
      ∃ second, Layout.stored.read? stored.toList = some second ∧ second.IsSecondOf moment ∧
        ∃ expression projected read,
          ("createdAt", expression) ∈
            Projection.ofTable (.table "User" [("createdAt", .dateTime)]) none ∧
          expression.eval timestampEngine ((StoredRow.ofCreation second).columns none) =
            some (.text projected) ∧
          DateTime.ofProjected? projected = some read ∧ read.storedText = stored := by
  intro text stored moment
  have writes : timestampEngine.WritesDates id := fun second _ => rfl
  have truncated : truncateToSeconds? text = some stored := by decide
  have written : moment.IsWrittenBy text := DateTime.ofInput?_eq_some_iff.mp (by decide)
  obtain ⟨second, denoted, isSecond, reads⟩ := (stored_date_reads_back writes).1 text stored moment
    truncated written (by decide) (by decide) (by decide)
  exact ⟨writes, truncated, written, by decide, by decide, by decide, second, denoted, isSecond,
    reads _ (.ofCreation second) none "createdAt" rfl rfl⟩

end CatalogSql
