import CatalogSql.Proofs.Access.Steps
import CatalogSql.Proofs.Planning.Alike

/-!
# Values never reach the text

Two requests that are alike have one text, for every operation on a table and for queries
composed by the same steps: what is compared, written or searched for is bound.
-/

namespace CatalogSql

namespace Query

/-- Two queries composed by the same steps, whose conditions are alike step by step. The
reads nested in them are composed in the same way. -/
inductive Composed : Query → Query → Prop where
  | start {accessor : Accessor} {table : TypeInfo} {condition other : Condition}
      {selection : Selection} {query otherQuery : Query}
      (found : accessor.scope.lookupTable accessor.name = .ok table)
      (alike : Condition.Alike table condition other)
      (started : accessor.queryMany condition selection = .ok query)
      (otherStarted : accessor.queryMany other selection = .ok otherQuery) :
      Composed query otherQuery
  | join {query other result otherResult : Query} {kind : Sql.JoinKind}
      {tableName name field joinedField : String} (before : Composed query other)
      (joined : query.join kind tableName name field joinedField = .ok result)
      (otherJoined : other.join kind tableName name field joinedField = .ok otherResult) :
      Composed result otherResult
  | filter {query other result otherResult : Query} {name tableName : String} {table : TypeInfo}
      {condition otherCondition : Condition} (before : Composed query other)
      (isNamed : query.tableOf? name = some tableName)
      (found : query.scope.lookupTable tableName = .ok table)
      (alike : Condition.Alike table condition otherCondition)
      (filtered : query.filter name condition = .ok result)
      (otherFiltered : other.filter name otherCondition = .ok otherResult) :
      Composed result otherResult
  | whereIn {query other inner otherInner result otherResult : Query} {field : String}
      (before : Composed query other) (nested : Composed inner otherInner)
      (restricted : query.whereIn field inner = .ok result)
      (otherRestricted : other.whereIn field otherInner = .ok otherResult) :
      Composed result otherResult
  | orderBy {query other result otherResult : Query} {field : String} {direction : Sql.Direction}
      (before : Composed query other) (ordered : query.orderBy field direction = .ok result)
      (otherOrdered : other.orderBy field direction = .ok otherResult) :
      Composed result otherResult
  | limit {query other : Query} (count : UInt32) (before : Composed query other) :
      Composed (query.limit count) (other.limit count)
  | offset {query other : Query} (count : UInt32) (before : Composed query other) :
      Composed (query.offset count) (other.offset count)

/-- A query with another condition. -/
def withCondition (query : Query) (condition : Sql.Expression) : Query :=
  { query with select := { query.select with condition := condition } }

/-- Queries that differ in their conditions alone, which are alike. -/
inductive Alike : Query → Query → Prop where
  | conditions {query : Query} {condition : Sql.Expression}
      (alike : Sql.Expression.Alike query.select.condition condition) :
      Alike query (query.withCondition condition)

/-- Conditions alike have conjuncts alike. -/
theorem conjuncts_alike {condition other : Sql.Expression}
    (alike : Sql.Expression.Alike condition other) :
    List.Forall₂ Sql.Expression.Alike (conjuncts condition) (conjuncts other) := by
  by_cases isAlways : condition = .always
  · rw [isAlways, alike.always_iff.mp isAlways]
    exact .nil
  · rw [conjuncts_of_ne isAlways, conjuncts_of_ne (isAlways ∘ alike.always_iff.mpr)]
    exact .cons alike .nil

/-- Adding predicates that are alike keeps queries alike. -/
theorem Alike.addPredicates {query other : Query} {predicates others : List Sql.Expression}
    (alike : Alike query other) (same : List.Forall₂ Sql.Expression.Alike predicates others) :
    Alike (query.addPredicates predicates) (other.addPredicates others) := by
  cases alike with
  | conditions conditions =>
      rw [addPredicates_eq, addPredicates_eq]
      exact .conditions (.conjoin (List.rel_append (conjuncts_alike conditions) same))

/-- Queries composed by the same steps differ in their conditions alone. -/
theorem Composed.alike {query other : Query} (composed : Composed query other) :
    Alike query other := by
  -- Each case takes the same step on both sides, which finds the same tables.
  induction composed with
  | start found alike started otherStarted =>
      obtain ⟨table, expression, isTable, built, rfl⟩ := Accessor.queryMany_eq_ok_iff.mp started
      obtain ⟨again, otherExpression, isAgain, otherBuilt, rfl⟩ :=
        Accessor.queryMany_eq_ok_iff.mp otherStarted
      cases found.symm.trans isTable
      cases found.symm.trans isAgain
      exact .conditions (alike.expression built otherBuilt)
  | join before joined otherJoined alike =>
      cases alike with
      | conditions conditions =>
          obtain ⟨root, table, -, isRoot, isTable, -, -, rfl⟩ := join_eq_ok_iff.mp joined
          obtain ⟨otherRoot, otherTable, -, isOtherRoot, isOtherTable, -, -, rfl⟩ :=
            join_eq_ok_iff.mp otherJoined
          cases isRoot.symm.trans isOtherRoot
          cases isTable.symm.trans isOtherTable
          exact .conditions conditions
  | filter before isNamed found alike filtered otherFiltered queriesAlike =>
      obtain ⟨_, _, predicates, isNamedAgain, foundAgain, built, rfl⟩ := filter_eq_ok_iff.mp filtered
      cases isNamed.symm.trans isNamedAgain
      cases found.symm.trans foundAgain
      obtain ⟨_, _, others, otherIsNamed, otherFound, otherBuilt, rfl⟩ :=
        filter_eq_ok_iff.mp otherFiltered
      cases queriesAlike with
      | conditions conditions =>
          cases isNamed.symm.trans otherIsNamed
          cases found.symm.trans otherFound
          exact (Alike.conditions conditions).addPredicates
            (Predicate.ofEntries_alike alike built otherBuilt)
  | whereIn before nested restricted otherRestricted alike nestedAlike =>
      obtain ⟨root, isRoot, -, rfl⟩ := whereIn_eq_ok_iff.mp restricted
      obtain ⟨otherRoot, isOtherRoot, -, rfl⟩ := whereIn_eq_ok_iff.mp otherRestricted
      cases alike with
      | conditions conditions =>
          cases nestedAlike with
          | conditions nestedConditions =>
              exact (Alike.conditions conditions).addPredicates
                (.cons (.inSelect _ nestedConditions) .nil)
  | orderBy before ordered otherOrdered alike =>
      cases alike with
      | conditions conditions =>
          obtain ⟨root, isRoot, -, rfl⟩ := orderBy_eq_ok_iff.mp ordered
          obtain ⟨otherRoot, isOtherRoot, -, rfl⟩ := orderBy_eq_ok_iff.mp otherOrdered
          exact .conditions conditions
  | limit count before alike =>
      cases alike with
      | conditions conditions => exact .conditions conditions
  | offset count before alike =>
      cases alike with
      | conditions conditions => exact .conditions conditions

end Query

/-- Two plans for requests that are alike: with the same table, keys, selection, limit and
steps, an explicit identifier in both or in neither, and values that may stand for each
other. Identifiers and times may differ. -/
inductive Scope.PlansAlike (scope : Scope) : Sql.Plan → Sql.Plan → Prop where
  | read {tableName : String} {table : TypeInfo} {condition other : Condition}
      {selection : Selection} {limit : Option UInt32} {plan otherPlan : Sql.Plan}
      (found : scope.lookupTable tableName = .ok table)
      (alike : Condition.Alike table condition other)
      (planned : scope.planSelect tableName condition selection limit = .ok plan)
      (otherPlanned : scope.planSelect tableName other selection limit = .ok otherPlan) :
      PlansAlike scope plan otherPlan
  | insertion {tableName : String} {table : TypeInfo} {payload other : Payload}
      {explicitId otherExplicitId : Option String} {freshId otherFreshId now otherNow : String}
      {plan otherPlan : Sql.Plan} (found : scope.lookupTable tableName = .ok table)
      (alike : Payload.Alike table payload other)
      (bothGiven : explicitId.isSome = otherExplicitId.isSome)
      (planned : scope.planInsert tableName payload explicitId freshId now = .ok plan)
      (otherPlanned :
        scope.planInsert tableName other otherExplicitId otherFreshId otherNow = .ok otherPlan) :
      PlansAlike scope plan otherPlan
  | update {tableName : String} {table : TypeInfo} {condition otherCondition : Condition}
      {payload other : Payload} {plan otherPlan : Sql.Plan}
      (found : scope.lookupTable tableName = .ok table)
      (conditionsAlike : Condition.Alike table condition otherCondition)
      (alike : Payload.Alike table payload other)
      (planned : scope.planUpdate tableName condition payload = .ok plan)
      (otherPlanned : scope.planUpdate tableName otherCondition other = .ok otherPlan) :
      PlansAlike scope plan otherPlan
  | removal {tableName : String} {table : TypeInfo} {condition other : Condition}
      {plan otherPlan : Sql.Plan} (found : scope.lookupTable tableName = .ok table)
      (alike : Condition.Alike table condition other)
      (planned : scope.planDelete tableName condition = .ok plan)
      (otherPlanned : scope.planDelete tableName other = .ok otherPlan) :
      PlansAlike scope plan otherPlan
  | query {query other : Query} (composed : Query.Composed query other) :
      PlansAlike scope query.plan other.plan

/-- Values never reach the text: plans for requests that are alike have one text, by
themselves and as they are sent, with equally many bound values. -/
theorem sameText_of_alike {scope : Scope} {plan other : Sql.Plan}
    (alike : scope.PlansAlike plan other) : Sql.Plan.SameText plan other := by
  cases alike with
  | read found alike planned otherPlanned =>
      obtain ⟨table, expression, isTable, built, rfl⟩ := Scope.planSelect_eq_ok_iff.mp planned
      obtain ⟨again, otherExpression, isAgain, otherBuilt, rfl⟩ :=
        Scope.planSelect_eq_ok_iff.mp otherPlanned
      cases found.symm.trans isTable
      cases found.symm.trans isAgain
      have conditions := alike.expression built otherBuilt
      exact @Sql.Plan.SameText.select _ _ (scope.readOf _ _ expression _) _ conditions
  | insertion found alike bothGiven planned otherPlanned =>
      obtain ⟨table, row, written, isTable, prepared, areWritten, rfl⟩ :=
        Scope.planInsert_eq_ok_iff.mp planned
      obtain ⟨again, otherRow, otherWritten, isAgain, otherPrepared, othersWritten, rfl⟩ :=
        Scope.planInsert_eq_ok_iff.mp otherPlanned
      cases found.symm.trans isTable
      cases found.symm.trans isAgain
      exact .insertion (Scope.writtenValues_alike
        (alike.prepareInsert bothGiven prepared otherPrepared).values areWritten othersWritten)
  | update found conditionsAlike alike planned otherPlanned =>
      obtain ⟨table, row, written, expression, isTable, prepared, areWritten, -, built, rfl⟩ :=
        Scope.planUpdate_eq_ok_iff.mp planned
      obtain ⟨again, otherRow, otherWritten, otherExpression, isAgain, otherPrepared, othersWritten,
        -, otherBuilt, rfl⟩ := Scope.planUpdate_eq_ok_iff.mp otherPlanned
      cases found.symm.trans isTable
      cases found.symm.trans isAgain
      exact .update (Scope.writtenValues_alike
        (alike.prepareUpdate prepared otherPrepared).values areWritten othersWritten)
        (conditionsAlike.expression built otherBuilt)
  | removal found alike planned otherPlanned =>
      obtain ⟨table, expression, isTable, built, rfl⟩ := Scope.planDelete_eq_ok_iff.mp planned
      obtain ⟨again, otherExpression, isAgain, otherBuilt, rfl⟩ :=
        Scope.planDelete_eq_ok_iff.mp otherPlanned
      cases found.symm.trans isTable
      cases found.symm.trans isAgain
      exact .deletion (alike.expression built otherBuilt)
  | query composed =>
      cases composed.alike with
      | conditions conditions => exact .select conditions

/-- A removal by a number and a text, which may spell the end of a statement. -/
theorem sameText_of_alike_removal :
    let table : TypeInfo := .table "users" [("id", .id), ("name", .string), ("age", .number)]
    let scope : Scope := ⟨.ofTypes [table], "public"⟩
    let condition (age : Int) (name : String) : Condition :=
      (Condition.empty.set "name" (.string name)).set "age_lt" (.integer age)
    let removal (age : Int64) (name : String) : Sql.Plan :=
      ⟨"users", .deletion ⟨"public", "users", .conjunction
        (.comparison (.column (.plain "age")) .lessThan (.constant (.integer age)))
        (.comparison (.column (.plain "name")) .equals (.constant (.string name)))⟩⟩
    scope.lookupTable "users" = .ok table ∧
      (condition 7 "ada").Alike table (condition 9 "' OR true; --") ∧
      scope.planDelete "users" (condition 7 "ada") = .ok (removal 7 "ada") ∧
      scope.planDelete "users" (condition 9 "' OR true; --") = .ok (removal 9 "' OR true; --") ∧
      Sql.Plan.SameText (removal 7 "ada") (removal 9 "' OR true; --") := by
  intro table scope condition removal
  have found : scope.lookupTable "users" = .ok table := rfl
  have alike : (condition 7 "ada").Alike table (condition 9 "' OR true; --") :=
    .cons ⟨rfl, .value (.numbers _ _)⟩ (.cons ⟨rfl, .value (.strings _ _)⟩ .nil)
  have planned : scope.planDelete "users" (condition 7 "ada") = .ok (removal 7 "ada") := rfl
  have otherPlanned : scope.planDelete "users" (condition 9 "' OR true; --") =
      .ok (removal 9 "' OR true; --") := rfl
  exact ⟨found, alike, planned, otherPlanned,
    sameText_of_alike (.removal found alike planned otherPlanned)⟩

end CatalogSql
