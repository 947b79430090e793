import CatalogSql.Proofs.Introspection.Keeping
import Mathlib.Data.List.Nodup

/-!
# Every name is accounted for

A compile leaves no declared name out: its type enters the catalog, or its failure the report.
Whatever else a catalog holds was resolved before. A field of a catalog is unknown exactly when
the report warns about it.
-/

namespace CatalogSql

/-! ## Unknown fields and warnings -/

namespace SemanticType

/-- No scalar stands for the unknown type. -/
theorem ofScalar?_ne_unknown (scalar : String) : ofScalar? scalar ≠ some .unknown := by
  unfold ofScalar?
  repeat' split
  all_goals simp

end SemanticType

namespace TypeReference

/-- A classified scalar is never unknown. -/
theorem classifyScalar_ne_unknown (reference : TypeReference) :
    reference.classifyScalar ≠ .ok .unknown := by
  unfold classifyScalar
  cases reference.name with
  | none => simp
  | some name =>
      have notUnknown := SemanticType.ofScalar?_ne_unknown name
      cases isScalar : SemanticType.ofScalar? name with
      | none => simp [isScalar]
      | some type => simpa [isScalar] using notUnknown

/-- Nothing is classified as unknown: what has no meaning is a problem. -/
theorem classify_ne_unknown (reference : TypeReference) : reference.classify ≠ .ok .unknown := by
  unfold classify
  split
  · split
    · simp
    · split <;> simp [classifyScalar_ne_unknown]
  all_goals simp [classifyScalar_ne_unknown]

end TypeReference

/-- The type and the field that a warning is about. -/
def ClassificationWarning.place (warning : ClassificationWarning) : String × String :=
  (warning.type, warning.field)

namespace TypeInfo

/-- The names of unknown fields. -/
def unknownFields (type : TypeInfo) : List String :=
  Keyed.keys (type.fields.entries.filter fun field => field.2 == .unknown)

/-- No field is named twice among the unknown ones. -/
theorem nodup_unknownFields (type : TypeInfo) : type.unknownFields.Nodup :=
  type.fields.distinct.sublist (List.filter_sublist.map _)

/-- The unknown fields of a type are those it declares as unknown. -/
theorem mem_unknownFields (type : TypeInfo) (field : String) :
    field ∈ type.unknownFields ↔ type.fieldType? field = some .unknown := by
  rw [fieldType?, OrderedMap.get?, Keyed.lookup?_eq_some_iff type.fields.distinct]
  simp [unknownFields, Keyed.keys]

end TypeInfo

namespace IntrospectedField

/-- A field that is classified is not unknown, and one that is not has a warning of its own. -/
theorem classify_cases (field : IntrospectedField) (type : String) :
    (∃ known, field.classify type = .ok known ∧ known ≠ .unknown) ∨
      ∃ warning, field.classify type = .error warning ∧ warning.place = (type, field.name) := by
  unfold classify
  cases classified : field.type.classify with
  | error problem => exact .inr ⟨_, rfl, rfl⟩
  | ok known =>
      refine .inl ⟨known, rfl, ?_⟩
      rintro rfl
      exact field.type.classify_ne_unknown classified

end IntrospectedField

namespace TypeDefinition

/-- Fields under distinct names are warned about when they are unknown, one by one. -/
theorem map_place_warnings (definition : TypeDefinition) (marker : String)
    (distinct : ((definition.fields.getD []).map (·.name)).Nodup) :
    definition.warnings.map (·.place) =
      (definition.compile marker).type.unknownFields.map fun field => (definition.name, field) := by
  rw [TypeInfo.unknownFields, compile, semanticFields, OrderedMap.entries_ofList, warnings,
    classified]
  · induction definition.fields.getD [] with
    | nil => rfl
    | cons field rest ih =>
        rcases field.classify_cases definition.name with
          ⟨known, isKnown, notUnknown⟩ | ⟨warning, isWarning, isPlace⟩
        · simpa [isKnown, notUnknown] using ih
        · simpa [isWarning, isPlace] using ih
  · rw [Keyed.keys, List.map_map, classified, List.map_map]
    exact distinct

end TypeDefinition

namespace Catalog

/-- The unknown fields of a catalog, each under the name of its type. -/
def unknownFields (catalog : Catalog) : List (String × String) :=
  catalog.types.entries.flatMap fun entry => entry.2.unknownFields.map fun field => (entry.1, field)

/-- No field of a catalog is named twice among the unknown ones. -/
theorem nodup_unknownFields (catalog : Catalog) : catalog.unknownFields.Nodup := by
  refine List.nodup_flatMap.mpr ⟨fun entry _ => ?_, ?_⟩
  · exact entry.2.nodup_unknownFields.map fun _ _ same => (Prod.mk.inj same).2
  · refine (List.pairwise_map.mp catalog.types.ascending).imp fun {first second} before => ?_
    intro place inFirst inSecond
    obtain ⟨field, -, rfl⟩ := List.mem_map.mp inFirst
    obtain ⟨other, -, same⟩ := List.mem_map.mp inSecond
    rw [(Prod.mk.inj same).1] at before
    exact String.lt_irrefl _ before

/-- The unknown fields of a catalog are those of its types. -/
theorem mem_unknownFields (catalog : Catalog) (type field : String) :
    (type, field) ∈ catalog.unknownFields ↔
      ∃ found, catalog.lookupType? type = some found ∧ found.fieldType? field = some .unknown := by
  simp only [lookupType?, SortedMap.get?, Keyed.lookup?_eq_some_iff (Keyed.nodup_keys _),
    ← TypeInfo.mem_unknownFields]
  simp [unknownFields]

namespace KeyedByName

variable {catalog : Catalog}

/-- The names of the tables are the keys of the tables. -/
theorem map_name_tables (keyed : catalog.KeyedByName) : catalog.tables.map (·.name) =
    Keyed.keys (catalog.types.entries.filter fun entry => entry.2.isTable) := by
  rw [tables, allTypes, SortedMap.values, List.filter_map, List.map_map]
  exact List.map_congr_left fun entry mem => (keyed entry (List.mem_filter.mp mem).1).symm

/-- The tables of a catalog are in ascending order of their names. -/
theorem ascending_tables (keyed : catalog.KeyedByName) :
    (catalog.tables.map (·.name)).Pairwise (· < ·) := by
  rw [keyed.map_name_tables]
  exact catalog.types.ascending.sublist (List.filter_sublist.map _)

/-- The tables of a catalog are those of its types that are tables. -/
theorem mem_tables (keyed : catalog.KeyedByName) (name : String) :
    name ∈ catalog.tables.map (·.name) ↔
      ∃ type, catalog.lookupType? name = some type ∧ type.isTable := by
  simp only [lookupType?, SortedMap.get?, Keyed.lookup?_eq_some_iff (Keyed.nodup_keys _)]
  simp [keyed.map_name_tables, Keyed.keys]

end KeyedByName

end Catalog

/-! ## Services with fixed answers -/

namespace SchemaService

variable {σ : Type}

/-- A service that always gives the same definitions. -/
def Answers (service : SchemaService σ)
    (answers : String → Except IntrospectionError (Option TypeDefinition)) : Prop :=
  ∀ name state, (service.definition name state).1 = answers name

/-- Exchanges with a service of fixed answers agree with these answers. -/
theorem Answers.agree {service : SchemaService σ}
    {answers : String → Except IntrospectionError (Option TypeDefinition)}
    (fixed : service.Answers answers) {exchanges : List Exchange}
    (given : ∀ exchange ∈ exchanges, service.Gives exchange) :
    Compiler.Agree answers exchanges := by
  intro name answer mem
  obtain ⟨state, rfl⟩ := given _ mem
  exact fixed name state

end SchemaService

namespace Compiler

variable {σ : Type} {answers : String → Except IntrospectionError (Option TypeDefinition)}

/-- Definitions that carry the name they are given for, and no field twice. -/
def Proper (answers : String → Except IntrospectionError (Option TypeDefinition)) : Prop :=
  ∀ name definition, answers name = .ok (some definition) →
    definition.name = name ∧ ((definition.fields.getD []).map (·.name)).Nodup

/-- A compiler that holds nothing but what it would be answered. -/
def Holds (compiler : Compiler)
    (answers : String → Except IntrospectionError (Option TypeDefinition)) : Prop :=
  ∀ name compiled, compiler.cache.get? name = some compiled →
    ∃ definition, answers name = .ok (some definition) ∧
      compiled = definition.compile compiler.marker

/-- A new compiler holds nothing. -/
theorem holds_new (marker : String) : (new marker).Holds answers := by
  rintro name compiled ⟨⟩

/-- A compiler that learns from agreeing exchanges goes on holding only what the answers give. -/
theorem Learned.holds {start last : Compiler} {exchanges : List Exchange}
    (learned : Learned start exchanges last) (agree : Agree answers exchanges)
    (holds : start.Holds answers) : last.Holds answers := by
  intro name compiled isHeld
  rw [learned.marker]
  rw [learned.cache, Option.or_eq_some_iff, Option.map_eq_some_iff] at isHeld
  rcases isHeld with before | ⟨-, definition, brought, rfl⟩
  · exact holds name compiled before
  · obtain ⟨exchange, mem, brings⟩ := List.exists_of_findSome?_eq_some brought
    rw [Exchange.definition?_eq_some_iff.mp brings] at mem
    exact ⟨definition, (agree _ _ mem).symm, rfl⟩

/-- Every held type is compiled from its answer. -/
theorem Holds.of_mem {compiler : Compiler} (holds : compiler.Holds answers)
    {entry : String × CompiledType} (mem : entry ∈ compiler.cache.entries) :
    ∃ definition, answers entry.1 = .ok (some definition) ∧
      entry.2 = definition.compile compiler.marker :=
  holds entry.1 entry.2 ((Keyed.lookup?_eq_some_iff (Keyed.nodup_keys _) _ _).mpr mem)

/-! ## The catalog of what is held -/

section Held

variable {compiler : Compiler} (holds : compiler.Holds answers) (proper : Proper answers)

include holds proper

/-- Types that are held under their own names enter the catalog under the same names. -/
theorem Holds.entries_catalog : compiler.catalog.types.entries =
    compiler.cache.entries.map fun entry => (entry.1, entry.2.type) := by
  have named : (compiler.cache.values.map (·.type)).map (fun type => (type.name, type)) =
      compiler.cache.entries.map fun entry => (entry.1, entry.2.type) := by
    rw [SortedMap.values, List.map_map, List.map_map]
    refine List.map_congr_left fun entry mem => ?_
    obtain ⟨definition, isAnswer, isCompiled⟩ := holds.of_mem mem
    have sameName := (proper _ _ isAnswer).1
    simp only [Function.comp_apply, isCompiled, TypeDefinition.compile, sameName]
  rw [catalog, Catalog.ofTypes, named]
  refine Keyed.entries_ofList_of_ascending ?_
  rw [Keyed.keys, List.map_map]
  exact compiler.cache.ascending

/-- The catalog of a compiler has the held types. -/
theorem Holds.lookupType? (name : String) :
    compiler.catalog.lookupType? name = (compiler.cache.get? name).map (·.type) := by
  rw [Catalog.lookupType?, SortedMap.get?, holds.entries_catalog proper, SortedMap.get?]
  induction compiler.cache.entries with
  | nil => rfl
  | cons entry rest ih =>
      rw [List.map_cons, Keyed.lookup?, Keyed.lookup?, ih]
      by_cases same : entry.1 = name
      · rw [if_pos same, if_pos same, Option.map_some]
      · rw [if_neg same, if_neg same]

/-- The catalog of a compiler is keyed by the names of its types. -/
theorem Holds.keyedByName : compiler.catalog.KeyedByName := by
  intro entry mem
  rw [holds.entries_catalog proper] at mem
  obtain ⟨held, isHeld, rfl⟩ := List.mem_map.mp mem
  obtain ⟨definition, isAnswer, isCompiled⟩ := holds.of_mem isHeld
  rw [isCompiled]
  exact (proper _ _ isAnswer).1.symm

/-- The tables that are held are the types that declare the marking interface. -/
theorem Holds.mem_tables (name : String) : name ∈ compiler.catalog.tables.map (·.name) ↔
    (compiler.catalog.lookupType? name).isSome ∧
      ∃ definition, answers name = .ok (some definition) ∧ definition.declares compiler.marker := by
  rw [(holds.keyedByName proper).mem_tables, holds.lookupType? proper]
  cases isHeld : compiler.cache.get? name with
  | none => simp
  | some compiled =>
      obtain ⟨definition, isAnswer, rfl⟩ := holds name compiled isHeld
      cases declares : definition.declares compiler.marker <;>
        simp [isAnswer, TypeInfo.isTable, TypeDefinition.compile, declares]

/-- The warnings about what is held are those about the unknown fields of the catalog. -/
theorem Holds.map_place_warnings :
    (compiler.cache.values.flatMap (·.warnings)).map (·.place) =
      compiler.catalog.unknownFields := by
  rw [Catalog.unknownFields, holds.entries_catalog proper, SortedMap.values, List.map_flatMap,
    List.flatMap_map, List.flatMap_map]
  refine List.flatMap_congr fun entry mem => ?_
  obtain ⟨definition, isAnswer, isCompiled⟩ := holds.of_mem mem
  obtain ⟨sameName, distinct⟩ := proper _ _ isAnswer
  rw [isCompiled, ← sameName]
  exact definition.map_place_warnings compiler.marker distinct

end Held

/-! ## What a compile leaves out -/

/-- A failure names the type it is about. -/
theorem type_of_refusal? {compiler : Compiler} {name : String} {failure : TypeFailure}
    (refused : refusal? compiler answers name = some failure) : failure.type = name := by
  unfold refusal? at refused
  split at refused
  · cases refused
  · rcases Exchange.failure?_cases name (answers name) with ⟨-, -, succeeds⟩ | ⟨-, error, fails⟩
    · rw [succeeds] at refused
      cases refused
    · rw [fails] at refused
      cases refused
      rfl

section Resolved

variable {compiler last : Compiler} {names : List String} {asked : List Exchange}
  {failures : List TypeFailure}

/-- With fixed answers, a name that was to be resolved fails when it is not held at the end. -/
theorem Resolutions.isSome_refusal?_iff
    (resolutions : Resolutions compiler names asked failures last) (agree : Agree answers asked)
    {name : String} (mem : name ∈ names) :
    (refusal? compiler answers name).isSome ↔ last.cache.get? name = none := by
  have added := resolutions.get?_of_agree agree name
  rw [if_pos mem] at added
  rw [← refusal?_of_added added, refusal?]
  cases isHeld : last.cache.get? name with
  | some compiled => simp
  | none =>
      rw [isHeld, eq_comm, Option.or_eq_none_iff, compiled?, Option.map_eq_none_iff] at added
      rcases Exchange.failure?_cases name (answers name) with ⟨_, found, -⟩ | ⟨-, error, fails⟩
      · cases found.symm.trans added.2
      · simp [fails]

/-- With fixed answers, a name fails as often as it is listed, or not at all. -/
theorem Resolutions.map_type_failures
    (resolutions : Resolutions compiler names asked failures last) (agree : Agree answers asked) :
    failures.map (·.type) = names.filter fun name => (refusal? compiler answers name).isSome := by
  rw [resolutions.failures_of_agree agree]
  clear resolutions
  induction names with
  | nil => rfl
  | cons name rest ih =>
      cases refused : refusal? compiler answers name with
      | none => simpa [refused] using ih
      | some failure => simpa [refused, type_of_refusal? refused] using ih

/-- With fixed answers, a name that was to be resolved is held at the end and has not failed, or
it is not held and has failed wherever it was listed. -/
theorem Resolutions.held_or_failed
    (resolutions : Resolutions compiler names asked failures last) (agree : Agree answers asked)
    (holds : last.Holds answers) {name : String} (mem : name ∈ names) :
    (∃ definition, answers name = .ok (some definition) ∧
        last.cache.get? name = some (definition.compile last.marker) ∧
        ∀ failure ∈ failures, failure.type ≠ name) ∨
      (last.cache.get? name = none ∧ (failures.map (·.type)).count name = names.count name) := by
  have refused := resolutions.isSome_refusal?_iff agree mem
  have failed := resolutions.map_type_failures agree
  cases isHeld : last.cache.get? name with
  | some held =>
      obtain ⟨definition, isAnswer, rfl⟩ := holds name held isHeld
      refine .inl ⟨definition, isAnswer, rfl, fun failure isFailure isName => ?_⟩
      have isAmong := List.mem_map_of_mem (f := TypeFailure.type) isFailure
      rw [failed, isName, List.mem_filter, refused, isHeld] at isAmong
      cases isAmong.2
  | none =>
      have isRefused : (refusal? compiler answers name).isSome := refused.mpr isHeld
      refine .inr ⟨rfl, ?_⟩
      rw [failed, List.count_filter (p := fun name => (refusal? compiler answers name).isSome)
        isRefused]

/-- With fixed answers, what fails was to be resolved. -/
theorem Resolutions.type_mem_of_failure
    (resolutions : Resolutions compiler names asked failures last) (agree : Agree answers asked) :
    ∀ failure ∈ failures, failure.type ∈ names := by
  intro failure mem
  have isAmong := List.mem_map_of_mem (f := TypeFailure.type) mem
  rw [resolutions.map_type_failures agree] at isAmong
  exact (List.mem_filter.mp isAmong).1

/-- With fixed answers, compilers that hold the same learn the same from the same names, in
whatever order these are listed. -/
theorem Resolutions.cache_of_perm {others : List String} {lastOther : Compiler}
    {askedOther : List Exchange} {failuresOther : List TypeFailure}
    (resolutions : Resolutions compiler names asked failures last) (agree : Agree answers asked)
    (resolutionsOther : Resolutions compiler others askedOther failuresOther lastOther)
    (agreeOther : Agree answers askedOther) (perm : others.Perm names) :
    lastOther.cache = last.cache := by
  refine Keyed.ext_get? fun name => ?_
  simp only [resolutions.get?_of_agree agree, resolutionsOther.get?_of_agree agreeOther,
    perm.mem_iff]

end Resolved

/-- A held type is resolved without asking the service. -/
theorem resolve_of_held {σ : Type} {compiler : Compiler} {name : String} {compiled : CompiledType}
    (service : SchemaService σ) (isHeld : compiler.cache.get? name = some compiled) (state : σ) :
    compiler.resolve service name state = (.ok compiled.type, compiler, state) := by
  rw [resolve, isHeld]

/-- When the names are listed, a compile resolves them, and nothing else happens in it. -/
theorem compile_resolved {σ : Type} (compiler : Compiler) {service : SchemaService σ} {state : σ}
    {names : List String} (fixed : service.Answers answers)
    (listed : (service.typeNames state).1 = .ok names) :
    ∃ asked failures last,
      Resolutions compiler (names.filter fun name => !isMeta name) asked failures last ∧
      Agree answers asked ∧
      (compiler.compile service state).1 = .ok last.catalog ∧
      (compiler.compile service state).2.1 = { last with report := last.reportWith failures } := by
  rcases isListed : service.typeNames state with ⟨answer, reached⟩
  rw [isListed] at listed
  cases listed
  obtain ⟨asked, -, resolutions, given⟩ := compiler.resolveAll_recorded service
    (names.filter fun name => !isMeta name) reached
  rw [compiler.compile_of_listed isListed rfl]
  exact ⟨asked, _, _, resolutions, fixed.agree given, rfl, rfl⟩

/-- A compile leaves no name out. When a service always gives the same definitions, whatever a
compiler was called for before, each name that is listed has its type in the catalog or all of
its failures in the report, and everything else in the catalog was resolved by an earlier call.
The report tells the tables and the unknown fields of the catalog, and the order in which names
are listed makes no difference to these. -/
theorem types_accounted {σ : Type} (service : SchemaService σ) (marker : String)
    (calls : List Call) (state : σ) {names : List String} (fixed : service.Answers answers)
    (proper : Proper answers)
    (listed : (service.typeNames (run service calls (new marker) state).2.2).1 = .ok names) :
    let earlier := run service calls (new marker) state
    let compiled := earlier.2.1.compile service earlier.2.2
    let report := compiled.2.1.report
    ∃ catalog, compiled.1 = .ok catalog ∧
      (∀ name ∈ names, !isMeta name →
        (∃ definition, answers name = .ok (some definition) ∧
            catalog.lookupType? name = some (definition.compile marker).type ∧
            (∀ later, (compiled.2.1.resolve service name later).1 =
              .ok (definition.compile marker).type) ∧
            ∀ failure ∈ report.failures, failure.type ≠ name) ∨
          (catalog.lookupType? name = none ∧
            (report.failures.map (·.type)).count name = names.count name)) ∧
      (∀ failure ∈ report.failures, failure.type ∈ names ∧ !isMeta failure.type) ∧
      (∀ name type, catalog.lookupType? name = some type → (name ∈ names → isMeta name) →
        ∃ before made after, calls = before ++ made :: after ∧
          (run service before (new marker) state).2.1.Resolves service
            (run service before (new marker) state).2.2 made name type) ∧
      (report.tables.Pairwise (· < ·) ∧ ∀ name, name ∈ report.tables ↔
        (catalog.lookupType? name).isSome ∧
          ∃ definition, answers name = .ok (some definition) ∧ definition.declares marker) ∧
      ((report.warnings.map (·.place)).Nodup ∧
        ∀ type field, (type, field) ∈ report.warnings.map (·.place) ↔
          ∃ found, catalog.lookupType? type = some found ∧
            found.fieldType? field = some .unknown) ∧
      ∀ {τ : Type} (other : SchemaService τ) (start : τ) (others : List String),
        other.Answers answers → (other.typeNames start).1 = .ok others → others.Perm names →
          let again := earlier.2.1.compile other start
          again.1 = .ok catalog ∧ again.2.1.report.tables = report.tables ∧
            again.2.1.report.warnings = report.warnings := by
  intro earlier compiled report
  -- What is held before and after the compile was given by the service, so its answers tell it.
  have holdsEarlier : earlier.2.1.Holds answers :=
    (ran service calls (new marker) state).learned.holds
      (fixed.agree (run_recorded service calls (new marker) state).2.2) (holds_new marker)
  obtain ⟨asked, failures, last, resolutions, agree, isCatalog, isLast⟩ :=
    earlier.2.1.compile_resolved fixed listed
  have holds : last.Holds answers := resolutions.learned.holds agree holdsEarlier
  have sameMarker : last.marker = marker := resolutions.learned.marker.trans
    (ran service calls (new marker) state).learned.marker
  have isReport : report = last.reportWith failures := congrArg Compiler.report isLast
  refine ⟨last.catalog, isCatalog, ?_, ?_, ?_, ?_, ?_, ?_⟩
  · intro name mem notMeta
    rw [holds.lookupType? proper, isReport]
    rcases resolutions.held_or_failed agree holds (List.mem_filter.mpr ⟨mem, notMeta⟩) with
      ⟨definition, isAnswer, isHeld, noFailure⟩ | ⟨unheld, failed⟩
    · rw [sameMarker] at isHeld
      refine .inl ⟨definition, isAnswer, by rw [isHeld]; rfl, fun later => ?_, noFailure⟩
      have isHeldAfter : compiled.2.1.cache.get? name = some (definition.compile marker) :=
        (congrArg (·.cache.get? name) isLast).trans isHeld
      rw [resolve_of_held service isHeldAfter]
    · refine .inr ⟨by rw [unheld]; rfl, failed.trans ?_⟩
      rw [List.count_filter (p := fun name => !isMeta name) notMeta]
  · intro failure mem
    rw [isReport] at mem
    exact List.mem_filter.mp (resolutions.type_mem_of_failure agree failure mem)
  · intro name type found isOther
    rw [holds.lookupType? proper, Option.map_eq_some_iff] at found
    obtain ⟨held, isHeld, rfl⟩ := found
    have notListed : name ∉ names.filter fun name => !isMeta name := by
      intro mem
      obtain ⟨isName, notMeta⟩ := List.mem_filter.mp mem
      rw [isOther isName] at notMeta
      cases notMeta
    rw [resolutions.get?_of_agree agree, if_neg notListed, Option.or_none] at isHeld
    exact resolves_of_held rfl isHeld
  · rw [isReport, ← sameMarker]
    exact ⟨(holds.keyedByName proper).ascending_tables, holds.mem_tables proper⟩
  · rw [isReport, reportWith, holds.map_place_warnings proper]
    exact ⟨last.catalog.nodup_unknownFields, last.catalog.mem_unknownFields⟩
  · intro τ other start others fixedOther listedOther perm again
    obtain ⟨_, _, lastOther, resolutionsOther, agreeOther, isCatalogOther, isLastOther⟩ :=
      earlier.2.1.compile_resolved fixedOther listedOther
    have sameCache : lastOther.cache = last.cache :=
      resolutions.cache_of_perm agree resolutionsOther agreeOther (perm.filter _)
    have sameCatalog : lastOther.catalog = last.catalog := by rw [catalog, catalog, sameCache]
    refine ⟨by rw [isCatalogOther, sameCatalog], ?_, ?_⟩
    · simp only [again, isLastOther, isReport, reportWith, sameCatalog]
    · simp only [again, isLastOther, isReport, reportWith, sameCache]

/-- A schema whose price has a type without a meaning, with a type that cannot be fetched and is
listed twice. A type that is not listed any more was resolved before. -/
theorem types_accounted_shop :
    let scalar (name : String) : TypeReference := ⟨.scalar, some name, none, none⟩
    let item : TypeDefinition :=
      ⟨"Item", some ["Node"], some [⟨"id", scalar "ID"⟩, ⟨"price", scalar "Money"⟩], none⟩
    let order : TypeDefinition := ⟨"Order", none, some [⟨"id", scalar "ID"⟩], none⟩
    let answers (name : String) : Except IntrospectionError (Option TypeDefinition) :=
      if name = "Item" then .ok (some item)
      else if name = "Order" then .ok (some order)
      else if name = "Broken" then .error .missingData
      else .ok none
    let service : SchemaService (List String) :=
      ⟨fun names => (.ok names, names), fun name names => (answers name, names)⟩
    let names := ["Item", "Broken", "__Type", "Broken", "Item"]
    let earlier := run service [.resolve "Order"] (new "Node") names
    let compiled := earlier.2.1.compile service earlier.2.2
    let report := compiled.2.1.report
    service.Answers answers ∧ Proper answers ∧ (service.typeNames earlier.2.2).1 = .ok names ∧
      compiled.1 = .ok (.ofTypes [(item.compile "Node").type, (order.compile "Node").type]) ∧
      report.failures.map (·.type) = ["Broken", "Broken"] ∧
      (∃ before made after, [Call.resolve "Order"] = before ++ made :: after ∧
        (run service before (new "Node") names).2.1.Resolves service
          (run service before (new "Node") names).2.2 made "Order" (order.compile "Node").type) ∧
      "Item" ∈ report.tables ∧ ("Item", "price") ∈ report.warnings.map (·.place) ∧
      (earlier.2.1.compile service names.reverse).1 = compiled.1 := by
  intro scalar item order answers service names earlier compiled report
  have fixed : service.Answers answers := fun _ _ => rfl
  have proper : Proper answers := by
    intro name definition isAnswer
    by_cases isItem : name = "Item"
    · rw [show answers name = .ok (some item) from if_pos isItem] at isAnswer
      cases isAnswer
      exact ⟨isItem.symm, by decide⟩
    · simp only [answers, if_neg isItem] at isAnswer
      split at isAnswer
      · rename_i isOrder
        cases isAnswer
        exact ⟨isOrder.symm, by decide⟩
      · split at isAnswer <;> cases isAnswer
  obtain ⟨catalog, isCatalog, -, -, others, tables, warnings, reordered⟩ :=
    types_accounted service "Node" [.resolve "Order"] names fixed proper rfl
  have kept : (names.filter fun name => !isMeta name) = ["Item", "Broken", "Broken", "Item"] := by
    decide +kernel
  have compiles : earlier.2.1.compile service earlier.2.2 = _ :=
    compile_of_listed earlier.2.1 rfl kept
  have isOfTypes : compiled.1 =
      .ok (.ofTypes [(item.compile "Node").type, (order.compile "Node").type]) := by
    simp only [compiled, compiles]
    rfl
  have failures : report.failures.map (·.type) = ["Broken", "Broken"] := by
    simp only [report, compiled, compiles]
    rfl
  cases isCatalog.symm.trans isOfTypes
  have isHeld : (Catalog.ofTypes [(item.compile "Node").type,
      (order.compile "Node").type]).lookupType? "Item" = some (item.compile "Node").type := by
    decide +kernel
  refine ⟨fixed, proper, rfl, isOfTypes, failures, ?_, ?_, ?_, ?_⟩
  · exact others "Order" _ (by decide +kernel) fun mem => absurd mem (by decide)
  · exact (tables.2 "Item").mpr ⟨by rw [isHeld]; rfl, item, rfl, by decide⟩
  · exact (warnings.2 "Item" "price").mpr ⟨_, isHeld, rfl⟩
  · exact (reordered service names.reverse names.reverse fixed rfl names.reverse_perm).1.trans
      isOfTypes.symm

end Compiler

end CatalogSql
