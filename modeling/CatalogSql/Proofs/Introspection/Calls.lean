import CatalogSql.Proofs.Introspection.Exchanges

/-!
# Calls on a compiler

A compiler is used by calls, one after another: to compile the catalog and to resolve a type.
`Called` says what a call can do and `Ran` what a run of calls can do, by the exchanges that
take place in it. A name is resolved in a call when the call is for that name, or when the
name is listed and its turn comes in a compile.
-/

namespace CatalogSql.Compiler

open Exchange (brought?)

variable {σ : Type}

/-- What a compiler can be asked to do. -/
inductive Call where
  | compile
  | resolve (name : String)

/-- What comes of a call. -/
inductive Answer where
  | catalog (result : Except IntrospectionError Catalog)
  | type (result : Except IntrospectionError TypeInfo)

/-- Makes a call. -/
def call (compiler : Compiler) (service : SchemaService σ) (state : σ) :
    Call → Answer × Compiler × σ
  | .compile =>
      (.catalog (compiler.compile service state).1, (compiler.compile service state).2)
  | .resolve name =>
      (.type (compiler.resolve service name state).1, (compiler.resolve service name state).2)

/-- Makes calls one after another. -/
def run (service : SchemaService σ) : List Call → Compiler → σ → List Answer × Compiler × σ
  | [], compiler, state => ([], compiler, state)
  | first :: rest, compiler, state =>
      let called := compiler.call service state first
      let ran := run service rest called.2.1 called.2.2
      (called.1 :: ran.1, ran.2)

/-- The exchanges that take place in calls. -/
def exchanges (service : SchemaService σ) (calls : List Call) (compiler : Compiler) (state : σ) :
    List Exchange :=
  (run service.recorded calls compiler (state, [])).2.2.2

/-! ## What a call and a run can do -/

/-- What a call does. A compile replaces the report, unless the names cannot be listed. -/
inductive Called (compiler : Compiler) : Call → List Exchange → Answer → Compiler → Prop where
  | unlisted (error : IntrospectionError) :
      Called compiler .compile [.typeNames (.error error)] (.catalog (.error error)) compiler
  | listed {names : List String} {asked : List Exchange} {failures : List TypeFailure}
      {last : Compiler}
      (resolutions : Resolutions compiler (names.filter fun name => !isMeta name) asked failures
        last) :
      Called compiler .compile (.typeNames (.ok names) :: asked) (.catalog (.ok last.catalog))
        { last with report := last.reportWith failures }
  | resolve {name : String} {asked : List Exchange} {result : Except IntrospectionError TypeInfo}
      {next : Compiler} (resolution : compiler.Resolution name asked result next) :
      Called compiler (.resolve name) asked (.type result) next

/-- What calls do, one after another. -/
inductive Ran : Compiler → List Call → List Exchange → List Answer → Compiler → Prop where
  | nil (compiler : Compiler) : Ran compiler [] [] [] compiler
  | cons {compiler next last : Compiler} {call : Call} {rest : List Call}
      {asked following : List Exchange} {answer : Answer} {answers : List Answer}
      (first : compiler.Called call asked answer next)
      (others : Ran next rest following answers last) :
      Ran compiler (call :: rest) (asked ++ following) (answer :: answers) last

/-- A compile resolves the names that are listed, but for those of the schema itself. -/
theorem compile_of_listed {service : SchemaService σ} {state reached : σ}
    {names declared : List String} (compiler : Compiler)
    (listed : service.typeNames state = (.ok names, reached))
    (isDeclared : (names.filter fun name => !isMeta name) = declared) :
    compiler.compile service state =
      let resolved := resolveAll service declared compiler reached
      (.ok resolved.2.1.catalog,
        { resolved.2.1 with report := resolved.2.1.reportWith resolved.1 }, resolved.2.2) := by
  rw [compile, listed, ← isDeclared]

/-- A record of a call holds its exchanges, and changes nothing else. -/
theorem call_recorded (service : SchemaService σ) (made : Call) (compiler : Compiler) (state : σ) :
    (∀ record, compiler.call service.recorded (state, record) made =
        ((compiler.call service state made).1, (compiler.call service state made).2.1,
          (compiler.call service state made).2.2,
          record ++ exchanges service [made] compiler state)) ∧
      compiler.Called made (exchanges service [made] compiler state)
        (compiler.call service state made).1 (compiler.call service state made).2.1 ∧
      ∀ exchange ∈ exchanges service [made] compiler state, service.Gives exchange := by
  -- Whatever is asked stands alone when the record starts empty.
  suffices found : ∃ asked, (∀ record, compiler.call service.recorded (state, record) made =
        ((compiler.call service state made).1, (compiler.call service state made).2.1,
          (compiler.call service state made).2.2, record ++ asked)) ∧
      compiler.Called made asked (compiler.call service state made).1
        (compiler.call service state made).2.1 ∧
      ∀ exchange ∈ asked, service.Gives exchange by
    obtain ⟨asked, recorded, called, given⟩ := found
    have same : exchanges service [made] compiler state = asked := by
      rw [exchanges, run, recorded]
      rfl
    rw [same]
    exact ⟨recorded, called, given⟩
  cases made with
  | resolve name =>
      obtain ⟨asked, recorded, resolution, given⟩ := compiler.resolve_recorded service name state
      refine ⟨asked, fun record => ?_, .resolve resolution, given⟩
      rw [call, recorded]
      rfl
  | compile =>
      rcases listed : service.typeNames state with ⟨error | names, reached⟩
      · refine ⟨[.typeNames (.error error)], fun record => ?_, ?_,
          List.forall_mem_singleton.mpr ⟨state, by rw [listed]⟩⟩
        · simp only [call, compile, SchemaService.recorded, listed]
        · simp only [call, compile, listed]
          exact .unlisted error
      · obtain ⟨asked, recorded, resolutions, given⟩ :=
          compiler.resolveAll_recorded service (names.filter fun name => !isMeta name) reached
        refine ⟨.typeNames (.ok names) :: asked, fun record => ?_, ?_,
          List.forall_mem_cons.mpr ⟨⟨state, by rw [listed]⟩, given⟩⟩
        · have same := recorded (record ++ [.typeNames (.ok names)])
          simp only [call, compile, SchemaService.recorded, listed] at same ⊢
          rw [same, List.append_assoc, List.singleton_append]
        · simp only [call, compile, listed]
          exact .listed resolutions

/-- A record of a run holds its exchanges, and changes nothing else. -/
theorem run_recorded (service : SchemaService σ) (calls : List Call) (compiler : Compiler)
    (state : σ) :
    (∀ record, run service.recorded calls compiler (state, record) =
        ((run service calls compiler state).1, (run service calls compiler state).2.1,
          (run service calls compiler state).2.2,
          record ++ exchanges service calls compiler state)) ∧
      Ran compiler calls (exchanges service calls compiler state)
        (run service calls compiler state).1 (run service calls compiler state).2.1 ∧
      ∀ exchange ∈ exchanges service calls compiler state, service.Gives exchange := by
  suffices found : ∃ asked, (∀ record, run service.recorded calls compiler (state, record) =
        ((run service calls compiler state).1, (run service calls compiler state).2.1,
          (run service calls compiler state).2.2, record ++ asked)) ∧
      Ran compiler calls asked (run service calls compiler state).1
        (run service calls compiler state).2.1 ∧
      ∀ exchange ∈ asked, service.Gives exchange by
    obtain ⟨asked, recorded, ran, given⟩ := found
    have same : exchanges service calls compiler state = asked := by rw [exchanges, recorded]; rfl
    rw [same]
    exact ⟨recorded, ran, given⟩
  induction calls generalizing compiler state with
  | nil =>
      refine ⟨[], fun record => ?_, .nil compiler, List.forall_mem_nil _⟩
      rw [List.append_nil]
      rfl
  | cons first rest ih =>
      obtain ⟨recorded, called, given⟩ := call_recorded service first compiler state
      obtain ⟨following, restRecorded, ran, restGiven⟩ :=
        ih (compiler.call service state first).2.1 (compiler.call service state first).2.2
      refine ⟨_, fun record => ?_, .cons called ran, List.forall_mem_append.mpr ⟨given, restGiven⟩⟩
      simp only [run, recorded, restRecorded, List.append_assoc]

/-- A call is made of the exchanges it asks for. -/
theorem called (service : SchemaService σ) (made : Call) (compiler : Compiler) (state : σ) :
    compiler.Called made (exchanges service [made] compiler state)
      (compiler.call service state made).1 (compiler.call service state made).2.1 :=
  (call_recorded service made compiler state).2.1

/-- Calls are made of the exchanges they ask for, one after another. -/
theorem ran (service : SchemaService σ) (calls : List Call) (compiler : Compiler) (state : σ) :
    Ran compiler calls (exchanges service calls compiler state)
      (run service calls compiler state).1 (run service calls compiler state).2.1 :=
  (run_recorded service calls compiler state).2.1

/-- The exchanges of a first call come before those of the others. -/
theorem exchanges_cons (service : SchemaService σ) (first : Call) (rest : List Call)
    (compiler : Compiler) (state : σ) :
    exchanges service (first :: rest) compiler state = exchanges service [first] compiler state ++
      exchanges service rest (compiler.call service state first).2.1
        (compiler.call service state first).2.2 := by
  rw [exchanges, run, (call_recorded service first compiler state).1]
  simp only [List.nil_append]
  rw [(run_recorded service rest _ _).1]

/-- A call learns from what it asks. -/
theorem Called.learned {compiler next : Compiler} {made : Call} {asked : List Exchange}
    {answer : Answer} (called : compiler.Called made asked answer next) :
    Learned compiler asked next := by
  cases called with
  | unlisted error =>
      refine .ofSingle (fun _ => rfl) ?_
      rintro _ ⟨⟩
  | @listed names asked failures last resolutions =>
      have listing : Learned compiler [.typeNames (.ok names)] compiler := by
        refine .ofSingle (fun _ => rfl) ?_
        rintro _ ⟨⟩
      have learned := listing.append resolutions.learned
      exact { learned with }
  | resolve resolution => exact resolution.learned

/-- A run holds at its end what it held at its start and what its exchanges brought. -/
theorem Ran.learned {compiler last : Compiler} {calls : List Call} {asked : List Exchange}
    {answers : List Answer} (ran : Ran compiler calls asked answers last) :
    Learned compiler asked last := by
  induction ran with
  | nil compiler => exact .nothing compiler
  | cons first others ih => exact first.learned.append ih

/-- A run that starts with a type held gives that type wherever it is resolved. -/
theorem Ran.answers_of_held {compiler last : Compiler} {calls : List Call}
    {asked : List Exchange} {answers : List Answer} {name : String} {compiled : CompiledType}
    (ran : Ran compiler calls asked answers last)
    (isHeld : compiler.cache.get? name = some compiled) :
    List.Forall₂ (fun made answer => made = .resolve name → answer = .type (.ok compiled.type))
      calls answers := by
  induction ran with
  | nil => exact .nil
  | cons first others ih =>
      refine .cons ?_ (ih (first.learned.get?_of_held isHeld))
      rintro rfl
      cases first with
      | resolve resolution =>
          cases resolution with
          | held isHeldAgain =>
              cases isHeld.symm.trans isHeldAgain
              rfl
          | fetched isNew | failed isNew =>
              rw [isNew] at isHeld
              cases isHeld

/-! ## Names that are resolved -/

/-- Names are resolved one after another, and one of them gives a type. -/
inductive ResolvesAmong (service : SchemaService σ) :
    List String → Compiler → σ → String → TypeInfo → Prop where
  | first {name : String} {rest : List String} {compiler : Compiler} {state : σ}
      {type : TypeInfo} (given : (compiler.resolve service name state).1 = .ok type) :
      ResolvesAmong service (name :: rest) compiler state name type
  | later {earlier name : String} {rest : List String} {compiler : Compiler} {state : σ}
      {type : TypeInfo}
      (among : ResolvesAmong service rest (compiler.resolve service earlier state).2.1
        (compiler.resolve service earlier state).2.2 name type) :
      ResolvesAmong service (earlier :: rest) compiler state name type

/-- A call resolves a name to a type: because it is for that name, or because the name is
listed in a compile. -/
inductive Resolves (compiler : Compiler) (service : SchemaService σ) (state : σ) :
    Call → String → TypeInfo → Prop where
  | direct {name : String} {type : TypeInfo}
      (given : (compiler.resolve service name state).1 = .ok type) :
      Resolves compiler service state (.resolve name) name type
  | listed {names : List String} {reached : σ} {name : String} {type : TypeInfo}
      (isListed : service.typeNames state = (.ok names, reached))
      (among : ResolvesAmong service (names.filter fun name => !isMeta name) compiler reached name
        type) :
      Resolves compiler service state .compile name type

/-- Names are resolved one after another. -/
theorem resolveAll_cons (service : SchemaService σ) (name : String) (rest : List String)
    (compiler : Compiler) (state : σ) :
    (resolveAll service (name :: rest) compiler state).2 =
      (resolveAll service rest (compiler.resolve service name state).2.1
        (compiler.resolve service name state).2.2).2 := by
  rcases resolved : compiler.resolve service name state with ⟨error | type, next, reached⟩ <;>
    simp only [resolveAll, resolved]

/-- A name that is resolved among others is held afterwards. -/
theorem ResolvesAmong.isHeld {service : SchemaService σ} {names : List String}
    {compiler : Compiler} {state : σ} {name : String} {type : TypeInfo}
    (among : ResolvesAmong service names compiler state name type) :
    ∃ compiled, (resolveAll service names compiler state).2.1.cache.get? name = some compiled ∧
      compiled.type = type := by
  induction among with
  | @first name rest compiler state type given =>
      obtain ⟨asked, -, resolution, -⟩ := compiler.resolve_recorded service name state
      rw [given] at resolution
      obtain ⟨compiled, isHeld, isType⟩ := resolution.isHeld
      obtain ⟨following, -, resolutions, -⟩ := resolveAll_recorded
        (compiler.resolve service name state).2.1 service rest
        (compiler.resolve service name state).2.2
      rw [resolveAll_cons]
      exact ⟨compiled, resolutions.learned.get?_of_held isHeld, isType⟩
  | later among ih =>
      rw [resolveAll_cons]
      exact ih

/-- A name that a call resolves is held afterwards. -/
theorem Resolves.isHeld {compiler : Compiler} {service : SchemaService σ} {state : σ}
    {made : Call} {name : String} {type : TypeInfo}
    (resolves : compiler.Resolves service state made name type) :
    ∃ compiled, (compiler.call service state made).2.1.cache.get? name = some compiled ∧
      compiled.type = type := by
  cases resolves with
  | direct given =>
      obtain ⟨asked, -, resolution, -⟩ := compiler.resolve_recorded service name state
      rw [given] at resolution
      exact resolution.isHeld
  | listed isListed among =>
      obtain ⟨compiled, isHeld, isType⟩ := among.isHeld
      refine ⟨compiled, ?_, isType⟩
      simp only [call, compile, isListed]
      exact isHeld

/-- A name that is held after names were resolved, and was not before, is one of them. -/
theorem ResolvesAmong.of_held {service : SchemaService σ} {names : List String}
    {compiler : Compiler} {state : σ} {name : String} {compiled : CompiledType}
    (isNew : compiler.cache.get? name = none)
    (isHeld : (resolveAll service names compiler state).2.1.cache.get? name = some compiled) :
    ResolvesAmong service names compiler state name compiled.type := by
  induction names generalizing compiler state with
  | nil => exact absurd (isNew.symm.trans isHeld) (Option.some_ne_none _).symm
  | cons first rest ih =>
      rw [resolveAll_cons] at isHeld
      cases isFirst : (compiler.resolve service first state).2.1.cache.get? name with
      | none => exact .later (ih isFirst isHeld)
      | some found =>
          obtain ⟨_, -, resolution, -⟩ := compiler.resolve_recorded service first state
          obtain ⟨_, -, resolutions, -⟩ := resolveAll_recorded
            (compiler.resolve service first state).2.1 service rest
            (compiler.resolve service first state).2.2
          obtain ⟨rfl, given⟩ := resolution.result_of_held isNew isFirst
          cases (resolutions.learned.get?_of_held isFirst).symm.trans isHeld
          exact .first given

/-- A name that is held after a call, and was not before, is one that the call resolves. -/
theorem Resolves.of_held {compiler : Compiler} {service : SchemaService σ} {state : σ}
    {made : Call} {name : String} {compiled : CompiledType}
    (isNew : compiler.cache.get? name = none)
    (isHeld : (compiler.call service state made).2.1.cache.get? name = some compiled) :
    compiler.Resolves service state made name compiled.type := by
  cases made with
  | resolve asked =>
      obtain ⟨_, -, resolution, -⟩ := compiler.resolve_recorded service asked state
      obtain ⟨rfl, given⟩ := resolution.result_of_held isNew isHeld
      exact .direct given
  | compile =>
      rcases listed : service.typeNames state with ⟨error | names, reached⟩
      · simp only [call, compile, listed] at isHeld
        exact absurd (isNew.symm.trans isHeld) (Option.some_ne_none _).symm
      · simp only [call, compile, listed] at isHeld
        exact .listed listed (.of_held isNew isHeld)

/-- A name that is held after calls, and was not before, is one that a call resolves. -/
theorem resolves_of_held {service : SchemaService σ} {calls : List Call} {compiler : Compiler}
    {state : σ} {name : String} {compiled : CompiledType}
    (isNew : compiler.cache.get? name = none)
    (isHeld : (run service calls compiler state).2.1.cache.get? name = some compiled) :
    ∃ before made after, calls = before ++ made :: after ∧
      (run service before compiler state).2.1.Resolves service
        (run service before compiler state).2.2 made name compiled.type := by
  induction calls generalizing compiler state with
  | nil => exact absurd (isNew.symm.trans isHeld) (Option.some_ne_none _).symm
  | cons first rest ih =>
      cases isFirst : (compiler.call service state first).2.1.cache.get? name with
      | none =>
          obtain ⟨before, made, after, rfl, resolves⟩ := ih isFirst isHeld
          exact ⟨first :: before, made, after, rfl, resolves⟩
      | some found =>
          have laterRan := ran service rest (compiler.call service state first).2.1
            (compiler.call service state first).2.2
          cases (laterRan.learned.get?_of_held isFirst).symm.trans isHeld
          exact ⟨[], first, rest, rfl, .of_held isNew isFirst⟩

end CatalogSql.Compiler
