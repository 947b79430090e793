import CatalogSql.Introspection.Compiler
import CatalogSql.Introspection.Declared
import CatalogSql.Proofs.Keyed.Sorted
import Mathlib.Data.List.Forall2

/-!
# What a compiler asks for and learns

A compiler talks to its service in exchanges: a question and the answer to it. `Resolution`
says what resolving a name can do, `Learned` what a compiler holds after exchanges: what it
held before, and the first definition that was brought for each name it did not hold. A name
it holds, or has been brought a definition for, is not asked for.
-/

namespace CatalogSql

/-- A question to a schema service, with the answer. -/
inductive Exchange where
  | typeNames (answer : Except IntrospectionError (List String))
  | definition (name : String) (answer : Except IntrospectionError (Option TypeDefinition))

namespace Exchange

/-- What was asked. -/
def question : Exchange → SchemaQuestion
  | .typeNames _ => .typeNames
  | .definition name _ => .definition name

/-- The definition that an answer holds. -/
def held? : Except IntrospectionError (Option TypeDefinition) → Option TypeDefinition
  | .ok found => found
  | .error _ => none

/-- The definition that an exchange brings for a name. -/
def definition? (name : String) : Exchange → Option TypeDefinition
  | .definition asked answer => if asked = name then held? answer else none
  | .typeNames _ => none

/-- The failure of an exchange that was to bring a definition and does not. -/
def failure? : Exchange → Option TypeFailure
  | .definition _ (.ok (some _)) => none
  | .definition name (.ok none) => some ⟨name, .typeNotFound name⟩
  | .definition name (.error error) => some ⟨name, error⟩
  | .typeNames _ => none

/-- The first definition that exchanges bring for a name. -/
def brought? (name : String) (exchanges : List Exchange) : Option TypeDefinition :=
  exchanges.findSome? (definition? name)

/-- The first exchanges bring a definition, or else the later ones. -/
theorem brought?_append (name : String) (first second : List Exchange) :
    brought? name (first ++ second) = (brought? name first).or (brought? name second) :=
  List.findSome?_append

/-- Nothing is brought exactly if no exchange has a definition. -/
theorem brought?_eq_none_iff {name : String} {exchanges : List Exchange} :
    brought? name exchanges = none ↔ ∀ exchange ∈ exchanges, exchange.definition? name = none :=
  List.findSome?_eq_none_iff

/-- An exchange has a definition exactly if it is an answer that gives it. -/
theorem definition?_eq_some_iff {name : String} {exchange : Exchange}
    {definition : TypeDefinition} :
    exchange.definition? name = some definition ↔
      exchange = .definition name (.ok (some definition)) := by
  cases exchange with
  | typeNames answer => simp [definition?]
  | definition asked answer =>
      by_cases same : asked = name
      · cases answer <;> simp [definition?, held?, same]
      · simp [definition?, same]

/-- An exchange that fails brings no definition. -/
theorem definition?_of_failure? {exchange : Exchange} {failure : TypeFailure}
    (fails : exchange.failure? = some failure) (name : String) :
    exchange.definition? name = none := by
  by_contra found
  obtain ⟨definition, isFound⟩ := Option.ne_none_iff_exists'.mp found
  rw [definition?_eq_some_iff.mp isFound] at fails
  cases fails

/-- An exchange for a definition fails exactly when the answer holds none. -/
theorem failure?_cases (name : String)
    (answer : Except IntrospectionError (Option TypeDefinition)) :
    (∃ definition, held? answer = some definition ∧
        (Exchange.definition name answer).failure? = none) ∨
      (held? answer = none ∧
        ∃ error, (Exchange.definition name answer).failure? = some ⟨name, error⟩) := by
  rcases answer with error | _ | definition
  · exact .inr ⟨rfl, error, rfl⟩
  · exact .inr ⟨rfl, .typeNotFound name, rfl⟩
  · exact .inl ⟨definition, rfl, rfl⟩

end Exchange

namespace SchemaService

variable {σ : Type}

/-- The service with a record of its exchanges, in the order in which they take place. -/
def recorded (service : SchemaService σ) : SchemaService (σ × List Exchange) where
  typeNames state :=
    ((service.typeNames state.1).1, (service.typeNames state.1).2,
      state.2 ++ [.typeNames (service.typeNames state.1).1])
  definition name state :=
    ((service.definition name state.1).1, (service.definition name state.1).2,
      state.2 ++ [.definition name (service.definition name state.1).1])

/-- An exchange that can take place with a service. -/
def Gives (service : SchemaService σ) : Exchange → Prop
  | .typeNames answer => ∃ state, (service.typeNames state).1 = answer
  | .definition name answer => ∃ state, (service.definition name state).1 = answer

end SchemaService

namespace Compiler

open Exchange (brought?)

variable {σ : Type}

/-! ## Resolving names -/

/-- What resolving a name does: it asks for the definition of a name that is not held, and
keeps the one it gets. -/
inductive Resolution (compiler : Compiler) (name : String) :
    List Exchange → Except IntrospectionError TypeInfo → Compiler → Prop where
  | held {compiled : CompiledType} (isHeld : compiler.cache.get? name = some compiled) :
      Resolution compiler name [] (.ok compiled.type) compiler
  | fetched {definition : TypeDefinition} (isNew : compiler.cache.get? name = none) :
      Resolution compiler name [.definition name (.ok (some definition))]
        (.ok (definition.compile compiler.marker).type) (compiler.store name definition)
  | failed {answer : Except IntrospectionError (Option TypeDefinition)}
      {error : IntrospectionError} (isNew : compiler.cache.get? name = none)
      (fails : (Exchange.definition name answer).failure? = some ⟨name, error⟩) :
      Resolution compiler name [.definition name answer] (.error error) compiler

/-- What resolving names one after another does. -/
inductive Resolutions : Compiler → List String → List Exchange → List TypeFailure → Compiler →
    Prop where
  | nil (compiler : Compiler) : Resolutions compiler [] [] [] compiler
  | resolved {compiler next last : Compiler} {name : String} {rest : List String}
      {asked following : List Exchange} {type : TypeInfo} {failures : List TypeFailure}
      (first : compiler.Resolution name asked (.ok type) next)
      (others : Resolutions next rest following failures last) :
      Resolutions compiler (name :: rest) (asked ++ following) failures last
  | failed {compiler next last : Compiler} {name : String} {rest : List String}
      {asked following : List Exchange} {error : IntrospectionError} {failures : List TypeFailure}
      (first : compiler.Resolution name asked (.error error) next)
      (others : Resolutions next rest following failures last) :
      Resolutions compiler (name :: rest) (asked ++ following) (⟨name, error⟩ :: failures) last

/-- A record of a resolution holds what was asked, and changes nothing else. -/
theorem resolve_recorded (compiler : Compiler) (service : SchemaService σ) (name : String)
    (state : σ) :
    ∃ asked, (∀ record, compiler.resolve service.recorded name (state, record) =
        ((compiler.resolve service name state).1, (compiler.resolve service name state).2.1,
          (compiler.resolve service name state).2.2, record ++ asked)) ∧
      compiler.Resolution name asked (compiler.resolve service name state).1
        (compiler.resolve service name state).2.1 ∧
      ∀ exchange ∈ asked, service.Gives exchange := by
  unfold resolve
  cases isHeld : compiler.cache.get? name with
  | some compiled =>
      exact ⟨[], fun record => by rw [List.append_nil], .held isHeld, List.forall_mem_nil _⟩
  | none =>
      have gives : ∀ exchange ∈ [Exchange.definition name (service.definition name state).1],
          service.Gives exchange := List.forall_mem_singleton.mpr ⟨state, rfl⟩
      refine ⟨_, ?_, ?_, gives⟩
      · intro record
        rcases answered : service.definition name state with ⟨_ | _ | definition, next⟩ <;>
          simp only [SchemaService.recorded, answered]
      · rcases answered : service.definition name state with ⟨_ | _ | definition, next⟩
        · exact .failed isHeld rfl
        · exact .failed isHeld rfl
        · exact .fetched isHeld

/-- A record of resolutions holds what they asked, and changes nothing else. -/
theorem resolveAll_recorded (compiler : Compiler) (service : SchemaService σ)
    (names : List String) (state : σ) :
    ∃ asked, (∀ record, resolveAll service.recorded names compiler (state, record) =
        ((resolveAll service names compiler state).1, (resolveAll service names compiler state).2.1,
          (resolveAll service names compiler state).2.2, record ++ asked)) ∧
      Resolutions compiler names asked (resolveAll service names compiler state).1
        (resolveAll service names compiler state).2.1 ∧
      ∀ exchange ∈ asked, service.Gives exchange := by
  induction names generalizing compiler state with
  | nil =>
      refine ⟨[], fun record => ?_, .nil compiler, List.forall_mem_nil _⟩
      rw [List.append_nil]
      rfl
  | cons name rest ih =>
      obtain ⟨asked, recorded, resolution, given⟩ := compiler.resolve_recorded service name state
      rcases resolved : compiler.resolve service name state with ⟨error | type, next, reached⟩ <;>
        rw [resolved] at recorded resolution <;>
        obtain ⟨following, restRecorded, resolutions, restGiven⟩ := ih next reached <;>
        refine ⟨asked ++ following, fun record => ?_, ?_,
          List.forall_mem_append.mpr ⟨given, restGiven⟩⟩
      · simp only [resolveAll, recorded, restRecorded, resolved, List.append_assoc]
      · simp only [resolveAll, resolved]
        exact .failed resolution resolutions
      · simp only [resolveAll, recorded, restRecorded, resolved, List.append_assoc]
      · simp only [resolveAll, resolved]
        exact .resolved resolution resolutions

/-- What fails among resolutions is what was asked for and not brought. -/
theorem Resolutions.failures_eq {compiler last : Compiler} {names : List String}
    {asked : List Exchange} {failures : List TypeFailure}
    (resolutions : Resolutions compiler names asked failures last) :
    failures = asked.filterMap Exchange.failure? := by
  induction resolutions with
  | nil => rfl
  | resolved first others ih =>
      cases first with
      | held isHeld => exact ih
      | fetched isNew => exact ih
  | failed first others ih =>
      cases first with
      | failed isNew fails => rw [List.singleton_append, List.filterMap_cons_some fails, ih]

/-- Resolutions ask for definitions of the names to resolve. -/
theorem Resolutions.question_mem {compiler last : Compiler} {names : List String}
    {asked : List Exchange} {failures : List TypeFailure}
    (resolutions : Resolutions compiler names asked failures last) :
    ∀ exchange ∈ asked, ∃ name ∈ names, exchange.question = .definition name := by
  have ofFirst : ∀ {compiler next : Compiler} {name : String} {asked : List Exchange}
      {result : Except IntrospectionError TypeInfo}, compiler.Resolution name asked result next →
      ∀ exchange ∈ asked, exchange.question = .definition name := by
    intro compiler next name asked result resolution
    cases resolution with
    | held isHeld => exact List.forall_mem_nil _
    | fetched isNew => exact List.forall_mem_singleton.mpr rfl
    | failed isNew fails => exact List.forall_mem_singleton.mpr rfl
  induction resolutions with
  | nil => exact List.forall_mem_nil _
  | resolved first others ih | failed first others ih =>
      refine List.forall_mem_append.mpr ⟨?_, ?_⟩
      · exact fun exchange mem => ⟨_, List.mem_cons_self, ofFirst first exchange mem⟩
      · intro exchange mem
        obtain ⟨name, isOther, asks⟩ := ih exchange mem
        exact ⟨name, List.mem_cons_of_mem _ isOther, asks⟩

/-! ## What is learned -/

/-- What a compiler has become by exchanges. It holds what it held, and under every other name
the first definition that was brought for it; and it asked for no definition that it had. -/
structure Learned (start : Compiler) (exchanges : List Exchange) (last : Compiler) : Prop where
  marker : last.marker = start.marker
  cache : ∀ name, last.cache.get? name =
    (start.cache.get? name).or ((brought? name exchanges).map (·.compile start.marker))
  unheld : ∀ exchange ∈ exchanges, ∀ name, exchange.question = .definition name →
    start.cache.get? name = none
  once : exchanges.Pairwise fun earlier later => ∀ name, later.question = .definition name →
    earlier.definition? name = none

namespace Learned

variable {start middle last : Compiler} {name : String} {exchanges following : List Exchange}

/-- Nothing is learned from no exchanges. -/
theorem nothing (compiler : Compiler) : Learned compiler [] compiler where
  marker := rfl
  cache name := by simp [brought?]
  unheld := List.forall_mem_nil _
  once := .nil

/-- An exchange from which nothing is learned. -/
theorem ofSingle {exchange : Exchange} (noDefinition : ∀ name, exchange.definition? name = none)
    (unheld : ∀ name, exchange.question = .definition name → start.cache.get? name = none) :
    Learned start [exchange] start where
  marker := rfl
  cache name := by simp [brought?, noDefinition]
  unheld := List.forall_mem_singleton.mpr unheld
  once := List.pairwise_singleton _ _

/-- What is learned in two stretches is learned in one. -/
theorem append (first : Learned start exchanges middle) (second : Learned middle following last) :
    Learned start (exchanges ++ following) last where
  marker := second.marker.trans first.marker
  cache name := by
    rw [second.cache, first.cache, first.marker, Exchange.brought?_append, Option.map_or,
      Option.or_assoc]
  unheld := by
    refine List.forall_mem_append.mpr ⟨first.unheld, fun exchange mem name asks => ?_⟩
    have unheld := second.unheld exchange mem name asks
    rw [first.cache, Option.or_eq_none_iff] at unheld
    exact unheld.1
  once := by
    refine List.pairwise_append.mpr ⟨first.once, second.once, ?_⟩
    intro earlier isEarlier later isLater name asks
    have unheld := second.unheld later isLater name asks
    rw [first.cache, Option.or_eq_none_iff, Option.map_eq_none_iff] at unheld
    exact Exchange.brought?_eq_none_iff.mp unheld.2 earlier isEarlier

/-- What is held stays held as it is. -/
theorem get?_of_held {compiled : CompiledType} (learned : Learned start exchanges last)
    (isHeld : start.cache.get? name = some compiled) : last.cache.get? name = some compiled := by
  rw [learned.cache, isHeld, Option.some_or]

/-- What is held is not asked for. -/
theorem question_ne_of_held {compiled : CompiledType} (learned : Learned start exchanges last)
    (isHeld : start.cache.get? name = some compiled) :
    ∀ exchange ∈ exchanges, exchange.question ≠ .definition name := by
  intro exchange mem asks
  rw [learned.unheld exchange mem name asks] at isHeld
  cases isHeld

end Learned

/-- Resolving a name teaches what it asked for, and holds the name when it succeeds. -/
theorem Resolution.learned {compiler next : Compiler} {name : String} {asked : List Exchange}
    {result : Except IntrospectionError TypeInfo}
    (resolution : compiler.Resolution name asked result next) : Learned compiler asked next := by
  cases resolution with
  | held isHeld => exact .nothing compiler
  | @fetched definition isNew =>
      constructor
      · rfl
      · intro other
        rw [store, SortedMap.get?_insert]
        by_cases same : other = name
        · subst same
          simp [isNew, brought?, Exchange.definition?, Exchange.held?]
        · have differs : ¬ name = other := fun equal => same equal.symm
          simp [same, differs, brought?, Exchange.definition?]
      · refine List.forall_mem_singleton.mpr ?_
        rintro _ ⟨⟩
        exact isNew
      · exact List.pairwise_singleton _ _
  | failed isNew fails =>
      refine .ofSingle (Exchange.definition?_of_failure? fails) ?_
      rintro _ ⟨⟩
      exact isNew

/-- A resolved type is held afterwards. -/
theorem Resolution.isHeld {compiler next : Compiler} {name : String} {asked : List Exchange}
    {type : TypeInfo} (resolution : compiler.Resolution name asked (.ok type) next) :
    ∃ compiled, next.cache.get? name = some compiled ∧ compiled.type = type := by
  cases resolution with
  | held isHeld => exact ⟨_, isHeld, rfl⟩
  | @fetched definition isNew =>
      refine ⟨definition.compile compiler.marker, ?_, rfl⟩
      rw [store, SortedMap.get?_insert, if_pos rfl]

/-- What is held after resolving a name, and was not before, is what came of it. -/
theorem Resolution.result_of_held {compiler next : Compiler} {name other : String}
    {asked : List Exchange} {result : Except IntrospectionError TypeInfo} {compiled : CompiledType}
    (resolution : compiler.Resolution name asked result next)
    (isNew : compiler.cache.get? other = none) (isHeld : next.cache.get? other = some compiled) :
    other = name ∧ result = .ok compiled.type := by
  cases resolution with
  | held | failed => exact absurd (isNew.symm.trans isHeld) (Option.some_ne_none _).symm
  | fetched =>
      rw [store, SortedMap.get?_insert] at isHeld
      by_cases same : other = name
      · rw [if_pos same] at isHeld
        cases isHeld
        exact ⟨same, rfl⟩
      · rw [if_neg same, isNew] at isHeld
        cases isHeld

/-- Resolving names one after another learns from what is asked. -/
theorem Resolutions.learned {compiler last : Compiler} {names : List String}
    {asked : List Exchange} {failures : List TypeFailure}
    (resolutions : Resolutions compiler names asked failures last) :
    Learned compiler asked last := by
  induction resolutions with
  | nil compiler => exact .nothing compiler
  | resolved first others ih | failed first others ih => exact first.learned.append ih

end Compiler

end CatalogSql
