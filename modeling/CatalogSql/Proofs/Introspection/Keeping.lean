import CatalogSql.Proofs.Introspection.Calls

/-!
# Types are asked for until they are known

A compiler that has resolved a type keeps it as it is and never asks for it again, whatever
its service would answer later. When the answers stay as they are, compiling once more asks
for the types that failed and changes nothing.
-/

namespace CatalogSql.Compiler

open Exchange (brought?)

variable {σ : Type}

/-! ## Fixed answers -/

/-- The answers of exchanges to questions for definitions, as far as these were asked. -/
def Agree (answers : String → Except IntrospectionError (Option TypeDefinition))
    (exchanges : List Exchange) : Prop :=
  ∀ name answer, Exchange.definition name answer ∈ exchanges → answer = answers name

theorem Agree.mono {answers : String → Except IntrospectionError (Option TypeDefinition)}
    {exchanges others : List Exchange} (agree : Agree answers others)
    (included : exchanges ⊆ others) : Agree answers exchanges :=
  fun name answer mem => agree name answer (included mem)

/-- Exchanges in which no question is answered in two ways. -/
def Steady (exchanges : List Exchange) : Prop :=
  ∀ first ∈ exchanges, ∀ second ∈ exchanges, first.question = second.question → first = second

/-- Exchanges in which no question is answered in two ways agree with one set of answers. -/
theorem Steady.agree {exchanges : List Exchange} (steady : Steady exchanges) :
    ∃ answers, Agree answers exchanges := by
  have each : ∀ name, ∃ answer, ∀ other, Exchange.definition name other ∈ exchanges →
      other = answer := by
    intro name
    by_cases asked : ∃ answer, Exchange.definition name answer ∈ exchanges
    · obtain ⟨answer, mem⟩ := asked
      refine ⟨answer, fun other isOther => ?_⟩
      exact (Exchange.definition.inj (steady _ isOther _ mem rfl)).2
    · exact ⟨.ok none, fun other isOther => absurd ⟨other, isOther⟩ asked⟩
  choose answers agree using each
  exact ⟨answers, agree⟩

section Agreeing

variable {compiler next last : Compiler} {name : String} {names : List String}
  {asked : List Exchange} {result : Except IntrospectionError TypeInfo}
  {failures : List TypeFailure}
  {answers : String → Except IntrospectionError (Option TypeDefinition)}

/-- The definition of a name as it enters a catalog, if there is one. -/
def compiled? (marker : String)
    (answers : String → Except IntrospectionError (Option TypeDefinition)) (name : String) :
    Option CompiledType :=
  (Exchange.held? (answers name)).map (·.compile marker)

/-- The failure of a name when it is not held. -/
def refusal? (compiler : Compiler)
    (answers : String → Except IntrospectionError (Option TypeDefinition)) (name : String) :
    Option TypeFailure :=
  if (compiler.cache.get? name).isSome then none
  else (Exchange.definition name (answers name)).failure?

/-- With fixed answers, resolving a name adds its definition. -/
theorem Resolution.get?_of_agree (resolution : compiler.Resolution name asked result next)
    (agree : Agree answers asked) (other : String) :
    next.cache.get? other = (compiler.cache.get? other).or
      (if other = name then compiled? compiler.marker answers name else none) := by
  cases resolution with
  | held isHeld =>
      by_cases same : other = name
      · rw [same, isHeld, Option.some_or]
      · rw [if_neg same, Option.or_none]
  | fetched isNew =>
      have isAnswer := agree _ _ List.mem_cons_self
      rw [store, SortedMap.get?_insert]
      by_cases same : other = name
      · rw [if_pos same, if_pos same, same, isNew, compiled?, ← isAnswer]
        rfl
      · rw [if_neg same, if_neg same, Option.or_none]
  | @failed answer error isNew fails =>
      have isAnswer := agree _ _ List.mem_cons_self
      have nothing : compiled? compiler.marker answers name = none := by
        rw [compiled?, ← isAnswer, Option.map_eq_none_iff]
        rcases Exchange.failure?_cases name answer with ⟨definition, -, succeeds⟩ | ⟨unheld, -⟩
        · rw [succeeds] at fails
          cases fails
        · exact unheld
      rw [nothing, ite_self, Option.or_none]

/-- With fixed answers, a resolution fails where the name is not held and has no definition. -/
theorem Resolution.refusal?_of_agree (resolution : compiler.Resolution name asked result next)
    (agree : Agree answers asked) :
    refusal? compiler answers name = match result with
      | .ok _ => none
      | .error error => some ⟨name, error⟩ := by
  cases resolution with
  | held isHeld => rw [refusal?, isHeld]; rfl
  | fetched isNew => rw [refusal?, isNew, ← agree _ _ List.mem_cons_self]; rfl
  | failed isNew fails => rw [refusal?, isNew, ← agree _ _ List.mem_cons_self]; exact fails

/-- A name fails as before when nothing but its definition was added under it. -/
theorem refusal?_of_added {marker : String}
    (added : next.cache.get? name =
      (compiler.cache.get? name).or (compiled? marker answers name)) :
    refusal? next answers name = refusal? compiler answers name := by
  rw [refusal?, refusal?, added]
  cases compiler.cache.get? name with
  | some compiled => rfl
  | none =>
      rw [Option.none_or, compiled?]
      rcases Exchange.failure?_cases name (answers name) with
        ⟨definition, isHeld, succeeds⟩ | ⟨unheld, -⟩
      · rw [isHeld, succeeds]
        rfl
      · rw [unheld]
        rfl

/-- With fixed answers, a name that was resolved fails afterwards where it failed before. -/
theorem Resolution.refusal?_eq (resolution : compiler.Resolution name asked result next)
    (agree : Agree answers asked) : refusal? next answers = refusal? compiler answers := by
  funext other
  have added := resolution.get?_of_agree agree other
  by_cases same : other = name
  · subst same
    rw [if_pos rfl] at added
    exact refusal?_of_added added
  · rw [if_neg same, Option.or_none] at added
    rw [refusal?, refusal?, added]

/-- With fixed answers a compiler holds, after names were resolved, what it held and the
definitions of those names. -/
theorem Resolutions.get?_of_agree (resolutions : Resolutions compiler names asked failures last)
    (agree : Agree answers asked) (name : String) :
    last.cache.get? name = (compiler.cache.get? name).or
      (if name ∈ names then compiled? compiler.marker answers name else none) := by
  induction resolutions with
  | nil compiler => rw [if_neg List.not_mem_nil, Option.or_none]
  | @resolved _ _ _ resolvedName rest _ _ _ _ first others ih
  | @failed _ _ _ resolvedName rest _ _ _ _ first others ih =>
      have inFirst := first.get?_of_agree (agree.mono (List.subset_append_left _ _)) name
      rw [ih (agree.mono (List.subset_append_right _ _)), inFirst, first.learned.marker,
        Option.or_assoc]
      by_cases same : name = resolvedName
      · subst same
        by_cases isOther : name ∈ rest <;> simp [isOther]
      · simp [same]

/-- With fixed answers, the failures are those of the names that were not held. -/
theorem Resolutions.failures_of_agree
    (resolutions : Resolutions compiler names asked failures last) (agree : Agree answers asked) :
    failures = names.filterMap (refusal? compiler answers) := by
  induction resolutions with
  | nil => rfl
  | resolved first others ih =>
      have noRefusal := first.refusal?_of_agree (agree.mono (List.subset_append_left _ _))
      rw [List.filterMap_cons_none noRefusal, ih (agree.mono (List.subset_append_right _ _)),
        first.refusal?_eq (agree.mono (List.subset_append_left _ _))]
  | failed first others ih =>
      have refused := first.refusal?_of_agree (agree.mono (List.subset_append_left _ _))
      rw [List.filterMap_cons_some refused, ih (agree.mono (List.subset_append_right _ _)),
        first.refusal?_eq (agree.mono (List.subset_append_left _ _))]

/-- With fixed answers, names that failed fail again, and nothing else is asked for. -/
theorem Resolutions.again {middle start : Compiler} {askedAgain : List Exchange}
    {failuresAgain : List TypeFailure}
    (first : Resolutions compiler names asked failures middle)
    (second : Resolutions start names askedAgain failuresAgain last)
    (sameCache : start.cache = middle.cache) (agree : Agree answers (asked ++ askedAgain)) :
    failuresAgain = failures ∧ last.cache = start.cache ∧
      askedAgain.map (·.question) = failures.map fun failure => .definition failure.type := by
  have agreeFirst := agree.mono (List.subset_append_left _ _)
  have agreeSecond := agree.mono (List.subset_append_right _ _)
  have added : ∀ name ∈ names, start.cache.get? name =
      (compiler.cache.get? name).or (compiled? compiler.marker answers name) := by
    intro name mem
    rw [sameCache, first.get?_of_agree agreeFirst, if_pos mem]
  -- A name that is asked for again has no definition: otherwise it would be held by now.
  have refused : ∀ exchange ∈ askedAgain, ∃ name error, exchange.question = .definition name ∧
      exchange.failure? = some ⟨name, error⟩ := by
    intro exchange mem
    obtain ⟨name, isListed, asks⟩ := second.question_mem exchange mem
    have unheld := second.learned.unheld exchange mem name asks
    rw [added name isListed, Option.or_eq_none_iff, compiled?, Option.map_eq_none_iff] at unheld
    cases exchange with
    | typeNames answer => cases asks
    | definition asked answer =>
        cases asks
        rw [← agreeSecond _ _ mem] at unheld
        rcases Exchange.failure?_cases name answer with ⟨definition, isHeld, -⟩ | ⟨-, error, fails⟩
        · cases isHeld.symm.trans unheld.2
        · exact ⟨name, error, rfl, fails⟩
  have sameFailures : failuresAgain = failures := by
    rw [second.failures_of_agree agreeSecond, first.failures_of_agree agreeFirst]
    exact List.filterMap_congr fun name mem => refusal?_of_added (added name mem)
  refine ⟨sameFailures, ?_, ?_⟩
  · refine Keyed.ext_get? fun name => ?_
    have nothing : brought? name askedAgain = none := by
      refine Exchange.brought?_eq_none_iff.mpr fun exchange mem => ?_
      obtain ⟨failed, error, -, fails⟩ := refused exchange mem
      exact Exchange.definition?_of_failure? fails name
    rw [second.learned.cache, nothing, Option.map_none, Option.or_none]
  · rw [← sameFailures, second.failures_eq]
    clear second agree agreeSecond
    induction askedAgain with
    | nil => rfl
    | cons exchange rest ih =>
        obtain ⟨⟨name, error, asks, fails⟩, others⟩ := List.forall_mem_cons.mp refused
        rw [List.map_cons, List.filterMap_cons_some fails, List.map_cons, asks, ih others]

end Agreeing

/-- A compile that comes after another one with the same answers gives the same catalog and the
same report. It asks for the names that failed. -/
theorem Called.again {compiler middle last : Compiler} {asked askedAgain : List Exchange}
    {result resultAgain : Except IntrospectionError Catalog}
    (first : compiler.Called .compile asked (.catalog result) middle)
    (second : middle.Called .compile askedAgain (.catalog resultAgain) last)
    (steady : Steady (asked ++ askedAgain)) :
    resultAgain = result ∧ last.report = middle.report ∧
      ∀ catalog, result = .ok catalog → askedAgain.map (·.question) =
        .typeNames :: middle.report.failures.map fun failure => .definition failure.type := by
  obtain ⟨answers, agree⟩ := steady.agree
  have sameListing : ∀ {listing listingAgain rest restAgain}, asked = .typeNames listing :: rest →
      askedAgain = .typeNames listingAgain :: restAgain → listingAgain = listing := by
    intro listing listingAgain rest restAgain isFirst isSecond
    have isAsked : .typeNames listing ∈ asked ++ askedAgain := by simp [isFirst]
    have isAskedAgain : .typeNames listingAgain ∈ asked ++ askedAgain := by simp [isSecond]
    exact Exchange.typeNames.inj (steady _ isAskedAgain _ isAsked rfl)
  cases first with
  | unlisted error =>
      cases second with
      | unlisted errorAgain =>
          cases sameListing rfl rfl
          exact ⟨rfl, rfl, fun catalog isCatalog => by cases isCatalog⟩
      | listed resolutions => cases sameListing rfl rfl
  | @listed names asked failures reached resolutions =>
      cases second with
      | unlisted errorAgain => cases sameListing rfl rfl
      | @listed namesAgain askedAgain failuresAgain reachedAgain resolutionsAgain =>
          cases sameListing rfl rfl
          have agreeDefinitions : Agree answers (asked ++ askedAgain) :=
            agree.mono (List.append_subset.mpr
              ⟨List.subset_append_of_subset_left _ (List.subset_cons_self _ _),
                List.subset_append_of_subset_right _ (List.subset_cons_self _ _)⟩)
          obtain ⟨sameFailures, sameCache, questions⟩ :=
            resolutions.again resolutionsAgain rfl agreeDefinitions
          have sameCatalog : reachedAgain.catalog = reached.catalog := by
            rw [catalog, catalog, sameCache]
          refine ⟨by rw [sameCatalog], ?_, fun _ _ => ?_⟩
          · simp only [reportWith, sameFailures, sameCatalog, sameCache]
          · rw [List.map_cons, questions]
            rfl

/-- A compiler asks for a type until it gets it, and keeps it as it is. Once a name has been
resolved in a call, no later call asks for it, and whoever resolves it later gets the same type.
An exchange that brings nothing leaves what is held, and so does a compile that cannot list the
names. When the answers stay as they are, compiling once more gives the same catalog and the
same report, and asks for the names that failed. -/
theorem types_kept (service : SchemaService σ) (compiler : Compiler) (state : σ) :
    (∀ (made : Call) (later : List Call) (name : String) (type : TypeInfo),
      compiler.Resolves service state made name type →
        let called := compiler.call service state made
        (∀ exchange ∈ exchanges service later called.2.1 called.2.2,
          exchange.question ≠ .definition name) ∧
        List.Forall₂ (fun call answer => call = .resolve name → answer = .type (.ok type)) later
          (run service later called.2.1 called.2.2).1) ∧
    (∀ calls : List Call,
      let asked := exchanges service calls compiler state
      (∀ exchange ∈ asked, ∀ name, exchange.question = .definition name →
        compiler.cache.get? name = none) ∧
      (asked.Pairwise fun earlier later => ∀ name, later.question = .definition name →
        earlier.definition? name = none) ∧
      ∀ name, (run service calls compiler state).2.1.cache.get? name =
        (compiler.cache.get? name).or ((brought? name asked).map (·.compile compiler.marker))) ∧
    (∀ name, (∀ definition, (service.definition name state).1 ≠ .ok (some definition)) →
      (compiler.resolve service name state).2.1 = compiler) ∧
    (∀ error, (service.typeNames state).1 = .error error →
      (compiler.compile service state).1 = .error error ∧
        (compiler.compile service state).2.1 = compiler) ∧
    (let first := compiler.compile service state
      let second := first.2.1.compile service first.2.2
      Steady (exchanges service [.compile, .compile] compiler state) →
        second.1 = first.1 ∧ second.2.1.report = first.2.1.report ∧
          ∀ catalog, first.1 = .ok catalog →
            (exchanges service [.compile] first.2.1 first.2.2).map (·.question) =
              .typeNames :: first.2.1.report.failures.map
                fun failure => .definition failure.type) := by
  refine ⟨?_, ?_, ?_, ?_, ?_⟩
  · intro made later name type resolves called
    obtain ⟨compiled, isHeld, rfl⟩ := resolves.isHeld
    have laterRan := ran service later called.2.1 called.2.2
    exact ⟨laterRan.learned.question_ne_of_held isHeld, laterRan.answers_of_held isHeld⟩
  · intro calls asked
    have learned := (ran service calls compiler state).learned
    exact ⟨learned.unheld, learned.once, learned.cache⟩
  · intro name brings
    unfold resolve
    cases compiler.cache.get? name with
    | some compiled => rfl
    | none =>
        rcases answered : service.definition name state with ⟨_ | _ | definition, reached⟩
        · rfl
        · rfl
        · exact absurd (by rw [answered]) (brings definition)
  · intro error isListed
    rcases listed : service.typeNames state with ⟨answer, reached⟩
    rw [listed] at isListed
    cases isListed
    simp only [compile, listed, and_self]
  · intro first second steady
    rw [exchanges_cons] at steady
    exact (called service .compile compiler state).again
      (called service .compile first.2.1 first.2.2) steady

/-- A schema with one type and one that cannot be fetched, which is listed twice: the second
compile asks for that one alone, twice again. -/
theorem types_kept_blog :
    let user : TypeDefinition := ⟨"User", some ["Node"],
      some [⟨"id", ⟨.nonNull, none, some ⟨.scalar, some "ID", none, none⟩, none⟩⟩], none⟩
    let types : DeclaredTypes := ⟨.ok ["Broken", "User", "__Schema", "Broken"],
      [("User", .ok (some user)), ("Broken", .error .missingData)], []⟩
    let start : Compiler := .new "Node"
    let first := start.compile DeclaredTypes.service types
    let second := first.2.1.compile DeclaredTypes.service first.2.2
    start.Resolves DeclaredTypes.service types .compile "User" (user.compile "Node").type ∧
      (run DeclaredTypes.service [.compile, .resolve "User"] first.2.1 first.2.2).1 =
        [.catalog first.1, .type (.ok (user.compile "Node").type)] ∧
      (∀ exchange ∈ exchanges DeclaredTypes.service [.compile, .resolve "User"] first.2.1 first.2.2,
        exchange.question ≠ .definition "User") ∧
      Steady (exchanges DeclaredTypes.service [.compile, .compile] start types) ∧
      second.1 = first.1 ∧ second.2.1.report = first.2.1.report ∧
      (exchanges DeclaredTypes.service [.compile] first.2.1 first.2.2).map (·.question) =
        [.typeNames, .definition "Broken", .definition "Broken"] := by
  intro user types start first second
  have listed : (["Broken", "User", "__Schema", "Broken"].filter fun name => !isMeta name) =
      ["Broken", "User", "Broken"] := by decide +kernel
  have resolves : start.Resolves DeclaredTypes.service types .compile "User"
      (user.compile "Node").type := by
    refine .listed rfl ?_
    rw [listed]
    exact .later (.first rfl)
  have asked : exchanges DeclaredTypes.service [.compile, .compile] start types =
      [.typeNames types.names, .definition "Broken" (.error .missingData),
        .definition "User" (.ok (some user)), .definition "Broken" (.error .missingData),
        .typeNames types.names, .definition "Broken" (.error .missingData),
        .definition "Broken" (.error .missingData)] := by
    simp only [exchanges, run, call]
    rw [compile_of_listed start rfl listed, compile_of_listed _ rfl listed]
    rfl
  have fromTypes : ∀ exchange ∈ exchanges DeclaredTypes.service [.compile, .compile] start types,
      exchange = .typeNames types.names ∨
        ∃ name, exchange = .definition name (types.definition name) := by
    intro exchange mem
    simp only [asked, List.mem_cons, List.not_mem_nil, or_false] at mem
    rcases mem with rfl | rfl | rfl | rfl | rfl | rfl | rfl
    exacts [.inl rfl, .inr ⟨_, rfl⟩, .inr ⟨_, rfl⟩, .inr ⟨_, rfl⟩, .inl rfl, .inr ⟨_, rfl⟩,
      .inr ⟨_, rfl⟩]
  have steady : Steady (exchanges DeclaredTypes.service [.compile, .compile] start types) := by
    intro one isOne other isOther same
    rcases fromTypes one isOne with rfl | ⟨name, rfl⟩ <;>
      rcases fromTypes other isOther with rfl | ⟨otherName, rfl⟩ <;> cases same <;> rfl
  have isFirst := compile_of_listed start (show DeclaredTypes.service.typeNames types = _ from rfl)
    listed
  have failures : first.2.1.report.failures =
      [⟨"Broken", .missingData⟩, ⟨"Broken", .missingData⟩] := by
    simp only [first, isFirst]
    rfl
  obtain ⟨kept, -, -, -, repeated⟩ := types_kept DeclaredTypes.service start types
  obtain ⟨sameCatalog, sameReport, questions⟩ := repeated steady
  obtain ⟨notAsked, answers⟩ := kept .compile [.compile, .resolve "User"] _ _ resolves
  have answered : (run DeclaredTypes.service [.compile, .resolve "User"] first.2.1 first.2.2).1 =
      [.catalog first.1, .type (.ok (user.compile "Node").type)] := by
    obtain ⟨-, answers⟩ := List.forall₂_cons.mp answers
    refine congrArg₂ List.cons (congrArg Answer.catalog sameCatalog) ?_
    exact congrArg (fun answer => [answer]) ((List.forall₂_cons.mp answers).1 rfl)
  exact ⟨resolves, answered, notAsked, steady, sameCatalog, sameReport,
    (questions _ (congrArg Prod.fst isFirst)).trans (by rw [failures]; rfl)⟩

end CatalogSql.Compiler
