import CatalogSql.Planning.Statements
import CatalogSql.Proofs.Json.Objects
import Mathlib

/-!
# Inputs from texts and from steps

A condition and a payload are read from a text as from the json object in it. Both are made of
the entries that were given since an object was last read: a payload keeps the keys in the order
in which they were first given, a condition in the order of their bytes, and each key holds what
was given last for it. So a condition does not tell in which order its keys were given, and
neither do the statements planned with it.
-/

namespace CatalogSql

open Json (Decoder)

/-! ## What conditions and payloads have in common -/

/-- A kind of input: how it is read, and how inputs are given to it under keys. -/
structure InputForm (Γ : Type) where
  empty : Γ
  set : Γ → String → Json → Γ
  unset : Γ → String → Γ
  insert : Γ → String → Input → Γ
  ofJson : Json → Except RequestError Γ
  ofText : String → Except Json.TextFault Γ
  entries : Γ → List (String × Input)

/-- Conditions as a kind of input. -/
def Condition.form : InputForm Condition where
  empty := .empty
  set := Condition.set
  unset := Condition.unset
  insert := Condition.insert
  ofJson := Condition.ofJson
  ofText := Condition.ofText
  entries condition := condition.entries.entries

/-- Payloads as a kind of input. -/
def Payload.form : InputForm Payload where
  empty := .empty
  set := Payload.set
  unset := Payload.unset
  insert := Payload.insert
  ofJson := Payload.ofJson
  ofText := Payload.ofText
  entries payload := payload.entries.entries

/-- One step of making an input. Reading a json value starts over. -/
inductive InputStep where
  | set (key : String) (value : Json)
  | unset (key : String)
  | insert (key : String) (input : Input)
  | ofJson (value : Json)

/-- The entries of an object, each of them set. -/
def Input.setAll (entries : List (String × Json)) : List (String × Input) :=
  entries.map fun entry => (entry.1, .value entry.2)

namespace InputStep

/-- Whether a step reads an object, if it reads a value at all. -/
def ReadsObject : InputStep → Prop
  | .ofJson value => ∃ entries, value = .object entries
  | _ => True

/-- The entries given since the last object after a further step. -/
def givenAfter (given : List (String × Input)) : InputStep → List (String × Input)
  | .set key value => given ++ [(key, .value value)]
  | .unset key => given ++ [(key, .unset)]
  | .insert key input => given ++ [(key, input)]
  | .ofJson (.object entries) => Input.setAll entries
  | .ofJson _ => given

/-- The entries that steps give since they last read an object, those of the object included. -/
def given (steps : List InputStep) : List (String × Input) := steps.foldl givenAfter []

end InputStep

namespace InputForm

variable {Γ : Type}

/-- The input after a step. -/
def take (form : InputForm Γ) (input : Γ) : InputStep → Except RequestError Γ
  | .set key value => .ok (form.set input key value)
  | .unset key => .ok (form.unset input key)
  | .insert key given => .ok (form.insert input key given)
  | .ofJson value => form.ofJson value

/-- The input that steps make from the empty one, unless one of them fails. -/
def run (form : InputForm Γ) (steps : List InputStep) : Except RequestError Γ :=
  steps.foldlM form.take form.empty

/-- The input after a step that leaves it as it is when it fails. -/
def takeOrKeep (form : InputForm Γ) (input : Γ) (step : InputStep) : Γ :=
  match form.take input step with
  | .ok next => next
  | .error _ => input

/-- The input that steps make from the empty one, passing over those that fail. -/
def after (form : InputForm Γ) (steps : List InputStep) : Γ :=
  steps.foldl form.takeOrKeep form.empty

/-- An input is read from a text exactly when the text parses to an object. It is then the one
that is read from the object, and it holds the entries of the object, each of them set. -/
structure ReadsText (form : InputForm Γ) (text : String) : Prop where
  succeeds_iff : (∃ input, form.ofText text = .ok input) ↔
    ∃ entries, Json.ofText text = .ok (.object entries)
  agrees : ∀ value input, Json.ofText text = .ok value →
    (form.ofText text = .ok input ↔ form.ofJson value = .ok input)
  isSet : ∀ entries input, Json.ofText text = .ok (.object entries) →
    form.ofText text = .ok input → ∀ key given,
      (key, given) ∈ form.entries input ↔ ∃ value, (key, value) ∈ entries ∧ given = .value value

/-- Steps make an input that holds the entries given since an object was last read, in its own
way of holding them. Only a step that reads a value that is no object fails. -/
structure FollowsSteps (form : InputForm Γ) (Holds : Γ → List (String × Input) → Prop)
    (steps : List InputStep) : Prop where
  run_eq_ok_iff : ∀ input, form.run steps = .ok input ↔
    (∀ step ∈ steps, step.ReadsObject) ∧ form.after steps = input
  holds : Holds (form.after steps) (InputStep.given steps)

/-- A form whose inputs are made of entries given one after another, of which the last under
each key counts. -/
structure Makes (form : InputForm Γ) (make : List (String × Input) → Γ) : Prop where
  empty : make [] = form.empty
  insert : ∀ given key input, make (given ++ [(key, input)]) = form.insert (make given) key input
  set : ∀ input key value, form.set input key value = form.insert input key (.value value)
  unset : ∀ input key, form.unset input key = form.insert input key .unset
  ofJson_eq_ok_iff : ∀ value input, form.ofJson value = .ok input ↔
    ∃ entries, value = .object entries ∧ make (Input.setAll entries) = input
  ofText : ∀ text, form.ofText text =
    (Json.decodeText (Decoder.entries Decoder.json) text).map fun given =>
      make (Input.setAll given)
  putAll : ∀ given, make (Keyed.putAll given []) = make given
  mem_entries_iff : ∀ given key input,
    (key, input) ∈ form.entries (make given) ↔ Keyed.lastGiven given key = some input

namespace Makes

variable {form : InputForm Γ} {make : List (String × Input) → Γ}

/-! ## Steps -/

/-- A step succeeds unless it reads a value that is no object, and gives its entries. -/
theorem take_eq_ok_iff (makes : form.Makes make) {given : List (String × Input)}
    {step : InputStep} {next : Γ} :
    form.take (make given) step = .ok next ↔
      step.ReadsObject ∧ make (InputStep.givenAfter given step) = next := by
  cases step with
  | set key value =>
      rw [take, makes.set, ← makes.insert, Except.ok.injEq]
      exact (iff_of_eq (true_and _)).symm
  | unset key =>
      rw [take, makes.unset, ← makes.insert, Except.ok.injEq]
      exact (iff_of_eq (true_and _)).symm
  | insert key input =>
      rw [take, ← makes.insert, Except.ok.injEq]
      exact (iff_of_eq (true_and _)).symm
  | ofJson value =>
      rw [take, makes.ofJson_eq_ok_iff]
      constructor
      · rintro ⟨entries, rfl, isMade⟩
        exact ⟨⟨entries, rfl⟩, isMade⟩
      · rintro ⟨⟨entries, rfl⟩, isMade⟩
        exact ⟨entries, rfl, isMade⟩

/-- A step leaves the input made of what is given after it. -/
theorem takeOrKeep_make (makes : form.Makes make) (given : List (String × Input))
    (step : InputStep) :
    form.takeOrKeep (make given) step = make (InputStep.givenAfter given step) := by
  unfold takeOrKeep
  split
  · rename_i next taken
    exact (makes.take_eq_ok_iff.mp taken).2.symm
  · rename_i error failed
    have noObject : ¬ step.ReadsObject := by
      intro reads
      cases failed.symm.trans (makes.take_eq_ok_iff.mpr ⟨reads, rfl⟩)
    cases step with
    | ofJson value =>
        cases value with
        | object entries => exact absurd ⟨entries, rfl⟩ noObject
        | _ => rfl
    | _ => exact absurd trivial noObject

/-- Steps make the input of the entries given since an object was last read. -/
theorem after_eq (makes : form.Makes make) (steps : List InputStep) :
    form.after steps = make (InputStep.given steps) := by
  rw [after, ← makes.empty]
  exact List.foldl_hom make fun given step => makes.takeOrKeep_make given step

/-- Steps succeed unless one of them reads a value that is no object. -/
theorem run_eq_ok_iff (makes : form.Makes make) {steps : List InputStep} {input : Γ} :
    form.run steps = .ok input ↔
      (∀ step ∈ steps, step.ReadsObject) ∧ form.after steps = input := by
  suffices carried : ∀ given, steps.foldlM form.take (make given) = .ok input ↔
      (∀ step ∈ steps, step.ReadsObject) ∧ steps.foldl form.takeOrKeep (make given) = input by
    rw [run, after, ← makes.empty]
    exact carried []
  induction steps with
  | nil =>
      intro given
      exact ⟨fun same => ⟨List.forall_mem_nil _, Except.ok.inj same⟩, fun same => congrArg _ same.2⟩
  | cons step rest ih =>
      intro given
      rw [List.foldlM_cons, bind_eq_ok_iff, List.foldl_cons, List.forall_mem_cons, and_assoc,
        makes.takeOrKeep_make, ← ih]
      constructor
      · rintro ⟨next, taken, later⟩
        obtain ⟨reads, rfl⟩ := makes.take_eq_ok_iff.mp taken
        exact ⟨reads, later⟩
      · rintro ⟨reads, later⟩
        exact ⟨_, makes.take_eq_ok_iff.mpr ⟨reads, rfl⟩, later⟩

/-- What holds of every input that is made holds after any steps. -/
theorem followsSteps (makes : form.Makes make) {Holds : Γ → List (String × Input) → Prop}
    (holds : ∀ given, Holds (make given) given) (steps : List InputStep) :
    form.FollowsSteps Holds steps :=
  ⟨fun _ => makes.run_eq_ok_iff, makes.after_eq steps ▸ holds _⟩

/-! ## Texts -/

/-- Entries that are set are collected as their values are. -/
theorem make_setAll_putAll (makes : form.Makes make) (given : List (String × Json)) :
    make (Input.setAll (Keyed.putAll given [])) = make (Input.setAll given) := by
  have collected : Input.setAll (Keyed.putAll given []) = Keyed.putAll (Input.setAll given) [] :=
    (Keyed.putAll_map Input.value given []).symm
  rw [collected, makes.putAll]

/-- Only the text of an object is an input, with every entry set. -/
theorem ofText_eq_ok_iff (makes : form.Makes make) {text : String} {input : Γ} :
    form.ofText text = .ok input ↔
      ∃ entries, Json.ofText text = .ok (.object entries) ∧
        make (Input.setAll entries) = input := by
  rw [makes.ofText, map_eq_ok_iff]
  constructor
  · rintro ⟨given, decoded, isMade⟩
    exact ⟨_, Json.ofText_eq_object_iff.mpr ⟨given, decoded, rfl⟩,
      (makes.make_setAll_putAll given).trans isMade⟩
  · rintro ⟨entries, parsed, isMade⟩
    obtain ⟨given, decoded, rfl⟩ := Json.ofText_eq_object_iff.mp parsed
    exact ⟨given, decoded, (makes.make_setAll_putAll given).symm.trans isMade⟩

/-- An input is read from a text as from the json value it shows. -/
theorem readsText (makes : form.Makes make) (text : String) : form.ReadsText text where
  succeeds_iff := by
    constructor
    · rintro ⟨input, isRead⟩
      obtain ⟨entries, parsed, -⟩ := makes.ofText_eq_ok_iff.mp isRead
      exact ⟨entries, parsed⟩
    · rintro ⟨entries, parsed⟩
      exact ⟨_, makes.ofText_eq_ok_iff.mpr ⟨entries, parsed, rfl⟩⟩
  agrees := by
    intro value input parsed
    rw [makes.ofText_eq_ok_iff, makes.ofJson_eq_ok_iff, parsed]
    simp only [Except.ok.injEq]
  isSet := by
    intro entries input parsed isRead key given
    obtain ⟨_, again, rfl⟩ := makes.ofText_eq_ok_iff.mp isRead
    cases parsed.symm.trans again
    obtain ⟨collected, -, rfl⟩ := Json.ofText_eq_object_iff.mp parsed
    have distinct : (Keyed.keys (Input.setAll (Keyed.putAll collected []))).Nodup := by
      rw [Input.setAll, Keyed.keys, List.map_map]
      exact Keyed.nodup_keys_putAll_nil collected
    rw [makes.mem_entries_iff, Keyed.lastGiven_eq_some_iff distinct, Input.setAll, List.mem_map]
    constructor
    · rintro ⟨entry, mem, ⟨⟩⟩
      exact ⟨entry.2, mem, rfl⟩
    · rintro ⟨value, mem, rfl⟩
      exact ⟨(key, value), mem, rfl⟩

end Makes

end InputForm

/-! ## The two kinds -/

/-- Reading the entries of a text as set inputs is reading their values. -/
theorem Input.decodeText_entries {Γ : Type} (make : List (String × Input) → Γ) (text : String) :
    Json.decodeText (fun origin node => (Decoder.entries Input.decoder origin node).map make) text =
      (Json.decodeText (Decoder.entries Decoder.json) text).map fun given =>
        make (Input.setAll given) := by
  rw [← Json.decodeText_map]
  refine congrArg (Json.decodeText · text) (funext fun origin => funext fun node => ?_)
  have set : Decoder.entries Input.decoder origin node = _ :=
    Decoder.entries_map Decoder.json Input.value origin node
  rw [set]
  cases Decoder.entries Decoder.json origin node <;> rfl

/-- The condition of entries given one after another. -/
def Condition.ofInputs (given : List (String × Input)) : Condition := ⟨.ofList given⟩

/-- The payload of entries given one after another. -/
def Payload.ofInputs (given : List (String × Input)) : Payload := ⟨.ofList given⟩

/-- Conditions are made of given inputs. -/
theorem Condition.makes : Condition.form.Makes Condition.ofInputs where
  empty := rfl
  insert given key input := by
    refine congrArg Condition.mk ?_
    rw [SortedMap.ofList, List.foldl_append]
    rfl
  set _ _ _ := rfl
  unset _ _ := rfl
  ofJson_eq_ok_iff value input := by
    cases value with
    | object entries => simp [form, ofJson, ofInputs, Input.setAll]
    | _ => simp [form, ofJson]
  ofText text := by
    rw [← Input.decodeText_entries]
    refine congrArg (Json.decodeText · text) (funext fun origin => funext fun node => ?_)
    rw [decoder, Decoder.sortedMap]
    cases Decoder.entries Input.decoder origin node <;> rfl
  putAll given := by
    refine congrArg Condition.mk (Keyed.ext_get? fun key => ?_)
    rw [Keyed.get?_ofList, Keyed.get?_ofList, Keyed.lastGiven_putAll_nil]
  mem_entries_iff := Keyed.mem_entries_ofList_iff

/-- Payloads are made of given inputs. -/
theorem Payload.makes : Payload.form.Makes Payload.ofInputs where
  empty := rfl
  insert given key input := by
    refine congrArg Payload.mk ?_
    rw [OrderedMap.ofList, List.foldl_append]
    rfl
  set _ _ _ := rfl
  unset _ _ := rfl
  ofJson_eq_ok_iff value input := by
    cases value with
    | object entries => simp [form, ofJson, ofInputs, Input.setAll]
    | _ => simp [form, ofJson]
  ofText text := by
    rw [← Input.decodeText_entries]
    refine congrArg (Json.decodeText · text) (funext fun origin => funext fun node => ?_)
    rw [decoder, Decoder.orderedMap]
    cases Decoder.entries Input.decoder origin node <;> rfl
  putAll given := by
    rw [← Keyed.entries_ofList, ofInputs, OrderedMap.ofList_entries]
    rfl
  mem_entries_iff given key input := by
    have distinct := Keyed.nodup_keys_putAll_nil given
    change (key, input) ∈ (OrderedMap.ofList given).entries ↔ _
    rw [Keyed.entries_ofList, ← Keyed.lastGiven_eq_some_iff distinct, Keyed.lastGiven_putAll_nil]

/-! ## What inputs hold -/

/-- A condition that holds each key once, in ascending order of the bytes, with the input given
last for it. -/
structure Condition.Holds (condition : Condition) (given : List (String × Input)) : Prop where
  ascending : (condition.entries.keys.map Keyed.bytes).Pairwise (· < ·)
  last : ∀ key, condition.entries.get? key = Keyed.lastGiven given key

/-- A payload that holds each key once, in the order in which the keys were first given, with
the input given last for it. -/
structure Payload.Holds (payload : Payload) (given : List (String × Input)) : Prop where
  distinct : payload.entries.keys.Nodup
  keys : payload.entries.keys = (Keyed.keys given).eraseDups
  last : ∀ key, payload.get? key = Keyed.lastGiven given key

/-- A condition holds what it is made of. -/
theorem Condition.ofInputs_holds (given : List (String × Input)) : (ofInputs given).Holds given :=
  ⟨Keyed.ascending_bytes _, Keyed.get?_ofList given⟩

/-- A payload holds what it is made of. -/
theorem Payload.ofInputs_holds (given : List (String × Input)) :
    (ofInputs given).Holds given where
  distinct := (OrderedMap.ofList given).distinct
  keys := by
    rw [OrderedMap.keys, ofInputs, Keyed.entries_ofList, Keyed.keys_putAll_eraseDups,
      Keyed.keys_nil, List.nil_append]
    exact congrArg List.eraseDups (List.filter_eq_self.mpr fun _ _ => by simp)
  last key := by
    rw [get?, OrderedMap.get?, ofInputs, Keyed.entries_ofList, Keyed.lookup?_putAll_lastGiven]
    exact Option.or_none ..

/-- Conditions that hold the same inputs under the same keys are equal. -/
theorem Condition.Holds.unique {condition other : Condition} {given others : List (String × Input)}
    (holds : condition.Holds given) (holdsOthers : other.Holds others)
    (sameLast : ∀ key, Keyed.lastGiven given key = Keyed.lastGiven others key) :
    condition = other := by
  obtain ⟨entries⟩ := condition
  obtain ⟨otherEntries⟩ := other
  refine congrArg Condition.mk (Keyed.ext_get? fun key => ?_)
  exact (holds.last key).trans ((sameLast key).trans (holdsOthers.last key).symm)

/-- Conditions with which the same statements are planned, with the same texts and values. -/
structure Condition.TranslatesLike (condition other : Condition) : Prop where
  select : ∀ (scope : Scope) tableName selection limit,
    scope.planSelect tableName condition selection limit =
      scope.planSelect tableName other selection limit
  update : ∀ (scope : Scope) tableName payload,
    scope.planUpdate tableName condition payload = scope.planUpdate tableName other payload
  deletion : ∀ (scope : Scope) tableName,
    scope.planDelete tableName condition = scope.planDelete tableName other

theorem Condition.TranslatesLike.refl (condition : Condition) :
    condition.TranslatesLike condition :=
  ⟨fun _ _ _ _ => rfl, fun _ _ _ => rfl, fun _ _ => rfl⟩

/-- Conditions and payloads are read from a text exactly when it parses to an object, as they are
read from the object, with every entry set. After any steps they hold each key once, with the
input given last for it since an object was last read: a payload in the order in which the keys
were first given since, a condition in ascending order of their bytes. Steps that give the same
inputs last make the same condition, with which the same statements are planned. -/
theorem inputs_of_texts_and_steps :
    (∀ text, Condition.form.ReadsText text ∧ Payload.form.ReadsText text) ∧
      (∀ steps, Condition.form.FollowsSteps Condition.Holds steps ∧
        Payload.form.FollowsSteps Payload.Holds steps) ∧
      ∀ steps others, (∀ key, Keyed.lastGiven (InputStep.given steps) key =
          Keyed.lastGiven (InputStep.given others) key) →
        Condition.form.after steps = Condition.form.after others ∧
          (Condition.form.after steps).TranslatesLike (Condition.form.after others) := by
  have conditions := Condition.makes.followsSteps Condition.ofInputs_holds
  have payloads := Payload.makes.followsSteps Payload.ofInputs_holds
  refine ⟨fun text => ⟨Condition.makes.readsText text, Payload.makes.readsText text⟩,
    fun steps => ⟨conditions steps, payloads steps⟩, ?_⟩
  intro steps others sameLast
  have same : Condition.form.after steps = Condition.form.after others :=
    (conditions steps).holds.unique (conditions others).holds sameLast
  exact ⟨same, same ▸ .refl _⟩

/-- A text gives a key twice and another key null; steps give the same, in two orders. -/
theorem inputs_of_texts_and_steps_repeated :
    let text := "\x7b\"b\":\"x\",\"a\":null,\"b\":\"y\"\x7d"
    let steps : List InputStep := [.unset "c",
      .ofJson (.object [("b", .string "x"), ("a", .null)]), .set "c" (.string "z"),
      .set "b" (.string "y")]
    let others : List InputStep := [.insert "c" (.value (.string "z")), .set "a" .null,
      .unset "b", .set "b" (.string "y")]
    (∃ payload, Payload.ofText text = .ok payload ∧
        ("a", .value .null) ∈ payload.entries.entries) ∧
      (∃ payload, Payload.form.run steps = .ok payload ∧
        payload.entries.keys = ["b", "a", "c"]) ∧
      ∃ condition, Condition.form.run steps = .ok condition ∧
        Condition.form.run others = .ok condition := by
  intro text steps others
  have parsed : Json.ofText text = .ok (.object [("b", .string "y"), ("a", .null)]) := by cbv
  have reads : ∀ step ∈ steps, step.ReadsObject := by
    simp [steps, InputStep.ReadsObject]
  have othersRead : ∀ step ∈ others, step.ReadsObject := by
    simp [others, InputStep.ReadsObject]
  have last : ∀ key, Keyed.lastGiven (InputStep.given steps) key =
      Keyed.lastGiven (InputStep.given others) key := by
    intro key
    simp only [steps, others, InputStep.given, InputStep.givenAfter, Input.setAll,
      Keyed.lastGiven, Keyed.lookup?, List.foldl, List.map, List.nil_append, List.cons_append,
      List.reverse, List.reverseAux]
    grind
  obtain ⟨texts, follows, sameLast⟩ := inputs_of_texts_and_steps
  obtain ⟨same, -⟩ := sameLast steps others last
  refine ⟨?_, ⟨_, ((follows steps).2.run_eq_ok_iff _).mpr ⟨reads, rfl⟩, ?_⟩,
    ⟨_, ((follows steps).1.run_eq_ok_iff _).mpr ⟨reads, rfl⟩,
      ((follows others).1.run_eq_ok_iff _).mpr ⟨othersRead, same.symm⟩⟩⟩
  · obtain ⟨payload, isRead⟩ := (texts text).2.succeeds_iff.mpr ⟨_, parsed⟩
    exact ⟨payload, isRead, ((texts text).2.isSet _ payload parsed isRead "a" _).mpr
      ⟨.null, by simp, rfl⟩⟩
  · exact (follows steps).2.holds.keys.trans rfl

end CatalogSql
