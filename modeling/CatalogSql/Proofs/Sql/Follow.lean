import CatalogSql.Proofs.Sql.Numbered
import CatalogSql.Proofs.Sql.Structure

/-!
# What follows a part

A rendered part is told from what follows it by the words that may come next. `Determined`
says that the tokens of a part, followed by any of those words, fix the part and what
follows; it is proved here for numbers and for lists of parts that are.
-/

namespace CatalogSql.Sql

/-- The tokens of words. -/
def spell (text : String) : List (Token Param) := text.toList.map .character

theorem tokens_words (text : String) (rest : List Piece) :
    tokens (.words text :: rest) = spell text ++ tokens rest := rfl

theorem tokens_identifier (name : String) (rest : List Piece) :
    tokens (.identifier name :: rest) = .identifier name :: tokens rest := rfl

/-- Whether neither of two texts starts with the other. -/
def isApart (left right : String) : Bool :=
  !left.toList.isPrefixOf right.toList && !right.toList.isPrefixOf left.toList

/-- Words that are apart never begin the same tokens. -/
theorem spell_append_ne {left right : String} (apart : isApart left right = true)
    (rest others : List (Token Param)) : spell left ++ rest ≠ spell right ++ others := by
  intro equal
  have injective : Function.Injective (Token.character : Char → Token Param) := by
    intro first second same
    injection same
  have begun : spell left <+: spell right ∨ spell right <+: spell left :=
    List.prefix_or_prefix_of_prefix (List.prefix_append _ rest) (equal ▸ List.prefix_append _ others)
  rw [isApart, Bool.and_eq_true, Bool.not_eq_true', Bool.not_eq_true', ← Bool.not_eq_true,
    ← Bool.not_eq_true, List.isPrefixOf_iff_prefix, List.isPrefixOf_iff_prefix] at apart
  rcases begun with leftFirst | rightFirst
  · exact apart.1 ((List.prefix_map_iff_of_injective injective).mp leftFirst)
  · exact apart.2 ((List.prefix_map_iff_of_injective injective).mp rightFirst)

/-- One of several words, none of which starts with another, is told from what follows. -/
theorem words_append_cancel {Kind : Type} {words : Kind → String}
    (apart : ∀ first second, first ≠ second → isApart (words first) (words second) = true)
    {first second : Kind} {rest others : List (Token Param)}
    (equal : spell (words first) ++ rest = spell (words second) ++ others) :
    first = second ∧ rest = others := by
  obtain rfl : first = second := by
    by_contra differ
    exact spell_append_ne (apart first second differ) rest others equal
  exact ⟨rfl, List.append_cancel_left equal⟩

/-- Tokens that start with one of some words, or are none. -/
def StartsWith (words : List String) (rest : List (Token Param)) : Prop :=
  rest = [] ∨ ∃ word ∈ words, spell word <+: rest

/-- Whether every one of some words starts with one of others. -/
def covers (shorter longer : List String) : Bool :=
  longer.all fun word => shorter.any fun start => start.toList.isPrefixOf word.toList

/-- Words are covered by any words they are among. -/
theorem covers_of_subset {shorter longer : List String} (subset : longer ⊆ shorter) :
    covers shorter longer = true := by
  rw [covers, List.all_eq_true]
  intro word mem
  exact List.any_eq_true.mpr ⟨word, subset mem, List.isPrefixOf_iff_prefix.mpr List.prefix_rfl⟩

namespace StartsWith

variable {words : List String} {rest : List (Token Param)}

theorem nil : StartsWith words [] := .inl rfl

/-- A word that is covered may stand first. -/
theorem spell_append {word : String} (covered : covers words [word] = true)
    (rest : List (Token Param)) : StartsWith words (spell word ++ rest) := by
  obtain ⟨start, mem, begun⟩ : ∃ start ∈ words, start.toList <+: word.toList := by
    simpa [covers] using covered
  refine .inr ⟨start, mem, ?_⟩
  exact (begun.map Token.character).trans (List.prefix_append _ rest)

/-- Tokens that start with some words start with the words that cover them. -/
theorem mono {shorter : List String} (covered : covers shorter words = true)
    (starts : StartsWith words rest) : StartsWith shorter rest := by
  rcases starts with rfl | ⟨word, mem, others, rfl⟩
  · exact .nil
  · refine spell_append ?_ others
    simp only [covers, List.all_eq_true] at covered
    simpa [covers] using covered word mem

/-- Words of another kind start nothing of these. -/
theorem not_spell_append {word : String} (apart : words.all (isApart word) = true)
    (nonempty : word.toList.isEmpty = false) (rest : List (Token Param)) :
    ¬ StartsWith words (spell word ++ rest) := by
  rintro (empty | ⟨other, mem, others, equal⟩)
  · have noWord := List.map_eq_nil_iff.mp (List.append_eq_nil_iff.mp empty).1
    rw [noWord] at nonempty
    cases nonempty
  · exact spell_append_ne (List.all_eq_true.mp apart other mem) rest others equal.symm

end StartsWith

/-- An element whose parts, followed by any of some words, fix the element and what
follows, among all elements that are valid. -/
def Determined {Element : Type} (render : Element → List Piece) (valid : Element → Prop)
    (follow : List String) (element : Element) : Prop :=
  ∀ other rest others, valid other → StartsWith follow rest → StartsWith follow others →
    tokens (render element) ++ rest = tokens (render other) ++ others →
      element = other ∧ rest = others

section Lists

variable {Element : Type} {render : Element → List Piece} {valid : Element → Prop}
  {follow inner : List String} {items : List Element}

/-- What is determined before some words is determined before all they cover. -/
theorem Determined.mono {element : Element} {wider : List String}
    (determined : Determined render valid wider element) (covered : covers wider follow = true) :
    Determined render valid follow element := by
  intro other rest others isValid starts startsOther equal
  exact determined other rest others isValid (starts.mono covered) (startsOther.mono covered) equal

/-- What is determined among many elements is determined among fewer. -/
theorem Determined.restrict {element : Element} {narrower : Element → Prop}
    (determined : Determined render valid follow element)
    (implied : ∀ other, narrower other → valid other) :
    Determined render narrower follow element :=
  fun other rest others isNarrower => determined other rest others (implied other isNarrower)

/-- A list of items starts as its items do, or as what follows it. -/
theorem startsWith_flatMap
    (next : ∀ item rest, StartsWith inner (tokens (render item) ++ rest))
    (covered : covers inner follow = true) {rest : List (Token Param)}
    (starts : StartsWith follow rest) (items : List Element) :
    StartsWith inner (tokens (items.flatMap render) ++ rest) := by
  cases items with
  | nil => exact starts.mono covered
  | cons item items =>
      rw [List.flatMap_cons, tokens_append, List.append_assoc]
      exact next item _

/-- Elements one after another are determined when none of them starts like what follows
them all. -/
theorem determined_flatMap (valid : Element → Prop)
    (noEnd : ∀ item rest, ¬ StartsWith follow (tokens (render item) ++ rest))
    (next : ∀ item rest, StartsWith inner (tokens (render item) ++ rest))
    (covered : covers inner follow = true)
    (each : ∀ item ∈ items, Determined render valid inner item) :
    Determined (fun items => items.flatMap render) (fun items => ∀ item ∈ items, valid item)
      follow items := by
  induction items with
  | nil =>
      intro others rest otherRest _ starts _ equal
      cases others with
      | nil => exact ⟨rfl, equal⟩
      | cons other others =>
          simp only [List.flatMap_nil, tokens_nil, List.nil_append, List.flatMap_cons,
            tokens_append, List.append_assoc] at equal
          exact absurd (equal ▸ starts) (noEnd other _)
  | cons item items ih =>
      intro others rest otherRest isValid starts startsOther equal
      cases others with
      | nil =>
          simp only [List.flatMap_nil, tokens_nil, List.nil_append, List.flatMap_cons,
            tokens_append, List.append_assoc] at equal
          exact absurd (equal.symm ▸ startsOther) (noEnd item _)
      | cons other others =>
          simp only [List.flatMap_cons, tokens_append, List.append_assoc] at equal
          obtain ⟨rfl, remaining⟩ := each item (by simp) other _ _ (isValid other (by simp))
            (startsWith_flatMap next covered starts items)
            (startsWith_flatMap next covered startsOther others) equal
          obtain ⟨rfl, rests⟩ := ih (fun item mem => each item (List.mem_cons_of_mem _ mem)) others
            rest otherRest (fun item mem => isValid item (List.mem_cons_of_mem _ mem)) starts
            startsOther remaining
          exact ⟨rfl, rests⟩

/-- A further item starts with a comma. -/
theorem startsWith_comma (item : Element) (rest : List (Token Param)) :
    StartsWith (", " :: follow) (tokens (.words ", " :: render item) ++ rest) := by
  rw [tokens_words, List.append_assoc]
  exact .spell_append (covers_of_subset (by simp)) _

/-- What may follow a list may follow one of its items. -/
theorem covers_comma : covers (", " :: follow) follow = true :=
  covers_of_subset (List.subset_cons_self _ _)

/-- Elements behind the first one, each with a comma before it. -/
theorem determined_commaBefore (valid : Element → Prop) (apart : follow.all (isApart ", ") = true)
    (each : ∀ item ∈ items, Determined render valid (", " :: follow) item) :
    Determined (fun items => items.flatMap fun item => .words ", " :: render item)
      (fun items => ∀ item ∈ items, valid item) follow items := by
  refine determined_flatMap valid ?_ startsWith_comma covers_comma ?_
  · intro item rest
    rw [tokens_words, List.append_assoc]
    exact StartsWith.not_spell_append apart rfl _
  · intro item mem other rest others isValid starts startsOther equal
    rw [tokens_words, tokens_words, List.append_assoc, List.append_assoc] at equal
    exact each item mem other rest others isValid starts startsOther (List.append_cancel_left equal)

/-- Elements with commas between them are determined when no element starts like what may
follow an element. -/
theorem determined_commaSeparated (follow : List String) (valid : Element → Prop)
    (begun : ∀ item rest, ¬ StartsWith (", " :: follow) (tokens (render item) ++ rest))
    (apart : follow.all (isApart ", ") = true)
    (each : ∀ item ∈ items, Determined render valid (", " :: follow) item) :
    Determined (fun items => commaSeparated (items.map render))
      (fun items => ∀ item ∈ items, valid item) follow items := by
  intro others rest otherRest isValid starts startsOther equal
  cases items with
  | nil =>
      cases others with
      | nil => exact ⟨rfl, equal⟩
      | cons other others =>
          simp only [List.map_nil, commaSeparated_nil, tokens_nil, List.nil_append, List.map_cons,
            commaSeparated_cons, tokens_append, List.append_assoc] at equal
          exact absurd (equal ▸ starts.mono covers_comma) (begun other _)
  | cons item items =>
      cases others with
      | nil =>
          simp only [List.map_nil, commaSeparated_nil, tokens_nil, List.nil_append, List.map_cons,
            commaSeparated_cons, tokens_append, List.append_assoc] at equal
          exact absurd (equal.symm ▸ startsOther.mono covers_comma) (begun item _)
      | cons other others =>
          simp only [List.map_cons, commaSeparated_cons, tokens_append, List.append_assoc,
            List.flatMap_map] at equal
          obtain ⟨rfl, remaining⟩ := each item (by simp) other _ _ (isValid other (by simp))
            (startsWith_flatMap startsWith_comma covers_comma starts items)
            (startsWith_flatMap startsWith_comma covers_comma startsOther others) equal
          have following := determined_commaBefore valid apart
            fun item mem => each item (List.mem_cons_of_mem _ mem)
          obtain ⟨rfl, rests⟩ := following others rest otherRest
            (fun item mem => isValid item (List.mem_cons_of_mem _ mem)) starts startsOther remaining
          exact ⟨rfl, rests⟩

end Lists

/-- A clause that is determined by what follows it, and with it starts with other words. -/
structure Clause {Element : Type} (render : Element → List Piece) (valid : Element → Prop)
    (follow begins : List String) (element : Element) : Prop where
  determined : Determined render valid follow element
  starts : ∀ other rest, StartsWith follow rest → StartsWith begins (tokens (render other) ++ rest)

section Clauses

variable {First Second Element : Type} {render body : Element → List Piece}
  {valid : Element → Prop} {word : String} {absent element : Element} {follow begins : List String}
  {renderFirst : First → List Piece} {renderSecond : Second → List Piece}
  {validFirst : First → Prop} {validSecond : Second → Prop} {first : First} {second : Second}

/-- What goes before a clause is determined together with the clause. -/
theorem Determined.append (before : Determined renderFirst validFirst begins first)
    (after : Clause renderSecond validSecond follow begins second) :
    Determined (fun pair : First × Second => renderFirst pair.1 ++ renderSecond pair.2)
      (fun pair => validFirst pair.1 ∧ validSecond pair.2) follow (first, second) := by
  rintro ⟨otherFirst, otherSecond⟩ rest others ⟨firstValid, secondValid⟩ starts startsOther equal
  simp only [tokens_append, List.append_assoc] at equal
  obtain ⟨rfl, tails⟩ := before otherFirst _ _ firstValid (after.starts second rest starts)
    (after.starts otherSecond others startsOther) equal
  obtain ⟨rfl, rests⟩ := after.determined otherSecond _ _ secondValid starts startsOther tails
  exact ⟨rfl, rests⟩

/-- Two clauses one after the other make a clause of pairs. -/
theorem Clause.append {middle : List String}
    (before : Clause renderFirst validFirst middle begins first)
    (after : Clause renderSecond validSecond follow middle second) :
    Clause (fun pair : First × Second => renderFirst pair.1 ++ renderSecond pair.2)
      (fun pair => validFirst pair.1 ∧ validSecond pair.2) follow begins (first, second) where
  determined := before.determined.append after
  starts other rest starts := by
    rw [tokens_append, List.append_assoc]
    exact before.starts other.1 _ (after.starts other.2 rest starts)

/-- A word in front of what is determined makes a clause. -/
theorem Determined.worded (inner : Determined render valid follow element) (word : String) :
    Clause (fun element => .words word :: render element) valid follow [word] element where
  determined other rest others isValid starts startsOther equal := by
    simp only [tokens_words, List.append_assoc] at equal
    exact inner other rest others isValid starts startsOther (List.append_cancel_left equal)
  starts other rest _ := by
    rw [tokens_words, List.append_assoc]
    exact .spell_append (covers_of_subset (List.Subset.refl _)) _

/-- A clause that is left out for one element and starts with its word for any other. -/
structure IsOptional (render body : Element → List Piece) (word : String) (absent : Element) :
    Prop where
  leftOut : render absent = []
  started : ∀ element ≠ absent, tokens (render element) = spell word ++ tokens (body element)

/-- An optional clause is determined when its body is and nothing that follows starts like
it. -/
theorem IsOptional.clause (isOptional : IsOptional render body word absent)
    (apart : follow.all (isApart word) = true) (nonempty : word.toList.isEmpty = false)
    (inner : element ≠ absent →
      Determined body (fun other => valid other ∧ other ≠ absent) follow element) :
    Clause render valid follow (word :: follow) element where
  determined := by
    intro other rest others isValid starts startsOther equal
    have noStart : ∀ remaining, ¬ StartsWith follow (spell word ++ remaining) :=
      StartsWith.not_spell_append apart nonempty
    by_cases same : element = absent <;> by_cases sameOther : other = absent
    · rw [same, sameOther] at equal
      exact ⟨same.trans sameOther.symm, List.append_cancel_left equal⟩
    · rw [same, isOptional.leftOut, isOptional.started other sameOther, tokens_nil,
        List.nil_append, List.append_assoc] at equal
      exact absurd (equal ▸ starts) (noStart _)
    · rw [sameOther, isOptional.leftOut, isOptional.started element same, tokens_nil,
        List.nil_append, List.append_assoc] at equal
      exact absurd (equal.symm ▸ startsOther) (noStart _)
    · rw [isOptional.started element same, isOptional.started other sameOther, List.append_assoc,
        List.append_assoc] at equal
      exact inner same other rest others ⟨isValid, sameOther⟩ starts startsOther
        (List.append_cancel_left equal)
  starts := by
    intro other rest starts
    by_cases same : other = absent
    · rw [same, isOptional.leftOut]
      exact starts.mono (covers_of_subset (List.subset_cons_self _ _))
    · rw [isOptional.started other same, List.append_assoc]
      exact .spell_append (covers_of_subset (by simp)) _

end Clauses

section Numbers

variable {rest others : List (Token Param)}

/-- Whether a word starts with a character that is no digit. -/
def breaksNumber (word : String) : Bool :=
  word.toList.head?.any fun first => !first.isDigit

/-- Words whose first characters are no digits end a number. -/
theorem StartsWith.breaks {words : List String}
    (noDigits : words.all breaksNumber = true)
    (starts : StartsWith words rest) : Breaks rest := by
  rcases starts with rfl | ⟨word, mem, remaining, rfl⟩
  · intro token mem
    cases mem
  · have noDigit := List.all_eq_true.mp noDigits word mem
    intro token mem
    cases shape : word.toList with
    | nil => simp [breaksNumber, shape] at noDigit
    | cons first tail =>
        have isFirst : token = .character first := by
          simpa [spell, shape, eq_comm] using mem
        subst isFirst
        simpa [breaksNumber, shape, Token.IsBreak] using noDigit

/-- Digits end where no digit follows, so equal texts have equal digits. -/
theorem digits_append_cancel {left right : List Char}
    (leftDigits : ∀ digit ∈ left, digit.isDigit = true)
    (rightDigits : ∀ digit ∈ right, digit.isDigit = true) (breaks : Breaks rest)
    (breaksOther : Breaks others)
    (equal : left.map .character ++ rest = right.map .character ++ others) :
    left = right ∧ rest = others := by
  induction left generalizing right with
  | nil =>
      cases right with
      | nil => exact ⟨rfl, equal⟩
      | cons digit right =>
          have isDigit := rightDigits digit (by simp)
          have shape : rest = .character digit :: (right.map .character ++ others) := equal
          have noDigit : digit.isDigit = false := breaks (.character digit) (by rw [shape]; rfl)
          rw [isDigit] at noDigit
          cases noDigit
  | cons digit left ih =>
      cases right with
      | nil =>
          have isDigit := leftDigits digit (by simp)
          have shape : others = .character digit :: (left.map .character ++ rest) := equal.symm
          have noDigit : digit.isDigit = false := breaksOther (.character digit) (by rw [shape]; rfl)
          rw [isDigit] at noDigit
          cases noDigit
      | cons other right =>
          simp only [List.map_cons, List.cons_append, List.cons.injEq, Token.character.injEq] at equal
          obtain ⟨rfl, remaining⟩ := equal
          obtain ⟨rfl, rests⟩ := ih (fun digit mem => leftDigits digit (List.mem_cons_of_mem _ mem))
            (fun digit mem => rightDigits digit (List.mem_cons_of_mem _ mem)) remaining
          exact ⟨rfl, rests⟩

/-- A natural number is spelled in decimal digits. -/
theorem spell_repr (number : Nat) :
    spell number.repr = (Nat.toDigits 10 number).map .character := by
  rw [spell, Nat.toList_repr]

/-- Equal texts that begin with natural numbers begin with the same one. -/
theorem spell_repr_append_cancel {left right : Nat} (breaks : Breaks rest)
    (breaksOther : Breaks others) (equal : spell left.repr ++ rest = spell right.repr ++ others) :
    left = right ∧ rest = others := by
  rw [spell_repr, spell_repr] at equal
  obtain ⟨digits, rests⟩ := digits_append_cancel (fun _ => isDigit_of_mem_toDigits)
    (fun _ => isDigit_of_mem_toDigits) breaks breaksOther equal
  have values := congrArg (fun digits => Nat.ofDigitChars 10 digits 0) digits
  simp only [Nat.ofDigitChars_ten_toDigits] at values
  exact ⟨values, rests⟩

/-- An integer is written as a sign and digits, or as digits. -/
theorem spell_toString_int (value : Int) :
    spell (toString value) =
      if 0 ≤ value then spell value.toNat.repr else .character '-' :: spell (-value).toNat.repr := by
  rw [Int.toString_eq_repr, Int.repr_eq_if]
  split
  · rfl
  · simp [spell]

/-- A natural number begins with a digit. -/
theorem spell_repr_head (number : Nat) :
    ∃ digit tail, spell number.repr = .character digit :: tail ∧ digit.isDigit = true := by
  obtain ⟨digit, digits, shape⟩ :=
    List.exists_cons_of_ne_nil (Nat.toDigits_ne_nil (n := number) (b := 10))
  have isFirst : digit ∈ Nat.toDigits 10 number := by
    rw [shape]
    exact List.mem_cons_self
  refine ⟨digit, digits.map .character, ?_, isDigit_of_mem_toDigits isFirst⟩
  rw [spell_repr, shape, List.map_cons]

/-- Equal texts that begin with integers begin with the same one. -/
theorem spell_int_append_cancel {left right : Int} (breaks : Breaks rest)
    (breaksOther : Breaks others)
    (equal : spell (toString left) ++ rest = spell (toString right) ++ others) :
    left = right ∧ rest = others := by
  rw [spell_toString_int, spell_toString_int] at equal
  obtain ⟨leftDigit, leftTail, leftShape, isDigit⟩ := spell_repr_head left.toNat
  obtain ⟨rightDigit, rightTail, rightShape, isOtherDigit⟩ := spell_repr_head right.toNat
  split at equal <;> split at equal
  · obtain ⟨values, rests⟩ := spell_repr_append_cancel breaks breaksOther equal
    exact ⟨by omega, rests⟩
  · rw [leftShape] at equal
    injection equal with heads
    injection heads with same
    subst same
    exact absurd isDigit (by decide)
  · rw [rightShape] at equal
    injection equal with heads
    injection heads with same
    subst same
    exact absurd isOtherDigit (by decide)
  · injection equal with _ remaining
    obtain ⟨values, rests⟩ := spell_repr_append_cancel breaks breaksOther remaining
    exact ⟨by omega, rests⟩

end Numbers

end CatalogSql.Sql
