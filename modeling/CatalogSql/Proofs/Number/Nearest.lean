import CatalogSql.Number.Double
import Mathlib.Algebra.Order.Field.Basic
import Mathlib.Data.Rat.Cast.Order
import Mathlib.Tactic.FieldSimp
import Mathlib.Tactic.Linarith
import Mathlib.Tactic.NormNum
import Mathlib.Tactic.Positivity
import Mathlib.Tactic.Ring

/-!
# Integers as doubles

A finite number of double precision is a rational number, and the number made from an integer is
the one nearest to it. So the integer is kept exactly where any number of double precision is equal
to it, and every integer of at most 53 bits is kept.
-/

namespace CatalogSql.Double

/-- The rational number that a finite number is, without its sign. -/
def exactMagnitude (number : Double) : ℚ := number.numerator / number.denominator

/-- The rational number that a finite number is. -/
def exact (number : Double) : ℚ :=
  (if number.isNegative then -1 else 1) * number.exactMagnitude

/-- A finite number that is closer to a value than every other one, or as close and the one with an
even significand. -/
structure IsNearest (number : Double) (value : ℚ) : Prop where
  finite : number.isFinite
  closest : ∀ other : Double, other.isFinite → other.exact ≠ number.exact →
    |number.exact - value| < |other.exact - value| ∨
      |number.exact - value| = |other.exact - value| ∧ number.significand % 2 = 0

/-- The nearest number is equal to what any number is equal to. -/
theorem IsNearest.exact_eq_iff {number : Double} {value : ℚ} (nearest : number.IsNearest value) :
    number.exact = value ↔ ∃ other : Double, other.isFinite ∧ other.exact = value := by
  constructor
  · exact fun same => ⟨number, nearest.finite, same⟩
  · rintro ⟨other, finite, rfl⟩
    by_contra differ
    have apart : 0 < |number.exact - other.exact| := abs_pos.mpr (sub_ne_zero.mpr differ)
    have closest := nearest.closest other finite (Ne.symm differ)
    rw [sub_self, abs_zero] at closest
    rcases closest with closer | ⟨same, -⟩
    · exact absurd closer apart.le.not_gt
    · exact absurd same apart.ne'

/-! ## Patterns -/

section Patterns

variable {negative : Bool} {magnitude : Nat}

/-- The bits of a double are its sign bit and its magnitude. -/
theorem toNat_ofMagnitude (bounded : magnitude < 2 ^ 63) :
    (ofMagnitude negative magnitude).bits.toNat = (if negative then 2 ^ 63 else 0) + magnitude := by
  rw [ofMagnitude, UInt64.toNat_ofNat']
  exact Nat.mod_eq_of_lt (by simp only [Nat.pow_eq]; split <;> omega)

/-- The sign a double is built from is its sign. -/
theorem isNegative_ofMagnitude (bounded : magnitude < 2 ^ 63) :
    (ofMagnitude negative magnitude).isNegative = negative := by
  rw [isNegative, toNat_ofMagnitude bounded]
  cases negative with
  | false => simpa using bounded
  | true => simp

/-- The magnitude a double is built from is its magnitude. -/
theorem magnitude_ofMagnitude (bounded : magnitude < 2 ^ 63) :
    (ofMagnitude negative magnitude).magnitude = magnitude := by
  rw [Double.magnitude, toNat_ofMagnitude bounded]
  cases negative <;> simp <;> omega

end Patterns

/-- A power of two as a quotient of two natural powers, one of which is one. -/
theorem two_zpow_eq (scale : ℤ) : (2 : ℚ) ^ scale = 2 ^ scale.toNat / 2 ^ (-scale).toNat := by
  rw [← zpow_natCast, ← zpow_natCast, ← zpow_sub₀ two_ne_zero]
  congr 1
  omega

/-- The magnitude of a double is its significand at its scale. -/
theorem exactMagnitude_eq (number : Double) :
    number.exactMagnitude = number.significand * (2 : ℚ) ^ number.scale := by
  rw [exactMagnitude, numerator, denominator, two_zpow_eq, ← mul_div_assoc]
  simp

/-- The magnitude of a double is never negative. -/
theorem exactMagnitude_nonneg (number : Double) : 0 ≤ number.exactMagnitude :=
  div_nonneg (Nat.cast_nonneg _) (Nat.cast_nonneg _)

/-- The absolute value of a double is its magnitude. -/
theorem abs_exact (number : Double) : |number.exact| = number.exactMagnitude := by
  rw [exact, abs_mul, abs_of_nonneg number.exactMagnitude_nonneg]
  split <;> simp

/-- A significand has at most 53 bits. -/
theorem significand_lt (number : Double) : number.significand < 2 ^ 53 := by
  have fraction : number.magnitude % 2 ^ 52 < 2 ^ 52 := Nat.mod_lt _ (by decide)
  simp only [significand, Nat.pow_eq]
  split <;> omega

/-- The number of a pattern that is a count of binades and a whole number of 53 bits. The whole
number may be one too great: then the pattern is the first one of the next binade. -/
theorem exactMagnitude_of_magnitude {number : Double} {binades whole : Nat}
    (isMagnitude : number.magnitude = binades * 2 ^ 52 + whole) (least : 2 ^ 52 ≤ whole)
    (most : whole ≤ 2 ^ 53) :
    number.exactMagnitude = whole * (2 : ℚ) ^ ((binades : ℤ) - 1074) ∧
      (whole % 2 = 0 → number.significand % 2 = 0) := by
  rw [exactMagnitude_eq]
  rcases most.lt_or_eq with below | rfl
  · have isSignificand : number.significand = whole := by
      simp only [significand, isMagnitude, Nat.pow_eq]
      split <;> omega
    have isScale : number.scale = (binades : ℤ) - 1074 := by
      simp only [scale, isMagnitude, Nat.pow_eq]
      split <;> omega
    rw [isSignificand, isScale]
    exact ⟨rfl, id⟩
  · have isSignificand : number.significand = 2 ^ 52 := by
      simp only [significand, isMagnitude, Nat.pow_eq]
      split <;> omega
    have isScale : number.scale = (binades : ℤ) - 1074 + 1 := by
      simp only [scale, isMagnitude, Nat.pow_eq]
      split <;> omega
    rw [isSignificand, isScale, zpow_add_one₀ two_ne_zero]
    refine ⟨?_, fun _ => rfl⟩
    push_cast
    ring

/-! ## Rounding -/

section Rounding

/-- Rounding takes the floor or the next number, whichever is nearer, and the even one of two
equally near. -/
theorem roundToEven_cases (numerator denominator : Nat) :
    (roundToEven numerator denominator = numerator / denominator ∧
        2 * (numerator % denominator) ≤ denominator ∧
        (2 * (numerator % denominator) = denominator → numerator / denominator % 2 = 0)) ∨
      (roundToEven numerator denominator = numerator / denominator + 1 ∧
        denominator ≤ 2 * (numerator % denominator) ∧
        (2 * (numerator % denominator) = denominator →
          (numerator / denominator + 1) % 2 = 0)) := by
  simp only [roundToEven]
  split
  · omega
  · split <;> omega

/-- Multiples of one factor by different numbers lie at least that factor apart. -/
theorem product_of_ne {whole other : Nat} (differ : other ≠ whole) (factor : Nat) :
    whole * factor + factor ≤ other * factor ∨ other * factor + factor ≤ whole * factor := by
  rw [← Nat.succ_mul, ← Nat.succ_mul]
  rcases Nat.lt_or_gt_of_ne differ with below | above
  · exact .inr (Nat.mul_le_mul_right _ below)
  · exact .inl (Nat.mul_le_mul_right _ above)

/-- No other whole number is as close to a fraction as the one it is rounded to, unless the rounded
one is even. -/
theorem roundToEven_closest {numerator denominator whole : Nat} (positive : 0 < denominator)
    (differ : whole ≠ roundToEven numerator denominator) :
    let distance (whole : Nat) := ((whole * denominator : Nat) - numerator : ℤ).natAbs
    distance (roundToEven numerator denominator) < distance whole ∨
      distance (roundToEven numerator denominator) = distance whole ∧
        roundToEven numerator denominator % 2 = 0 := by
  intro distance
  have split := Nat.div_add_mod' numerator denominator
  have rest := Nat.mod_lt numerator positive
  have apart := product_of_ne differ denominator
  simp only [distance]
  rcases roundToEven_cases numerator denominator with ⟨same, atMost, even⟩ | ⟨same, atLeast, even⟩
  · rw [same] at apart ⊢
    omega
  · rw [same, Nat.add_one_mul] at apart
    rw [same, Nat.add_one_mul]
    omega

end Rounding

/-! ## The number of a natural number -/

section Natural

variable {value : Nat}

/-- The power of two of the last of the 53 places of a natural number. -/
def lastPlace (value : Nat) : ℤ := value.log2 - 52

/-- The numerator of a natural number counted in its last place. -/
def placesNumerator (value : Nat) : Nat := value * 2 ^ (52 - value.log2)

/-- The denominator of a natural number counted in its last place. -/
def placesDenominator (value : Nat) : Nat := 2 ^ (value.log2 - 52)

/-- The 53 places of a natural number. -/
def places (value : Nat) : Nat := roundToEven (placesNumerator value) (placesDenominator value)

/-- The denominator of the places is a power of two. -/
theorem placesDenominator_pos (value : Nat) : 0 < placesDenominator value := Nat.two_pow_pos _

/-- The leading bit of a value, at the scale of its places. -/
theorem two_pow_mul_placesDenominator (value more : Nat) :
    2 ^ (52 + more) * placesDenominator value =
      2 ^ (value.log2 + more) * 2 ^ (52 - value.log2) := by
  rw [placesDenominator, ← pow_add, ← pow_add]
  congr 1
  omega

/-- A positive value has 53 binary places before it is rounded. -/
theorem placesNumerator_bounds (positive : 0 < value) :
    2 ^ 52 * placesDenominator value ≤ placesNumerator value ∧
      placesNumerator value < 2 ^ 53 * placesDenominator value := by
  have least := Nat.log2_self_le positive.ne'
  have most := Nat.lt_log2_self (n := value)
  have scaled : 2 ^ 52 * placesDenominator value = 2 ^ value.log2 * 2 ^ (52 - value.log2) :=
    two_pow_mul_placesDenominator value 0
  have twice : 2 ^ 53 * placesDenominator value =
      2 ^ (value.log2 + 1) * 2 ^ (52 - value.log2) :=
    two_pow_mul_placesDenominator value 1
  rw [scaled, twice, placesNumerator]
  exact ⟨Nat.mul_le_mul_right _ least, Nat.mul_lt_mul_of_pos_right most (Nat.two_pow_pos _)⟩

/-- A positive value has 53 binary places, or rounds up to the next power of two. -/
theorem places_bounds (positive : 0 < value) : 2 ^ 52 ≤ places value ∧ places value ≤ 2 ^ 53 := by
  obtain ⟨least, most⟩ := placesNumerator_bounds positive
  have low := (Nat.le_div_iff_mul_le (placesDenominator_pos value)).mpr least
  have high := (Nat.div_lt_iff_lt_mul (placesDenominator_pos value)).mpr most
  rcases roundToEven_cases (placesNumerator value) (placesDenominator value) with
    ⟨same, -⟩ | ⟨same, -⟩ <;> rw [places, same] <;> omega

/-- The last place counts up where the value has more than 53 bits, and down where it has fewer. -/
theorem toNat_lastPlace (value : Nat) :
    (lastPlace value).toNat = value.log2 - 52 ∧ (-lastPlace value).toNat = 52 - value.log2 := by
  rw [lastPlace]
  omega

/-- The scale chosen for a natural number is that of its last place. -/
theorem fittingScale_one (positive : 0 < value) : fittingScale value 1 = lastPlace value := by
  have low := (Nat.le_div_iff_mul_le (placesDenominator_pos value)).mpr
    (placesNumerator_bounds positive).1
  have raised : (-((value.log2 : ℤ) - 0 - 52)).toNat = 52 - value.log2 := by omega
  have lowered : ((value.log2 : ℤ) - 0 - 52).toNat = value.log2 - 52 := by omega
  have noRest : ¬ value * 2 ^ (52 - value.log2) / 2 ^ (value.log2 - 52) < 2 ^ 52 := not_lt.mpr low
  have one : Nat.log2 1 = 0 := rfl
  simp only [fittingScale, one, Nat.cast_zero, raised, lowered, Nat.pow_eq, one_mul, noRest,
    if_false, lastPlace]
  omega

/-- The pattern of a natural number: the binades below it and its places. -/
theorem nearest_one (negative : Bool) (positive : 0 < value) :
    nearest negative value 1 = ofMagnitude negative
      (min infinityMagnitude ((value.log2 + 1022) * 2 ^ 52 + places value)) := by
  have binades : (lastPlace value + 1074).toNat = value.log2 + 1022 := by rw [lastPlace]; omega
  rw [nearest, if_neg positive.ne', fittingScale_one positive]
  simp only [toNat_lastPlace, binades, Nat.pow_eq, one_mul]
  rfl

/-- The unit of rounding is positive. -/
theorem unit_pos (value : Nat) : (0 : ℚ) < 2 ^ lastPlace value / placesDenominator value :=
  div_pos (zpow_pos two_pos _) (Nat.cast_pos.mpr (placesDenominator_pos value))

/-- What is off from a multiple of the last place is off from as many places. -/
theorem distance_eq (whole : Nat) :
    |(whole : ℚ) * 2 ^ lastPlace value - value| =
      ((whole * placesDenominator value : Nat) - placesNumerator value : ℤ).natAbs *
        (2 ^ lastPlace value / placesDenominator value) := by
  have scaled : (whole : ℚ) * 2 ^ lastPlace value - value =
      (whole * placesDenominator value - placesNumerator value) *
        (2 ^ lastPlace value / placesDenominator value) := by
    rw [two_zpow_eq, (toNat_lastPlace value).1, (toNat_lastPlace value).2, placesDenominator,
      placesNumerator]
    push_cast
    field_simp
  rw [scaled, abs_mul, abs_of_pos (unit_pos value), Nat.cast_natAbs]
  push_cast
  rfl

/-- No other multiple of the last place is as close to a natural number as its places, unless
these are even. -/
theorem places_closest {whole : Nat} (differ : whole ≠ places value) :
    |(places value : ℚ) * 2 ^ lastPlace value - value| <
        |(whole : ℚ) * 2 ^ lastPlace value - value| ∨
      |(places value : ℚ) * 2 ^ lastPlace value - value| =
          |(whole : ℚ) * 2 ^ lastPlace value - value| ∧ places value % 2 = 0 := by
  rw [distance_eq, distance_eq]
  rcases roundToEven_closest (placesDenominator_pos value) differ with closer | ⟨same, even⟩
  · exact .inl (mul_lt_mul_of_pos_right (Nat.cast_lt.mpr closer) (unit_pos value))
  · exact .inr ⟨congrArg (fun distance : Nat => (distance : ℚ) * _) same, even⟩

/-- No multiple of the last place is nearer to a value than its places. -/
theorem places_closest_le (value whole : Nat) :
    |(places value : ℚ) * 2 ^ lastPlace value - value| ≤
      |(whole : ℚ) * 2 ^ lastPlace value - value| := by
  by_cases same : whole = places value
  · rw [same]
  · exact (places_closest same).elim le_of_lt fun alike => alike.1.le

/-- A natural number of at most 53 bits is its places. -/
theorem places_of_small (positive : 0 < value) (small : value ≤ 2 ^ 53) :
    (places value : ℚ) * 2 ^ lastPlace value = value := by
  have multiple : ∃ whole, whole * placesDenominator value = placesNumerator value := by
    rcases small.lt_or_eq with below | rfl
    · have short : value.log2 < 53 := (Nat.log2_lt positive.ne').mpr below
      have one : placesDenominator value = 1 := by
        rw [placesDenominator, Nat.sub_eq_zero_of_le (by omega), pow_zero]
      exact ⟨placesNumerator value, by rw [one, mul_one]⟩
    · exact ⟨2 ^ 52, by decide +kernel⟩
  obtain ⟨whole, isNumerator⟩ := multiple
  have closest := places_closest_le value whole
  rw [distance_eq whole, isNumerator, sub_self, Int.natAbs_zero, Nat.cast_zero, zero_mul] at closest
  exact sub_eq_zero.mp (abs_nonpos_iff.mp closest)

/-- A positive value is at least the least significand at its last place. -/
theorem binade_le (positive : 0 < value) : (2 : ℚ) ^ 52 * 2 ^ lastPlace value ≤ value := by
  have least : ((2 ^ value.log2 : Nat) : ℚ) ≤ value :=
    Nat.cast_le.mpr (Nat.log2_self_le positive.ne')
  have binade : (2 : ℚ) ^ 52 * 2 ^ lastPlace value = (2 ^ value.log2 : Nat) := by
    rw [← zpow_natCast, ← zpow_add₀ two_ne_zero, Nat.cast_pow, ← zpow_natCast]
    congr 1
    rw [lastPlace]
    omega
  rwa [binade]

/-- No other double is as close to a natural number as its places, unless these are even. -/
theorem places_closest_double (positive : 0 < value) (other : Double)
    (differ : other.exactMagnitude ≠ places value * 2 ^ lastPlace value) :
    |(places value : ℚ) * 2 ^ lastPlace value - value| < |other.exactMagnitude - value| ∨
      |(places value : ℚ) * 2 ^ lastPlace value - value| = |other.exactMagnitude - value| ∧
        places value % 2 = 0 := by
  rw [exactMagnitude_eq] at differ ⊢
  rcases le_or_gt (lastPlace value) other.scale with coarse | fine
  · -- The other number is a multiple of the last place.
    obtain ⟨steps, isScale⟩ := Int.le.dest coarse
    have multiple : (other.significand : ℚ) * 2 ^ other.scale =
        ((other.significand * 2 ^ steps : Nat) : ℚ) * 2 ^ lastPlace value := by
      rw [← isScale, zpow_add₀ two_ne_zero, zpow_natCast]
      push_cast
      ring
    rw [multiple] at differ ⊢
    exact places_closest fun same => differ (by rw [same])
  · -- The other number lies below the binade of the natural number.
    have below : (other.significand : ℚ) * 2 ^ other.scale < 2 ^ 52 * 2 ^ lastPlace value :=
      calc (other.significand : ℚ) * 2 ^ other.scale
          < 2 ^ 53 * 2 ^ other.scale :=
            mul_lt_mul_of_pos_right (mod_cast other.significand_lt) (zpow_pos two_pos _)
        _ = 2 ^ 52 * 2 ^ (other.scale + 1) := by rw [zpow_add_one₀ two_ne_zero]; ring
        _ ≤ 2 ^ 52 * 2 ^ lastPlace value :=
            mul_le_mul_of_nonneg_left (zpow_le_zpow_right₀ one_le_two fine) (by norm_num)
    have binade := binade_le positive
    have closer : |(places value : ℚ) * 2 ^ lastPlace value - value| ≤
        |(2 : ℚ) ^ 52 * 2 ^ lastPlace value - value| :=
      mod_cast places_closest_le value (2 ^ 52)
    refine .inl (closer.trans_lt ?_)
    rw [abs_of_nonpos (sub_nonpos.mpr binade), abs_of_neg (sub_neg.mpr (below.trans_le binade))]
    linarith

end Natural

/-! ## The number of an integer -/

section Integer

variable {value : ℤ}

/-- The number of an integer has the integer's sign and its places. -/
theorem ofInt_pattern (some : value ≠ 0) (bounded : value.natAbs ≤ 2 ^ 64) :
    (ofInt value).isFinite ∧ (ofInt value).isNegative = decide (value < 0) ∧
      (ofInt value).exactMagnitude = places value.natAbs * (2 : ℚ) ^ lastPlace value.natAbs ∧
      (places value.natAbs % 2 = 0 → (ofInt value).significand % 2 = 0) := by
  have positive := Int.natAbs_pos.mpr some
  have binades : value.natAbs.log2 < 65 := (Nat.log2_lt positive.ne').mpr (by omega)
  obtain ⟨least, most⟩ := places_bounds positive
  have finite : (value.natAbs.log2 + 1022) * 2 ^ 52 + places value.natAbs < infinityMagnitude := by
    simp only [infinityMagnitude, Nat.pow_eq]
    omega
  have small : infinityMagnitude < 2 ^ 63 := by decide +kernel
  have pattern : ofInt value = ofMagnitude (decide (value < 0))
      ((value.natAbs.log2 + 1022) * 2 ^ 52 + places value.natAbs) := by
    rw [ofInt, nearest_one _ positive, min_eq_right finite.le]
  have isMagnitude : (ofInt value).magnitude =
      (value.natAbs.log2 + 1022) * 2 ^ 52 + places value.natAbs := by
    rw [pattern, magnitude_ofMagnitude (finite.trans small)]
  obtain ⟨exact, even⟩ := exactMagnitude_of_magnitude isMagnitude least most
  refine ⟨decide_eq_true (isMagnitude.trans_lt finite), ?_, ?_, even⟩
  · rw [pattern, isNegative_ofMagnitude (finite.trans small)]
  · have same : ((value.natAbs.log2 + 1022 : Nat) : ℤ) - 1074 = lastPlace value.natAbs := by
      rw [lastPlace]
      omega
    rw [exact, same]

/-- Zero is written as the double zero. -/
theorem exact_ofInt_zero : (ofInt 0).exact = 0 := by
  have isZero : (ofInt 0).numerator = 0 := by decide +kernel
  rw [exact, exactMagnitude, isZero, Nat.cast_zero, zero_div, mul_zero]

/-- The double of an integer has the sign of the integer. -/
theorem exact_ofInt (some : value ≠ 0) (bounded : value.natAbs ≤ 2 ^ 64) :
    (ofInt value).exact = value.sign * (ofInt value).exactMagnitude := by
  obtain ⟨-, isNegative, -, -⟩ := ofInt_pattern some bounded
  rw [exact, isNegative]
  rcases lt_or_gt_of_ne some with negative | positive
  · rw [decide_eq_true negative, Int.sign_eq_neg_one_of_neg negative]
    simp
  · rw [decide_eq_false positive.not_gt, Int.sign_eq_one_of_pos positive]
    simp

/-- A number with the sign of an integer is off from the integer by what its magnitude is off. -/
theorem distance_signed (some : value ≠ 0) (magnitude : ℚ) :
    |value.sign * magnitude - value| = |magnitude - value.natAbs| := by
  have sign : |(value.sign : ℚ)| = 1 := by
    rw [← Int.cast_abs, Int.abs_sign_of_ne_zero some, Int.cast_one]
  calc |value.sign * magnitude - value|
      = |(value.sign : ℚ) * (magnitude - value.natAbs)| := by
        rw [mul_sub, ← Int.cast_natCast value.natAbs, ← Int.cast_mul, Int.sign_mul_natAbs]
    _ = |magnitude - value.natAbs| := by rw [abs_mul, sign, one_mul]

/-- The number of an integer is the one nearest to it. -/
theorem isNearest_ofInt (bounded : value.natAbs ≤ 2 ^ 64) : (ofInt value).IsNearest value := by
  by_cases zero : value = 0
  · subst zero
    have exact := exact_ofInt_zero
    refine ⟨by decide +kernel, fun other _ differ => .inl ?_⟩
    rw [exact] at differ
    simpa [exact] using differ
  · obtain ⟨finite, -, isMagnitude, even⟩ := ofInt_pattern zero bounded
    have positive := Int.natAbs_pos.mpr zero
    have sided := exact_ofInt zero bounded
    refine ⟨finite, fun other _ differ => ?_⟩
    by_cases alike : other.exactMagnitude = (ofInt value).exactMagnitude
    · -- The same number with the other sign.
      have opposite : other.exact = value.sign * -(ofInt value).exactMagnitude := by
        rw [← abs_exact, ← abs_exact] at alike
        rw [mul_neg, ← sided]
        exact (abs_eq_abs.mp alike).resolve_left differ
      have some : 0 < (ofInt value).exactMagnitude := by
        rw [isMagnitude]
        exact mul_pos (Nat.cast_pos.mpr (by have := places_bounds positive; omega))
          (zpow_pos two_pos _)
      have someValue : (0 : ℚ) < value.natAbs := Nat.cast_pos.mpr positive
      rw [opposite, sided, distance_signed zero, distance_signed zero]
      refine .inl (lt_of_lt_of_le ?_ (neg_le_abs _))
      exact abs_sub_lt_iff.mpr ⟨by linarith, by linarith⟩
    · have apart := abs_abs_sub_abs_le_abs_sub other.exact value
      rw [abs_exact, ← Int.cast_abs, ← Nat.cast_natAbs] at apart
      rw [sided, distance_signed zero]
      rw [isMagnitude] at alike ⊢
      rcases places_closest_double positive other alike with closer | ⟨same, isEven⟩
      · exact .inl (closer.trans_le apart)
      · exact (same.trans_le apart).lt_or_eq.imp_right fun asClose => ⟨asClose, even isEven⟩

/-- An integer of at most 53 bits is kept. -/
theorem exact_ofInt_of_small (small : value.natAbs ≤ 2 ^ 53) : (ofInt value).exact = value := by
  by_cases zero : value = 0
  · rw [zero, exact_ofInt_zero, Int.cast_zero]
  · obtain ⟨-, -, isMagnitude, -⟩ := ofInt_pattern zero (small.trans (by decide))
    rw [exact_ofInt zero (small.trans (by decide)), isMagnitude,
      places_of_small (Int.natAbs_pos.mpr zero) small, ← Int.cast_natCast value.natAbs,
      ← Int.cast_mul, Int.sign_mul_natAbs]

end Integer

end CatalogSql.Double
