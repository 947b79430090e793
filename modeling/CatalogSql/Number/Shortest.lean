import CatalogSql.Number.Double

/-!
# Shortest decimals

The decimal written for a finite number is the shortest one that reads back as
that number, and of those the nearest. It is searched on ever finer powers of
ten: on one power only the two multiples beside the number can qualify.
-/

namespace CatalogSql

/-- A decimal magnitude: `coefficient · 10 ^ exponent`. -/
structure Decimal where
  coefficient : Nat
  exponent : Int
deriving DecidableEq, Repr

namespace Decimal

/-- The digits of the coefficient. -/
def digits (decimal : Decimal) : List Char := Nat.toDigits 10 decimal.coefficient

/-- The power of ten of the first digit. -/
def leadingExponent (decimal : Decimal) : Int :=
  decimal.exponent + (decimal.digits.length : Int) - 1

end Decimal

namespace Double

/-- The magnitudes that round to a finite nonzero number, as a lower end, an
upper end, and whether the ends belong to them. Both ends are counted in quarters
of the number's unit in the last place. -/
structure RoundingInterval where
  lower : Nat
  upper : Nat
  closed : Bool
deriving DecidableEq, Repr

/-- The interval around a finite nonzero number. Below a power of two the
neighbour is only half as far away as above it. -/
def roundingInterval (number : Double) : RoundingInterval :=
  let quarters := 4 * number.significand
  let nearBelow := number.significand = Nat.pow 2 52 ∧ -1074 < number.scale
  { lower := if nearBelow then quarters - 1 else quarters - 2
    upper := quarters + 2
    closed := number.significand % 2 = 0 }

/-- Compares a multiple of a power of ten with a count of quarters of the last
place: both sides brought to whole numbers. -/
def onGrid (number : Double) (coefficient : Nat) (power : Int) (quarters : Nat) : Nat × Nat :=
  let scale := number.scale - 2
  (coefficient * Nat.pow 10 power.toNat * Nat.pow 2 (-scale).toNat,
    quarters * Nat.pow 2 scale.toNat * Nat.pow 10 (-power).toNat)

/-- Whether a multiple of a power of ten reads back as the number. -/
def readsBack (number : Double) (coefficient : Nat) (power : Int) : Bool :=
  let interval := number.roundingInterval
  let low := number.onGrid coefficient power interval.lower
  let high := number.onGrid coefficient power interval.upper
  if interval.closed then low.2 ≤ low.1 && high.1 ≤ high.2
  else low.2 < low.1 && high.1 < high.2

/-- The multiple of a power of ten that reads back as the number, the nearer one
when both neighbours do, the even one when they are equally near. -/
def onPower? (number : Double) (power : Int) : Option Nat :=
  let target := number.onGrid 1 power (4 * number.significand)
  let below := target.2 / target.1
  let rest := target.2 % target.1
  match number.readsBack below power, number.readsBack (below + 1) power with
  | false, false => none
  | true, false => some below
  | false, true => some (below + 1)
  | true, true =>
      some
        (if 2 * rest < target.1 then below
        else if target.1 < 2 * rest then below + 1
        else below + below % 2)

/-- The first power of ten, from `power` downwards, on which a multiple reads
back. Twenty-five powers reach past the seventeenth digit of every number. -/
def searchPowers (number : Double) : Nat → Int → Decimal
  | 0, power => ⟨0, power⟩
  | remaining + 1, power =>
      match number.onPower? power with
      | some coefficient => ⟨coefficient, power⟩
      | none => number.searchPowers remaining (power - 1)

/-- The shortest decimal that reads back as the magnitude of a finite number. -/
def shortest (number : Double) : Decimal :=
  if number.magnitude = 0 then ⟨0, 0⟩
  else
    let binary : Int := number.scale + number.significand.log2 + 1
    number.searchPowers 25 (binary * 30103 / 100000 + 2)

end Double

/-- How a decimal is laid out: which leading exponents are written out in full,
and whether a positive exponent carries its sign. -/
structure DecimalLayout where
  leastPlain : Int
  firstScientific : Int
  signedExponent : Bool

namespace DecimalLayout

/-- A whole number in decimal digits. -/
def exponentText (layout : DecimalLayout) (exponent : Int) : List Char :=
  (if exponent < 0 then ['-'] else if layout.signedExponent then ['+'] else []) ++
    Nat.toDigits 10 exponent.natAbs

/-- The magnitude of a decimal: in full with at least one place after the point,
or as one digit, the remaining digits and an exponent. -/
def magnitudeText (layout : DecimalLayout) (decimal : Decimal) : List Char :=
  let digits := decimal.digits
  let leading := decimal.leadingExponent
  if decimal.coefficient = 0 then ['0', '.', '0']
  else if leading < layout.leastPlain ∨ layout.firstScientific ≤ leading then
    digits.take 1 ++ (if digits.length = 1 then [] else '.' :: digits.drop 1) ++
      'e' :: layout.exponentText leading
  else if 0 ≤ decimal.exponent then
    digits ++ List.replicate decimal.exponent.toNat '0' ++ ['.', '0']
  else if 0 ≤ leading then
    digits.take (leading.toNat + 1) ++ '.' :: digits.drop (leading.toNat + 1)
  else
    ['0', '.'] ++ List.replicate (-leading - 1).toNat '0' ++ digits

/-- A finite number in its shortest decimal. -/
def text (layout : DecimalLayout) (number : Double) : String :=
  String.ofList ((if number.isNegative then ['-'] else []) ++
    layout.magnitudeText number.shortest)

end DecimalLayout

end CatalogSql
