/-!
# Double precision numbers

A floating point number is its 64-bit interchange pattern. Every operation goes
through the exact fraction a pattern denotes and rounds once, to the nearest
pattern with ties to the even one. Only finite numbers are given a meaning here.
-/

namespace CatalogSql

/-- A binary floating point number of 64 bits, identified with its bit pattern. -/
structure Double where
  bits : UInt64
deriving DecidableEq, Repr, Inhabited

namespace Double

/-- The largest magnitude pattern plus one step: the pattern of infinity. -/
def infinityMagnitude : Nat := 2047 * Nat.pow 2 52

/-- The number with a sign and the pattern of its magnitude. -/
def ofMagnitude (negative : Bool) (magnitude : Nat) : Double :=
  ⟨UInt64.ofNat ((if negative then Nat.pow 2 63 else 0) + magnitude)⟩

/-- Whether the sign bit is set. -/
def isNegative (number : Double) : Bool :=
  decide (Nat.pow 2 63 ≤ number.bits.toNat)

/-- The pattern without its sign bit. -/
def magnitude (number : Double) : Nat :=
  number.bits.toNat % Nat.pow 2 63

/-- Whether the number is neither infinite nor undefined. -/
def isFinite (number : Double) : Bool :=
  decide (number.magnitude < infinityMagnitude)

/-- The same magnitude with the other sign. -/
def negate (number : Double) : Double :=
  ofMagnitude (!number.isNegative) number.magnitude

/-- The integer significand of a finite number. -/
def significand (number : Double) : Nat :=
  let fraction := number.magnitude % Nat.pow 2 52
  if number.magnitude < Nat.pow 2 52 then fraction else Nat.pow 2 52 + fraction

/-- The power of two that scales the significand of a finite number. -/
def scale (number : Double) : Int :=
  let exponent : Nat := number.magnitude / Nat.pow 2 52
  if exponent = 0 then -1074 else (exponent : Int) - 1075

/-- The numerator of the exact magnitude of a finite number. -/
def numerator (number : Double) : Nat :=
  number.significand * Nat.pow 2 number.scale.toNat

/-- The denominator of the exact magnitude of a finite number. -/
def denominator (number : Double) : Nat :=
  Nat.pow 2 (-number.scale).toNat

/-- The whole number nearest to a fraction, a half going to the even neighbour. -/
def roundToEven (numerator denominator : Nat) : Nat :=
  let whole := numerator / denominator
  let rest := numerator % denominator
  if 2 * rest < denominator then whole
  else if denominator < 2 * rest then whole + 1
  else whole + whole % 2

/-- A power of two by which a positive fraction is divided to get a 53-bit whole
part, but never one below the least power a pattern can express. -/
def fittingScale (numerator denominator : Nat) : Int :=
  let guess : Int := (numerator.log2 : Int) - (denominator.log2 : Int) - 52
  let scaled := numerator * Nat.pow 2 (-guess).toNat / (denominator * Nat.pow 2 guess.toNat)
  max (-1074) (if scaled < Nat.pow 2 52 then guess - 1 else guess)

/-- The pattern nearest to a fraction with the given sign, infinite when the
fraction is beyond every finite pattern. -/
def nearest (negative : Bool) (numerator denominator : Nat) : Double :=
  if numerator = 0 then ofMagnitude negative 0
  else
    let scale := fittingScale numerator denominator
    let whole :=
      roundToEven (numerator * Nat.pow 2 (-scale).toNat) (denominator * Nat.pow 2 scale.toNat)
    ofMagnitude negative (min infinityMagnitude ((scale + 1074).toNat * Nat.pow 2 52 + whole))

/-- The number nearest to a whole number. -/
def ofNat (value : Nat) : Double := nearest false value 1

/-- The number nearest to an integer. -/
def ofInt (value : Int) : Double := nearest (decide (value < 0)) value.natAbs 1

/-- The product of two finite numbers, rounded once. -/
def times (left right : Double) : Double :=
  nearest (left.isNegative != right.isNegative)
    (left.numerator * right.numerator) (left.denominator * right.denominator)

/-- The quotient of a finite number by a finite nonzero number, rounded once. -/
def dividedBy (left right : Double) : Double :=
  nearest (left.isNegative != right.isNegative)
    (left.numerator * right.denominator) (left.denominator * right.numerator)

/-- The number nearest to a power of ten. -/
def powerOfTen (exponent : Nat) : Double := nearest false (Nat.pow 10 exponent) 1

/-- The greatest power of ten used as a single factor. -/
def greatestPower : Nat := 308

/-- The number read for `significand · 10 ^ exponent`, or nothing when it is
beyond every finite number. The significand is rounded first and then scaled by
one rounded power of ten, so a long significand may end up one step away from
the nearest number; exponents below the table are reached by repeated division,
three of which already leave zero. -/
def ofDecimal? (significand : Nat) (exponent : Int) : Option Double :=
  let start := ofNat significand
  if 0 ≤ exponent then
    if exponent ≤ greatestPower then
      let scaled := start.times (powerOfTen exponent.toNat)
      if scaled.isFinite then some scaled else none
    else if significand = 0 then some start
    else none
  else
    let depth := (-exponent).toNat
    let reductions := (depth - 1) / greatestPower
    let reduced := Nat.repeat (·.dividedBy (powerOfTen greatestPower)) (min reductions 3) start
    some (reduced.dividedBy (powerOfTen (depth - reductions * greatestPower)))

end Double

end CatalogSql
