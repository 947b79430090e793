/-!
# Natural numbers in decimal notation

A number of a given width is read from decimal digits, with or without a plus sign.
-/

namespace CatalogSql

/-- Why a text is no number of a width. -/
inductive NumeralFault where
  | empty
  | badDigit
  | tooLarge
deriving DecidableEq, Repr

namespace NumeralFault

/-- The words for a fault. -/
def message : NumeralFault → String
  | .empty => "cannot parse integer from empty string"
  | .badDigit => "invalid digit found in string"
  | .tooLarge => "number too large to fit in target type"

end NumeralFault

namespace Numeral

/-- Continues a number below a bound with digits, up to the first fault. -/
def readDigits (bound : Nat) : Nat → List Char → Except NumeralFault Nat
  | value, [] => .ok value
  | value, digit :: rest =>
      if ¬digit.isDigit then .error .badDigit
      else
        let next := 10 * value + (digit.toNat - '0'.toNat)
        if next < bound then readDigits bound next rest else .error .tooLarge

/-- The number below a bound that a text writes. -/
def read (bound : Nat) (text : String) : Except NumeralFault Nat :=
  match text.toList with
  | [] => .error .empty
  | ['+'] => .error .badDigit
  | '+' :: digits => readDigits bound 0 digits
  | digits => readDigits bound 0 digits

end Numeral

end CatalogSql
