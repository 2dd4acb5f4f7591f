import Formula.Number.Binary64

/-!
# Decimals and numerals

A decimal is a natural number times a power of ten. A numeral is a run of decimal digits with at
most one point, before, between or after them; it has no sign and no exponent.

* `Decimal.ofNumeral?`: the decimal that a numeral stands for.
* `Decimal.toFloat`: the double nearest to a decimal.
-/

namespace Formula.Number

/-- The number `digits * 10^exponent`. -/
structure Decimal where
  /-- The significant digits, as a whole number. -/
  digits : Nat
  /-- The power of ten that the last digit counts. -/
  exponent : Int
deriving DecidableEq, Repr

namespace Decimal

/-- The magnitude of the double nearest to a decimal. -/
def toMagnitude (d : Decimal) : Nat :=
  nearest (d.digits * 10 ^ d.exponent.toNat) (10 ^ (-d.exponent).toNat)

/-- The double nearest to a decimal; infinity if it is too large. -/
def toFloat (d : Decimal) : Float := ofMagnitude false d.toMagnitude

/-- The power of ten that the first digit counts. -/
def leadingExponent (d : Decimal) : Int :=
  d.exponent + ((Nat.toDigits 10 d.digits).length - 1 : Nat)

/-- The decimal with the given digits before and after the point, of which there must be one. -/
def ofDigits? (whole fraction : List Char) : Option Decimal :=
  if whole ++ fraction = [] then none
  else some ⟨Nat.ofDigitChars 10 (whole ++ fraction) 0, -fraction.length⟩

/-- The decimal that a numeral stands for. A text without a digit is no numeral, nor is one with a
    second point or any other character. -/
def ofNumeral? (text : List Char) : Option Decimal :=
  match text.dropWhile Char.isDigit with
  | [] => ofDigits? text []
  | '.' :: fraction =>
    if fraction.all Char.isDigit then ofDigits? (text.takeWhile Char.isDigit) fraction else none
  | _ => none

end Decimal

end Formula.Number
