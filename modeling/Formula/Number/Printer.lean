import Formula.Number.Shortest

/-!
# Numbers as text

A number is written with the shortest digits that read back. Two styles differ in what else they
write.

* `Style.plain`: as in a formula, never with an exponent, whole numbers without a point.
* `Style.inspected`: as in a report on a tree, whole numbers with `.0`, and an exponent from
  `10^16` upwards and below `10^-4`.
-/

namespace Formula.Number

/-- The choices left when the digits of a number are known. -/
structure Style where
  /-- What follows a whole number that is written without an exponent. -/
  wholeEnding : String
  /-- Whether a number whose first digit counts this power of ten gets an exponent. -/
  hasExponent : Int → Bool

/-- Numbers as they stand in a formula. -/
def Style.plain : Style := ⟨"", fun _ => false⟩

/-- Numbers as they stand in a report on a tree. -/
def Style.inspected : Style := ⟨".0", fun leading => leading < -4 || 16 ≤ leading⟩

/-- A whole number in decimal digits. -/
def wholeDigits (n : Nat) : List Char := Nat.toDigits 10 n

/-- A whole number in at least `width` decimal digits, with zeros in front. -/
def paddedDigits (width n : Nat) : List Char :=
  List.replicate (width - (wholeDigits n).length) '0' ++ wholeDigits n

namespace Decimal

/-- Whether a decimal is written without a fraction. -/
def isWhole (d : Decimal) : Bool := decide (0 ≤ d.exponent)

/-- A decimal with its point in place: `120`, `0.05`. -/
def positional (d : Decimal) : List Char :=
  if d.isWhole then wholeDigits (d.digits * 10 ^ d.exponent.toNat)
  else
    let places := (-d.exponent).toNat
    wholeDigits (d.digits / 10 ^ places) ++ '.' :: paddedDigits places (d.digits % 10 ^ places)

/-- A decimal with one digit before the point and an exponent: `1.2e-7`. -/
def scientific (d : Decimal) : List Char :=
  let fraction := (wholeDigits d.digits).drop 1
  let power := d.leadingExponent
  (wholeDigits d.digits).take 1 ++ (if fraction = [] then [] else '.' :: fraction)
    ++ 'e' :: ((if power < 0 then ['-'] else []) ++ wholeDigits power.natAbs)

/-- A decimal in the given style. -/
def write (style : Style) (d : Decimal) : String :=
  if style.hasExponent d.leadingExponent then String.ofList d.scientific
  else String.ofList d.positional ++ (if d.isWhole then style.wholeEnding else "")

end Decimal

/-- A double in the given style. Negative zero keeps its sign; what is not a number has none. -/
def write (style : Style) (x : Float) : String :=
  let bits := magnitude x
  if infinity < bits then "NaN"
  else
    (if isNegative x then "-" else "")
      ++ (if bits = infinity then "inf"
        else if bits = 0 then "0" ++ style.wholeEnding
        else (shortest bits).write style)

end Formula.Number
