/-!
# Doubles as multiples of the least one

Every finite double is a whole multiple of `2^-1074`, the least positive one, so that exact
questions about doubles are questions about natural numbers. The sign is kept apart: the remaining
63 bits, read as a number, are the *magnitude*, and magnitudes are ordered as the values are.

* `units`: how often a finite magnitude holds `2^-1074`.
* `nearest`: the magnitude nearest to a quotient, a half going to the even one.
* `nearest_of_units`: what a double can hold is its own nearest double.
-/

namespace Formula.Number

/-! ## Definitions -/

/-- Powers of natural numbers are the built-in ones, whatever else gives a meaning to powers. -/
@[default_instance high + 1] scoped instance powNat : Pow Nat Nat := ⟨Nat.pow⟩

/-- Rounds `num / den` to a whole number, a half to the even neighbour. -/
def roundHalfEven (num den : Nat) : Nat :=
  let floor := num / den
  let twice := 2 * (num % den)
  if twice < den then floor
  else if den < twice then floor + 1
  else floor + floor % 2

/-- The least positive double is two to the minus this power. -/
def unitPlaces : Nat := 1074

/-- How many of the least positive double make one. -/
def unitsPerOne : Nat := 2 ^ unitPlaces

/-- The magnitude of infinity; those above it are not numbers. -/
def infinity : Nat := 0x7FF * 2 ^ 52

/-- The bits of a double below its sign. -/
def magnitude (x : Float) : Nat := x.toBits.toNat % 2 ^ 63

/-- Whether the sign of a double is set, as it is for negative zero. -/
def isNegative (x : Float) : Bool := decide (2 ^ 63 ≤ x.toBits.toNat)

/-- The double with the given sign and magnitude. -/
def ofMagnitude (negative : Bool) (bits : Nat) : Float :=
  Float.ofBits (UInt64.ofNat (if negative then 2 ^ 63 + bits else bits))

/-- How often the finite double with this magnitude holds `2^-1074`. -/
def units (bits : Nat) : Nat :=
  if bits < 2 ^ 52 then bits else (2 ^ 52 + bits % 2 ^ 52) * 2 ^ (bits / 2 ^ 52 - 1)

/-- The magnitude nearest to `num / den`. A double keeps 53 binary digits, or those down to
    `2^-1074` where that is fewer; what is too large is infinite. -/
def nearest (num den : Nat) : Nat :=
  let scaled := num * unitsPerOne
  let shift := (scaled / den).log2 - 52
  min infinity (shift * 2 ^ 52 + roundHalfEven scaled (den * 2 ^ shift))

/-! ## Whole multiples are their own nearest doubles -/

theorem roundHalfEven_mul (n : Nat) {den : Nat} (pos : 0 < den) :
    roundHalfEven (n * den) den = n := by
  simp [roundHalfEven, Nat.mul_div_cancel _ pos, pos]

theorem log2_mul_two_pow {m : Nat} (e : Nat) (low : 2 ^ 52 ≤ m) (high : m < 2 ^ 53) :
    (m * 2 ^ e).log2 = 52 + e := by
  have pos := Nat.two_pow_pos e
  rw [Nat.log2_eq_iff (Nat.mul_ne_zero (by omega) (by omega)), Nat.pow_add,
    show 52 + e + 1 = 53 + e by omega, Nat.pow_add]
  exact ⟨Nat.mul_le_mul_right _ low, Nat.mul_lt_mul_of_pos_right high pos⟩

/-- Below `2^52`, where doubles are evenly spaced, a magnitude counts the units. -/
theorem units_of_lt {bits : Nat} (small : bits < 2 ^ 52) : units bits = bits := if_pos small

theorem units_of_not_lt {bits : Nat} (large : ¬ bits < 2 ^ 52) :
    units bits = (2 ^ 52 + bits % 2 ^ 52) * 2 ^ (bits / 2 ^ 52 - 1) := if_neg large

/-- A magnitude is made of a mantissa and the shift that leaves 53 binary digits of its value. -/
theorem units_eq_mantissa (bits : Nat) :
    ∃ shift mantissa, (units bits).log2 - 52 = shift ∧ units bits = mantissa * 2 ^ shift
      ∧ shift * 2 ^ 52 + mantissa = bits := by
  by_cases small : bits < 2 ^ 52
  · refine ⟨0, bits, ?_, by rw [units_of_lt small, Nat.pow_zero, Nat.mul_one], by omega⟩
    rw [units_of_lt small]
    by_cases zero : bits = 0
    · simp [zero]
    · have := (Nat.log2_lt zero).2 small
      omega
  · refine ⟨bits / 2 ^ 52 - 1, 2 ^ 52 + bits % 2 ^ 52, ?_, units_of_not_lt small, by omega⟩
    rw [units_of_not_lt small, log2_mul_two_pow _ (by omega) (by omega)]
    omega

/-- If `num / den` is a whole number of units and a double can hold it, then that double is the
    nearest one. -/
theorem nearest_of_units {bits : Nat} (finite : bits < infinity) {num den : Nat} (pos : 0 < den)
    (value : num * unitsPerOne = units bits * den) : nearest num den = bits := by
  obtain ⟨shift, mantissa, width, split, assembled⟩ := units_eq_mantissa bits
  simp only [nearest, value, Nat.mul_div_cancel _ pos, width]
  rw [split, Nat.mul_assoc, Nat.mul_comm (2 ^ shift) den,
    roundHalfEven_mul _ (Nat.mul_pos pos (Nat.two_pow_pos shift)), assembled]
  omega

end Formula.Number
