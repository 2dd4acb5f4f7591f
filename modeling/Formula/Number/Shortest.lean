import Formula.Number.Decimal

/-!
# The shortest decimal that reads back

A double is written with as few digits as tell it from every other double. The decimals of one
length form a grid, the multiples of a power of ten; if any point of the grid reads back as the
double, then one of the two next to it does. So the grids are tried from coarse to fine, and on
each of them only these two points.

* `onGrid?`: the decimal on one grid, the nearer of two and of two equally near ones the upper.
* `shortest`: the decimal on the coarsest grid that has one.
* `shortest_toMagnitude`: it reads back.
-/

namespace Formula.Number

/-- The decimal on the grid of the multiples of `10^exponent` that reads back as the double of the
    given magnitude. Of two, it is the nearer one, and of two equally near ones the upper. -/
def onGrid? (bits : Nat) (exponent : Int) : Option Decimal :=
  let num := units bits * 10 ^ (-exponent).toNat
  let den := unitsPerOne * 10 ^ exponent.toNat
  let below : Decimal := ⟨num / den, exponent⟩
  let above : Decimal := ⟨num / den + 1, exponent⟩
  if below.toMagnitude = bits ∧ (above.toMagnitude ≠ bits ∨ 2 * (num % den) < den) then some below
  else if above.toMagnitude = bits then some above
  else none

/-- The first decimal found on a number of grids, from `exponent` downwards. -/
def coarsest? (bits : Nat) : Nat → Int → Option Decimal
  | 0, _ => none
  | grids + 1, exponent =>
    (onGrid? bits exponent).orElse fun _ => coarsest? bits grids (exponent - 1)

/-- The exact value of a double as a decimal: `2^-n` is `5^n * 10^-n`. -/
def exact (bits : Nat) : Decimal := ⟨units bits * 5 ^ unitPlaces, -unitPlaces⟩

/-- A power of ten above the double: `log10 2` is a little less than `30103 / 100000`. -/
def powerAbove (bits : Nat) : Int := ((units bits).log2 - 1073 : Int) * 30103 / 100000 + 2

/-- The shortest decimal that reads back as the positive finite double of the given magnitude.
    Seventeen digits always suffice, so a few more grids than that reach the coarsest one that has
    a point. -/
def shortest (bits : Nat) : Decimal :=
  (coarsest? bits 22 (powerAbove bits)).getD (exact bits)

/-! ## The shortest decimal reads back -/

theorem exact_toMagnitude {bits : Nat} (finite : bits < infinity) :
    (exact bits).toMagnitude = bits := by
  apply nearest_of_units finite (Nat.pow_pos (by decide))
  simp only [exact, Int.toNat_neg_natCast, Int.neg_neg, Int.toNat_natCast, Nat.pow_zero,
    Nat.mul_one, unitsPerOne, Nat.mul_assoc, ← Nat.mul_pow]

theorem onGrid?_toMagnitude {bits : Nat} {exponent : Int} {d : Decimal}
    (found : onGrid? bits exponent = some d) : d.toMagnitude = bits := by
  simp only [onGrid?] at found
  split at found
  · rename_i hit
    exact Option.some.inj found ▸ hit.1
  · split at found
    · rename_i hit
      exact Option.some.inj found ▸ hit
    · cases found

theorem coarsest?_toMagnitude {bits grids : Nat} {exponent : Int} {d : Decimal}
    (found : coarsest? bits grids exponent = some d) : d.toMagnitude = bits := by
  induction grids generalizing exponent with
  | zero => simp [coarsest?] at found
  | succ grids ih =>
    rw [coarsest?] at found
    cases hit : onGrid? bits exponent with
    | some decimal =>
      rw [hit, Option.orElse_some] at found
      exact onGrid?_toMagnitude (hit.trans found)
    | none =>
      rw [hit, Option.orElse_none] at found
      exact ih found

/-- The shortest decimal of a finite double is read as that double. -/
theorem shortest_toMagnitude {bits : Nat} (finite : bits < infinity) :
    (shortest bits).toMagnitude = bits := by
  cases found : coarsest? bits 22 (powerAbove bits) with
  | none => rw [shortest, found, Option.getD_none, exact_toMagnitude finite]
  | some d => rw [shortest, found, Option.getD_some, coarsest?_toMagnitude found]

end Formula.Number
