import Formula.Number.Binary64
import Mathlib

/-!
# Doubles are known by their bits

A double is packed into a sign, eleven bits of exponent and fifty-two of mantissa. A double is the
one that its bits say, and bits up to those of infinity are kept as they are.

* `ofMagnitude_magnitude`: a double is the one that its sign and magnitude say.
* `toBits_ofMagnitude`: a magnitude up to infinity is kept as it is.
-/

namespace Formula.Number

open Float.Model (Format)
open Float.Model.UnpackedFloat (unpackExponent unpackMantissa pack_unpack_of_valid)

/-- A double is the one that its sign and magnitude say. -/
theorem ofMagnitude_magnitude (x : Float) : ofMagnitude (isNegative x) (magnitude x) = x := by
  have bound : x.toBits.toNat < 2 ^ 64 := x.toBits.toNat_lt
  rw [ofMagnitude, isNegative, magnitude]
  have joined : (if decide (2 ^ 63 ≤ x.toBits.toNat) = true then 2 ^ 63 + x.toBits.toNat % 2 ^ 63
      else x.toBits.toNat % 2 ^ 63) = x.toBits.toNat := by
    simp only [decide_eq_true_eq]
    split <;> omega
  rw [joined, UInt64.ofNat_toNat, Float.ofBits_toBits]

/-! ## Doubles without a sign -/

section Positive

variable {bits : Nat}

/-- The bits of a magnitude up to infinity are not those of what is not a number. -/
theorem valid_of_le_infinity (h : bits ≤ infinity) :
    Format.binary64.Valid (UInt64.ofNat bits).toBitVec where
  eq_packedNaN hexp hman := by
    exfalso
    have hlt : bits < 2 ^ 64 := Nat.lt_of_le_of_lt h (by decide)
    have hnat : (UInt64.ofNat bits).toBitVec.toNat = bits := Nat.mod_eq_of_lt hlt
    have hexp' := congrArg BitVec.toNat hexp
    apply hman
    apply BitVec.eq_of_toNat_eq
    simp only [unpackExponent, unpackMantissa, BitVec.toNat_cast, BitVec.extractLsb_toNat, hnat]
      at hexp' ⊢
    change bits >>> 52 % 2 ^ 11 = 2 ^ 11 - 1 at hexp'
    change bits >>> 0 % 2 ^ 52 = 0
    rw [Nat.shiftRight_eq_div_pow] at hexp' ⊢
    simp only [infinity] at h
    omega

/-- A magnitude up to infinity is kept as it is. -/
theorem toBits_ofMagnitude (h : bits ≤ infinity) :
    (ofMagnitude false bits).toBits = UInt64.ofNat bits := by
  have hpack := pack_unpack_of_valid (valid_of_le_infinity h)
  exact congrArg UInt64.ofBitVec hpack

theorem isNegative_ofMagnitude (h : bits ≤ infinity) :
    isNegative (ofMagnitude false bits) = false := by
  have hlt : bits < 2 ^ 63 := Nat.lt_of_le_of_lt h (by decide)
  rw [isNegative, toBits_ofMagnitude h]
  have hnat : (UInt64.ofNat bits).toNat = bits := Nat.mod_eq_of_lt (by omega)
  rw [hnat]
  exact decide_eq_false (by omega)

end Positive

end Formula.Number
