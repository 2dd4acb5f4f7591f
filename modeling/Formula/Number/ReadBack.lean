import Formula.Number.Packing
import Formula.Number.Printer

/-!
# Numbers read back

What is written for a finite double without a sign is a numeral, and reading it gives the double.

* `ofNumeral?_positional`: the digits of a decimal are a numeral of the same value.
* `ofNumeral?_write`: a finite double without a sign is read back from its text.
* `write_injective`: two such doubles with one text are one double.
-/

namespace Formula.Number

/-! ## Digits -/

theorem isDigit_of_mem_wholeDigits {n : Nat} {c : Char} (member : c ∈ wholeDigits n) :
    c.isDigit = true :=
  Nat.isDigit_of_mem_toDigits (by decide) (by decide) member

theorem wholeDigits_ne_nil (n : Nat) : wholeDigits n ≠ [] := Nat.toDigits_ne_nil

theorem ofDigitChars_wholeDigits (n : Nat) : Nat.ofDigitChars 10 (wholeDigits n) 0 = n :=
  Nat.ofDigitChars_toDigits (by decide) (by decide)

theorem isDigit_of_mem_paddedDigits {width n : Nat} {c : Char}
    (member : c ∈ paddedDigits width n) : c.isDigit = true := by
  rcases List.mem_append.1 member with zero | digit
  · rw [List.eq_of_mem_replicate zero]
    decide
  · exact isDigit_of_mem_wholeDigits digit

theorem ofDigitChars_paddedDigits (width n : Nat) :
    Nat.ofDigitChars 10 (paddedDigits width n) 0 = n := by
  rw [paddedDigits, Nat.ofDigitChars_append, Nat.ofDigitChars_replicate_zero, Nat.mul_zero,
    ofDigitChars_wholeDigits]

theorem length_paddedDigits {width n : Nat} (pos : 0 < width) (fits : n < 10 ^ width) :
    (paddedDigits width n).length = width := by
  have short := (Nat.length_toDigits_le_iff (by decide) pos).2 fits
  rw [paddedDigits, List.length_append, List.length_replicate, wholeDigits]
  omega

/-! ## Decimals -/

namespace Decimal

theorem ofDigits?_wholeDigits (n : Nat) (fraction : List Char) :
    ofDigits? (wholeDigits n) fraction
      = some ⟨Nat.ofDigitChars 10 (wholeDigits n ++ fraction) 0, -fraction.length⟩ := by
  rw [ofDigits?, if_neg]
  simp [wholeDigits_ne_nil]

theorem dropWhile_isDigit {whole : List Char} (digits : ∀ c ∈ whole, c.isDigit = true) :
    whole.dropWhile Char.isDigit = [] := by
  rw [← List.append_nil whole, List.dropWhile_append_of_pos digits, List.dropWhile_nil]

/-- Digits alone are the numeral of a whole number. -/
theorem ofNumeral?_wholeDigits (n : Nat) : ofNumeral? (wholeDigits n) = some ⟨n, 0⟩ := by
  rw [ofNumeral?, dropWhile_isDigit fun _ => isDigit_of_mem_wholeDigits]
  simp only [ofDigits?_wholeDigits, List.append_nil, ofDigitChars_wholeDigits, List.length_nil]
  rfl

/-- The digits of a decimal are a numeral, of a decimal with the same value. -/
theorem ofNumeral?_positional (d : Decimal) :
    ∃ e, ofNumeral? d.positional = some e ∧ e.toMagnitude = d.toMagnitude := by
  by_cases whole : 0 ≤ d.exponent
  · refine ⟨⟨d.digits * 10 ^ d.exponent.toNat, 0⟩, ?_, ?_⟩
    · simp only [positional, isWhole, whole, decide_true, if_true, ofNumeral?_wholeDigits]
    · rw [toMagnitude, toMagnitude, show (-d.exponent).toNat = 0 by omega]
      simp
  · refine ⟨d, ?_, rfl⟩
    have places : 0 < (-d.exponent).toNat := by omega
    have front : ∀ c ∈ wholeDigits (d.digits / 10 ^ (-d.exponent).toNat), c.isDigit = true :=
      fun _ => isDigit_of_mem_wholeDigits
    have width := length_paddedDigits places
      (Nat.mod_lt d.digits (Nat.pow_pos (by decide : 0 < 10)))
    have back : (paddedDigits (-d.exponent).toNat
        (d.digits % 10 ^ (-d.exponent).toNat)).all Char.isDigit = true :=
      List.all_eq_true.2 fun _ => isDigit_of_mem_paddedDigits
    have value : Nat.ofDigitChars 10 (wholeDigits (d.digits / 10 ^ (-d.exponent).toNat)
        ++ paddedDigits (-d.exponent).toNat (d.digits % 10 ^ (-d.exponent).toNat)) 0
        = d.digits := by
      rw [Nat.ofDigitChars_append, Nat.ofDigitChars_eq_ofDigitChars_zero, width,
        ofDigitChars_paddedDigits, ofDigitChars_wholeDigits, Nat.div_add_mod]
    simp only [positional, isWhole, whole, decide_false, Bool.false_eq_true, if_false]
    rw [ofNumeral?, List.dropWhile_append_of_pos front, List.takeWhile_append_of_pos front]
    simp only [List.dropWhile_cons, List.takeWhile_cons, show ('.').isDigit = false by decide,
      Bool.false_eq_true, if_false, back, if_true, List.append_nil]
    rw [ofDigits?_wholeDigits, value, width,
      show -((-d.exponent).toNat : Int) = d.exponent by omega]

end Decimal

/-! ## Doubles -/

/-- A finite double without a sign is read back from its text. -/
theorem ofNumeral?_write {x : Float} (finite : magnitude x < infinity)
    (positive : isNegative x = false) :
    ∃ d, Decimal.ofNumeral? (write .plain x).toList = some d ∧ d.toFloat = x := by
  have self := ofMagnitude_magnitude x
  rw [positive] at self
  by_cases zero : magnitude x = 0
  · refine ⟨⟨0, 0⟩, ?_, ?_⟩
    · simp only [write, zero, positive, infinity]
      exact Decimal.ofNumeral?_wholeDigits 0
    · rw [← self, zero, Decimal.toFloat, Decimal.toMagnitude,
        nearest_of_units (by decide : 0 < infinity) (Nat.pow_pos (by decide))]
      simp [units]
  · obtain ⟨d, read, value⟩ := Decimal.ofNumeral?_positional (shortest (magnitude x))
    refine ⟨d, ?_, ?_⟩
    · simp only [write, positive, zero, Nat.not_lt.2 (Nat.le_of_lt finite), Nat.ne_of_lt finite,
        Decimal.write, Style.plain, Bool.false_eq_true, if_false]
      simpa using read
    · rw [Decimal.toFloat, value, shortest_toMagnitude finite, self]

/-- Two finite doubles without a sign that have one text are one double. -/
theorem write_injective {x y : Float} (finiteX : magnitude x < infinity)
    (positiveX : isNegative x = false) (finiteY : magnitude y < infinity)
    (positiveY : isNegative y = false) (same : write .plain x = write .plain y) : x = y := by
  obtain ⟨d, readX, valueX⟩ := ofNumeral?_write finiteX positiveX
  obtain ⟨e, readY, valueY⟩ := ofNumeral?_write finiteY positiveY
  rw [same, readY] at readX
  rw [← valueX, ← valueY, Option.some.inj readX]

end Formula.Number
