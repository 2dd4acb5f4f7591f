import Formula.Number.ReadBack
import Mathlib.Tactic.SplitIfs

/-!
# Numerals and the doubles they stand for

A numeral is made of digits and at most one point, and has a digit. It has no sign, so the double
that it stands for has none either, and is never what is not a number.

* `Decimal.isSome_ofNumeral?_iff`: which texts are numerals.
* `Decimal.isNegative_toFloat`: the double of a decimal has no sign.
-/

namespace Formula.Number

namespace Decimal

/-! ## Numerals -/

/-- Digits hold no point. -/
theorem count_point {ds : List Char} (h : ∀ c ∈ ds, c.isDigit = true) : ds.count '.' = 0 := by
  refine List.count_eq_zero.2 fun hp => ?_
  cases h '.' hp

theorem exists_digits_append (cs : List Char) :
    ∃ whole rest, cs = whole ++ rest ∧ (∀ c ∈ whole, c.isDigit = true) ∧
      ∀ c ∈ rest.head?, c.isDigit = false := by
  refine ⟨cs.takeWhile Char.isDigit, cs.dropWhile Char.isDigit,
    List.takeWhile_append_dropWhile.symm, ?_, ?_⟩
  · exact fun c hc => List.all_eq_true.1 List.all_takeWhile c hc
  intro c hc
  have hhead := List.head?_dropWhile_not Char.isDigit cs
  rw [Option.mem_def.1 hc] at hhead
  exact hhead

section Numeral

variable {whole fraction : List Char} {c : Char}

theorem ofNumeral?_digits (h : ∀ c ∈ whole, c.isDigit = true) :
    ofNumeral? whole = ofDigits? whole [] := by
  rw [ofNumeral?, dropWhile_isDigit h]

theorem ofNumeral?_point (h : ∀ c ∈ whole, c.isDigit = true) :
    ofNumeral? (whole ++ '.' :: fraction)
      = if fraction.all Char.isDigit then ofDigits? whole fraction else none := by
  have hp : Char.isDigit '.' = false := by decide
  rw [ofNumeral?, List.dropWhile_append_of_pos h, List.takeWhile_append_of_pos h]
  simp [hp]

theorem ofNumeral?_other (h : ∀ c ∈ whole, c.isDigit = true) (hc : c.isDigit = false)
    (hp : c ≠ '.') : ofNumeral? (whole ++ c :: fraction) = none := by
  rw [ofNumeral?, List.dropWhile_append_of_pos h, List.dropWhile_cons_of_neg (by simp [hc])]
  split
  · rename_i he
    cases he
  · rename_i he
    cases he
    exact absurd rfl hp
  · rfl

theorem isSome_ofDigits?_iff : (ofDigits? whole fraction).isSome ↔ whole ++ fraction ≠ [] := by
  unfold ofDigits?
  split_ifs with h <;> simp [h]

/-- Digits and a point are a numeral unless there is no digit. -/
theorem isSome_ofNumeral?_point (h : ∀ c ∈ whole, c.isDigit = true)
    (hf : ∀ c ∈ fraction, c.isDigit = true) :
    (ofNumeral? (whole ++ '.' :: fraction)).isSome ↔ whole ++ '.' :: fraction ≠ ['.'] := by
  have hsame : whole ++ '.' :: fraction = ['.'] ↔ whole ++ fraction = [] := by
    simp [List.append_eq_singleton_iff]
  rw [ofNumeral?_point h, if_pos (List.all_eq_true.2 hf), isSome_ofDigits?_iff, ne_eq, ne_eq, hsame]

end Numeral

/-- A numeral is made of digits and at most one point, and has a digit. -/
theorem isSome_ofNumeral?_iff {cs : List Char} :
    (ofNumeral? cs).isSome ↔ cs ≠ [] ∧ cs ≠ ['.'] ∧ (∀ c ∈ cs, c.isDigit = true ∨ c = '.') ∧
      cs.count '.' ≤ 1 := by
  obtain ⟨whole, rest, rfl, hwhole, hhead⟩ := exists_digits_append cs
  cases rest with
  | nil =>
    rw [List.append_nil, ofNumeral?_digits hwhole, isSome_ofDigits?_iff, List.append_nil,
      count_point hwhole]
    refine ⟨fun hne => ⟨hne, ?_, fun c hc => .inl (hwhole c hc), Nat.zero_le 1⟩, fun h => h.1⟩
    rintro rfl
    cases hwhole '.' List.mem_cons_self
  | cons c fraction =>
    have hc : c.isDigit = false := hhead c rfl
    by_cases hp : c = '.'
    · subst hp
      rw [List.count_append, List.count_cons_self, count_point hwhole, Nat.zero_add]
      by_cases hall : ∀ d ∈ fraction, d.isDigit = true
      · rw [isSome_ofNumeral?_point hwhole hall, count_point hall]
        refine ⟨fun hne => ⟨by simp, hne, ?_, Nat.le_refl 1⟩, fun h => h.2.1⟩
        simp only [List.mem_append, List.mem_cons]
        rintro d (hd | rfl | hd)
        · exact .inl (hwhole d hd)
        · exact .inr rfl
        · exact .inl (hall d hd)
      · rw [ofNumeral?_point hwhole, if_neg (mt List.all_eq_true.1 hall)]
        refine ⟨fun h => absurd h (by simp), fun ⟨_, _, hchars, hle⟩ => absurd ?_ hall⟩
        have hnone : '.' ∉ fraction := List.count_eq_zero.1 (by omega)
        intro d hd
        exact (hchars d (by simp [hd])).resolve_right fun he => hnone (he ▸ hd)
    · rw [ofNumeral?_other hwhole hc hp]
      refine ⟨fun h => absurd h (by simp), fun ⟨_, _, hchars, _⟩ => ?_⟩
      rcases hchars c (by simp) with hd | hd
      · rw [hc] at hd
        cases hd
      · exact absurd hd hp

end Decimal

/-! ## Doubles -/

theorem Decimal.toMagnitude_le (d : Decimal) : d.toMagnitude ≤ infinity := Nat.min_le_left _ _

/-- The double of a decimal has no sign. -/
theorem Decimal.isNegative_toFloat (d : Decimal) : isNegative d.toFloat = false :=
  isNegative_ofMagnitude d.toMagnitude_le

end Formula.Number
