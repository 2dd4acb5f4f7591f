import Formula.Text.Blank
import Formula.Text.Letter
import Mathlib

/-!
# Blanks, digits and letters are apart

No character is of two of the kinds by which a formula is cut into tokens, and the characters with
a meaning of their own are of none of them.

* `isLetter_of_isBlank`, `isLetter_of_isDigit`, `isBlank_of_isDigit`: the kinds have no character
  in common.
* `isLetter_of_isDigit_or_point`, `isBlank_of_isDigit_or_point`: nor has any with the characters of
  numbers.
-/

namespace Formula.Text

/-- No blank is a letter. -/
theorem isLetter_of_isBlank {c : Char} (blank : isBlank c = true) : isLetter c = false := by
  obtain ⟨range, member, low, high⟩ := (blanks.contains_iff c.toNat).1 blank
  have all : ∀ range ∈ blanks.ranges, ∀ k < range.2 + 1 - range.1,
      letters.contains (range.1 + k) = false := by decide +kernel
  have := all range member (c.toNat - range.1) (by omega)
  rwa [show range.1 + (c.toNat - range.1) = c.toNat by omega] at this

theorem toNat_of_isDigit {c : Char} (digit : c.isDigit = true) :
    ∃ k < 10, c.toNat = 48 + k := by
  have bounds : 48 ≤ c.toNat ∧ c.toNat ≤ 57 := by
    simpa [Char.isDigit, UInt32.le_iff_toNat_le] using digit
  exact ⟨c.toNat - 48, by omega, by omega⟩

/-- No digit is a letter. -/
theorem isLetter_of_isDigit {c : Char} (digit : c.isDigit = true) : isLetter c = false := by
  obtain ⟨k, bound, value⟩ := toNat_of_isDigit digit
  have all : ∀ k < 10, letters.contains (48 + k) = false := by decide +kernel
  rw [isLetter, value, all k bound]

/-- No digit is a blank. -/
theorem isBlank_of_isDigit {c : Char} (digit : c.isDigit = true) : isBlank c = false := by
  obtain ⟨k, bound, value⟩ := toNat_of_isDigit digit
  have all : ∀ k < 10, blanks.contains (48 + k) = false := by decide +kernel
  rw [isBlank, value, all k bound]

/-- What numbers are made of are no letters. -/
theorem isLetter_of_isDigit_or_point {c : Char} (h : c.isDigit = true ∨ c = '.') :
    isLetter c = false := by
  rcases h with h | rfl
  · exact isLetter_of_isDigit h
  · decide +kernel

/-- What numbers are made of are no blanks. -/
theorem isBlank_of_isDigit_or_point {c : Char} (h : c.isDigit = true ∨ c = '.') :
    isBlank c = false := by
  rcases h with h | rfl
  · exact isBlank_of_isDigit h
  · decide +kernel

/-- No letter is a blank. -/
theorem isBlank_of_isLetter {c : Char} (h : isLetter c = true) : isBlank c = false := by
  by_contra hblank
  rw [isLetter_of_isBlank (by simpa using hblank)] at h
  cases h

/-- No letter belongs to a number. -/
theorem not_isDigit_or_point {c : Char} (h : isLetter c = true) :
    ¬ (c.isDigit = true ∨ c = '.') := by
  intro hnumber
  rw [isLetter_of_isDigit_or_point hnumber] at h
  cases h

end Formula.Text
