import Formula.Text.CodePoints

/-!
# Blanks

The characters that separate tokens and carry no meaning of their own: those with the Unicode
property White_Space.
-/

namespace Formula.Text

/-- The code points with the Unicode property White_Space. -/
def blanks : CodePoints where
  ranges :=
    [(0x9, 0xD), (0x20, 0x20), (0x85, 0x85), (0xA0, 0xA0), (0x1680, 0x1680), (0x2000, 0x200A),
     (0x2028, 0x2029), (0x202F, 0x202F), (0x205F, 0x205F), (0x3000, 0x3000)]
  ascend := by decide +kernel

/-- Whether a character is a blank. -/
def isBlank (c : Char) : Bool := blanks.contains c.toNat

end Formula.Text
