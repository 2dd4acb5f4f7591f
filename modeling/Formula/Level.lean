/-!
# Levels of binding

A level says how tightly an operator binds: the one of higher rank takes the operand between two
operators. Nine levels are named. The usual operators need four of them, so that one can be put
between any two neighbours, and the highest stands apart from the rest.

* `not_le`: a level that is not at most another is above it.
-/

namespace Formula

/-- How tightly an operator binds, from the loosest to the tightest. -/
inductive Level where
  | subAdd
  | addition
  | addMul
  | multiplication
  | mulExp
  | exponentiation
  | expApp
  | application
  | grouping
deriving DecidableEq

namespace Level

/-- The rank by which levels are compared. No level has rank 8. -/
def rank : Level → Nat
  | subAdd => 0
  | addition => 1
  | addMul => 2
  | multiplication => 3
  | mulExp => 4
  | exponentiation => 5
  | expApp => 6
  | application => 7
  | grouping => 9

instance : LE Level := ⟨fun a b => a.rank ≤ b.rank⟩

instance : LT Level := ⟨fun a b => a.rank < b.rank⟩

instance (a b : Level) : Decidable (a ≤ b) := inferInstanceAs (Decidable (a.rank ≤ b.rank))

instance (a b : Level) : Decidable (a < b) := inferInstanceAs (Decidable (a.rank < b.rank))

instance : Ord Level := ⟨fun a b => compare a.rank b.rank⟩

theorem le_def {a b : Level} : a ≤ b ↔ a.rank ≤ b.rank := Iff.rfl

theorem lt_def {a b : Level} : a < b ↔ a.rank < b.rank := Iff.rfl

theorem not_le {a b : Level} : ¬ a ≤ b ↔ b < a := Nat.not_le

/-- The name of a level. -/
def name : Level → String
  | subAdd => "SubAdd"
  | addition => "Addition"
  | addMul => "AddMul"
  | multiplication => "Multiplication"
  | mulExp => "MulExp"
  | exponentiation => "Exponentiation"
  | expApp => "ExpApp"
  | application => "Application"
  | grouping => "Grouping"

end Level

end Formula
