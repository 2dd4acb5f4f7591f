import Formula.Error

/-!
# Expression trees

A formula of one variable as a tree. Each operator carries its rule, so that a tree keeps its
meaning whatever becomes of the vocabulary it was read with. A tree built by hand may have holes.

* `Expr.eval`: the value of a tree for a value of the variable.
* `Expr.isComplete`: whether a tree has no hole.
* `Expr.depth`: the number of nodes on the longest way from the root to a leaf.
* `Expr.exists_eval_iff`: only a hole keeps a tree from having a value.
-/

namespace Formula

/-- What a function or the negation does to its operand. -/
abbrev UnaryRule := Float → Float

/-- What an operator does to its left and right operand. -/
abbrev BinaryRule := Float → Float → Float

/-- A tree of operators over constants and the variable. -/
inductive Expr where
  | constant (value : Float)
  /-- The variable. There is only one, so its name is for printing. -/
  | var (name : String)
  | unary (name : String) (rule : UnaryRule) (operand : Expr)
  | binary (symbol : Char) (rule : BinaryRule) (left right : Expr)
  /-- A place that nobody has filled. -/
  | hole

namespace Expr

/-- The value of a tree where the variable has the value `x`; a hole has none. -/
def eval (x : Float) : Expr → Except EvalError Float
  | constant value => .ok value
  | var _ => .ok x
  | unary _ rule operand => do return rule (← operand.eval x)
  | binary _ rule left right => do
    let leftValue ← left.eval x
    let rightValue ← right.eval x
    return rule leftValue rightValue
  | hole => .error .uninitializedNode

/-- The number of nodes on the longest way from the root to a leaf. -/
def depth : Expr → Nat
  | constant _ | var _ | hole => 1
  | unary _ _ operand => 1 + operand.depth
  | binary _ _ left right => 1 + max left.depth right.depth

/-- Whether a tree has no hole. -/
def isComplete : Expr → Bool
  | constant _ | var _ => true
  | unary _ _ operand => operand.isComplete
  | binary _ _ left right => left.isComplete && right.isComplete
  | hole => false

/-- A tree has a value exactly if it has no hole, and then for every value of the variable. -/
theorem exists_eval_iff {t : Expr} {x : Float} :
    (∃ y, t.eval x = .ok y) ↔ t.isComplete = true := by
  induction t with
  | constant value => exact iff_of_true ⟨value, rfl⟩ rfl
  | var name => exact iff_of_true ⟨x, rfl⟩ rfl
  | unary name rule operand ih =>
    rw [isComplete, ← ih, eval]
    cases operand.eval x with
    | error e => exact iff_of_false nofun nofun
    | ok y => exact iff_of_true ⟨rule y, rfl⟩ ⟨y, rfl⟩
  | binary symbol rule left right ihl ihr =>
    rw [isComplete, Bool.and_eq_true, ← ihl, ← ihr, eval]
    cases left.eval x with
    | error e => exact iff_of_false nofun nofun
    | ok y =>
      cases right.eval x with
      | error e => exact iff_of_false nofun nofun
      | ok z => exact iff_of_true ⟨rule y z, rfl⟩ ⟨⟨y, rfl⟩, z, rfl⟩
  | hole => exact iff_of_false nofun nofun

end Expr

end Formula
