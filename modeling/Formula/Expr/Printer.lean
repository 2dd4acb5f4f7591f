import Formula.Expr.Basic
import Formula.Number.Printer

/-!
# Expression trees as formulas

A tree is written without blanks, with parentheses around every operator and its operands and
around the operand of a function or negation, whether they are needed or not.

* `Expr.render`: the formula of a tree.
-/

namespace Formula.Expr

/-- The formula of a tree. A hole is written as a question mark. -/
def render : Expr → String
  | constant value => Number.write .plain value
  | var name => name
  | unary name _ operand => name ++ "(" ++ operand.render ++ ")"
  | binary symbol _ left right =>
    "(" ++ left.render ++ String.singleton symbol ++ right.render ++ ")"
  | hole => "?"

end Formula.Expr
