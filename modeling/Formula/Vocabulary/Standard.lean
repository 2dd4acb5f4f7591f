import Formula.Vocabulary.Change

/-!
# The standard vocabulary

The operators of arithmetic and the elementary functions, over the variable `x`.

* `arithmetic`, `elementary`, `preset`: the changes that add them to a vocabulary.
* `Vocabulary.standard`: the vocabulary with nothing else in it.
-/

namespace Formula

/-- Sums and differences, products and quotients, and powers. A quotient by zero is an infinity or
    not a number. -/
def arithmetic : List Change :=
  [.addOperator '+' ⟨.addition, (· + ·)⟩, .addOperator '-' ⟨.addition, (· - ·)⟩,
    .addOperator '*' ⟨.multiplication, (· * ·)⟩, .addOperator '/' ⟨.multiplication, (· / ·)⟩,
    .addOperator '^' ⟨.exponentiation, Float.pow⟩]

/-- The square root, the trigonometric functions, the exponential and the natural logarithm. -/
def elementary : List Change :=
  [.addFunction "sqrt" Float.sqrt, .addFunction "cos" Float.cos, .addFunction "sin" Float.sin,
    .addFunction "tan" Float.tan, .addFunction "exp" Float.exp, .addFunction "ln" Float.log]

/-- Arithmetic, then the elementary functions. -/
def preset : List Change := arithmetic ++ elementary

/-- The variable `x` with arithmetic and the elementary functions. -/
def Vocabulary.standard : Except ConfigError Vocabulary :=
  match Vocabulary.empty.install preset with
  | (.refused cause, _) => .error cause
  | (_, standard) => .ok standard

end Formula
