import Formula.Reading.Basic
import Formula.Vocabulary.Standard

/-!
# From a text to a value

* `evaluate`: the value of a formula in the standard vocabulary.
-/

namespace Formula

/-- The value of a formula in the standard vocabulary, where the variable has the value `x`. -/
def evaluate (formula : String) (x : Float) : Except Error Float := do
  let standard ← Vocabulary.standard.mapError Error.config
  let tree ← (standard.parse formula).mapError Error.parse
  (tree.eval x).mapError Error.eval

end Formula
