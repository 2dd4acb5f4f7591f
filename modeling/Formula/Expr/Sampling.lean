import Formula.Expr.Basic

/-!
# Expression trees at many points

* `Expr.evalAll`: the values of a tree at a list of points, in their order.
* `grid`: evenly spaced points.
* `Expr.sample`: the graph of a tree over such a grid.
-/

namespace Formula

/-- A number of evenly spaced points from `start` to `stop`. A single point is `start`. -/
def grid (start stop : Float) : Nat → List Float
  | 0 => []
  | 1 => [start]
  | steps + 2 =>
    let step := (stop - start) / Float.ofNat (steps + 1)
    (List.range (steps + 2)).map fun i => start + step * Float.ofNat i

namespace Expr

/-- The values of a tree at the given points, or the first error. -/
def evalAll (e : Expr) (points : List Float) : Except EvalError (List Float) :=
  points.mapM fun x => e.eval x

/-- The points of a grid, each with the value of a tree there. -/
def sample (e : Expr) (start stop : Float) (steps : Nat) :
    Except EvalError (List (Float × Float)) := do
  let points := grid start stop steps
  return points.zip (← e.evalAll points)

end Expr

end Formula
