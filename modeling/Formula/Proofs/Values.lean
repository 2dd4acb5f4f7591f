import Formula.Expr.Sampling
import Mathlib.Data.List.Forall2

/-!
# Trees with values

Only a hole keeps a tree from having a value, wherever it is evaluated and whatever its rules are.
One point therefore decides on all of them: over a list of points a tree has every value or none,
unless there is no point at all, and the same holds of its graph over a grid.

* `Expr.eval_eq_error_iff`: a tree fails exactly if it has a hole.
* `Expr.Evaluates`: what may come of evaluating at many points at once.
* `Expr.evaluates_iff`: nothing can come of it but the values one after the other.
* `Expr.sample_eq_ok_iff`: the graph of a tree is over the grid, and made of its values there.
* `Expr.values_agree`: a tree alone, at many points and over a grid.
-/

namespace Formula

/-! ## Grids -/

theorem length_grid (start stop : Float) (steps : Nat) :
    (grid start stop steps).length = steps := by
  match steps with
  | 0 | 1 => rfl
  | steps + 2 => rw [grid, List.length_map, List.length_range]

theorem grid_ne_nil_iff {start stop : Float} {steps : Nat} :
    grid start stop steps ≠ [] ↔ 1 ≤ steps := by
  rw [← List.length_pos_iff, length_grid]
  exact Nat.succ_le_iff.symm

namespace Expr

variable {t : Expr} {x start stop : Float} {points values : List Float} {e : EvalError}

/-! ## Errors -/

/-- As there is one error only, it does not matter which one is asked for. -/
theorem exists_error_iff {α : Type} {result : Except EvalError α} {p : Prop}
    (h : ∀ e, result = .error e ↔ p) : (∃ e, result = .error e) ↔ p :=
  ⟨fun ⟨e, he⟩ => (h e).1 he, fun hp => ⟨.uninitializedNode, (h _).2 hp⟩⟩

/-- What does not fail has a result. -/
theorem exists_ok_iff {α : Type} {result : Except EvalError α} {p : Prop}
    (h : ∀ e, result = .error e ↔ ¬ p) : (∃ a, result = .ok a) ↔ p := by
  rw [← not_iff_not, ← exists_error_iff h]
  cases result with
  | error e => exact iff_of_true nofun ⟨e, rfl⟩
  | ok a => exact iff_of_false (fun hnone => hnone ⟨a, rfl⟩) nofun

/-! ## One point -/

/-- A tree fails exactly if it has a hole. -/
theorem eval_eq_error_iff : t.eval x = .error e ↔ t.isComplete = false := by
  rw [← Bool.not_eq_true, ← exists_eval_iff (x := x)]
  cases t.eval x with
  | error other => exact iff_of_true (by cases other; cases e; rfl) nofun
  | ok y => exact iff_of_false nofun fun hnone => hnone ⟨y, rfl⟩

/-! ## Many points -/

/-- What may come of evaluating a tree at many points when nobody knows which is taken first: its
    values in the order of the points, or else the error at any of them. -/
inductive Evaluates (t : Expr) (points : List Float) : Except EvalError (List Float) → Prop
  | values {values : List Float} : List.Forall₂ (fun x y => t.eval x = .ok y) points values →
      Evaluates t points (.ok values)
  | error {x : Float} {e : EvalError} : x ∈ points → t.eval x = .error e →
      Evaluates t points (.error e)

/-- Taking the points one after the other is a way to take them. -/
theorem evaluates_evalAll (t : Expr) (points : List Float) :
    t.Evaluates points (t.evalAll points) := by
  induction points with
  | nil => exact .values .nil
  | cons x rest ih =>
    rw [evalAll, List.mapM_cons]
    cases hx : t.eval x with
    | error e => exact .error List.mem_cons_self hx
    | ok y =>
      rw [evalAll] at ih
      generalize rest.mapM (fun x => t.eval x) = outcome at ih ⊢
      cases ih with
      | values hrest => exact .values (.cons hx hrest)
      | error hmem he => exact .error (List.mem_cons_of_mem x hmem) he

/-- Values leave no point at which the tree fails. -/
theorem isComplete_of_forall₂ (h : List.Forall₂ (fun x y => t.eval x = .ok y) points values)
    (hx : x ∈ points) : t.isComplete = true := by
  obtain ⟨i, hi, rfl⟩ := List.getElem_of_mem hx
  exact exists_eval_iff.1 ⟨_, h.get hi (h.length_eq ▸ hi)⟩

/-- In whatever order the points are taken, and whichever error is noticed, it comes to the same. -/
theorem Evaluates.unique {first second : Except EvalError (List Float)}
    (hfirst : t.Evaluates points first) (hsecond : t.Evaluates points second) :
    first = second := by
  have hnot : ∀ {values x e}, List.Forall₂ (fun x y => t.eval x = .ok y) points values →
      x ∈ points → t.eval x ≠ .error e := by
    intro values x e hvalues hx he
    have hhole := eval_eq_error_iff.1 he
    rw [isComplete_of_forall₂ hvalues hx] at hhole
    cases hhole
  cases hfirst with
  | values hfirst =>
    cases hsecond with
    | values hsecond =>
      have hunique : Relator.RightUnique fun x y => t.eval x = .ok y := fun x y z hy hz =>
        Except.ok.inj (hy.symm.trans hz)
      rw [List.right_unique_forall₂' hunique hfirst hsecond]
    | error hmem he => exact absurd he (hnot hfirst hmem)
  | @error _ e hmem he =>
    cases hsecond with
    | values hsecond => exact absurd he (hnot hsecond hmem)
    | @error _ e' _ _ =>
      cases e
      cases e'
      rfl

theorem evaluates_iff {outcome : Except EvalError (List Float)} :
    t.Evaluates points outcome ↔ t.evalAll points = outcome :=
  ⟨(t.evaluates_evalAll points).unique, fun h => h ▸ t.evaluates_evalAll points⟩

/-- Each value is the one at the point in its place. -/
theorem evalAll_eq_ok_iff :
    t.evalAll points = .ok values ↔ List.Forall₂ (fun x y => t.eval x = .ok y) points values := by
  rw [← evaluates_iff]
  refine ⟨fun h => ?_, .values⟩
  cases h with
  | values hvalues => exact hvalues

/-- A hole is noticed as soon as there is a point. -/
theorem evalAll_eq_error_iff :
    t.evalAll points = .error e ↔ ¬ (t.isComplete = true ∨ points = []) := by
  rw [← evaluates_iff, not_or, Bool.not_eq_true]
  constructor
  · intro h
    cases h with
    | error hmem he => exact ⟨eval_eq_error_iff.1 he, List.ne_nil_of_mem hmem⟩
  · rintro ⟨hhole, hne⟩
    obtain ⟨x, hx⟩ := List.exists_mem_of_ne_nil points hne
    exact .error hx (eval_eq_error_iff.2 hhole)

/-! ## Grids of points -/

/-- The graph of a tree has the points of the grid in their order, each with the value there. -/
theorem sample_eq_ok_iff {steps : Nat} {graph : List (Float × Float)} :
    t.sample start stop steps = .ok graph ↔ graph.map Prod.fst = grid start stop steps ∧
      ∀ point ∈ graph, t.eval point.1 = .ok point.2 := by
  constructor
  · intro h
    rw [sample] at h
    cases hvalues : t.evalAll (grid start stop steps) with
    | error e =>
      rw [hvalues] at h
      cases h
    | ok values =>
      rw [hvalues] at h
      cases h
      obtain ⟨hlength, hzip⟩ := List.forall₂_iff_zip.1 (evalAll_eq_ok_iff.1 hvalues)
      exact ⟨List.map_fst_zip (Nat.le_of_eq hlength), fun point hpoint => hzip hpoint⟩
  · rintro ⟨hgrid, hgraph⟩
    have hvalues : t.evalAll (grid start stop steps) = .ok (graph.map Prod.snd) := by
      rw [evalAll_eq_ok_iff, ← hgrid, List.forall₂_map_left_iff, List.forall₂_map_right_iff,
        List.forall₂_same]
      exact hgraph
    rw [sample, hvalues, ← hgrid]
    exact congrArg Except.ok (List.zip_of_prod rfl rfl).symm

/-- The graph of a tree is missing exactly if the values are. -/
theorem sample_eq_error_iff {steps : Nat} :
    t.sample start stop steps = .error e ↔ t.isComplete = false ∧ 1 ≤ steps := by
  rw [← grid_ne_nil_iff, ← Bool.not_eq_true, ← not_or, ← evalAll_eq_error_iff (e := e), sample]
  cases t.evalAll (grid start stop steps) with
  | error other =>
    show (Except.error other : Except EvalError (List (Float × Float))) = .error e ↔ _
    rw [Except.error.injEq, Except.error.injEq]
  | ok values => exact iff_of_false nofun nofun

/-- Every tree, holes or none: a tree fails at a point exactly if it has a hole. At many points it
    has its value at each of them, in their order and however they are taken, unless there is a
    hole and a point to notice it. Its graph is missing in the same case; otherwise it has as many
    points as were asked for, which are those of the grid, with the values of the tree. -/
theorem values_agree (t : Expr) :
    (∀ x, (∃ e, t.eval x = .error e) ↔ t.isComplete = false) ∧
    (∀ points,
      ((∃ values, t.evalAll points = .ok values) ↔ t.isComplete = true ∨ points = []) ∧
      (∀ values, t.evalAll points = .ok values ↔ values.length = points.length ∧
        ∀ i (hp : i < points.length) (hv : i < values.length), t.eval points[i] = .ok values[i]) ∧
      (t.evalAll points = .error .uninitializedNode ↔ ¬ (t.isComplete = true ∨ points = [])) ∧
      ∀ outcome, t.Evaluates points outcome ↔ t.evalAll points = outcome) ∧
    ∀ start stop steps,
      ((∃ e, t.sample start stop steps = .error e) ↔ t.isComplete = false ∧ 1 ≤ steps) ∧
      (¬ (t.isComplete = false ∧ 1 ≤ steps) → ∃ graph, t.sample start stop steps = .ok graph ∧
        graph.length = steps ∧ graph.map Prod.fst = grid start stop steps ∧
        ∀ point ∈ graph, t.eval point.1 = .ok point.2) := by
  refine ⟨fun x => exists_error_iff fun e => eval_eq_error_iff,
    fun points => ⟨exists_ok_iff fun e => evalAll_eq_error_iff, fun values => ?_,
      evalAll_eq_error_iff, fun outcome => evaluates_iff⟩,
    fun start stop steps => ⟨exists_error_iff fun e => sample_eq_error_iff, fun h => ?_⟩⟩
  · rw [evalAll_eq_ok_iff, List.forall₂_iff_get, eq_comm]
    rfl
  · obtain ⟨graph, hok⟩ := (exists_ok_iff fun e => sample_eq_error_iff.trans not_not.symm).2 h
    obtain ⟨hgrid, hgraph⟩ := sample_eq_ok_iff.1 hok
    have hlength : graph.length = steps := by
      rw [← List.length_map (f := Prod.fst), hgrid, length_grid]
    exact ⟨graph, hok, hlength, hgrid, hgraph⟩

/-- The sum of the variable and a hole has all its values where there is no point, and none where
    there are two. -/
theorem values_agree_hole :
    let t : Expr := .binary '+' (· + ·) (.var "x") .hole
    (t.evalAll [] = .ok [] ∧ ∃ graph, t.sample 0 1 0 = .ok graph ∧ graph.length = 0) ∧
      t.evalAll [0, 1] = .error .uninitializedNode ∧ ∃ e, t.sample 0 1 2 = .error e := by
  intro t
  obtain ⟨-, hmany, hgraph⟩ := values_agree t
  refine ⟨⟨?_, ?_⟩, ?_, ?_⟩
  · exact ((hmany []).2.1 []).2 ⟨rfl, fun i hp => absurd hp (Nat.not_lt_zero i)⟩
  · obtain ⟨graph, hok, hlength, -⟩ := (hgraph 0 1 0).2 fun h => absurd h.2 (by decide)
    exact ⟨graph, hok, hlength⟩
  · exact (hmany [0, 1]).2.2.1.2 (by simp [t, isComplete])
  · exact (hgraph 0 1 2).1.2 ⟨rfl, by decide⟩

end Expr

end Formula
