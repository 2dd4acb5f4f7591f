import Formula.Proofs.Phrase
import Mathlib.Tactic.ByContra

/-!
# Completing what waits

An operation that binds gets its operands, and what remains is completed as if its node had been
read in its place. All that is known of a reading below what it completes stays as it is.

* `complete_unary`, `complete_binary`: the newest operation is completed first.
* `complete_of_defers`: nothing is completed behind an operation that does not bind.
* `isSome_settle_iff`: operations that lack a value go on as long as others wait behind them.
* `complete_eq_ok_iff`: what is completed, and when.
* `depth_complete`, `length_complete`: completing opens and closes no group, and takes one value for
  each operation with two operands.
* `step_*`: what each kind of token does to a reading.
-/

namespace Formula

/-- Whether an operation takes two operands. -/
def Operation.isBinary : Operation → Bool
  | unary .. => false
  | binary .. => true

namespace Pending

/-- The newest operation lets an operator of this level go first, or there is none in the innermost
    group. -/
def Defers (level : Level) : List Pending → Prop
  | .operation _ newest :: _ => newest < level
  | _ => True

/-- The number of open groups. -/
def depth : List Pending → Nat
  | [] => 0
  | .operation _ _ :: rest => depth rest
  | .group :: rest => depth rest + 1

theorem defers_of_release {level : Level} {waiting : List Pending}
    (h : release (fun l => decide (level ≤ l)) waiting = ([], waiting)) : Defers level waiting := by
  match waiting with
  | [] => trivial
  | .group :: rest => trivial
  | .operation op newest :: rest =>
    by_contra hd
    have hn : level ≤ newest := by
      by_contra hl
      exact hd (Level.not_le.1 hl)
    simp [release, hn] at h

theorem release_of_defers {level : Level} {waiting : List Pending} (h : Defers level waiting) :
    release (fun l => decide (level ≤ l)) waiting = ([], waiting) := by
  match waiting with
  | [] => rfl
  | .group :: rest => rfl
  | .operation op newest :: rest =>
    have hn : ¬ level ≤ newest := Level.not_le.2 h
    simp [release, hn]

/-- Operations are released, groups are not. -/
theorem depth_release (binds : Level → Bool) (waiting : List Pending) :
    depth (release binds waiting).2 = depth waiting := by
  induction waiting with
  | nil => rfl
  | cons first rest ih =>
    cases first with
    | group => rfl
    | operation op level =>
      simp only [release]
      split_ifs with h
      · simpa [depth] using ih
      · rfl

/-- The number of waiting operations with two operands. Each of them leaves one value less. -/
def binaries : List Pending → Nat
  | [] => 0
  | .operation (.binary _ _) _ :: rest => binaries rest + 1
  | _ :: rest => binaries rest

/-- An operation with two operands is released or waits on. -/
theorem binaries_release (binds : Level → Bool) (waiting : List Pending) :
    binaries waiting = (release binds waiting).1.countP (·.isBinary)
      + binaries (release binds waiting).2 := by
  induction waiting with
  | nil => rfl
  | cons first rest ih =>
    cases first with
    | group => exact (Nat.zero_add _).symm
    | operation op level =>
      simp only [release]
      split_ifs with hl
      · cases op with
        | unary name rule =>
          rw [List.countP_cons_of_neg (by simp [Operation.isBinary])]
          exact ih
        | binary symbol rule =>
          rw [List.countP_cons_of_pos rfl, binaries, ih]
          exact Nat.add_right_comm _ _ _
      · exact (Nat.zero_add _).symm

end Pending

/-- Each operation with two operands that gets them leaves one value less. -/
theorem length_settle {binds : Level → Bool} {waiting : List Pending} {operands left : List Expr}
    (h : settle (Pending.release binds waiting).1 operands = some left) :
    left.length + Pending.binaries waiting
      = operands.length + Pending.binaries (Pending.release binds waiting).2 := by
  induction waiting generalizing operands with
  | nil =>
    cases h
    rfl
  | cons first rest ih =>
    match first, operands with
    | .group, _ =>
      cases h
      rfl
    | .operation (.unary name rule) level, operands =>
      simp only [Pending.release] at h ⊢
      split_ifs at h ⊢ with hl
      · match operands with
        | [] => simp [settle, Operation.build?] at h
        | operand :: below => simpa [Pending.binaries] using ih h
      · cases h
        rfl
    | .operation (.binary symbol rule) level, operands =>
      simp only [Pending.release] at h ⊢
      split_ifs at h ⊢ with hl
      · match operands with
        | [] | [_] => simp [settle, Operation.build?] at h
        | right :: left :: below =>
          have := ih h
          simp only [Pending.binaries, List.length_cons] at this ⊢
          omega
      · cases h
        rfl

/-- With one value for each operator between two operands, and `m` more, operations get all that
    they take unless `m` is zero, which is one value too few. -/
theorem isSome_settle_iff {ops : List Operation} {operands : List Expr} {m : Nat}
    (h : operands.length = ops.countP (·.isBinary) + m) :
    (settle ops operands).isSome = true ↔ ops = [] ∨ 0 < m := by
  induction ops generalizing operands with
  | nil => simp [settle]
  | cons op later ih =>
    rw [or_iff_right (List.cons_ne_nil op later)]
    -- the node of the newest operation is a value for the next one, or else is from behind them
    have hnode : ∀ node (rest : List Expr), rest.length + 1 = later.countP (·.isBinary) + m →
        ((settle later (node :: rest)).isSome = true ↔ 0 < m) := by
      intro node rest hlen
      rw [ih (by rw [List.length_cons, hlen])]
      refine ⟨?_, .inr⟩
      rintro (rfl | hm)
      · rw [List.countP_nil] at hlen
        omega
      · exact hm
    have hnone : ∀ {result : Option (List Expr)}, result = none → m = 0 →
        (result.isSome = true ↔ 0 < m) := by
      rintro result rfl rfl
      simp
    cases op with
    | unary name rule =>
      rw [List.countP_cons_of_neg (by simp [Operation.isBinary])] at h
      cases operands with
      | nil =>
        rw [List.length_nil] at h
        exact hnone rfl (by omega)
      | cons operand below => exact hnode (.unary name rule operand) below h
    | binary symbol rule =>
      rw [List.countP_cons_of_pos rfl] at h
      cases operands with
      | nil =>
        rw [List.length_nil] at h
        exact hnone rfl (by omega)
      | cons right rest =>
        cases rest with
        | nil =>
          rw [List.length_singleton] at h
          exact hnone rfl (by omega)
        | cons left below =>
          rw [List.length_cons, List.length_cons] at h
          exact hnode (.binary symbol rule left right) below (by omega)

/-! ## Runs -/

section Runs

variable {σ α ε : Type} {f : σ → α → Except ε σ} {r s : σ}

theorem foldlM_of_step {token : α} {rest : List α} (h : f r token = .ok s) :
    (token :: rest).foldlM f r = rest.foldlM f s := by
  rw [List.foldlM_cons, h]
  rfl

theorem foldlM_of_run {first rest : List α} (h : first.foldlM f r = .ok s) :
    (first ++ rest).foldlM f r = rest.foldlM f s := by
  rw [List.foldlM_append, h]
  rfl

theorem exists_of_foldlM_cons {token : α} {rest : List α} (h : (token :: rest).foldlM f r = .ok s) :
    ∃ m, f r token = .ok m ∧ rest.foldlM f m = .ok s := by
  rw [List.foldlM_cons] at h
  cases hf : f r token with
  | error e =>
    rw [hf] at h
    cases h
  | ok m =>
    rw [hf] at h
    exact ⟨m, rfl, h⟩

theorem exists_of_foldlM_append {first rest : List α} (h : (first ++ rest).foldlM f r = .ok s) :
    ∃ m, first.foldlM f r = .ok m ∧ rest.foldlM f m = .ok s := by
  rw [List.foldlM_append] at h
  cases hf : first.foldlM f r with
  | error e =>
    rw [hf] at h
    cases h
  | ok m =>
    rw [hf] at h
    exact ⟨m, rfl, h⟩

end Runs

namespace Reading

variable {v : Vocabulary} {binds : Level → Bool} {waiting : List Pending} {below : List Expr}

/-! ## The newest operation first -/

theorem complete_unary {name : String} {rule : UnaryRule} {level : Level} {t : Expr}
    {e : Expectation} (h : binds level = true) :
    complete ⟨.operation (.unary name rule) level :: waiting, t :: below, e⟩ binds
      = complete ⟨waiting, .unary name rule t :: below, e⟩ binds := by
  simp [complete, Pending.release, h, settle, Operation.build?]

theorem complete_binary {symbol : Char} {rule : BinaryRule} {level : Level} {l r : Expr}
    {e : Expectation} (h : binds level = true) :
    complete ⟨.operation (.binary symbol rule) level :: waiting, r :: l :: below, e⟩ binds
      = complete ⟨waiting, .binary symbol rule l r :: below, e⟩ binds := by
  simp [complete, Pending.release, h, settle, Operation.build?]

theorem complete_of_release {r : Reading}
    (h : Pending.release binds r.pending = ([], r.pending)) : r.complete binds = .ok r := by
  simp [complete, h, settle]

/-- Completing is a matter of operands; what waits is released whatever they are. -/
theorem complete_eq_ok_iff {r s : Reading} :
    r.complete binds = .ok s ↔
      settle (Pending.release binds r.pending).1 r.operands = some s.operands ∧
      s.pending = (Pending.release binds r.pending).2 ∧ s.expected = r.expected := by
  obtain ⟨pending, operands, expected⟩ := s
  rw [complete]
  cases settle (Pending.release binds r.pending).1 r.operands with
  | none => exact iff_of_false nofun nofun
  | some left =>
    rw [Except.ok.injEq, Reading.mk.injEq, Option.some.injEq, eq_comm, and_left_comm,
      eq_comm (a := r.expected)]

theorem length_complete {r s : Reading} (h : r.complete binds = .ok s) :
    s.operands.length + Pending.binaries r.pending
      = r.operands.length + Pending.binaries s.pending := by
  obtain ⟨hsettle, hpending, -⟩ := complete_eq_ok_iff.1 h
  rw [hpending]
  exact length_settle hsettle

theorem complete_of_defers {r : Reading} {level : Level} (h : Pending.Defers level r.pending) :
    r.complete (fun l => decide (level ≤ l)) = .ok r :=
  complete_of_release (Pending.release_of_defers h)

/-- Completing opens and closes no group. -/
theorem depth_complete {r s : Reading} (h : r.complete binds = .ok s) :
    Pending.depth s.pending = Pending.depth r.pending := by
  rw [(complete_eq_ok_iff.1 h).2.1]
  exact Pending.depth_release binds r.pending

/-! ## One token -/

theorem step_number {text : String} {d : Number.Decimal}
    (h : Number.Decimal.ofNumeral? text.toList = some d) :
    step v ⟨waiting, below, .value⟩ (.number text)
      = .ok ⟨waiting, .constant d.toFloat :: below, .operator⟩ := by
  simp [step, onValue, h, pushOperand]

theorem step_var {name : String} (h : name = v.variableName) :
    step v ⟨waiting, below, .value⟩ (.identifier name)
      = .ok ⟨waiting, .var name :: below, .operator⟩ := by
  simp [step, onValue, h, pushOperand]

theorem step_unary (hv : v.Coherent) {op : UnaryOperator} {rule : UnaryRule}
    (h : op.rule? v = some rule) :
    step v ⟨waiting, below, .value⟩ op.token
      = .ok ⟨.operation (.unary op.name rule) op.level :: waiting, below, .value⟩ := by
  cases op with
  | minus =>
    cases h
    simp [step, onValue, UnaryOperator.token, pushPending, negation, UnaryOperator.name,
      UnaryOperator.level]
  | function name =>
    have hf : v.function? name = some rule := h
    have hne : name ≠ v.variableName := hv.function_ne hf
    simp [step, onValue, UnaryOperator.token, hne, hf, pushPending, UnaryOperator.name,
      UnaryOperator.level]

theorem step_open :
    step v ⟨waiting, below, .value⟩ (.symbol '(') = .ok ⟨.group :: waiting, below, .value⟩ := by
  simp [step, onValue, pushPending]

theorem step_close {r : Reading} (h : r.expected = .operator) :
    step v r (.symbol ')') = r.closeGroup := by
  simp [step, h, onOperator]

theorem step_binary (hv : v.Coherent) {r : Reading} (hr : r.expected = .operator) {symbol : Char}
    {operator : Operator} (h : v.operator? symbol = some operator) :
    step v r (.symbol symbol) = r.onBinary symbol operator := by
  obtain ⟨ho, hc⟩ := hv.operator_ne h
  simp [step, hr, onOperator, ho, hc, h]

end Reading

end Formula
