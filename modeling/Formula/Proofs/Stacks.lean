import Formula.Proofs.Completion
import Mathlib.Data.List.TakeWhile

/-!
# Values and what waits for them

A reading keeps its values and what waits for them apart, and between two tokens the two fit
together: there is a value for each operation with two operands, and one more where an operator is
expected. Such an operation waits on nothing, on an open group or on what binds less tightly. A
function or a negation may wait on anything, so that levels can also fall from the oldest to the
newest, but the values never run out before the text ends.

* `Pending.release_snd`: what stays is what is left of the longest run of operations that bind.
* `Reading.onValue_cases`, `onOperator_cases`: what a token that is taken can do.
* `Reading.Stacked`: how values and what waits fit together.
* `Stacked.exists_complete`: whatever binds where an operator is expected gets its operands.
* `Stacked.step`, `Stacked.ofTokens`: a token keeps the fit, and so do many.
* `stacks_ofTokens`: the fit after any tokens, and what an operator makes of it.
-/

namespace Formula

namespace Pending

/-! ## What waits -/

/-- Something that waits is an operation that binds at least as tightly as the level. -/
def Binds (level : Level) (waiting : Pending) : Prop :=
  ∃ op newest, waiting = .operation op newest ∧ level ≤ newest

/-- Whether something that waits is an operation that binds. -/
def isBound (binds : Level → Bool) : Pending → Bool
  | .operation _ level => binds level
  | .group => false

theorem isBound_iff {level : Level} {waiting : Pending} :
    waiting.isBound (fun l => decide (level ≤ l)) = true ↔ waiting.Binds level := by
  cases waiting with
  | operation op newest =>
    rw [isBound, decide_eq_true_iff]
    refine ⟨fun hbinds => ⟨op, newest, rfl, hbinds⟩, ?_⟩
    rintro ⟨_, _, heq, hbinds⟩
    cases heq
    exact hbinds
  | group => exact iff_of_false nofun nofun

/-- What stays is what is left of the longest run of operations that bind. -/
theorem release_snd (binds : Level → Bool) (waiting : List Pending) :
    (release binds waiting).2 = waiting.dropWhile (·.isBound binds) := by
  induction waiting with
  | nil => rfl
  | cons first rest ih =>
    cases first with
    | group => rfl
    | operation op level =>
      simp only [release, List.dropWhile_cons, isBound]
      split_ifs
      · exact ih
      · rfl

/-- The newest of what stays does not bind. -/
theorem defers_dropWhile (level : Level) (waiting : List Pending) :
    Defers level (waiting.dropWhile (·.isBound fun l => decide (level ≤ l))) := by
  have hhead := List.head?_dropWhile_not (isBound fun l => decide (level ≤ l)) waiting
  generalize waiting.dropWhile (isBound fun l => decide (level ≤ l)) = kept at hhead ⊢
  match kept with
  | [] => trivial
  | .group :: rest => trivial
  | .operation op newest :: rest => exact Level.not_le.1 (of_decide_eq_false hhead)

/-- Each operation with two operands waits on nothing, on an open group or on an operation that
    binds less tightly. -/
def Supported (waiting : List Pending) : Prop :=
  ∀ symbol rule level older,
    .operation (.binary symbol rule) level :: older <:+ waiting → Defers level older

theorem Supported.of_suffix {waiting kept : List Pending} (h : Supported waiting)
    (hkept : kept <:+ waiting) : Supported kept :=
  fun symbol rule level older holder => h symbol rule level older (holder.trans hkept)

theorem Supported.cons {first : Pending} {waiting : List Pending} (h : Supported waiting)
    (hfirst : ∀ symbol rule level, first = .operation (.binary symbol rule) level →
      Defers level waiting) : Supported (first :: waiting) := by
  intro symbol rule level older holder
  rcases List.suffix_cons_iff.1 holder with heq | holder
  · cases heq
    exact hfirst symbol rule level rfl
  · exact h symbol rule level older holder

end Pending

namespace Reading

variable {v : Vocabulary} {r s : Reading} {token : Token}

/-! ## What a token does -/

/-- Where a value is expected, a token is one itself or waits for one: as a function or negation, or
    as a group. -/
theorem onValue_cases (h : r.onValue v token = .ok s) :
    (∃ operand, s = r.pushOperand operand) ∨
    (∃ name rule level, s = r.pushPending (.operation (.unary name rule) level)) ∨
    s = r.pushPending .group := by
  cases token with
  | number text =>
    simp only [onValue] at h
    split at h <;> cases h
    exact .inl ⟨_, rfl⟩
  | identifier name =>
    simp only [onValue] at h
    split_ifs at h
    · cases h
      exact .inl ⟨_, rfl⟩
    · split at h <;> cases h
      exact .inr (.inl ⟨_, _, _, rfl⟩)
  | symbol char =>
    simp only [onValue] at h
    split_ifs at h <;> cases h
    · exact .inr (.inl ⟨_, _, _, rfl⟩)
    · exact .inr (.inr rfl)

/-- Where an operator is expected, a token closes a group or is an operator. -/
theorem onOperator_cases (h : r.onOperator v token = .ok s) :
    r.closeGroup = .ok s ∨ ∃ symbol operator, r.onBinary symbol operator = .ok s := by
  cases token with
  | number text => cases h
  | identifier name => cases h
  | symbol char =>
    simp only [onOperator] at h
    split_ifs at h
    · exact .inl h
    · split at h
      · exact .inr ⟨_, _, h⟩
      · cases h

/-- What is completed is the longest run of operations that bind. -/
theorem pending_complete {binds : Level → Bool} (h : r.complete binds = .ok s) :
    s.pending = r.pending.dropWhile (·.isBound binds) ∧ s.expected = r.expected := by
  obtain ⟨-, hpending, hexpected⟩ := complete_eq_ok_iff.1 h
  exact ⟨hpending.trans (Pending.release_snd binds r.pending), hexpected⟩

/-- A group that is closed is the newest of what waits once the operations in it are complete. -/
theorem exists_of_closeGroup (h : r.closeGroup = .ok s) :
    ∃ completed outer, r.complete (fun _ => true) = .ok completed ∧
      completed.pending = .group :: outer ∧ s = ⟨outer, completed.operands, .operator⟩ := by
  unfold closeGroup at h
  cases hcompleted : r.complete fun _ => true with
  | error e =>
    rw [hcompleted] at h
    cases h
  | ok completed =>
    rw [hcompleted] at h
    have hkept := (pending_complete hcompleted).1
    have hhead := List.head?_dropWhile_not (Pending.isBound fun _ => true) r.pending
    obtain ⟨pending, operands, expected⟩ := completed
    match pending, h with
    | first :: outer, h =>
      cases h
      -- an operation would have been completed, so only a group can be the newest of what stays
      rw [← hkept] at hhead
      cases first with
      | operation op level => cases hhead
      | group => exact ⟨_, outer, rfl, rfl, rfl⟩

theorem exists_of_onBinary {symbol : Char} {operator : Operator}
    (h : r.onBinary symbol operator = .ok s) :
    ∃ completed, r.complete (fun l => decide (operator.level ≤ l)) = .ok completed ∧
      s = completed.pushPending (.operation (.binary symbol operator.rule) operator.level) := by
  unfold onBinary at h
  cases hcompleted : r.complete fun l => decide (operator.level ≤ l) with
  | error e =>
    rw [hcompleted] at h
    cases h
  | ok completed =>
    rw [hcompleted] at h
    cases h
    exact ⟨completed, rfl, rfl⟩

/-- After a token that leaves a value to be expected, something waits for that value. -/
theorem pending_ne_nil_of_step (h : r.step v token = .ok s) (hs : s.expected = .value) :
    s.pending ≠ [] := by
  unfold step at h
  split at h
  · rcases onValue_cases h with ⟨operand, rfl⟩ | ⟨name, rule, level, rfl⟩ | rfl
    · cases hs
    · exact List.cons_ne_nil _ _
    · exact List.cons_ne_nil _ _
  · rcases onOperator_cases h with hclose | ⟨symbol, operator, hbinary⟩
    · obtain ⟨completed, outer, -, -, rfl⟩ := exists_of_closeGroup hclose
      cases hs
    · obtain ⟨completed, -, rfl⟩ := exists_of_onBinary hbinary
      exact List.cons_ne_nil _ _

/-! ## What fits together -/

/-- There is a value for each operation with two operands, and one more where an operator is
    expected; and no such operation waits on one that it would have completed. -/
structure Stacked (r : Reading) : Prop where
  length_operands : r.operands.length
    = Pending.binaries r.pending + if r.expected = .operator then 1 else 0
  supported : Pending.Supported r.pending

theorem stacked_start : start.Stacked where
  length_operands := rfl
  supported _ _ _ _ h := by cases List.suffix_nil.1 h

namespace Stacked

theorem length_of_value (h : r.Stacked) (hr : r.expected = .value) :
    r.operands.length = Pending.binaries r.pending := by
  rw [h.length_operands, hr]
  rfl

theorem length_of_operator (h : r.Stacked) (hr : r.expected = .operator) :
    r.operands.length = Pending.binaries r.pending + 1 := by
  rw [h.length_operands, hr]
  rfl

/-- A value that is read is the one more that there is before an operator. -/
theorem pushOperand (h : r.Stacked) (hr : r.expected = .value) (operand : Expr) :
    (r.pushOperand operand).Stacked where
  length_operands := congrArg Nat.succ (h.length_of_value hr)
  supported := h.supported

/-- A function, a negation or a group needs no value but the one that is expected already. -/
theorem pushUnary (h : r.Stacked) (hr : r.expected = .value) (name : String) (rule : UnaryRule)
    (level : Level) : (r.pushPending (.operation (.unary name rule) level)).Stacked where
  length_operands := h.length_of_value hr
  supported := h.supported.cons nofun

theorem pushGroup (h : r.Stacked) (hr : r.expected = .value) :
    (r.pushPending .group).Stacked where
  length_operands := h.length_of_value hr
  supported := h.supported.cons nofun

/-- Whatever binds where an operator is expected gets its operands. -/
theorem exists_complete (h : r.Stacked) (hr : r.expected = .operator) (binds : Level → Bool) :
    ∃ s, r.complete binds = .ok s := by
  have hlength := h.length_of_operator hr
  -- the values of what stays are still below, and so is the one before the operator
  rw [Pending.binaries_release binds, Nat.add_assoc] at hlength
  have hsome : (settle (Pending.release binds r.pending).1 r.operands).isSome = true :=
    (isSome_settle_iff hlength).2 (.inr (Nat.succ_pos _))
  obtain ⟨operands, hsettle⟩ := Option.isSome_iff_exists.1 hsome
  exact ⟨⟨_, operands, _⟩, complete_eq_ok_iff.2 ⟨hsettle, rfl, rfl⟩⟩

/-- Completed operations take their values and leave one each, so that what is left still fits. -/
theorem complete {binds : Level → Bool} (h : r.Stacked) (hs : r.complete binds = .ok s) :
    s.Stacked := by
  obtain ⟨hpending, hexpected⟩ := pending_complete hs
  refine { length_operands := ?_, supported := ?_ }
  · have hbefore := h.length_operands
    have hcounts := length_complete hs
    rw [hexpected]
    omega
  · rw [hpending]
    exact h.supported.of_suffix (List.dropWhile_suffix _)

/-- What lacks for a closed parenthesis is never a value. -/
theorem closeGroup_ne_exhausted (h : r.Stacked) (hr : r.expected = .operator) :
    r.closeGroup ≠ .error .operandsExhausted := by
  obtain ⟨s, hs⟩ := h.exists_complete hr fun _ => true
  obtain ⟨pending, operands, expected⟩ := s
  rw [closeGroup, hs]
  cases pending <;> nofun

theorem closeGroup (h : r.Stacked) (hr : r.expected = .operator) (hs : r.closeGroup = .ok s) :
    s.Stacked := by
  obtain ⟨completed, outer, hcompleted, hgroup, rfl⟩ := exists_of_closeGroup hs
  have hstacked := h.complete hcompleted
  have hlength := hstacked.length_of_operator ((pending_complete hcompleted).2.trans hr)
  rw [hgroup] at hlength
  refine { length_operands := hlength, supported := hstacked.supported.of_suffix ?_ }
  rw [hgroup]
  exact List.suffix_cons _ _

/-- An operator waits on what it has not completed, and its right operand is expected. -/
theorem onBinary (h : r.Stacked) (hr : r.expected = .operator) {symbol : Char}
    {operator : Operator} (hs : r.onBinary symbol operator = .ok s) : s.Stacked := by
  obtain ⟨completed, hcompleted, rfl⟩ := exists_of_onBinary hs
  obtain ⟨hpending, hexpected⟩ := pending_complete hcompleted
  have hstacked := h.complete hcompleted
  have hlength := hstacked.length_of_operator (hexpected.trans hr)
  refine { length_operands := hlength, supported := hstacked.supported.cons ?_ }
  intro symbol rule level heq
  cases heq
  rw [hpending]
  exact Pending.defers_dropWhile operator.level r.pending

/-- A token keeps values and what waits together. -/
theorem step (h : r.Stacked) (hs : r.step v token = .ok s) : s.Stacked := by
  unfold Reading.step at hs
  split at hs
  · rename_i hr
    rcases onValue_cases hs with ⟨operand, rfl⟩ | ⟨name, rule, level, rfl⟩ | rfl
    · exact h.pushOperand hr operand
    · exact h.pushUnary hr name rule level
    · exact h.pushGroup hr
  · rename_i hr
    rcases onOperator_cases hs with hclose | ⟨symbol, operator, hbinary⟩
    · exact h.closeGroup hr hclose
    · exact h.onBinary hr hbinary

theorem foldlM {tokens : List Token} (h : r.Stacked)
    (hs : tokens.foldlM (Reading.step v) r = .ok s) : s.Stacked := by
  induction tokens generalizing r with
  | nil =>
    cases hs
    exact h
  | cons token rest ih =>
    obtain ⟨next, hnext, hrest⟩ := exists_of_foldlM_cons hs
    exact ih (h.step hnext) hrest

/-- An operator completes the longest run of operations that bind at least as tightly as it does,
    and lacks no value for it. -/
theorem exists_run (h : r.Stacked) (hr : r.expected = .operator) (level : Level) :
    ∃ s run, r.complete (fun l => decide (level ≤ l)) = .ok s ∧ r.pending = run ++ s.pending ∧
      (∀ p ∈ run, p.Binds level) ∧
      ∀ other, other <+: r.pending → (∀ p ∈ other, p.Binds level) → other <+: run := by
  obtain ⟨s, hs⟩ := h.exists_complete hr fun l => decide (level ≤ l)
  have hpending := (pending_complete hs).1
  refine ⟨s, r.pending.takeWhile (·.isBound fun l => decide (level ≤ l)), hs, ?_, ?_, ?_⟩
  · rw [hpending, List.takeWhile_append_dropWhile]
  · exact fun p hp => Pending.isBound_iff.1 (List.mem_takeWhile_imp hp)
  · rintro other ⟨rest, hrest⟩ hother
    rw [← hrest, List.takeWhile_append_of_pos fun p hp => Pending.isBound_iff.2 (hother p hp)]
    exact List.prefix_append _ _

/-- Values and what waits fit together after any tokens. -/
theorem ofTokens {tokens : List Token} (h : Reading.ofTokens v tokens = .ok r) : r.Stacked :=
  stacked_start.foldlM h

end Stacked

/-- Where a value is expected, only a reading of no token has nothing that waits. -/
theorem pending_ne_nil_of_ofTokens {tokens : List Token} (h : ofTokens v tokens = .ok r)
    (hr : r.expected = .value) (hne : tokens ≠ []) : r.pending ≠ [] := by
  rw [← List.dropLast_concat_getLast hne, ofTokens] at h
  obtain ⟨before, -, hlast⟩ := exists_of_foldlM_append h
  obtain ⟨after, hstep, hnil⟩ := exists_of_foldlM_cons hlast
  cases hnil
  exact pending_ne_nil_of_step hstep hr

/-- Whatever the vocabulary and whichever tokens are taken, those of a whole text or its beginning:
    there is a value for each operation with two operands that waits, and one more exactly where an
    operator is expected. Such an operation waits on nothing, on an open group or on an operation
    that binds less tightly. Where a value is expected, something waits for it. Where an operator is
    expected, neither a closed parenthesis nor an operator of any level runs out of values, and the
    operator completes the longest run of operations that bind at least as tightly as it does. -/
theorem stacks_ofTokens {tokens : List Token} (h : ofTokens v tokens = .ok r) :
    (r.operands.length = Pending.binaries r.pending + if r.expected = .operator then 1 else 0) ∧
    (∀ newer symbol rule level older,
      r.pending = newer ++ .operation (.binary symbol rule) level :: older →
      Pending.Defers level older) ∧
    (r.expected = .value → tokens ≠ [] → r.pending ≠ []) ∧
    (r.expected = .operator →
      r.closeGroup ≠ .error .operandsExhausted ∧
      ∀ level, ∃ s run, r.complete (fun l => decide (level ≤ l)) = .ok s ∧
        r.pending = run ++ s.pending ∧ (∀ p ∈ run, p.Binds level) ∧
        ∀ other, other <+: r.pending → (∀ p ∈ other, p.Binds level) → other <+: run) := by
  have hstacked : r.Stacked := .ofTokens h
  refine ⟨hstacked.length_operands, ?_, pending_ne_nil_of_ofTokens h, fun hr => ?_⟩
  · intro newer symbol rule level older heq
    exact hstacked.supported symbol rule level older ⟨newer, heq.symm⟩
  · exact ⟨hstacked.closeGroup_ne_exhausted hr, hstacked.exists_run hr⟩

/-- In `x^-x^x` a power waits on the negation, and the negation on a power. There is a value more
    than these two powers need, and another power completes only the newest of them. -/
theorem stacks_ofTokens_raisedNegation :
    let power : Pending := .operation (.binary '^' Float.pow) .exponentiation
    let r : Reading := ⟨[power, .operation negation .multiplication, power],
      [.var "x", .var "x", .var "x"], .operator⟩
    ofTokens (Vocabulary.empty.evolve preset) (tokenize "x^-x^x") = .ok r ∧
      r.operands.length = Pending.binaries r.pending + 1 ∧
      r.closeGroup ≠ .error .operandsExhausted ∧
      ∃ s run, r.complete (fun l => decide (.exponentiation ≤ l)) = .ok s ∧
        r.pending = run ++ s.pending ∧ run = [power] := by
  intro power r
  have hread : ofTokens (Vocabulary.empty.evolve preset) (tokenize "x^-x^x") = .ok r := rfl
  obtain ⟨hlength, -, -, hoperator⟩ := stacks_ofTokens hread
  obtain ⟨hclose, hruns⟩ := hoperator rfl
  obtain ⟨s, run, hs, hrun, -⟩ := hruns .exponentiation
  refine ⟨hread, hlength, hclose, s, run, hs, hrun, ?_⟩
  cases (show Except.ok _ = Except.ok s from hs)
  exact List.append_cancel_right hrun.symm

end Reading

end Formula
