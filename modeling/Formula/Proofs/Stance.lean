import Formula.Proofs.Completion
import Formula.Proofs.Parentheses

/-!
# What is expected, and how many groups are open

Whether a token is taken depends on little: what a reading expects next, and whether it has a group
open. Levels have no part in it.

* `Stance.step`: what a token does to this.
* `Stance.step_cases`: groups are opened and closed by parentheses alone.
* `Stance.depth_foldlM`: their number is that of the parentheses.
* `Stance.foldlM_raise`: matched tokens are taken inside groups as they are outside.
-/

namespace Formula

open Token (opening closing)

variable {v : Vocabulary}

/-! ## Definitions -/

/-- What a reading expects next and how many groups it has open. -/
structure Stance where
  expected : Expectation
  depth : Nat
deriving DecidableEq

/-- What a token does to a stance. Levels have no part in it. -/
def Stance.step (v : Vocabulary) : Stance → Token → Except ParseError Stance
  | ⟨.value, depth⟩, .number text =>
    if (Number.Decimal.ofNumeral? text.toList).isSome then .ok ⟨.operator, depth⟩
    else .error (.invalidNumber text)
  | ⟨.value, depth⟩, .identifier name =>
    if name = v.variableName then .ok ⟨.operator, depth⟩
    else if v.hasFunction name then .ok ⟨.value, depth⟩
    else .error (.unknownFunction name)
  | ⟨.value, depth⟩, .symbol char =>
    if char = '-' then .ok ⟨.value, depth⟩
    else if char = '(' then .ok ⟨.value, depth + 1⟩
    else .error (.unexpectedToken .value (String.singleton char))
  | ⟨.operator, depth⟩, .symbol char =>
    if char = '(' then .error (.unexpectedToken .operator (String.singleton char))
    else if char = ')' then
      match depth with
      | 0 => .error .unmatchedClosed
      | depth + 1 => .ok ⟨.operator, depth⟩
    else if v.hasOperator char then .ok ⟨.value, depth⟩
    else .error (.unknownOperator char)
  | ⟨.operator, _⟩, token => .error (.unexpectedToken .operator token.text)

/-- The stance after tokens from the left. -/
def Stance.ofTokens (v : Vocabulary) (tokens : List Token) : Except ParseError Stance :=
  tokens.foldlM (Stance.step v) ⟨.value, 0⟩

/-! ## One token -/

namespace Stance

theorem step_unary (hv : v.Coherent) {op : UnaryOperator} (h : (op.rule? v).isSome)
    (depth : Nat) : step v ⟨.value, depth⟩ op.token = .ok ⟨.value, depth⟩ := by
  cases op with
  | minus => rfl
  | function name =>
    obtain ⟨rule, hr⟩ := Option.isSome_iff_exists.1 h
    have hne : name ≠ v.variableName := hv.function_ne hr
    have hf : v.hasFunction name = true := Vocabulary.hasFunction_of_function? hr
    simp [step, UnaryOperator.token, hne, hf]

theorem step_binary (hv : v.Coherent) {symbol : Char} (h : v.hasOperator symbol = true)
    (depth : Nat) : step v ⟨.operator, depth⟩ (.symbol symbol) = .ok ⟨.value, depth⟩ := by
  obtain ⟨o, ho⟩ := Option.isSome_iff_exists.1 ((v.hasOperator_eq_isSome symbol).symm.trans h)
  obtain ⟨hopen, hclose⟩ := hv.operator_ne ho
  simp [step, hopen, hclose, h]

end Stance

/-- An open parenthesis opens a group where a value is expected, a closed one closes one where an
    operator is, and no other token does either. -/
theorem Stance.step_cases {s s' : Stance} {token : Token} (h : s.step v token = .ok s') :
    (token.isParenthesis = false ∧ s'.depth = s.depth) ∨
    (token = opening ∧ s.expected = .value ∧ s' = ⟨.value, s.depth + 1⟩) ∨
    (token = closing ∧ s.expected = .operator ∧ s.depth = s'.depth + 1 ∧
      s' = ⟨.operator, s'.depth⟩) := by
  obtain ⟨expected, depth⟩ := s
  match expected, token with
  | .value, .number text =>
    simp only [step] at h
    split_ifs at h
    cases h
    exact .inl ⟨rfl, rfl⟩
  | .value, .identifier name =>
    simp only [step] at h
    split_ifs at h <;> cases h <;> exact .inl ⟨rfl, rfl⟩
  | .value, .symbol char =>
    simp only [step] at h
    split_ifs at h with hm ho <;> cases h
    · subst hm
      exact .inl ⟨rfl, rfl⟩
    · subst ho
      exact .inr (.inl ⟨rfl, rfl, rfl⟩)
  | .operator, .number text => cases h
  | .operator, .identifier name => cases h
  | .operator, .symbol char =>
    simp only [step] at h
    split_ifs at h with ho hc hop
    · subst hc
      cases depth with
      | zero => cases h
      | succ depth =>
        cases h
        exact .inr (.inr ⟨rfl, rfl, rfl, rfl⟩)
    · cases h
      exact .inl ⟨Token.isParenthesis_symbol ho hc, rfl⟩

/-- Open parentheses open a group, closed ones close one, and nothing else does. -/
theorem Stance.depth_step {s s' : Stance} {token : Token} (h : s.step v token = .ok s') :
    s'.depth + [token].count closing = s.depth + [token].count opening := by
  rcases step_cases h with ⟨hp, hd⟩ | ⟨rfl, -, rfl⟩ | ⟨rfl, -, hd, -⟩
  · obtain ⟨ho, hc⟩ := count_of_isParenthesis hp
    omega
  · rw [List.count_singleton_self, show [opening].count closing = 0 by decide]
  · rw [List.count_singleton_self, count_opening_closing]
    omega

theorem Stance.depth_foldlM {tokens : List Token} {s s' : Stance}
    (h : tokens.foldlM (Stance.step v) s = .ok s') :
    s'.depth + tokens.count closing = s.depth + tokens.count opening := by
  induction tokens generalizing s with
  | nil =>
    cases h
    rfl
  | cons token tokens ih =>
    obtain ⟨next, hstep, hrun⟩ := exists_of_foldlM_cons h
    have hfirst := depth_step hstep
    have hrest := ih hrun
    rw [← List.singleton_append, List.count_append, List.count_append]
    omega

/-! ## Inside and outside of groups -/

/-- A stance with more open groups. -/
def Stance.raise (m : Nat) (s : Stance) : Stance := ⟨s.expected, s.depth + m⟩

theorem Stance.step_raise {s : Stance} {token : Token} (m : Nat)
    (h : [token].count closing ≤ s.depth + [token].count opening) :
    (s.raise m).step v token = (s.step v token).map (Stance.raise m) := by
  obtain ⟨expected, depth⟩ := s
  match expected, token with
  | .value, .number text =>
    simp only [raise, step]
    split_ifs <;> rfl
  | .value, .identifier name =>
    simp only [raise, step]
    split_ifs <;> rfl
  | .value, .symbol char =>
    simp only [raise, step]
    split_ifs
    · rfl
    · simp [Except.map, raise, Nat.add_right_comm]
    · rfl
  | .operator, .number text => rfl
  | .operator, .identifier name => rfl
  | .operator, .symbol char =>
    simp only [raise, step]
    split_ifs with ho hc hop
    · rfl
    · subst hc
      have hpos : 1 ≤ depth := by
        rw [show Token.symbol ')' = closing from rfl, List.count_singleton_self,
          count_opening_closing] at h
        exact h
      obtain ⟨depth, rfl⟩ : ∃ d, depth = d + 1 := ⟨depth - 1, by omega⟩
      rw [Nat.add_right_comm]
      rfl
    · rfl
    · rfl

/-- Matched tokens are taken inside groups as they are outside. -/
theorem Stance.foldlM_raise {tokens : List Token} (m : Nat) :
    ∀ {s : Stance}, (∀ first, first <+: tokens →
      first.count closing ≤ s.depth + first.count opening) →
      tokens.foldlM (Stance.step v) (s.raise m)
        = (tokens.foldlM (Stance.step v) s).map (Stance.raise m) := by
  induction tokens with
  | nil => exact fun _ => rfl
  | cons token tokens ih =>
    intro s h
    have htoken := h [token] (by simp)
    rw [List.foldlM_cons, List.foldlM_cons, step_raise m htoken]
    cases hstep : s.step v token with
    | error e => rfl
    | ok next =>
      have hdepth := depth_step hstep
      refine ih fun first hfirst => ?_
      have := h (token :: first) ((List.prefix_cons_inj token).2 hfirst)
      rw [← List.singleton_append, List.count_append, List.count_append] at this
      omega

end Formula
