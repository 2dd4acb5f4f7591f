import Formula.Proofs.Phrase

/-!
# Parentheses

The parentheses of a phrase match: nowhere are more closed than open, and in the end none is open.
Together with the number of tokens that are no parentheses, which is the number of nodes of the
tree, this shows where each operand begins and ends, so that a phrase is known by its tokens and
its tree.

* `balanced_tokens`: the parentheses of a phrase match.
* `countP_tokens`: each token but parentheses makes one node.
* `Phrase.eq_of_tokens`: a phrase is known by its tokens and its tree.
-/

namespace Formula

namespace Token

/-- An open parenthesis. -/
def opening : Token := .symbol '('

/-- A closed parenthesis. -/
def closing : Token := .symbol ')'

/-- Whether a token is a parenthesis. -/
def isParenthesis (t : Token) : Bool := t == opening || t == closing

theorem isParenthesis_symbol {char : Char} (ho : char ≠ '(') (hc : char ≠ ')') :
    (symbol char).isParenthesis = false := by
  simp [isParenthesis, opening, closing, ho, hc]

end Token

open Token (opening closing)

/-- No beginning of the tokens closes more parentheses than it opens, and all of them open as many
    as they close. -/
structure Balanced (tokens : List Token) : Prop where
  beginning : ∀ first, first <+: tokens → first.count closing ≤ first.count opening
  total : tokens.count opening = tokens.count closing

/-- No beginning of the tokens closes more parentheses than it opens, so that groups that were open
    before them stay open. -/
def NeverCloses (tokens : List Token) : Prop :=
  ∀ first, first <+: tokens → first.count closing ≤ first.count opening

/-! ## Matching -/

theorem NeverCloses.append {s t : List Token} (hs : NeverCloses s) (ht : NeverCloses t) :
    NeverCloses (s ++ t) := by
  rintro first ⟨rest, h⟩
  rcases List.append_eq_append_iff.1 h with ⟨more, rfl, -⟩ | ⟨more, rfl, rfl⟩
  · exact hs first (List.prefix_append first more)
  · have hfirst := hs s (List.prefix_refl s)
    have hmore := ht more (List.prefix_append more rest)
    rw [List.count_append, List.count_append]
    omega

theorem Balanced.append {s t : List Token} (hs : Balanced s) (ht : Balanced t) :
    Balanced (s ++ t) where
  beginning := NeverCloses.append hs.beginning ht.beginning
  total := by simp only [List.count_append, hs.total, ht.total]

theorem opening_ne_closing : opening ≠ closing := by decide

theorem count_opening_closing : [closing].count opening = 0 := by decide

theorem Balanced.group {s : List Token} (hs : Balanced s) :
    Balanced (opening :: (s ++ [closing])) where
  beginning first h := by
    obtain ⟨rest, h⟩ := h
    cases first with
    | nil => exact Nat.le_refl _
    | cons token first =>
      simp only [List.cons_append, List.cons.injEq] at h
      obtain ⟨rfl, h⟩ := h
      rw [List.count_cons_self, List.count_cons_of_ne opening_ne_closing]
      rcases List.append_eq_append_iff.1 h with ⟨more, rfl, -⟩ | ⟨more, rfl, hmore⟩
      · have := hs.beginning first (List.prefix_append first more)
        omega
      · have hle : more.count closing ≤ 1 := by
          have := (List.prefix_append more rest).sublist.count_le closing
          rwa [← hmore] at this
        rw [List.count_append, List.count_append, hs.total]
        omega
  total := by
    have := hs.total
    rw [List.count_cons_self, List.count_cons_of_ne opening_ne_closing, List.count_append,
      List.count_append, List.count_singleton_self, count_opening_closing]
    omega

theorem count_of_isParenthesis {t : Token} (h : t.isParenthesis = false) :
    [t].count opening = 0 ∧ [t].count closing = 0 := by
  simp only [Token.isParenthesis, Bool.or_eq_false_iff, beq_eq_false_iff_ne] at h
  simp [h.1, h.2]

theorem balanced_singleton {t : Token} (h : t.isParenthesis = false) : Balanced [t] where
  beginning first hp := by
    have := hp.sublist.count_le closing
    rw [(count_of_isParenthesis h).2] at this
    omega
  total := by rw [(count_of_isParenthesis h).1, (count_of_isParenthesis h).2]

/-! ## The parentheses of a phrase -/

section Phrase

variable {v : Vocabulary}

theorem UnaryOperator.isParenthesis_token (op : UnaryOperator) :
    op.token.isParenthesis = false := by
  cases op <;> rfl

theorem isParenthesis_of_operator (hv : v.Coherent) {symbol : Char} {o : Operator}
    (h : v.operator? symbol = some o) : (Token.symbol symbol).isParenthesis = false := by
  obtain ⟨ho, hc⟩ := hv.operator_ne h
  exact Token.isParenthesis_symbol ho hc

/-- The parentheses of a phrase match. -/
theorem balanced_tokens (hv : v.Coherent) {c : Phrase} :
    ∀ {t : Expr}, c.tree? v = some t → Balanced c.tokens := by
  induction c with
  | number text => exact fun _ => balanced_singleton rfl
  | var name => exact fun _ => balanced_singleton rfl
  | unary op operand ih =>
    intro t ht
    obtain ⟨rule, u, -, hu, -⟩ := Phrase.tree?_unary.1 ht
    exact (balanced_singleton op.isParenthesis_token).append (ih hu)
  | binary symbol left right ihl ihr =>
    intro t ht
    obtain ⟨o, l, r, ho, hl, hr, -⟩ := Phrase.tree?_binary.1 ht
    have hs := balanced_singleton (isParenthesis_of_operator hv ho)
    exact (ihl hl).append (hs.append (ihr hr))
  | group inner ih => exact fun ht => (ih ht).group

/-- The number of nodes of a tree. -/
def Expr.size : Expr → Nat
  | constant _ | var _ | hole => 1
  | unary _ _ operand => operand.size + 1
  | binary _ _ left right => left.size + right.size + 1

/-- Each token but parentheses makes one node. -/
theorem countP_tokens (hv : v.Coherent) {c : Phrase} :
    ∀ {t : Expr}, c.tree? v = some t → c.tokens.countP (!·.isParenthesis) = t.size := by
  induction c with
  | number text =>
    intro t ht
    obtain ⟨d, -, rfl⟩ := Phrase.tree?_number.1 ht
    rfl
  | var name =>
    intro t ht
    obtain ⟨-, rfl⟩ := Phrase.tree?_var.1 ht
    rfl
  | unary op operand ih =>
    intro t ht
    obtain ⟨rule, u, -, hu, rfl⟩ := Phrase.tree?_unary.1 ht
    rw [Phrase.tokens, List.countP_cons_of_pos (by simp [op.isParenthesis_token]), ih hu, Expr.size]
  | binary symbol left right ihl ihr =>
    intro t ht
    obtain ⟨o, l, r, ho, hl, hr, rfl⟩ := Phrase.tree?_binary.1 ht
    have hs := isParenthesis_of_operator hv ho
    rw [Phrase.tokens, List.countP_append, List.countP_cons_of_pos (by simp [hs]), ihl hl, ihr hr,
      Expr.size, Nat.add_assoc]
  | group inner ih =>
    intro t ht
    rw [Phrase.tokens, List.countP_cons_of_neg (by decide), List.countP_append, ih ht]
    rfl

/-- Parts with as many tokens that are no parentheses end in the same place. -/
theorem append_inj_of_countP {s t rest rest' : List Token} {a b : Token}
    (ha : a.isParenthesis = false) (hb : b.isParenthesis = false)
    (hlen : s.countP (!·.isParenthesis) = t.countP (!·.isParenthesis))
    (h : s ++ a :: rest = t ++ b :: rest') : s = t ∧ a = b ∧ rest = rest' := by
  rcases List.append_eq_append_iff.1 h with ⟨more, rfl, hmore⟩ | ⟨more, rfl, hmore⟩
  all_goals
    cases more with
    | nil => simpa [eq_comm] using hmore
    | cons token more =>
      simp only [List.cons_append, List.cons.injEq] at hmore
      obtain ⟨rfl, -⟩ := hmore
      rw [List.countP_append, List.countP_cons_of_pos (by simp [*])] at hlen
      omega

/-- Only a group has the tokens of a group. -/
theorem Phrase.exists_group_of_tokens (hv : v.Coherent) {c inner : Phrase} {t u : Expr}
    (hc : c.tree? v = some t) (hi : (group inner).tree? v = some u)
    (h : c.tokens = (group inner).tokens) : ∃ inner', c = group inner' := by
  cases c with
  | number text => simp [tokens] at h
  | var name => simp [tokens] at h
  | unary op operand =>
    have := op.isParenthesis_token
    rw [tokens, tokens, List.cons.injEq] at h
    rw [h.1] at this
    cases this
  | group inner' => exact ⟨inner', rfl⟩
  | binary symbol left right =>
    exfalso
    obtain ⟨o, l, r, -, hl, -, -⟩ := tree?_binary.1 hc
    obtain ⟨first, hfirst⟩ : ∃ first, left.tokens = opening :: first := by
      cases hleft : left.tokens with
      | nil => exact absurd hleft left.tokens_ne_nil
      | cons token first =>
        rw [tokens, tokens, hleft, List.cons_append, List.cons.injEq] at h
        exact ⟨first, by rw [h.1]; rfl⟩
    -- the left operand would close the group that the first token opens
    have hprefix : first <+: inner.tokens := by
      rw [tokens, tokens, hfirst, List.cons_append, List.cons.injEq] at h
      obtain ⟨rest, last, hlast⟩ : ∃ rest last, right.tokens = rest ++ [last] :=
        ⟨_, _, (List.dropLast_concat_getLast right.tokens_ne_nil).symm⟩
      have h' := h.2
      rw [hlast, ← List.cons_append, ← List.append_assoc] at h'
      rw [← (List.append_inj' h' rfl).1]
      exact List.prefix_append _ _
    have hinner : inner.tree? v = some u := hi
    have hle := (balanced_tokens hv hinner).beginning first hprefix
    have htotal := (balanced_tokens hv hl).total
    rw [hfirst, List.count_cons_self, List.count_cons_of_ne opening_ne_closing] at htotal
    omega

theorem UnaryOperator.token_injective {op op' : UnaryOperator} (h : op.token = op'.token) :
    op = op' := by
  cases op <;> cases op' <;> simp_all [token]

/-- A phrase of a single token is a number or the variable. -/
theorem Phrase.leaf_of_length {c : Phrase} (h : c.tokens.length = 1) :
    (∃ text, c = number text) ∨ ∃ name, c = var name := by
  cases c with
  | number text => exact .inl ⟨text, rfl⟩
  | var name => exact .inr ⟨name, rfl⟩
  | unary op operand =>
    have := List.length_pos_iff.2 operand.tokens_ne_nil
    simp only [tokens, List.length_cons] at h
    omega
  | binary symbol left right =>
    have := List.length_pos_iff.2 left.tokens_ne_nil
    simp only [tokens, List.length_append, List.length_cons] at h
    omega
  | group inner => simp [tokens] at h

/-- A phrase is known by its tokens and its tree. -/
theorem Phrase.eq_of_tokens (hv : v.Coherent) {c : Phrase} :
    ∀ {c' : Phrase} {t : Expr}, c.tree? v = some t → c'.tree? v = some t →
      c.tokens = c'.tokens → c = c' := by
  induction c with
  | number text =>
    intro c' t _ _ h
    rcases leaf_of_length (congrArg List.length h.symm) with ⟨text', rfl⟩ | ⟨name', rfl⟩
    · simpa [tokens] using h
    · simp [tokens] at h
  | var name =>
    intro c' t _ _ h
    rcases leaf_of_length (congrArg List.length h.symm) with ⟨text', rfl⟩ | ⟨name', rfl⟩
    · simp [tokens] at h
    · simpa [tokens] using h
  | unary op operand ih =>
    intro c' t ht ht' h
    have hc := ht
    obtain ⟨rule, u, -, hu, rfl⟩ := tree?_unary.1 ht
    cases c' with
    | number text => simp [tree?] at ht'
    | var name => cases (tree?_var.1 ht').2
    | unary op' operand' =>
      obtain ⟨rule', u', -, hu', he⟩ := tree?_unary.1 ht'
      obtain ⟨-, -, rfl⟩ := Expr.unary.inj he
      rw [tokens, tokens, List.cons.injEq] at h
      rw [UnaryOperator.token_injective h.1, ih hu hu' h.2]
    | binary symbol left right =>
      obtain ⟨o, l, r, -, -, -, he⟩ := tree?_binary.1 ht'
      cases he
    | group inner =>
      obtain ⟨inner', he⟩ := exists_group_of_tokens hv hc ht' h
      cases he
  | binary symbol left right ihl ihr =>
    intro c' t ht ht' h
    have hc := ht
    obtain ⟨o, l, r, ho, hl, hr, rfl⟩ := tree?_binary.1 ht
    cases c' with
    | number text => simp [tree?] at ht'
    | var name => cases (tree?_var.1 ht').2
    | unary op operand =>
      obtain ⟨rule, u, -, -, he⟩ := tree?_unary.1 ht'
      cases he
    | binary symbol' left' right' =>
      obtain ⟨o', l', r', ho', hl', hr', he⟩ := tree?_binary.1 ht'
      obtain ⟨rfl, -, rfl, rfl⟩ := Expr.binary.inj he
      have hlen := (countP_tokens hv hl).trans (countP_tokens hv hl').symm
      obtain ⟨hleft, -, hright⟩ := append_inj_of_countP (isParenthesis_of_operator hv ho)
        (isParenthesis_of_operator hv ho') hlen h
      rw [ihl hl hl' hleft, ihr hr hr' hright]
    | group inner =>
      obtain ⟨inner', he⟩ := exists_group_of_tokens hv hc ht' h
      cases he
  | group inner ih =>
    intro c' t ht ht' h
    obtain ⟨inner', rfl⟩ := exists_group_of_tokens hv ht' ht h.symm
    simp only [tokens, List.cons.injEq, List.append_cancel_right_eq, true_and] at h
    rw [ih ht (show inner'.tree? v = some t from ht') h]

end Phrase

end Formula
