import Formula.Proofs.Phrase

/-!
# Replacing the variable

Trees, phrases and tokens with others in place of the variable, whose occurrences are numbered from
the left. The three go together: a phrase whose variables are replaced has the tree and the tokens
with theirs replaced, and is ordered still if no operator can reach into what was put there.

* `Expr.replaceVars`, `Phrase.replaceVars`, `replaceTokens`: others in place of the variable.
* `eval_replaceVars`: the value of a tree with another one in place of the variable.
* `Phrase.ordered_replaceVars`, `Phrase.tree?_replaceVars`, `tokens_replaceVars`: levels, trees and
  tokens of a phrase with others in place of the variable.
-/

namespace Formula

variable {v : Vocabulary}

/-! ## Trees in place of the variable -/

/-- The number of leaves that are the variable. -/
def Expr.varCount : Expr → Nat
  | var _ => 1
  | unary _ _ operand => operand.varCount
  | binary _ _ left right => left.varCount + right.varCount
  | _ => 0

/-- The tree with other trees in place of the variable, which may depend on its name. Its
    occurrences are numbered from the left, from `k` on. -/
def Expr.replaceVars (f : Nat → String → Expr) (k : Nat) : Expr → Expr
  | var name => f k name
  | unary name rule operand => .unary name rule (operand.replaceVars f k)
  | binary symbol rule left right =>
    .binary symbol rule (left.replaceVars f k) (right.replaceVars f (k + left.varCount))
  | leaf => leaf

/-- The tree with another one in place of the variable that has `n` others to its left. -/
def Expr.replaceVar (t : Expr) (n : Nat) (u : Expr) : Expr :=
  t.replaceVars (fun i name => if i = n then u else .var name) 0

/-- The value of a tree with another one in place of the variable. -/
theorem eval_replaceVars {u : Expr} {x y : Float} (h : u.eval x = .ok y) (t : Expr) (k : Nat) :
    (t.replaceVars (fun _ _ => u) k).eval x = t.eval y := by
  induction t generalizing k with
  | constant value => rfl
  | var name => exact h
  | unary name rule operand ih => simp only [Expr.replaceVars, Expr.eval, ih]
  | binary symbol rule left right ihl ihr => simp only [Expr.replaceVars, Expr.eval, ihl, ihr]
  | hole => rfl

/-! ## Phrases in place of the variable -/

namespace Phrase

/-- The number of leaves that are the variable. -/
def varCount : Phrase → Nat
  | number _ => 0
  | var _ => 1
  | unary _ operand => operand.varCount
  | binary _ left right => left.varCount + right.varCount
  | group inner => inner.varCount

/-- The phrase with other phrases in place of the variable, whose occurrences are numbered from
    `k` on. -/
def replaceVars (f : Nat → Phrase) (k : Nat) : Phrase → Phrase
  | number text => number text
  | var _ => f k
  | unary op operand => unary op (operand.replaceVars f k)
  | binary symbol left right =>
    binary symbol (left.replaceVars f k) (right.replaceVars f (k + left.varCount))
  | group inner => group (inner.replaceVars f k)

/-- A phrase that may stand wherever a leaf may: no operator can reach into it. -/
structure Closed (v : Vocabulary) (c : Phrase) : Prop where
  ordered : c.Ordered v
  leading : c.leading v = []
  trailing : c.trailing v = []

theorem closed_var (name : String) : (var name).Closed v := ⟨trivial, rfl, rfl⟩

theorem closed_group {c : Phrase} (h : c.Ordered v) : (group c).Closed v := ⟨h, rfl, rfl⟩

section Replaced

variable {f : Nat → Phrase}

theorem leading_replaceVars (h : ∀ i, (f i).Closed v) (c : Phrase) (k : Nat) :
    (c.replaceVars f k).leading v = c.leading v := by
  induction c generalizing k with
  | var name => exact (h k).leading
  | binary symbol left right ihl _ => rw [replaceVars, leading, leading, ihl]
  | _ => rfl

theorem trailing_replaceVars (h : ∀ i, (f i).Closed v) (c : Phrase) (k : Nat) :
    (c.replaceVars f k).trailing v = c.trailing v := by
  induction c generalizing k with
  | var name => exact (h k).trailing
  | unary op operand ih => rw [replaceVars, trailing, trailing, ih]
  | binary symbol left right _ ihr => rw [replaceVars, trailing, trailing, ihr]
  | _ => rfl

/-- Closed phrases in place of the variable leave operators and their operands as they are. -/
theorem ordered_replaceVars (h : ∀ i, (f i).Closed v) {c : Phrase} (hc : c.Ordered v) (k : Nat) :
    (c.replaceVars f k).Ordered v := by
  induction c generalizing k with
  | number text => trivial
  | var name => exact (h k).ordered
  | unary op operand ih =>
    refine ⟨ih hc.1 k, ?_⟩
    rw [leading_replaceVars h]
    exact hc.2
  | binary symbol left right ihl ihr =>
    refine ⟨ihl hc.1 k, ihr hc.2.1 _, ?_⟩
    rw [trailing_replaceVars h, leading_replaceVars h]
    exact hc.2.2
  | group inner ih => exact ih hc k

theorem varCount_tree? {c : Phrase} {t : Expr} (h : c.tree? v = some t) :
    t.varCount = c.varCount := by
  induction c generalizing t with
  | number text =>
    obtain ⟨d, -, rfl⟩ := tree?_number.1 h
    rfl
  | var name =>
    obtain ⟨-, rfl⟩ := tree?_var.1 h
    rfl
  | unary op operand ih =>
    obtain ⟨rule, u, -, hu, rfl⟩ := tree?_unary.1 h
    rw [Expr.varCount, varCount, ih hu]
  | binary symbol left right ihl ihr =>
    obtain ⟨o, l, r, -, hl, hr, rfl⟩ := tree?_binary.1 h
    rw [Expr.varCount, varCount, ihl hl, ihr hr]
  | group inner ih => exact ih h

/-- The tree of a phrase with others in place of the variable. -/
theorem tree?_replaceVars {g : Nat → String → Expr}
    (hf : ∀ i, (f i).tree? v = some (g i v.variableName)) {c : Phrase} {t : Expr}
    (h : c.tree? v = some t) (k : Nat) :
    (c.replaceVars f k).tree? v = some (t.replaceVars g k) := by
  induction c generalizing t k with
  | number text =>
    obtain ⟨d, -, rfl⟩ := tree?_number.1 h
    exact h
  | var name =>
    obtain ⟨rfl, rfl⟩ := tree?_var.1 h
    exact hf k
  | unary op operand ih =>
    obtain ⟨rule, u, hr, hu, rfl⟩ := tree?_unary.1 h
    exact tree?_unary.2 ⟨rule, _, hr, ih hu k, rfl⟩
  | binary symbol left right ihl ihr =>
    obtain ⟨o, l, r, ho, hl, hr, rfl⟩ := tree?_binary.1 h
    rw [Expr.replaceVars, varCount_tree? hl]
    exact tree?_binary.2 ⟨o, _, _, ho, ihl hl k, ihr hr _, rfl⟩
  | group inner ih => exact ih h k

end Replaced

end Phrase

/-! ## Tokens in place of the variable -/

/-- The tokens with others in place of each `x`, whose occurrences are numbered from `k` on. -/
def replaceTokens (x : Token) (f : Nat → List Token) : Nat → List Token → List Token
  | _, [] => []
  | k, token :: rest =>
    if token = x then f k ++ replaceTokens x f (k + 1) rest
    else token :: replaceTokens x f k rest

section Tokens

variable {x token : Token} {f : Nat → List Token}

theorem replaceTokens_of_eq (h : token = x) (k : Nat) (rest : List Token) :
    replaceTokens x f k (token :: rest) = f k ++ replaceTokens x f (k + 1) rest := if_pos h

theorem replaceTokens_of_ne (h : token ≠ x) (k : Nat) (rest : List Token) :
    replaceTokens x f k (token :: rest) = token :: replaceTokens x f k rest := if_neg h

theorem replaceTokens_append (first rest : List Token) (k : Nat) :
    replaceTokens x f k (first ++ rest)
      = replaceTokens x f k first ++ replaceTokens x f (k + first.count x) rest := by
  induction first generalizing k with
  | nil => rfl
  | cons token first ih =>
    by_cases ht : token = x
    · rw [List.cons_append, replaceTokens_of_eq ht, replaceTokens_of_eq ht, ih, ht,
        List.count_cons_self, List.append_assoc, Nat.add_right_comm, Nat.add_assoc k]
    · rw [List.cons_append, replaceTokens_of_ne ht, replaceTokens_of_ne ht, ih,
        List.count_cons_of_ne ht, List.cons_append]

/-- Tokens stay where each occurrence is replaced by itself. -/
theorem replaceTokens_eq_self {tokens : List Token} {k : Nat}
    (h : ∀ i, k ≤ i → i < k + tokens.count x → f i = [x]) :
    replaceTokens x f k tokens = tokens := by
  induction tokens generalizing k with
  | nil => rfl
  | cons token tokens ih =>
    by_cases ht : token = x
    · rw [ht, List.count_cons_self] at h
      rw [replaceTokens_of_eq ht, h k (Nat.le_refl k) (by omega), ht,
        ih fun i hk hi => h i (by omega) (by omega)]
      rfl
    · rw [List.count_cons_of_ne ht] at h
      rw [replaceTokens_of_ne ht, ih h]

/-- One occurrence is replaced. -/
theorem replaceTokens_single {before after group : List Token} :
    replaceTokens x (fun i => if i = before.count x then group else [x]) 0 (before ++ x :: after)
      = before ++ (group ++ after) := by
  rw [replaceTokens_append, replaceTokens_of_eq rfl, Nat.zero_add, if_pos rfl]
  congr 1
  · exact replaceTokens_eq_self fun i _ hi => if_neg (by omega)
  · rw [replaceTokens_eq_self fun i hi _ => if_neg (by omega)]

/-- Every occurrence is replaced. -/
theorem replaceTokens_const {group : List Token} (tokens : List Token) (k : Nat) :
    replaceTokens x (fun _ => group) k tokens
      = tokens.flatMap fun token => if token = x then group else [token] := by
  induction tokens generalizing k with
  | nil => rfl
  | cons token tokens ih =>
    rw [List.flatMap_cons]
    by_cases ht : token = x
    · rw [replaceTokens_of_eq ht, ih, if_pos ht]
    · rw [replaceTokens_of_ne ht, ih, if_neg ht]
      rfl

end Tokens

/-- Each occurrence of the variable is a token. -/
theorem count_tokens (hv : v.Coherent) {c : Phrase} {t : Expr} (h : c.tree? v = some t) :
    c.tokens.count (.identifier v.variableName) = c.varCount := by
  induction c generalizing t with
  | number text => rfl
  | var name =>
    obtain ⟨rfl, -⟩ := Phrase.tree?_var.1 h
    exact List.count_singleton_self
  | unary op operand ih =>
    obtain ⟨rule, u, hr, hu, -⟩ := Phrase.tree?_unary.1 h
    rw [Phrase.tokens, List.count_cons_of_ne (op.token_ne hv hr), ih hu, Phrase.varCount]
  | binary symbol left right ihl ihr =>
    obtain ⟨o, l, r, -, hl, hr, -⟩ := Phrase.tree?_binary.1 h
    rw [Phrase.tokens, List.count_append, List.count_cons_of_ne (by simp), ihl hl, ihr hr,
      Phrase.varCount]
  | group inner ih =>
    rw [Phrase.tokens, List.count_cons_of_ne (by simp), List.count_append, ih h]
    rfl

/-- The tokens of a phrase with others in place of the variable. -/
theorem tokens_replaceVars (hv : v.Coherent) {f : Nat → Phrase} {c : Phrase} {t : Expr}
    (h : c.tree? v = some t) (k : Nat) :
    (c.replaceVars f k).tokens
      = replaceTokens (.identifier v.variableName) (fun i => (f i).tokens) k c.tokens := by
  induction c generalizing t k with
  | number text => rfl
  | var name =>
    obtain ⟨rfl, -⟩ := Phrase.tree?_var.1 h
    rw [Phrase.replaceVars, Phrase.tokens, replaceTokens_of_eq rfl]
    exact (List.append_nil _).symm
  | unary op operand ih =>
    obtain ⟨rule, u, hr, hu, -⟩ := Phrase.tree?_unary.1 h
    rw [Phrase.replaceVars, Phrase.tokens, Phrase.tokens,
      replaceTokens_of_ne (op.token_ne hv hr), ih hu]
  | binary symbol left right ihl ihr =>
    obtain ⟨o, l, r, -, hl, hr, -⟩ := Phrase.tree?_binary.1 h
    rw [Phrase.replaceVars, Phrase.tokens, Phrase.tokens, replaceTokens_append,
      replaceTokens_of_ne (by simp), ihl hl, ihr hr, count_tokens hv hl]
  | group inner ih =>
    rw [Phrase.replaceVars, Phrase.tokens, Phrase.tokens, replaceTokens_of_ne (by simp),
      replaceTokens_append, ih h]
    rfl

end Formula
