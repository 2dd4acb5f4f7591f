import Formula.Proofs.History
import Formula.Reading.Basic

/-!
# Phrases

A phrase is a formula with its grouping: which operands each operator takes, and which parentheses
are written. Its tokens are those of a formula; its tree forgets the parentheses and takes rules
and values from a vocabulary. Of all phrases with the same tokens one is *ordered*: operators that
bind more tightly, or as tightly and further to the left, take their operands first.

* `Phrase.tokens`, `Phrase.tree?`: a phrase as it is written, and what it means.
* `Phrase.Admitted`: a vocabulary has everything that the phrase mentions.
* `Phrase.Ordered`: operands are grouped by levels.
* `Phrase.Parses`: the ordered phrase of a list of tokens.
-/

namespace Formula

/-- The level that a symbol has as an operator between two operands. -/
def Vocabulary.level? (v : Vocabulary) (symbol : Char) : Option Level :=
  (v.operator? symbol).map (·.level)

theorem Vocabulary.level?_of_operator? {v : Vocabulary} {symbol : Char} {o : Operator}
    (h : v.operator? symbol = some o) : v.level? symbol = some o.level := by
  rw [level?, h]
  rfl

/-! ## Operators before an operand -/

/-- An operator that stands before its only operand. -/
inductive UnaryOperator where
  | minus
  | function (name : String)
deriving DecidableEq

namespace UnaryOperator

/-- The operator as it is written. -/
def token : UnaryOperator → Token
  | minus => .symbol '-'
  | function name => .identifier name

/-- The name of the node it makes. -/
def name : UnaryOperator → String
  | minus => "-"
  | function name => name

/-- The minus sign binds as a product does, a function more tightly than any usual operator. -/
def level : UnaryOperator → Level
  | minus => .multiplication
  | function _ => .application

/-- The minus sign negates in every vocabulary; a function has the rule it is registered with. -/
def rule? (v : Vocabulary) : UnaryOperator → Option UnaryRule
  | minus => some fun x => -x
  | function name => v.function? name

theorem isSome_rule?_function (v : Vocabulary) (name : String) :
    ((function name).rule? v).isSome = v.hasFunction name := (v.hasFunction_eq_isSome name).symm

end UnaryOperator

/-! ## Phrases -/

/-- A formula with its grouping. -/
inductive Phrase where
  | number (text : String)
  | var (name : String)
  | unary (op : UnaryOperator) (operand : Phrase)
  | binary (symbol : Char) (left right : Phrase)
  /-- A phrase in parentheses. -/
  | group (inner : Phrase)
deriving DecidableEq

namespace Phrase

/-- A phrase read from left to right. -/
def tokens : Phrase → List Token
  | number text => [.number text]
  | var name => [.identifier name]
  | unary op operand => op.token :: operand.tokens
  | binary symbol left right => left.tokens ++ .symbol symbol :: right.tokens
  | group inner => .symbol '(' :: (inner.tokens ++ [.symbol ')'])

/-- The tree of a phrase: groups are dropped, rules and values are those of the vocabulary. There
    is none if the vocabulary lacks a name or symbol, or a number is not a numeral. -/
def tree? (v : Vocabulary) : Phrase → Option Expr
  | number text => (Number.Decimal.ofNumeral? text.toList).map fun d => .constant d.toFloat
  | var name => if name = v.variableName then some (.var name) else none
  | unary op operand => do
    let rule ← op.rule? v
    let tree ← operand.tree? v
    return .unary op.name rule tree
  | binary symbol left right => do
    let operator ← v.operator? symbol
    let leftTree ← left.tree? v
    let rightTree ← right.tree? v
    return .binary symbol operator.rule leftTree rightTree
  | group inner => inner.tree? v

/-- The vocabulary has every name and symbol of the phrase, and every number has a digit. -/
def Admitted (v : Vocabulary) : Phrase → Prop
  | number text => text ≠ "."
  | var name => name = v.variableName
  | unary op operand => (op.rule? v).isSome ∧ operand.Admitted v
  | binary symbol left right => v.hasOperator symbol = true ∧ left.Admitted v ∧ right.Admitted v
  | group inner => inner.Admitted v

/-! ## Grouping by levels -/

/-- The levels of the binary operators met on the way from the top of a phrase down through left
    operands, until a leaf, a group or a unary operator. -/
def leading (v : Vocabulary) : Phrase → List Level
  | binary symbol left _ => (v.level? symbol).toList ++ left.leading v
  | _ => []

/-- The levels of the operators met on the way from the top of a phrase down through right operands
    and the operands of unary operators, until a leaf or a group. -/
def trailing (v : Vocabulary) : Phrase → List Level
  | unary op operand => op.level :: operand.trailing v
  | binary symbol _ right => (v.level? symbol).toList ++ right.trailing v
  | _ => []

/-- Every operator binds more tightly than those whose right or only operand it begins, and at
    least as tightly as those whose left operand it ends. -/
def Ordered (v : Vocabulary) : Phrase → Prop
  | unary op operand => operand.Ordered v ∧ ∀ l ∈ operand.leading v, op.level < l
  | binary symbol left right =>
    left.Ordered v ∧ right.Ordered v ∧ ∀ p ∈ v.level? symbol,
      (∀ l ∈ left.trailing v, p ≤ l) ∧ ∀ l ∈ right.leading v, p < l
  | group inner => inner.Ordered v
  | _ => True

/-- A phrase of the given tokens that the vocabulary admits and whose operands are grouped by
    levels. -/
structure Parses (v : Vocabulary) (tokens : List Token) (c : Phrase) : Prop where
  reads : c.tokens = tokens
  admitted : c.Admitted v
  ordered : c.Ordered v

/-! ## First facts -/

end Phrase

/-- No operator is written as the variable is. -/
theorem UnaryOperator.token_ne {v : Vocabulary} (hv : v.Coherent) {op : UnaryOperator}
    {rule : UnaryRule} (h : op.rule? v = some rule) : op.token ≠ .identifier v.variableName := by
  cases op with
  | minus => nofun
  | function name =>
    have hne : name ≠ v.variableName := hv.function_ne h
    simp [token, hne]

namespace Phrase

theorem tree?_number {v : Vocabulary} {text : String} {t : Expr} :
    (number text).tree? v = some t ↔
      ∃ d, Number.Decimal.ofNumeral? text.toList = some d ∧ t = .constant d.toFloat := by
  simp only [tree?, Option.map_eq_some_iff, eq_comm (b := t)]

theorem tree?_unary {v : Vocabulary} {op : UnaryOperator} {c : Phrase} {t : Expr} :
    (unary op c).tree? v = some t ↔
      ∃ rule u, op.rule? v = some rule ∧ c.tree? v = some u ∧ t = .unary op.name rule u := by
  simp only [tree?, Option.bind_eq_bind, Option.bind_eq_some_iff, Option.pure_def,
    Option.some.injEq]
  constructor
  · rintro ⟨rule, hr, u, hu, rfl⟩
    exact ⟨rule, u, hr, hu, rfl⟩
  · rintro ⟨rule, u, hr, hu, rfl⟩
    exact ⟨rule, hr, u, hu, rfl⟩

theorem tree?_binary {v : Vocabulary} {symbol : Char} {left right : Phrase} {t : Expr} :
    (binary symbol left right).tree? v = some t ↔
      ∃ o l r, v.operator? symbol = some o ∧ left.tree? v = some l ∧ right.tree? v = some r ∧
        t = .binary symbol o.rule l r := by
  simp only [tree?, Option.bind_eq_bind, Option.bind_eq_some_iff, Option.pure_def,
    Option.some.injEq]
  constructor
  · rintro ⟨o, ho, l, hl, r, hr, rfl⟩
    exact ⟨o, l, r, ho, hl, hr, rfl⟩
  · rintro ⟨o, l, r, ho, hl, hr, rfl⟩
    exact ⟨o, ho, l, hl, r, hr, rfl⟩

theorem tree?_var {v : Vocabulary} {name : String} {t : Expr} :
    (var name).tree? v = some t ↔ name = v.variableName ∧ t = .var name := by
  simp only [tree?]
  split_ifs with h <;> simp [h, eq_comm]

section Levels

variable {v : Vocabulary} {symbol : Char} {o : Operator} {left right : Phrase}

theorem leading_binary (h : v.operator? symbol = some o) :
    (binary symbol left right).leading v = o.level :: left.leading v := by
  rw [leading, Vocabulary.level?_of_operator? h]
  rfl

theorem trailing_binary (h : v.operator? symbol = some o) :
    (binary symbol left right).trailing v = o.level :: right.trailing v := by
  rw [trailing, Vocabulary.level?_of_operator? h]
  rfl

theorem ordered_binary (h : v.operator? symbol = some o) :
    (binary symbol left right).Ordered v ↔ left.Ordered v ∧ right.Ordered v ∧
      (∀ l ∈ left.trailing v, o.level ≤ l) ∧ ∀ l ∈ right.leading v, o.level < l := by
  rw [Ordered, Vocabulary.level?_of_operator? h]
  simp

end Levels

theorem tokens_ne_nil (c : Phrase) : c.tokens ≠ [] := by
  cases c <;> simp [tokens]

/-- What has a tree is admitted. -/
theorem admitted_of_tree? {v : Vocabulary} {c : Phrase} {t : Expr} (h : c.tree? v = some t) :
    c.Admitted v := by
  induction c generalizing t with
  | number text =>
    obtain ⟨d, hd, -⟩ := tree?_number.1 h
    rintro rfl
    cases hd
  | var name => exact (tree?_var.1 h).1
  | unary op operand ih =>
    obtain ⟨rule, u, hr, hu, -⟩ := tree?_unary.1 h
    exact ⟨Option.isSome_iff_exists.2 ⟨rule, hr⟩, ih hu⟩
  | binary symbol left right ihl ihr =>
    obtain ⟨o, l, r, ho, hl, hr, -⟩ := tree?_binary.1 h
    exact ⟨Vocabulary.hasOperator_of_operator? ho, ihl hl, ihr hr⟩
  | group inner ih => exact ih h

end Phrase

end Formula
