import Formula.Proofs.Unfinished

/-!
# Trees from left to right

Read from left to right, a tree shows what its text has besides parentheses: leaves, operators
before an operand and operators between two. What a token is can be told from what is expected
before it, and that from the tokens and the name of the variable. So the tree of a text, read from
left to right, does not depend on how it is grouped.

* `Item`, `Expr.items`: the nodes of a tree from left to right.
* `itemsOf`: the same of tokens.
* `Phrase.itemsOf_tokens`, `items_of_parse`: a tree has the items of its tokens.
-/

namespace Formula

/-- A node without its operands. -/
inductive Item where
  | constant (value : Float)
  | var (name : String)
  /-- An operator before its only operand. -/
  | unary (name : String)
  /-- An operator between two operands. -/
  | binary (symbol : Char)
  | hole

/-- The nodes of a tree from left to right. -/
def Expr.items : Expr → List Item
  | constant value => [.constant value]
  | var name => [.var name]
  | unary name _ operand => .unary name :: operand.items
  | binary symbol _ left right => left.items ++ .binary symbol :: right.items
  | hole => [.hole]

/-! ## Tokens -/

/-- The node that a token makes where this is expected. Parentheses make none. -/
def Token.item? (variableName : String) : Expectation → Token → Option Item
  | .value, .number text =>
    (Number.Decimal.ofNumeral? text.toList).map fun decimal => .constant decimal.toFloat
  | .value, .identifier name => some (if name = variableName then .var name else .unary name)
  | .value, .symbol char => if char = '-' then some (.unary "-") else none
  | .operator, .symbol char => if char = ')' then none else some (.binary char)
  | .operator, _ => none

/-- What is expected after a token. -/
def Expectation.after (variableName : String) : Expectation → Token → Expectation
  | .value, .number _ => .operator
  | .value, .identifier name => if name = variableName then .operator else .value
  | .value, .symbol _ => .value
  | .operator, .symbol char => if char = ')' then .operator else .value
  | .operator, _ => .operator

/-- The nodes that tokens make from left to right where this is expected. -/
def itemsOf (variableName : String) : Expectation → List Token → List Item
  | _, [] => []
  | expected, token :: rest =>
    (token.item? variableName expected).toList ++
      itemsOf variableName (expected.after variableName token) rest

variable {v : Vocabulary}

theorem itemsOf_unary (hv : v.Coherent) {op : UnaryOperator} {rule : UnaryRule}
    (hop : op.rule? v = some rule) (rest : List Token) :
    itemsOf v.variableName .value (op.token :: rest)
      = .unary op.name :: itemsOf v.variableName .value rest := by
  cases op with
  | minus => rfl
  | function name =>
    have hne : name ≠ v.variableName := hv.function_ne hop
    simp only [UnaryOperator.token, itemsOf, Token.item?, Expectation.after, if_neg hne]
    rfl

theorem itemsOf_binary (hv : v.Coherent) {symbol : Char} {o : Operator}
    (ho : v.operator? symbol = some o) (rest : List Token) :
    itemsOf v.variableName .operator (.symbol symbol :: rest)
      = .binary symbol :: itemsOf v.variableName .value rest := by
  have hne : symbol ≠ ')' := (hv.operator_ne ho).2
  simp only [itemsOf, Token.item?, Expectation.after, if_neg hne]
  rfl

/-! ## Trees -/

/-- The tokens of a phrase make the nodes of its tree, and an operator is expected after them. -/
theorem Phrase.itemsOf_tokens (hv : v.Coherent) {c : Phrase} {t : Expr} (h : c.tree? v = some t)
    (rest : List Token) :
    itemsOf v.variableName .value (c.tokens ++ rest)
      = t.items ++ itemsOf v.variableName .operator rest := by
  induction c generalizing t rest with
  | number text =>
    obtain ⟨d, hd, rfl⟩ := tree?_number.1 h
    simp only [tokens, List.singleton_append, itemsOf, Token.item?, hd]
    rfl
  | var name =>
    obtain ⟨rfl, rfl⟩ := tree?_var.1 h
    simp only [tokens, List.singleton_append, itemsOf, Token.item?, Expectation.after, if_true]
    rfl
  | unary op operand ih =>
    obtain ⟨rule, u, hop, hu, rfl⟩ := tree?_unary.1 h
    rw [tokens, List.cons_append, itemsOf_unary hv hop, ih hu, Expr.items, List.cons_append]
  | binary symbol left right ihl ihr =>
    obtain ⟨o, l, r, ho, hl, hr, rfl⟩ := tree?_binary.1 h
    rw [tokens, List.append_assoc, ihl hl, List.cons_append, itemsOf_binary hv ho, ihr hr,
      Expr.items, List.append_assoc, List.cons_append]
  | group inner ih =>
    have hinner : inner.tree? v = some t := h
    have hopen : itemsOf v.variableName .value ((group inner).tokens ++ rest)
        = itemsOf v.variableName .value (inner.tokens ++ .symbol ')' :: rest) := by
      rw [tokens, List.cons_append, List.append_assoc]
      rfl
    rw [hopen, ih hinner]
    rfl

/-- The tree of a text has the nodes that its tokens make. -/
theorem items_of_parse (hv : v.Coherent) {text : String} {t : Expr} (h : v.parse text = .ok t) :
    t.items = itemsOf v.variableName .value (tokenize text) := by
  obtain ⟨c, htok, htree, -⟩ := exists_phrase_of_parseTokens h
  have hitems := Phrase.itemsOf_tokens hv htree []
  rw [List.append_nil, htok] at hitems
  rw [hitems, itemsOf, List.append_nil]

end Formula
