import Formula.Proofs.LevelOrder

/-!
# Formulas under a changed vocabulary

A formula that has a tree keeps it as long as the vocabulary has what the tree mentions: what is
added beside that changes nothing, and another rule for an operator stands in its place in the tree.
If something that the tree mentions is removed, the first token that needs it is refused, and what
stands before that token is taken as it was.

* `Expr.mapRules`, `Expr.withRule`: trees with other rules for operators between two operands.
* `Vocabulary.Revises`, `parseTokens_of_revises`: a vocabulary that has what a tree mentions.
* `Stance.foldlM_of_missing`: one in which something is missing.
* `parse_update`: what each change does to a formula that has a tree.
-/

namespace Formula

variable {v w : Vocabulary} {t : Expr} {tokens : List Token}

/-! ## Other rules -/

/-- The tree with other rules for its operators between two operands. -/
def Expr.mapRules (f : Char → BinaryRule → BinaryRule) : Expr → Expr
  | unary name rule operand => unary name rule (operand.mapRules f)
  | binary symbol rule left right =>
    binary symbol (f symbol rule) (left.mapRules f) (right.mapRules f)
  | leaf => leaf

/-- The tree with this rule for one of its operators between two operands, wherever it stands. -/
def Expr.withRule (symbol : Char) (rule : BinaryRule) : Expr → Expr :=
  mapRules fun other old => if other = symbol then rule else old

theorem Expr.mapRules_self (t : Expr) : t.mapRules (fun _ rule => rule) = t := by
  induction t with
  | unary name rule operand ih => rw [mapRules, ih]
  | binary symbol rule left right ihl ihr => rw [mapRules, ihl, ihr]
  | _ => rfl

/-- The second vocabulary has what the tree mentions as the first one has it, but for the rules of
    operators between two operands. No operator of both has two levels. -/
structure Vocabulary.Revises (v w : Vocabulary) (f : Char → BinaryRule → BinaryRule) (t : Expr) :
    Prop where
  variableName : w.variableName = v.variableName
  function : ∀ name rule, v.function? name = some rule → .unary name ∈ t.items →
    w.function? name = some rule
  operator : ∀ symbol o, v.operator? symbol = some o → .binary symbol ∈ t.items →
    w.operator? symbol = some ⟨o.level, f symbol o.rule⟩
  level : ∀ symbol o o', v.operator? symbol = some o → w.operator? symbol = some o' →
    o.level = o'.level

theorem Vocabulary.Revises.mono {f : Char → BinaryRule → BinaryRule} {u : Expr}
    (h : v.Revises w f t) (hu : ∀ item ∈ u.items, item ∈ t.items) : v.Revises w f u where
  variableName := h.variableName
  function name rule hrule hmem := h.function name rule hrule (hu _ hmem)
  operator symbol o ho hmem := h.operator symbol o ho (hu _ hmem)
  level := h.level

/-- If the operators are the same ones, only functions can be missing. -/
theorem Vocabulary.Revises.of_operators (hname : w.variableName = v.variableName)
    (hoperators : w.operators = v.operators)
    (hfunction : ∀ name rule, v.function? name = some rule → .unary name ∈ t.items →
      w.function? name = some rule) : v.Revises w (fun _ rule => rule) t where
  variableName := hname
  function := hfunction
  operator symbol o ho _ := by
    rw [operator?, hoperators]
    exact ho
  level symbol o o' ho ho' := by
    rw [operator?, hoperators, ← operator?, ho, Option.some.injEq] at ho'
    rw [ho']

namespace Phrase

variable {c : Phrase}

/-- With what its tree mentions a phrase has this tree with the other rules. -/
theorem tree?_of_revises {f : Char → BinaryRule → BinaryRule} (hc : c.tree? v = some t)
    (h : v.Revises w f t) : c.tree? w = some (t.mapRules f) := by
  induction c generalizing t with
  | number text =>
    obtain ⟨d, hd, rfl⟩ := tree?_number.1 hc
    exact tree?_number.2 ⟨d, hd, rfl⟩
  | var name =>
    obtain ⟨rfl, rfl⟩ := tree?_var.1 hc
    exact tree?_var.2 ⟨h.variableName.symm, rfl⟩
  | unary op operand ih =>
    obtain ⟨rule, u, hop, hu, rfl⟩ := tree?_unary.1 hc
    have hoperand := ih hu (h.mono fun item hitem => List.mem_cons_of_mem _ hitem)
    have hop' : op.rule? w = some rule := by
      cases op with
      | minus => exact hop
      | function name => exact h.function name rule hop List.mem_cons_self
    exact tree?_unary.2 ⟨rule, _, hop', hoperand, rfl⟩
  | binary symbol left right ihl ihr =>
    obtain ⟨o, l, r, ho, hl, hr, rfl⟩ := tree?_binary.1 hc
    have hleft := ihl hl (h.mono fun item hitem => List.mem_append_left _ hitem)
    have hright := ihr hr (h.mono fun item hitem =>
      List.mem_append_right _ (List.mem_cons_of_mem _ hitem))
    have ho' := h.operator symbol o ho (List.mem_append_right _ List.mem_cons_self)
    exact tree?_binary.2 ⟨_, _, _, ho', hleft, hright, rfl⟩
  | group inner ih => exact ih hc h

/-- The names of functions in a tree are those among the tokens of its phrase. -/
theorem identifier_mem_tokens_iff (hc : c.tree? v = some t) {name : String}
    (hname : name ≠ v.variableName) (hminus : name ≠ "-") :
    .identifier name ∈ c.tokens ↔ .unary name ∈ t.items := by
  induction c generalizing t with
  | number text =>
    obtain ⟨d, -, rfl⟩ := tree?_number.1 hc
    simp [tokens, Expr.items]
  | var other =>
    obtain ⟨rfl, rfl⟩ := tree?_var.1 hc
    simp [tokens, Expr.items, hname]
  | unary op operand ih =>
    obtain ⟨rule, u, -, hu, rfl⟩ := tree?_unary.1 hc
    cases op <;> simp [tokens, Expr.items, UnaryOperator.token, UnaryOperator.name, ih hu, hminus]
  | binary symbol left right ihl ihr =>
    obtain ⟨o, l, r, -, hl, hr, rfl⟩ := tree?_binary.1 hc
    simp [tokens, Expr.items, ihl hl, ihr hr]
  | group inner ih =>
    rw [← ih hc]
    simp [tokens]

end Phrase

/-- Levels compare alike where no operator has two. -/
theorem Vocabulary.Revises.levelsAgree {f : Char → BinaryRule → BinaryRule}
    (h : v.Revises w f t) : v.LevelsAgree w := by
  have hsame : ∀ {a a' : Level}, OneOperator v w a a' → a = a' := by
    rintro a a' ⟨symbol, ha, ha'⟩
    obtain ⟨o, ho, rfl⟩ := Option.map_eq_some_iff.1 ha
    obtain ⟨o', ho', rfl⟩ := Option.map_eq_some_iff.1 ha'
    exact h.level symbol o o' ho ho'
  exact
    { operators := fun ha hb => by rw [hsame ha, hsame hb]
      negation := fun ha => by rw [hsame ha]
      functions := fun ha => by rw [hsame ha] }

/-- A vocabulary with what a tree mentions reads its tokens as this tree with the other rules. -/
theorem parseTokens_of_revises (hw : w.Coherent) {f : Char → BinaryRule → BinaryRule}
    (h : v.parseTokens tokens = .ok t) (hrevises : v.Revises w f t) :
    w.parseTokens tokens = .ok (t.mapRules f) := by
  obtain ⟨c, rfl, htree, hord⟩ := exists_phrase_of_parseTokens h
  have htree' := Phrase.tree?_of_revises htree hrevises
  have hord' : c.Ordered w := (Phrase.ordered_iff hrevises.levelsAgree htree htree').1 hord
  exact parseTokens_tokens hw htree' hord'

/-- Where rules are the same, so is the tree. -/
theorem parseTokens_of_keeps (hw : w.Coherent) (h : v.parseTokens tokens = .ok t)
    (hkeeps : v.Revises w (fun _ rule => rule) t) : w.parseTokens tokens = .ok t := by
  rw [parseTokens_of_revises hw h hkeeps, t.mapRules_self]

/-! ## Changes that leave what a tree mentions -/

namespace Vocabulary

/-- A new operator is mentioned by no tree that was read without it. -/
theorem revises_addOperator {symbol : Char} {operator : Operator}
    (hnew : v.hasOperator symbol = false) :
    v.Revises { v with operators := v.operators.insert symbol operator }
      (fun _ rule => rule) t := by
  have hother : ∀ other o, v.operator? other = some o → symbol ≠ other := by
    rintro other o ho rfl
    rw [hasOperator_of_operator? ho] at hnew
    cases hnew
  refine ⟨rfl, fun name rule h _ => h, fun other o ho _ => ?_, fun other o o' ho ho' => ?_⟩
  · rw [operator?_insert, if_neg (hother other o ho), ho]
  · rw [operator?_insert, if_neg (hother other o ho), ho, Option.some.injEq] at ho'
    rw [ho']

/-- A new function is mentioned by no tree that was read without it. -/
theorem revises_addFunction {name : String} {rule : UnaryRule}
    (hnew : v.hasFunction name = false) :
    v.Revises { v with functions := v.functions.insert name rule } (fun _ rule => rule) t := by
  refine .of_operators rfl rfl fun other old h _ => ?_
  have hother : name ≠ other := by
    rintro rfl
    rw [hasFunction_of_function? h] at hnew
    cases hnew
  rw [function?_insert, if_neg hother, h]

/-- An operator that keeps its level changes nothing but its rule. -/
theorem revises_replaceRule {symbol : Char} {operator : Operator} {rule : BinaryRule}
    (hold : v.operator? symbol = some operator) :
    v.Revises { v with operators := v.operators.insert symbol ⟨operator.level, rule⟩ }
      (fun other old => if other = symbol then rule else old) t := by
  refine ⟨rfl, fun name rule h _ => h, fun other o ho _ => ?_, fun other o o' ho ho' => ?_⟩
  · rw [operator?_insert]
    by_cases hother : symbol = other
    · subst hother
      rw [hold, Option.some.injEq] at ho
      rw [if_pos rfl, if_pos rfl, ho]
    · rw [if_neg hother, if_neg (Ne.symm hother), ho]
  · rw [operator?_insert] at ho'
    split_ifs at ho' with hother
    · subst hother
      rw [hold, Option.some.injEq] at ho
      cases ho'
      rw [ho]
    · rw [ho, Option.some.injEq] at ho'
      rw [ho']

/-- A function can be removed from beside a tree that does not mention it. -/
theorem revises_removeFunction {name : String}
    (hunused : v.hasFunction name = true → .unary name ∉ t.items) :
    v.Revises (v.removeFunction name) (fun _ rule => rule) t := by
  refine .of_operators rfl rfl fun other rule h hmem => ?_
  have hother : name ≠ other := by
    rintro rfl
    exact hunused (hasFunction_of_function? h) hmem
  rw [function?_removeFunction, if_neg hother, h]

/-- So can an operator. -/
theorem revises_removeOperator {symbol : Char} (hunused : .binary symbol ∉ t.items) :
    v.Revises (v.removeOperator symbol) (fun _ rule => rule) t := by
  refine ⟨rfl, fun name rule h _ => h, fun other o ho hmem => ?_, fun other o o' ho ho' => ?_⟩
  · have hother : symbol ≠ other := by
      rintro rfl
      exact hunused hmem
    rw [operator?_removeOperator, if_neg hother, ho]
  · rw [operator?_removeOperator] at ho'
    split_ifs at ho'
    rw [ho, Option.some.injEq] at ho'
    rw [ho']

end Vocabulary

/-- A change leaves the tree of tokens if it leaves what the tree mentions, or is refused. -/
theorem parseTokens_update (hv : v.Coherent) {change : Change} (h : v.parseTokens tokens = .ok t)
    (hkeeps : ∀ w, v.Becomes change w → v.Revises w (fun _ rule => rule) t) :
    (v.update change).2.parseTokens tokens = .ok t := by
  rcases v.update_becomes change with hsame | hbecomes
  · rwa [hsame]
  · exact parseTokens_of_keeps (hv.update change) h (hkeeps _ hbecomes)

/-- An operator gets another rule at the level that it has, at all its nodes. -/
theorem parseTokens_replaceRule (hv : v.Coherent) {symbol : Char} {operator : Operator}
    {rule : BinaryRule} (h : v.parseTokens tokens = .ok t)
    (hold : v.operator? symbol = some operator) :
    (v.update (.addOperator symbol ⟨operator.level, rule⟩)).1 = .accepted ∧
      (v.update (.addOperator symbol ⟨operator.level, rule⟩)).2.parseTokens tokens
        = .ok (t.withRule symbol rule) := by
  have hfit := hv.operator_fit symbol (Vocabulary.hasOperator_of_operator? hold)
  have hupdate : v.update (.addOperator symbol ⟨operator.level, rule⟩)
      = (.accepted, { v with operators := v.operators.insert symbol ⟨operator.level, rule⟩ }) :=
    Vocabulary.update_of_becomes (.addOperator hfit)
  have hw := hv.update (.addOperator symbol ⟨operator.level, rule⟩)
  rw [hupdate] at hw ⊢
  exact ⟨rfl, parseTokens_of_revises hw h (Vocabulary.revises_replaceRule hold)⟩

/-! ## What is missing -/

/-- What is expected after a token can be told from what is expected before it. -/
theorem Stance.expected_step {s s' : Stance} {token : Token} (h : s.step v token = .ok s') :
    s'.expected = s.expected.after v.variableName token := by
  obtain ⟨expected, depth⟩ := s
  match expected, token with
  | .value, .number text =>
    simp only [step] at h
    split_ifs at h
    cases h
    rfl
  | .value, .identifier name =>
    simp only [step] at h
    split_ifs at h with hn hf <;> cases h <;> simp [Expectation.after, hn]
  | .value, .symbol char =>
    simp only [step] at h
    split_ifs at h <;> cases h <;> rfl
  | .operator, .number text => cases h
  | .operator, .identifier name => cases h
  | .operator, .symbol char =>
    simp only [step] at h
    split_ifs at h with ho hc hop
    · cases depth with
      | zero => cases h
      | succ depth =>
        cases h
        simp [Expectation.after, hc]
    · cases h
      simp [Expectation.after, hc]

/-- If only tokens that make some item are refused now, the first of them decides. -/
theorem Stance.foldlM_of_missing {missing : Item} {e : ParseError}
    (hsame : ∀ (s : Stance) token, token.item? v.variableName s.expected ≠ some missing →
      s.step w token = s.step v token)
    (hmissing : ∀ (s s' : Stance) token, s.step v token = .ok s' →
      token.item? v.variableName s.expected = some missing → s.step w token = .error e)
    {s s' : Stance} (h : tokens.foldlM (Stance.step v) s = .ok s')
    (hmem : missing ∈ itemsOf v.variableName s.expected tokens) :
    tokens.foldlM (Stance.step w) s = .error e := by
  induction tokens generalizing s with
  | nil => simp [itemsOf] at hmem
  | cons token tokens ih =>
    obtain ⟨next, hstep, hrun⟩ := exists_of_foldlM_cons h
    rw [List.foldlM_cons]
    by_cases hitem : token.item? v.variableName s.expected = some missing
    · rw [hmissing s next token hstep hitem]
      rfl
    · rw [itemsOf, List.mem_append, Option.mem_toList, or_iff_right hitem,
        ← expected_step hstep] at hmem
      rw [hsame s token hitem, hstep]
      exact ih hrun hmem

/-- An error of the stance after tokens is that of the tokens. -/
theorem parseTokens_of_stance {e : ParseError} (he : e.atToken = true)
    (h : Stance.ofTokens v tokens = .error e) : v.parseTokens tokens = .error e := by
  rw [parseTokens_eq_error_iff he]
  rw [stance_ofTokens] at h
  cases hr : Reading.ofTokens v tokens with
  | error other =>
    rw [hr] at h
    cases h
    rfl
  | ok r =>
    rw [hr] at h
    cases h

/-! ## Removed functions and operators -/

theorem Vocabulary.hasFunction_removeFunction (v : Vocabulary) (removed name : String) :
    (v.removeFunction removed).hasFunction name
      = if removed = name then false else v.hasFunction name := by
  rw [hasFunction_eq_isSome, function?_removeFunction, hasFunction_eq_isSome]
  split_ifs <;> rfl

theorem Vocabulary.hasOperator_removeOperator (v : Vocabulary) (removed symbol : Char) :
    (v.removeOperator removed).hasOperator symbol
      = if removed = symbol then false else v.hasOperator symbol := by
  rw [hasOperator_eq_isSome, operator?_removeOperator, hasOperator_eq_isSome]
  split_ifs <;> rfl

namespace Stance

/-- Without a function all tokens are taken as before that do not apply it. -/
theorem step_removeFunction {name : String} {s : Stance} {token : Token}
    (h : token.item? v.variableName s.expected ≠ some (.unary name)) :
    s.step (v.removeFunction name) token = s.step v token := by
  obtain ⟨expected, depth⟩ := s
  match expected, token with
  | .value, .number text => rfl
  | .value, .symbol char => rfl
  | .operator, token => cases token <;> rfl
  | .value, .identifier other =>
    simp only [step, Vocabulary.hasFunction_removeFunction]
    by_cases hvar : other = v.variableName
    · rw [if_pos hvar]
      exact if_pos hvar
    · have hother : name ≠ other := by
        rintro rfl
        exact h (by simp [Token.item?, hvar])
      rw [if_neg hother]
      rfl

/-- A token that applies the function is refused. -/
theorem step_removeFunction_error {name : String} (hname : name ≠ v.variableName)
    (hminus : name ≠ "-") {s : Stance} {token : Token}
    (h : token.item? v.variableName s.expected = some (.unary name)) :
    s.step (v.removeFunction name) token = .error (.unknownFunction name) := by
  obtain ⟨expected, depth⟩ := s
  match expected, token with
  | .value, .number text => simp [Token.item?] at h
  | .value, .symbol char =>
    simp only [Token.item?] at h
    split_ifs at h
    simp only [Option.some.injEq, Item.unary.injEq] at h
    exact absurd h.symm hminus
  | .operator, .symbol char =>
    simp only [Token.item?] at h
    split_ifs at h
    simp at h
  | .value, .identifier other =>
    simp only [Token.item?, Option.some.injEq] at h
    split_ifs at h
    rw [Item.unary.injEq] at h
    subst h
    have hvar : other ≠ (v.removeFunction other).variableName := hname
    simp [step, hvar, Vocabulary.hasFunction_removeFunction]

/-- Without an operator all tokens are taken as before that are not it between two operands. -/
theorem step_removeOperator {symbol : Char} {s : Stance} {token : Token}
    (h : token.item? v.variableName s.expected ≠ some (.binary symbol)) :
    s.step (v.removeOperator symbol) token = s.step v token := by
  obtain ⟨expected, depth⟩ := s
  match expected, token with
  | .value, token => cases token <;> rfl
  | .operator, .number text => rfl
  | .operator, .identifier name => rfl
  | .operator, .symbol char =>
    simp only [step, Vocabulary.hasOperator_removeOperator]
    by_cases hclose : char = ')'
    · simp [hclose]
    · have hother : symbol ≠ char := by
        rintro rfl
        exact h (by simp [Token.item?, hclose])
      rw [if_neg hother]

/-- A token that is it is refused, if it was taken before. -/
theorem step_removeOperator_error {symbol : Char} {s s' : Stance} {token : Token}
    (hstep : s.step v token = .ok s')
    (h : token.item? v.variableName s.expected = some (.binary symbol)) :
    s.step (v.removeOperator symbol) token = .error (.unknownOperator symbol) := by
  obtain ⟨expected, depth⟩ := s
  match expected, token with
  | .value, .number text => simp [Token.item?] at h
  | .value, .symbol char =>
    simp only [Token.item?] at h
    split_ifs at h
    simp at h
  | .value, .identifier name =>
    simp only [Token.item?, Option.some.injEq] at h
    split_ifs at h
  | .operator, .symbol char =>
    simp only [Token.item?] at h
    split_ifs at h with hclose
    rw [Option.some.injEq, Item.binary.injEq] at h
    subst h
    have hopen : char ≠ '(' := by
      rintro rfl
      simp [step] at hstep
    simp [step, hopen, hclose, Vocabulary.hasOperator_removeOperator]

end Stance

/-- Without a function its first use is refused. -/
theorem parseTokens_removeFunction {name : String} (hname : name ≠ v.variableName)
    (hminus : name ≠ "-") (h : v.parseTokens tokens = .ok t)
    (hmem : .unary name ∈ itemsOf v.variableName .value tokens) :
    (v.removeFunction name).parseTokens tokens = .error (.unknownFunction name) := by
  have hstance := parseTokens_isOk_iff.1 ⟨t, h⟩
  apply parseTokens_of_stance rfl
  exact Stance.foldlM_of_missing (fun _ _ => Stance.step_removeFunction)
    (fun _ _ _ _ => Stance.step_removeFunction_error hname hminus) hstance hmem

/-- Without an operator its first use is refused. -/
theorem parseTokens_removeOperator {symbol : Char} (h : v.parseTokens tokens = .ok t)
    (hmem : .binary symbol ∈ itemsOf v.variableName .value tokens) :
    (v.removeOperator symbol).parseTokens tokens = .error (.unknownOperator symbol) := by
  have hstance := parseTokens_isOk_iff.1 ⟨t, h⟩
  apply parseTokens_of_stance rfl
  exact Stance.foldlM_of_missing (fun _ _ => Stance.step_removeOperator)
    (fun _ _ _ => Stance.step_removeOperator_error) hstance hmem

/-! ## Every change -/

/-- The functions that a tree applies are those that its text names. -/
theorem identifier_mem_tokenize_iff {text : String} (h : v.parse text = .ok t) {name : String}
    (hname : name ≠ v.variableName) (hminus : name ≠ "-") :
    .identifier name ∈ tokenize text ↔ .unary name ∈ t.items := by
  obtain ⟨c, htok, htree, -⟩ := exists_phrase_of_parseTokens h
  rw [← htok]
  exact Phrase.identifier_mem_tokens_iff htree hname hminus

/-- A tree applies no function that the text does not name, and the variable is no function. -/
theorem unary_notMem_items (hv : v.Coherent) {text : String} (h : v.parse text = .ok t)
    {name : String} (hunused : .identifier name ∉ tokenize text ∨ name = v.variableName)
    (hfunction : v.hasFunction name = true) : .unary name ∉ t.items := by
  intro hmem
  obtain ⟨rule, hrule⟩ := Option.isSome_iff_exists.1 (v.hasFunction_eq_isSome name ▸ hfunction)
  have hname : name ≠ v.variableName := hv.function_ne hrule
  have hminus := Vocabulary.ne_minus_of_nameFault? (hv.function_fit name hfunction)
  rcases hunused with hunused | hvariable
  · exact hunused ((identifier_mem_tokenize_iff h hname hminus).2 hmem)
  · exact hname hvariable

/-- Let a vocabulary, whatever changes made it, read a text as a tree. A new operator or function,
    accepted or not, leaves the tree as it is, and a new rule for an operator stands at all nodes of
    this operator. Without a function or an operator the text has the same tree if it has no use for
    it, and otherwise that is the error; the name of the variable is none of a function, and a minus
    sign before an operand no use of the operator. -/
theorem parse_update (history : List Change) {text : String} {t : Expr} :
    let v := Vocabulary.empty.evolve history
    v.parse text = .ok t →
    (∀ symbol operator, v.hasOperator symbol = false →
      (v.update (.addOperator symbol operator)).2.parse text = .ok t) ∧
    (∀ name rule, v.hasFunction name = false →
      (v.update (.addFunction name rule)).2.parse text = .ok t) ∧
    (∀ symbol operator rule, v.operator? symbol = some operator →
      (v.update (.addOperator symbol ⟨operator.level, rule⟩)).1 = .accepted ∧
      (v.update (.addOperator symbol ⟨operator.level, rule⟩)).2.parse text
        = .ok (t.withRule symbol rule)) ∧
    (∀ name, let w := (v.update (.removeFunction name)).2
      (.identifier name ∉ tokenize text ∨ name = v.variableName → w.parse text = .ok t) ∧
      (.identifier name ∈ tokenize text → name ≠ v.variableName →
        w.parse text = .error (.unknownFunction name))) ∧
    ∀ symbol, let w := (v.update (.removeOperator symbol)).2
      (.binary symbol ∉ t.items → w.parse text = .ok t) ∧
      (.binary symbol ∈ t.items → w.parse text = .error (.unknownOperator symbol)) := by
  intro v h
  have hv : v.Coherent := Vocabulary.coherent_evolve history
  have hitems : t.items = itemsOf v.variableName .value (tokenize text) := items_of_parse hv h
  refine ⟨fun symbol operator hnew => ?_, fun name rule hnew => ?_,
    fun symbol operator rule hold => ?_, fun name => ⟨fun hunused => ?_, fun hmem hname => ?_⟩,
    fun symbol => ⟨fun hunused => ?_, fun hmem => ?_⟩⟩
  · refine parseTokens_update hv h fun w hw => ?_
    cases hw with
    | addOperator _ => exact Vocabulary.revises_addOperator hnew
  · refine parseTokens_update hv h fun w hw => ?_
    cases hw with
    | addFunction _ _ => exact Vocabulary.revises_addFunction hnew
  · exact parseTokens_replaceRule hv h hold
  · refine parseTokens_update hv h fun w hw => ?_
    cases hw with
    | removeFunction =>
      exact Vocabulary.revises_removeFunction (unary_notMem_items hv h hunused)
  · have hminus := Vocabulary.ne_minus_of_nameFault? (isLexeme_of_mem_tokenize _ hmem)
    rw [identifier_mem_tokenize_iff h hname hminus, hitems] at hmem
    exact parseTokens_removeFunction hname hminus h hmem
  · refine parseTokens_update hv h fun w hw => ?_
    cases hw with
    | removeOperator => exact Vocabulary.revises_removeOperator hunused
  · rw [hitems] at hmem
    exact parseTokens_removeOperator h hmem

/-- The two minus signs of `-x-sin x`: without the operator the second one is refused, and another
    rule for it does not reach the first. -/
theorem parse_update_minus :
    let v := Vocabulary.empty.evolve preset
    let t (difference : BinaryRule) := Expr.binary '-' difference
      (.unary "-" (fun x => -x) (.var "x")) (.unary "sin" Float.sin (.var "x"))
    v.parse "-x-sin x" = .ok (t (· - ·)) ∧
      (v.hasOperator '%' = false ∧
        (v.update (.addOperator '%' ⟨.mulExp, (· / ·)⟩)).2.parse "-x-sin x" = .ok (t (· - ·))) ∧
      (v.hasFunction "half" = false ∧
        (v.update (.addFunction "half" (· / 2))).2.parse "-x-sin x" = .ok (t (· - ·))) ∧
      (v.operator? '-' = some ⟨.addition, (· - ·)⟩ ∧
        (v.update (.addOperator '-' ⟨.addition, (· + ·)⟩)).2.parse "-x-sin x" = .ok (t (· + ·))) ∧
      (.identifier "sin" ∈ tokenize "-x-sin x" ∧ "sin" ≠ v.variableName ∧
        (v.update (.removeFunction "sin")).2.parse "-x-sin x" = .error (.unknownFunction "sin")) ∧
      (.identifier "cos" ∉ tokenize "-x-sin x" ∧
        (v.update (.removeFunction "cos")).2.parse "-x-sin x" = .ok (t (· - ·))) ∧
      (.binary '-' ∈ (t (· - ·)).items ∧
        (v.update (.removeOperator '-')).2.parse "-x-sin x" = .error (.unknownOperator '-')) ∧
      .binary '+' ∉ (t (· - ·)).items ∧
        (v.update (.removeOperator '+')).2.parse "-x-sin x" = .ok (t (· - ·)) := by
  intro v t
  have hparse : v.parse "-x-sin x" = .ok (t (· - ·)) := rfl
  have hmod : v.hasOperator '%' = false := rfl
  have hhalf : v.hasFunction "half" = false := rfl
  have hminus : v.operator? '-' = some ⟨.addition, (· - ·)⟩ := rfl
  have hsin : Token.identifier "sin" ∈ tokenize "-x-sin x" := by decide +kernel
  have hvar : "sin" ≠ v.variableName := by decide +kernel
  have hcos : Token.identifier "cos" ∉ tokenize "-x-sin x" := by decide +kernel
  have hused : Item.binary '-' ∈ (t (· - ·)).items := by simp [t, Expr.items]
  have hunused : Item.binary '+' ∉ (t (· - ·)).items := by simp [t, Expr.items]
  obtain ⟨hadd, hfunction, hrule, hremove, hforget⟩ := parse_update preset hparse
  exact ⟨hparse, ⟨hmod, hadd '%' _ hmod⟩, ⟨hhalf, hfunction "half" _ hhalf⟩,
    ⟨hminus, (hrule '-' _ (· + ·) hminus).2⟩, ⟨hsin, hvar, (hremove "sin").2 hsin hvar⟩,
    ⟨hcos, (hremove "cos").1 (.inl hcos)⟩, ⟨hused, (hforget '-').2 hused⟩,
    hunused, (hforget '+').1 hunused⟩

/-- The name of the variable is that of no function, so that its removal changes nothing, though it
    is among the tokens. -/
theorem parse_removeFunction_variable :
    let v := Vocabulary.empty.evolve preset
    v.parse "x" = .ok (.var "x") ∧ .identifier "x" ∈ tokenize "x" ∧
      (v.update (.removeFunction "x")).1 = .removed false ∧
      (v.update (.removeFunction "x")).2.parse "x" = .ok (.var "x") ∧
      (v.update (.removeFunction "x")).2.parse "x" ≠ .error (.unknownFunction "x") := by
  intro v
  have hparse : (v.update (.removeFunction "x")).2.parse "x" = .ok (.var "x") := rfl
  refine ⟨rfl, by decide +kernel, rfl, hparse, ?_⟩
  rw [hparse]
  nofun

end Formula
