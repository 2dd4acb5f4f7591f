import Formula.Proofs.Lexing
import Formula.Proofs.Precedence

/-!
# The grammar of formulas

Which texts have a tree is a question of names and symbols alone: a formula is a value, or a
formula, an operator and a value, and levels have no part in it.

* `Grammar.Derives`: the tokens of a value, and of a formula.
* `derives_tokens`: the tokens of a phrase are those of a formula.
* `Grammar.Derives.foldlM`: tokens that are derived are taken, and an operator is expected then.
* `exists_parse_iff_derives`: exactly the derived texts have a tree.
-/

namespace Formula

/-- The names and symbols that formulas are made of. -/
@[ext]
structure Grammar where
  variableName : String
  isFunction : String → Bool
  isOperator : Char → Bool

namespace Grammar

/-- What is derived. -/
inductive Category where
  | value
  | formula

/-- The tokens of values and of formulas. -/
inductive Derives (g : Grammar) : Category → List Token → Prop
  | number {text : String} : text ≠ "." → Derives g .value [.number text]
  | var : Derives g .value [.identifier g.variableName]
  | function {name : String} {tokens : List Token} : g.isFunction name = true →
      Derives g .value tokens → Derives g .value (.identifier name :: tokens)
  | minus {tokens : List Token} : Derives g .value tokens →
      Derives g .value (.symbol '-' :: tokens)
  | group {tokens : List Token} : Derives g .formula tokens →
      Derives g .value (.symbol '(' :: (tokens ++ [.symbol ')']))
  | single {tokens : List Token} : Derives g .value tokens → Derives g .formula tokens
  | binary {left right : List Token} {symbol : Char} : Derives g .formula left →
      g.isOperator symbol = true → Derives g .value right →
      Derives g .formula (left ++ .symbol symbol :: right)

end Grammar

/-- The names and symbols of a vocabulary. -/
def Vocabulary.grammar (v : Vocabulary) : Grammar := ⟨v.variableName, v.hasFunction, v.hasOperator⟩

/-! ## Phrases are derived -/

namespace Grammar.Derives

variable {g : Grammar}

/-- An operator may take a whole formula to its right. -/
theorem operate {left right : List Token} {symbol : Char} (hl : g.Derives .formula left)
    (ho : g.isOperator symbol = true) (hr : g.Derives .formula right) :
    g.Derives .formula (left ++ .symbol symbol :: right) := by
  generalize hk : Category.formula = k at hr
  induction hr with
  | single h _ => exact hl.binary ho h
  | @binary first last other _ ho' hv ih _ =>
    have := (ih hk).binary ho' hv
    rwa [List.append_assoc, List.cons_append] at this
  | _ => cases hk

/-- What may stand before every value may stand before every formula. -/
theorem before {token : Token} {tokens : List Token}
    (hu : ∀ {tokens}, g.Derives .value tokens → g.Derives .value (token :: tokens))
    (h : g.Derives .formula tokens) : g.Derives .formula (token :: tokens) := by
  generalize hk : Category.formula = k at h
  induction h with
  | single h _ => exact .single (hu h)
  | binary _ ho hv ih _ => exact (ih hk).binary ho hv
  | _ => cases hk

end Grammar.Derives

variable {v : Vocabulary}

/-- The tokens of a phrase are those of a formula. -/
theorem derives_tokens {c : Phrase} (hc : c.Admitted v) :
    v.grammar.Derives .formula c.tokens := by
  induction c with
  | number text => exact .single (.number hc)
  | var name =>
    have hn : name = v.variableName := hc
    rw [Phrase.tokens, hn]
    exact .single .var
  | unary op operand ih =>
    obtain ⟨hr, ho⟩ := hc
    cases op with
    | minus => exact .before (fun h => .minus h) (ih ho)
    | function name =>
      have hf : v.grammar.isFunction name = true := by
        rwa [UnaryOperator.isSome_rule?_function] at hr
      exact .before (fun h => .function hf h) (ih ho)
  | binary symbol left right ihl ihr => exact .operate (ihl hc.2.1) hc.1 (ihr hc.2.2)
  | group inner ih => exact .single (.group (ih hc))

/-! ## What is derived is taken -/

/-- Derived tokens are taken where a value is expected, and then an operator is, with as many
    groups open as before. -/
theorem Grammar.Derives.foldlM (hv : v.Coherent) {k : Category} {tokens : List Token}
    (h : v.grammar.Derives k tokens) : ∀ depth : Nat, (∀ t ∈ tokens, t.IsLexeme) →
      tokens.foldlM (Stance.step v) ⟨.value, depth⟩ = .ok ⟨.operator, depth⟩ := by
  induction h with
  | @number text hne =>
    intro depth hlex
    have := (isSome_ofNumeral?_of_isLexeme (hlex _ List.mem_cons_self)).2 hne
    have hstep : Stance.step v ⟨.value, depth⟩ (.number text) = .ok ⟨.operator, depth⟩ := by
      simp [Stance.step, this]
    rw [foldlM_of_step hstep]
    rfl
  | var =>
    intro depth _
    have hstep : Stance.step v ⟨.value, depth⟩ (.identifier v.variableName)
        = .ok ⟨.operator, depth⟩ := by simp [Stance.step]
    exact (foldlM_of_step hstep).trans rfl
  | @function name tokens hf _ ih =>
    intro depth hlex
    have hr : ((UnaryOperator.function name).rule? v).isSome = true := by
      rw [UnaryOperator.isSome_rule?_function]
      exact hf
    rw [← ih depth fun t ht => hlex t (List.mem_cons_of_mem _ ht)]
    exact foldlM_of_step (Stance.step_unary hv hr depth)
  | minus _ ih =>
    intro depth hlex
    rw [← ih depth fun t ht => hlex t (List.mem_cons_of_mem _ ht)]
    exact foldlM_of_step rfl
  | group _ ih =>
    intro depth hlex
    have hinner := ih (depth + 1) fun t ht =>
      hlex t (List.mem_cons_of_mem _ (List.mem_append_left _ ht))
    have hopen : Stance.step v ⟨.value, depth⟩ (.symbol '(') = .ok ⟨.value, depth + 1⟩ := by
      simp [Stance.step]
    have hclose : Stance.step v ⟨.operator, depth + 1⟩ (.symbol ')') = .ok ⟨.operator, depth⟩ := by
      simp [Stance.step]
    rw [foldlM_of_step hopen, foldlM_of_run hinner, foldlM_of_step hclose]
    rfl
  | single _ ih => exact ih
  | binary _ ho _ ihl ihr =>
    intro depth hlex
    rw [foldlM_of_run (ihl depth fun t ht => hlex t (List.mem_append_left _ ht)),
      foldlM_of_step (Stance.step_binary hv ho depth)]
    exact ihr depth fun t ht => hlex t (List.mem_append_right _ (List.mem_cons_of_mem _ ht))

/-- Exactly the derived texts have a tree. -/
theorem isOk_parse_iff (hv : v.Coherent) {text : String} :
    (∃ t, v.parse text = .ok t) ↔ v.grammar.Derives .formula (tokenize text) := by
  constructor
  · rintro ⟨t, ht⟩
    obtain ⟨c, htok, htree, -⟩ := exists_phrase_of_parseTokens ht
    rw [← htok]
    exact derives_tokens (Phrase.admitted_of_tree? htree)
  · intro h
    exact parseTokens_isOk_iff.2 (h.foldlM hv 0 isLexeme_of_mem_tokenize)

/-! ## The minus sign -/

/-- A minus sign may stand before every formula, whatever it is between two of them. -/
theorem isOk_parse_minus {text : String} :
    (∃ t, v.parse ("-" ++ text) = .ok t) ↔ ∃ t, v.parse text = .ok t := by
  have htok : tokenize ("-" ++ text) = .symbol '-' :: tokenize text :=
    tokenize_append_symbol isLexeme_minus "" text
  have hrun : Stance.ofTokens v (.symbol '-' :: tokenize text)
      = Stance.ofTokens v (tokenize text) := foldlM_of_step rfl
  rw [Vocabulary.parse, Vocabulary.parse, parseTokens_isOk_iff, parseTokens_isOk_iff, htok, hrun]

/-- Between two formulas a minus sign has to be an operator of the vocabulary. -/
theorem isOk_parse_difference {left right : String} (hl : ∃ t, v.parse left = .ok t)
    (hr : ∃ t, v.parse right = .ok t) :
    (∃ t, v.parse (left ++ "-" ++ right) = .ok t) ↔ v.hasOperator '-' = true := by
  have htok : tokenize (left ++ "-" ++ right) = tokenize left ++ .symbol '-' :: tokenize right :=
    tokenize_append_symbol isLexeme_minus left right
  rw [Vocabulary.parse, parseTokens_isOk_iff] at hl hr
  rw [Vocabulary.parse, parseTokens_isOk_iff, htok, Stance.ofTokens, foldlM_of_run hl]
  cases ho : v.hasOperator '-' with
  | true =>
    have hstep : Stance.step v ⟨.operator, 0⟩ (.symbol '-') = .ok ⟨.value, 0⟩ := by
      simp [Stance.step, ho]
    rw [foldlM_of_step hstep]
    exact iff_of_true hr rfl
  | false =>
    have hstep : Stance.step v ⟨.operator, 0⟩ (.symbol '-') = .error (.unknownOperator '-') := by
      simp [Stance.step, ho]
    rw [List.foldlM_cons, hstep]
    exact iff_of_false (fun h => by cases h) (by decide)

/-! ## Acceptance -/

/-- Whatever changes made the vocabulary, exactly the texts of its grammar have a tree, so that
    levels have no part in it. The minus sign negates in every vocabulary, and subtracts only where
    it is an operator. -/
theorem exists_parse_iff_derives (history : List Change) :
    let v := Vocabulary.empty.evolve history
    (∀ text, (∃ t, v.parse text = .ok t) ↔ v.grammar.Derives .formula (tokenize text)) ∧
    (∀ history' : List Change, let w := Vocabulary.empty.evolve history'
      w.variableName = v.variableName → (∀ name, w.hasFunction name = v.hasFunction name) →
      (∀ symbol, w.hasOperator symbol = v.hasOperator symbol) →
      ∀ text, (∃ t, w.parse text = .ok t) ↔ ∃ t, v.parse text = .ok t) ∧
    (∀ text, (∃ t, v.parse ("-" ++ text) = .ok t) ↔ ∃ t, v.parse text = .ok t) ∧
    ∀ left right, (∃ t, v.parse left = .ok t) → (∃ t, v.parse right = .ok t) →
      ((∃ t, v.parse (left ++ "-" ++ right) = .ok t) ↔ v.hasOperator '-' = true) := by
  intro v
  have hv : v.Coherent := Vocabulary.coherent_evolve history
  refine ⟨fun text => isOk_parse_iff hv, ?_, fun text => isOk_parse_minus,
    fun left right => isOk_parse_difference⟩
  intro history' w hname hfunction hoperator text
  have hw : w.Coherent := Vocabulary.coherent_evolve history'
  have hgrammar : w.grammar = v.grammar :=
    Grammar.ext hname (funext hfunction) (funext hoperator)
  rw [isOk_parse_iff hw, isOk_parse_iff hv, hgrammar]

/-- Between two variables the standard vocabulary has a difference. -/
theorem exists_parse_difference :
    let v := Vocabulary.empty.evolve preset
    (∃ t, v.parse "x" = .ok t) ∧ ∃ t, v.parse ("x" ++ "-" ++ "x") = .ok t := by
  intro v
  have hx : ∃ t, v.parse "x" = .ok t := ⟨.var "x", rfl⟩
  have hminus : v.hasOperator '-' = true := rfl
  exact ⟨hx, ((exists_parse_iff_derives preset).2.2.2 "x" "x" hx hx).2 hminus⟩

end Formula
