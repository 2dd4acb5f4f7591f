import Formula.Evaluate
import Formula.Proofs.Parentheses
import Formula.Proofs.Unfinished

/-!
# Where a tree comes from

Every node of a tree that is read comes from one token: a leaf from a number or the variable, an
operation from a name or symbol of the vocabulary, whose rule it has. Nothing is left open, and so
the tree has a value everywhere. A formula without a value in the standard vocabulary is therefore
one that has no tree.

* `Expr.ComesFrom`: a tree with the names, symbols and rules of a vocabulary.
* `Phrase.comesFrom_tree?`: the tree of a phrase is one.
* `evaluate_cases`: a formula has the value of its tree, or the error that keeps it from having one.
* `parse_origin`: all of this for the vocabularies that can come about.
-/

namespace Formula

/-- A tree with the names, symbols and rules of a vocabulary and no hole. -/
inductive Expr.ComesFrom (v : Vocabulary) : Expr → Prop
  | constant (value : Float) : ComesFrom v (.constant value)
  | var : ComesFrom v (.var v.variableName)
  | negation {operand : Expr} : ComesFrom v operand →
      ComesFrom v (.unary "-" (fun x => -x) operand)
  | function {name : String} {rule : UnaryRule} {operand : Expr} :
      v.function? name = some rule → ComesFrom v operand → ComesFrom v (.unary name rule operand)
  | binary {symbol : Char} {o : Operator} {left right : Expr} :
      v.operator? symbol = some o → ComesFrom v left → ComesFrom v right →
      ComesFrom v (.binary symbol o.rule left right)

variable {v : Vocabulary} {t : Expr}

/-! ## Trees of a vocabulary -/

theorem Expr.ComesFrom.isComplete (h : t.ComesFrom v) : t.isComplete = true := by
  induction h with
  | constant value => rfl
  | var => rfl
  | negation _ ih => exact ih
  | function _ _ ih => exact ih
  | binary _ _ _ ihl ihr => rw [Expr.isComplete, ihl, ihr, Bool.and_self]

/-- A tree of a vocabulary has a value everywhere. -/
theorem Expr.ComesFrom.exists_eval (h : t.ComesFrom v) (x : Float) : ∃ y, t.eval x = .ok y :=
  exists_eval_iff.2 h.isComplete

/-- A unary operator makes a tree of the vocabulary that it has its rule from. -/
theorem Expr.ComesFrom.unary {op : UnaryOperator} {rule : UnaryRule}
    (hop : op.rule? v = some rule) (h : t.ComesFrom v) :
    (Expr.unary op.name rule t).ComesFrom v := by
  cases op with
  | minus =>
    cases hop
    exact .negation h
  | function name => exact .function hop h

namespace Phrase

variable {c : Phrase}

/-- The tree of a phrase comes from the vocabulary that gives it. -/
theorem comesFrom_tree? (h : c.tree? v = some t) : t.ComesFrom v := by
  induction c generalizing t with
  | number text =>
    obtain ⟨d, -, rfl⟩ := tree?_number.1 h
    exact .constant d.toFloat
  | var name =>
    obtain ⟨rfl, rfl⟩ := tree?_var.1 h
    exact .var
  | unary op operand ih =>
    obtain ⟨rule, u, hop, hu, rfl⟩ := tree?_unary.1 h
    exact (ih hu).unary hop
  | binary symbol left right ihl ihr =>
    obtain ⟨o, l, r, ho, hl, hr, rfl⟩ := tree?_binary.1 h
    exact .binary ho (ihl hl) (ihr hr)
  | group inner ih => exact ih h

/-- The tree of a phrase has a value. -/
theorem exists_eval (h : c.tree? v = some t) (x : Float) : ∃ y, t.eval x = .ok y :=
  (comesFrom_tree? h).exists_eval x

end Phrase

/-! ## Trees of a text -/

theorem comesFrom_of_parse {text : String} (h : v.parse text = .ok t) : t.ComesFrom v := by
  obtain ⟨c, -, htree, -⟩ := exists_phrase_of_parseTokens h
  exact Phrase.comesFrom_tree? htree

/-- A tree has one node for each token of its text that is no parenthesis. -/
theorem size_of_parse (hv : v.Coherent) {text : String} (h : v.parse text = .ok t) :
    t.size = (tokenize text).countP (!·.isParenthesis) := by
  obtain ⟨c, htok, htree, -⟩ := exists_phrase_of_parseTokens h
  rw [← htok, countP_tokens hv htree]

/-- A formula has the value of its tree in the standard vocabulary, or the error that keeps it from
    having a tree there. -/
theorem evaluate_cases {standard : Vocabulary} (h : Vocabulary.standard = .ok standard)
    (text : String) (x : Float) :
    (∃ t y, standard.parse text = .ok t ∧ t.eval x = .ok y ∧ evaluate text x = .ok y) ∨
    ∃ e, standard.parse text = .error e ∧ evaluate text x = .error (.parse e) := by
  cases hparse : standard.parse text with
  | error e =>
    refine .inr ⟨e, rfl, ?_⟩
    rw [evaluate, h]
    simp only [Except.mapError, Except.bind, bind, hparse]
  | ok t =>
    obtain ⟨y, hy⟩ := (comesFrom_of_parse hparse).exists_eval x
    refine .inl ⟨t, y, rfl, hy, ?_⟩
    rw [evaluate, h]
    simp only [Except.mapError, Except.bind, bind, hparse, hy]

/-- Whatever changes made the vocabulary, the tree of a text has its names, symbols and rules and no
    hole, one node for each token that is no parenthesis, and a value everywhere. So the only thing
    that can go wrong with a formula in the standard vocabulary is that it has no tree. -/
theorem parse_origin (history : List Change) :
    let v := Vocabulary.empty.evolve history
    (∀ text t, v.parse text = .ok t →
      t.ComesFrom v ∧ t.isComplete = true ∧
      t.size = (tokenize text).countP (!·.isParenthesis) ∧ ∀ x, ∃ y, t.eval x = .ok y) ∧
    ∃ standard, Vocabulary.standard = .ok standard ∧ ∀ text x,
      (∃ t y, standard.parse text = .ok t ∧ t.eval x = .ok y ∧ evaluate text x = .ok y) ∨
      ∃ e, standard.parse text = .error e ∧ evaluate text x = .error (.parse e) := by
  intro v
  have hv : v.Coherent := Vocabulary.coherent_evolve history
  refine ⟨fun text t ht => ?_, _, Vocabulary.standard_eq, evaluate_cases Vocabulary.standard_eq⟩
  have horigin : t.ComesFrom v := comesFrom_of_parse ht
  exact ⟨horigin, horigin.isComplete, size_of_parse hv ht, horigin.exists_eval⟩

/-- The four nodes of `-(x-2)` are a negation, a difference and their leaves. -/
theorem parse_origin_negatedDifference :
    let v := Vocabulary.empty.evolve preset
    ∃ t, v.parse "-(x-2)" = .ok t ∧ t.ComesFrom v ∧ t.size = 4 ∧ ∃ y, t.eval 1 = .ok y := by
  intro v
  obtain ⟨t, ht⟩ : ∃ t, v.parse "-(x-2)" = .ok t := ⟨_, rfl⟩
  obtain ⟨horigin, -, hsize, heval⟩ := (parse_origin preset).1 "-(x-2)" t ht
  have hcount : (tokenize "-(x-2)").countP (!·.isParenthesis) = 4 := by decide +kernel
  exact ⟨t, ht, horigin, hsize.trans hcount, heval 1⟩

end Formula
