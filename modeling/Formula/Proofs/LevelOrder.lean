import Formula.Proofs.Grammar
import Formula.Proofs.LeftToRight
import Formula.Proofs.Verdict

/-!
# What levels decide

Two vocabularies with the same names and symbols refuse the same texts for the same reasons, though
at the same token the one may have completed what the other still keeps waiting. What they accept
they read as the same leaves and operators, and only the grouping is left to levels. There, too, a
level counts for nothing by itself: where levels compare alike, the grouping is the same.

* `parseTokens_error_iff`: the same errors.
* `Expr.Alike`: trees of one shape, with the same names, symbols and constants.
* `Vocabulary.LevelsAgree`: the levels of two vocabularies compare alike.
* `Phrase.ordered_iff`: then the same phrases are ordered.
* `parse_levelOrder`: all of this for the vocabularies that can come about.
-/

namespace Formula

variable {v w : Vocabulary}

/-! ## The same names and symbols -/

section Grammar

variable (h : v.grammar = w.grammar)
include h

theorem Vocabulary.variableName_of_grammar : v.variableName = w.variableName :=
  congrArg Grammar.variableName h

theorem Vocabulary.hasFunction_of_grammar : v.hasFunction = w.hasFunction :=
  congrArg Grammar.isFunction h

theorem Vocabulary.hasOperator_of_grammar : v.hasOperator = w.hasOperator :=
  congrArg Grammar.isOperator h

theorem UnaryOperator.exists_rule_of_grammar {op : UnaryOperator} {rule : UnaryRule}
    (hop : op.rule? v = some rule) : ∃ rule', op.rule? w = some rule' := by
  cases op with
  | minus => exact ⟨_, rfl⟩
  | function name =>
    have hfunction : w.hasFunction name = true := by
      rw [← Vocabulary.hasFunction_of_grammar h]
      exact Vocabulary.hasFunction_of_function? hop
    rw [Vocabulary.hasFunction_eq_isSome] at hfunction
    exact Option.isSome_iff_exists.1 hfunction

theorem Vocabulary.exists_operator_of_grammar {symbol : Char} {o : Operator}
    (ho : v.operator? symbol = some o) : ∃ o', w.operator? symbol = some o' := by
  have hoperator : w.hasOperator symbol = true := by
    rw [← hasOperator_of_grammar h]
    exact hasOperator_of_operator? ho
  rw [hasOperator_eq_isSome] at hoperator
  exact Option.isSome_iff_exists.1 hoperator

theorem Stance.ofTokens_of_grammar (tokens : List Token) :
    Stance.ofTokens v tokens = Stance.ofTokens w tokens := by
  have hstep : Stance.step v = Stance.step w := by
    funext s token
    obtain ⟨expected, depth⟩ := s
    cases expected <;> cases token <;> simp only [step, Vocabulary.variableName_of_grammar h,
      Vocabulary.hasFunction_of_grammar h, Vocabulary.hasOperator_of_grammar h]
  rw [ofTokens, ofTokens, hstep]

end Grammar

/-! ## The same errors -/

/-- What is expected after tokens can be told from their stance. -/
theorem exists_ofTokens_expected_iff {tokens : List Token} {expected : Expectation} :
    (∃ r, Reading.ofTokens v tokens = .ok r ∧ r.expected = expected) ↔
      ∃ depth, Stance.ofTokens v tokens = .ok ⟨expected, depth⟩ := by
  rw [stance_ofTokens]
  cases Reading.ofTokens v tokens with
  | error e => exact iff_of_false nofun nofun
  | ok r => simp [Except.map, Reading.stance]

theorem standsBetween_of_grammar (h : v.grammar = w.grammar) :
    StandsBetween v = StandsBetween w := by
  funext before symbol
  rw [StandsBetween, StandsBetween, exists_ofTokens_expected_iff, exists_ofTokens_expected_iff,
    Stance.ofTokens_of_grammar h, Vocabulary.hasOperator_of_grammar h]

theorem reachesOpen_of_grammar (h : v.grammar = w.grammar) : ReachesOpen v = ReachesOpen w := by
  unfold ReachesOpen OperatorBeforeOpen
  rw [standsBetween_of_grammar h]

/-- The error at the end of tokens that are all taken. -/
theorem Reads.finish_eq_error_iff (hv : v.Coherent) {tokens : List Token} {r : Reading}
    (h : Reads v tokens r) (hne : tokens ≠ []) {e : ParseError} :
    r.finish = .error e ↔
      (r.expected = .operator ∧ ¬ AllClosed tokens ∧ e = .unmatchedOpen) ∨
      (r.expected = .value ∧ ReachesOpen v tokens ∧ e = .unmatchedOpen) ∨
      (r.expected = .value ∧ ¬ ReachesOpen v tokens ∧ e = .operandsExhausted) := by
  rcases h.finish_cases hv hne with ⟨hexp, ⟨hall, t, hend⟩ | ⟨hnot, hend⟩⟩ |
    ⟨hexp, ⟨hreaches, hend⟩ | ⟨hnot, hend⟩⟩
  · simp [hend, hexp, hall]
  · simp [hend, hexp, hnot, eq_comm]
  · simp [hend, hexp, hreaches, eq_comm]
  · simp [hend, hexp, hnot, eq_comm]

/-- With the same names and symbols tokens are refused for the same reasons. -/
theorem parseTokens_error_iff (hv : v.Coherent) (hw : w.Coherent) (h : v.grammar = w.grammar)
    {tokens : List Token} {e : ParseError} :
    v.parseTokens tokens = .error e ↔ w.parseTokens tokens = .error e := by
  by_cases hne : tokens = []
  · subst hne
    exact Iff.rfl
  have hstance : (Reading.ofTokens v tokens).map Reading.stance
      = (Reading.ofTokens w tokens).map Reading.stance := by
    rw [← stance_ofTokens, ← stance_ofTokens, Stance.ofTokens_of_grammar h]
  cases hr : Reading.ofTokens v tokens with
  | error first =>
    cases hs : Reading.ofTokens w tokens with
    | error second =>
      rw [hr, hs] at hstance
      cases hstance
      rw [Vocabulary.parseTokens, Vocabulary.parseTokens, if_neg hne, if_neg hne, hr, hs]
    | ok s =>
      rw [hr, hs] at hstance
      cases hstance
  | ok r =>
    cases hs : Reading.ofTokens w tokens with
    | error second =>
      rw [hr, hs] at hstance
      cases hstance
    | ok s =>
      have hexp : r.expected = s.expected := by
        rw [hr, hs] at hstance
        exact congrArg Stance.expected (Except.ok.inj hstance)
      rw [parseTokens_of_ofTokens hne hr, parseTokens_of_ofTokens hne hs,
        (reads_of_ofTokens hr).finish_eq_error_iff hv hne,
        (reads_of_ofTokens hs).finish_eq_error_iff hw hne, hexp, reachesOpen_of_grammar h]

/-! ## Trees of one shape -/

/-- Trees of one shape, with the same names, symbols and constants, whatever their rules are. -/
inductive Expr.Alike : Expr → Expr → Prop
  | constant (value : Float) : Alike (.constant value) (.constant value)
  | var (name : String) : Alike (.var name) (.var name)
  | unary {name : String} {rule rule' : UnaryRule} {operand operand' : Expr} :
      Alike operand operand' → Alike (.unary name rule operand) (.unary name rule' operand')
  | binary {symbol : Char} {rule rule' : BinaryRule} {left left' right right' : Expr} :
      Alike left left' → Alike right right' →
      Alike (.binary symbol rule left right) (.binary symbol rule' left' right')
  | hole : Alike .hole .hole

/-- With the same names and symbols a phrase has trees that are alike. -/
theorem Phrase.exists_tree_of_grammar (h : v.grammar = w.grammar) {c : Phrase} {t : Expr}
    (hc : c.tree? v = some t) : ∃ u, c.tree? w = some u ∧ t.Alike u := by
  induction c generalizing t with
  | number text =>
    obtain ⟨d, hd, rfl⟩ := tree?_number.1 hc
    exact ⟨_, tree?_number.2 ⟨d, hd, rfl⟩, .constant d.toFloat⟩
  | var name =>
    obtain ⟨rfl, rfl⟩ := tree?_var.1 hc
    exact ⟨_, tree?_var.2 ⟨Vocabulary.variableName_of_grammar h, rfl⟩, .var v.variableName⟩
  | unary op operand ih =>
    obtain ⟨rule, t', hop, ht', rfl⟩ := tree?_unary.1 hc
    obtain ⟨u', hu', halike⟩ := ih ht'
    obtain ⟨rule', hop'⟩ := UnaryOperator.exists_rule_of_grammar h hop
    exact ⟨_, tree?_unary.2 ⟨rule', u', hop', hu', rfl⟩, .unary halike⟩
  | binary symbol left right ihl ihr =>
    obtain ⟨o, l, r, ho, hl, hr, rfl⟩ := tree?_binary.1 hc
    obtain ⟨l', hl', hleft⟩ := ihl hl
    obtain ⟨r', hr', hright⟩ := ihr hr
    obtain ⟨o', ho'⟩ := Vocabulary.exists_operator_of_grammar h ho
    exact ⟨_, tree?_binary.2 ⟨o', l', r', ho', hl', hr', rfl⟩, .binary hleft hright⟩
  | group inner ih => exact ih hc

/-! ## Levels that compare alike -/

/-- These are the levels of one operator in the two vocabularies. -/
def OneOperator (v w : Vocabulary) (l l' : Level) : Prop :=
  ∃ symbol, v.level? symbol = some l ∧ w.level? symbol = some l'

theorem oneOperator_of_operator? {symbol : Char} {o o' : Operator}
    (h : v.operator? symbol = some o) (h' : w.operator? symbol = some o') :
    OneOperator v w o.level o'.level :=
  ⟨symbol, Vocabulary.level?_of_operator? h, Vocabulary.level?_of_operator? h'⟩

/-- Operators compare alike with each other, with the minus sign before an operand, and with
    functions. -/
structure Vocabulary.LevelsAgree (v w : Vocabulary) : Prop where
  operators {a a' b b' : Level} : OneOperator v w a a' → OneOperator v w b b' →
    compare a b = compare a' b'
  negation {a a' : Level} : OneOperator v w a a' →
    compare a .multiplication = compare a' .multiplication
  functions {a a' : Level} : OneOperator v w a a' →
    compare a .application = compare a' .application

theorem Level.lt_iff_of_compare {a a' b b' : Level} (h : compare a b = compare a' b') :
    a < b ↔ a' < b' := by
  have hrank : compare a.rank b.rank = compare a'.rank b'.rank := h
  rw [lt_def, lt_def, ← Nat.compare_eq_lt, hrank, Nat.compare_eq_lt]

theorem Level.gt_iff_of_compare {a a' b b' : Level} (h : compare a b = compare a' b') :
    b < a ↔ b' < a' := by
  have hrank : compare a.rank b.rank = compare a'.rank b'.rank := h
  rw [lt_def, lt_def, ← Nat.compare_eq_gt, hrank, Nat.compare_eq_gt]

theorem Level.le_iff_of_compare {a a' b b' : Level} (h : compare a b = compare a' b') :
    a ≤ b ↔ a' ≤ b' := by
  rw [← not_iff_not, not_le, not_le, gt_iff_of_compare h]

/-- An operator compares alike with every operator before an operand. -/
theorem Vocabulary.LevelsAgree.unary (h : v.LevelsAgree w) {l l' : Level}
    (hl : OneOperator v w l l') (op : UnaryOperator) :
    compare l op.level = compare l' op.level := by
  cases op with
  | minus => exact h.negation hl
  | function name => exact h.functions hl

namespace Phrase

variable {c : Phrase} {t u : Expr}

/-- On the way down to the left a phrase meets the same operators in both vocabularies. -/
theorem forall_leading_iff (ht : c.tree? v = some t) (hu : c.tree? w = some u)
    {P Q : Level → Prop} (h : ∀ l l', OneOperator v w l l' → (P l ↔ Q l')) :
    (∀ l ∈ c.leading v, P l) ↔ ∀ l ∈ c.leading w, Q l := by
  induction c generalizing t u with
  | binary symbol left right ihl _ =>
    obtain ⟨o, l, r, ho, hl, -, -⟩ := tree?_binary.1 ht
    obtain ⟨o', l', r', ho', hl', -, -⟩ := tree?_binary.1 hu
    have hsame : OneOperator v w o.level o'.level := oneOperator_of_operator? ho ho'
    rw [leading_binary ho, leading_binary ho', List.forall_mem_cons, List.forall_mem_cons]
    exact and_congr (h _ _ hsame) (ihl hl hl')
  | _ => simp [leading]

/-- On the way down to the right it meets the same operators, and those before an operand. -/
theorem forall_trailing_iff (ht : c.tree? v = some t) (hu : c.tree? w = some u)
    {P Q : Level → Prop} (h : ∀ l l', OneOperator v w l l' → (P l ↔ Q l'))
    (hunary : ∀ op : UnaryOperator, P op.level ↔ Q op.level) :
    (∀ l ∈ c.trailing v, P l) ↔ ∀ l ∈ c.trailing w, Q l := by
  induction c generalizing t u with
  | unary op operand ih =>
    obtain ⟨-, t', -, ht', -⟩ := tree?_unary.1 ht
    obtain ⟨-, u', -, hu', -⟩ := tree?_unary.1 hu
    rw [trailing, trailing, List.forall_mem_cons, List.forall_mem_cons]
    exact and_congr (hunary op) (ih ht' hu')
  | binary symbol left right _ ihr =>
    obtain ⟨o, l, r, ho, -, hr, -⟩ := tree?_binary.1 ht
    obtain ⟨o', l', r', ho', -, hr', -⟩ := tree?_binary.1 hu
    have hsame : OneOperator v w o.level o'.level := oneOperator_of_operator? ho ho'
    rw [trailing_binary ho, trailing_binary ho', List.forall_mem_cons, List.forall_mem_cons]
    exact and_congr (h _ _ hsame) (ihr hr hr')
  | _ => simp [trailing]

/-- Where levels compare alike the same phrases are ordered. -/
theorem ordered_iff (h : v.LevelsAgree w) (ht : c.tree? v = some t) (hu : c.tree? w = some u) :
    c.Ordered v ↔ c.Ordered w := by
  induction c generalizing t u with
  | unary op operand ih =>
    obtain ⟨-, t', -, ht', -⟩ := tree?_unary.1 ht
    obtain ⟨-, u', -, hu', -⟩ := tree?_unary.1 hu
    exact and_congr (ih ht' hu')
      (forall_leading_iff ht' hu' fun l l' hl => Level.gt_iff_of_compare (h.unary hl op))
  | binary symbol left right ihl ihr =>
    obtain ⟨o, l, r, ho, hl, hr, -⟩ := tree?_binary.1 ht
    obtain ⟨o', l', r', ho', hl', hr', -⟩ := tree?_binary.1 hu
    have hsame : OneOperator v w o.level o'.level := oneOperator_of_operator? ho ho'
    have hleft : (∀ l ∈ left.trailing v, o.level ≤ l) ↔ ∀ l ∈ left.trailing w, o'.level ≤ l :=
      forall_trailing_iff hl hl'
        (fun _ _ hl => Level.le_iff_of_compare (h.operators hsame hl))
        fun op => Level.le_iff_of_compare (h.unary hsame op)
    have hright : (∀ l ∈ right.leading v, o.level < l) ↔ ∀ l ∈ right.leading w, o'.level < l :=
      forall_leading_iff hr hr' fun _ _ hl => Level.lt_iff_of_compare (h.operators hsame hl)
    rw [ordered_binary ho, ordered_binary ho', ihl hl hl', ihr hr hr', hleft, hright]
  | group inner ih => exact ih ht hu
  | _ => exact Iff.rfl

end Phrase

/-- Where names and symbols are the same and levels compare alike, tokens have trees that are
    alike. -/
theorem alike_of_parseTokens (hw : w.Coherent) (hgrammar : v.grammar = w.grammar)
    (hlevels : v.LevelsAgree w) {tokens : List Token} {t u : Expr}
    (ht : v.parseTokens tokens = .ok t) (hu : w.parseTokens tokens = .ok u) : t.Alike u := by
  obtain ⟨c, htok, htree, hord⟩ := exists_phrase_of_parseTokens ht
  obtain ⟨u', htree', halike⟩ := Phrase.exists_tree_of_grammar hgrammar htree
  have hparse := parseTokens_tokens hw htree' ((Phrase.ordered_iff hlevels htree htree').1 hord)
  rw [htok, hu, Except.ok.injEq] at hparse
  rwa [hparse]

/-- Vocabularies with the same names and symbols, whatever changes made them and whatever their
    levels and rules are, refuse a text for the same reason or read it as the same leaves and
    operators; and if their levels compare alike, with the same grouping as well. -/
theorem parse_levelOrder (history history' : List Change) :
    let v := Vocabulary.empty.evolve history
    let w := Vocabulary.empty.evolve history'
    v.variableName = w.variableName → (∀ name, v.hasFunction name = w.hasFunction name) →
    (∀ symbol, v.hasOperator symbol = w.hasOperator symbol) → ∀ text,
      (∃ e, v.parse text = .error e ∧ w.parse text = .error e) ∨
      ∃ t u, v.parse text = .ok t ∧ w.parse text = .ok u ∧ t.items = u.items ∧
        (v.LevelsAgree w → t.Alike u) := by
  intro v w hname hfunction hoperator text
  have hv : v.Coherent := Vocabulary.coherent_evolve history
  have hw : w.Coherent := Vocabulary.coherent_evolve history'
  have hgrammar : v.grammar = w.grammar :=
    Grammar.ext hname (funext hfunction) (funext hoperator)
  have herror : ∀ e, v.parse text = .error e ↔ w.parse text = .error e := fun _ =>
    parseTokens_error_iff hv hw hgrammar
  cases ht : v.parse text with
  | error e => exact .inl ⟨e, rfl, (herror e).1 ht⟩
  | ok t =>
    cases hu : w.parse text with
    | error e =>
      rw [(herror e).2 hu] at ht
      cases ht
    | ok u =>
      refine .inr ⟨t, u, rfl, rfl, ?_, fun hlevels => ?_⟩
      · rw [items_of_parse hv ht, items_of_parse hw hu, hname]
      · exact alike_of_parseTokens hw hgrammar hlevels ht hu

/-- Sums and powers at two other levels, below and above the negation as before, and with other
    rules. -/
theorem parse_levelOrder_power :
    let history : List Change := [.addOperator '+' ⟨.addition, (· + ·)⟩,
      .addOperator '^' ⟨.exponentiation, Float.pow⟩]
    let history' : List Change := [.addOperator '+' ⟨.subAdd, fun left _ => left⟩,
      .addOperator '^' ⟨.mulExp, fun _ right => right⟩]
    let v := Vocabulary.empty.evolve history
    let w := Vocabulary.empty.evolve history'
    v.variableName = w.variableName ∧ (∀ name, v.hasFunction name = w.hasFunction name) ∧
      (∀ symbol, v.hasOperator symbol = w.hasOperator symbol) ∧ v.LevelsAgree w ∧
      ∃ t u, v.parse "-x^x+x" = .ok t ∧ w.parse "-x^x+x" = .ok u ∧ t.items = u.items ∧
        t.Alike u := by
  intro history history' v w
  have hlevel : ∀ {a a' : Level}, OneOperator v w a a' →
      (a = .addition ∧ a' = .subAdd) ∨ (a = .exponentiation ∧ a' = .mulExp) := by
    rintro a a' ⟨symbol, ha, ha'⟩
    by_cases hsum : symbol = '+'
    · subst hsum
      exact .inl ⟨(Option.some.inj ha).symm, (Option.some.inj ha').symm⟩
    by_cases hpower : symbol = '^'
    · subst hpower
      exact .inr ⟨(Option.some.inj ha).symm, (Option.some.inj ha').symm⟩
    have hoperators : v.operators = ((∅ : Std.TreeMap Char Operator).insert
        '+' ⟨.addition, (· + ·)⟩).insert '^' ⟨.exponentiation, Float.pow⟩ := rfl
    rw [Vocabulary.level?, Vocabulary.operator?, hoperators] at ha
    simp [Ne.symm hsum, Ne.symm hpower] at ha
  have hlevels : v.LevelsAgree w := by
    refine ⟨fun ha hb => ?_, fun ha => ?_, fun ha => ?_⟩
    · rcases hlevel ha with ⟨rfl, rfl⟩ | ⟨rfl, rfl⟩ <;>
        rcases hlevel hb with ⟨rfl, rfl⟩ | ⟨rfl, rfl⟩ <;> rfl
    · rcases hlevel ha with ⟨rfl, rfl⟩ | ⟨rfl, rfl⟩ <;> rfl
    · rcases hlevel ha with ⟨rfl, rfl⟩ | ⟨rfl, rfl⟩ <;> rfl
  have hoperator : ∀ symbol, v.hasOperator symbol = w.hasOperator symbol := fun _ => rfl
  refine ⟨rfl, fun _ => rfl, hoperator, hlevels, ?_⟩
  rcases parse_levelOrder history history' rfl (fun _ => rfl) hoperator "-x^x+x" with
    ⟨e, he, -⟩ | ⟨t, u, ht, hu, hitems, halike⟩
  · cases he
  · exact ⟨t, u, ht, hu, hitems, halike hlevels⟩

end Formula
