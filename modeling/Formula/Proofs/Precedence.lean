import Formula.Proofs.Lexing
import Formula.Proofs.Parentheses
import Formula.Proofs.Unfinished

/-!
# Formulas are grouped by levels

The tree of a formula is that of its one ordered phrase. A minus sign or a function waits without
completing what waits before it, so the levels that wait do not ascend; that the phrase is ordered
nevertheless is what both directions have to show.

* `foldlM_tokens`: reading an ordered phrase comes, once it is completed, to its tree.
* `parseTokens_eq_ok_iff`: tokens have the tree of their ordered phrase, and none without one.
* `Phrase.eq_of_ordered`: tokens have at most one ordered phrase.
* `parse_eq_ok_iff`: the same of texts and of all vocabularies that can come about.
-/

namespace Formula

namespace Reading

variable {v : Vocabulary}

/-! ## An ordered phrase is read as its tree -/

/-- Where the levels allow an operator to follow a phrase that has been read, it finds that phrase
    as one value, leaves what waits before it, and waits itself. -/
theorem step_binary_of_complete (hv : v.Coherent) {c : Phrase} {r : Reading}
    {waiting : List Pending} {below : List Expr} {t : Expr} (hr : r.expected = .operator)
    (hcomp : ∀ binds : Level → Bool, (∀ l ∈ c.trailing v, binds l = true) →
      r.complete binds = complete ⟨waiting, t :: below, .operator⟩ binds)
    {symbol : Char} {o : Operator} (ho : v.operator? symbol = some o)
    (htrail : ∀ l ∈ c.trailing v, o.level ≤ l) (hd : Pending.Defers o.level waiting) :
    step v r (.symbol symbol)
      = .ok ⟨.operation (.binary symbol o.rule) o.level :: waiting, t :: below, .value⟩ := by
  have hleft : r.complete (fun l => decide (o.level ≤ l))
      = .ok ⟨waiting, t :: below, .operator⟩ := by
    rw [hcomp _ fun l h => by simpa using htrail l h]
    exact complete_of_defers hd
  rw [step_binary hv hr ho, onBinary, hleft]
  rfl

/-- Reading an ordered phrase leaves the operators on its right edge waiting. Once they are
    completed, the reading is as if the tree of the phrase had been read as a value of its own. -/
theorem foldlM_tokens (hv : v.Coherent) (c : Phrase) :
    ∀ (waiting : List Pending) (below : List Expr) {t : Expr}, c.tree? v = some t →
      c.Ordered v → (∀ l ∈ c.leading v, Pending.Defers l waiting) →
      ∃ r, c.tokens.foldlM (step v) ⟨waiting, below, .value⟩ = .ok r ∧ r.expected = .operator ∧
        ∀ binds : Level → Bool, (∀ l ∈ c.trailing v, binds l = true) →
          r.complete binds = complete ⟨waiting, t :: below, .operator⟩ binds := by
  induction c with
  | number text =>
    intro waiting below t ht _ _
    obtain ⟨d, hd, rfl⟩ := Phrase.tree?_number.1 ht
    refine ⟨_, ?_, rfl, fun binds _ => rfl⟩
    rw [Phrase.tokens, foldlM_of_step (step_number hd)]
    rfl
  | var name =>
    intro waiting below t ht _ _
    obtain ⟨hn, rfl⟩ := Phrase.tree?_var.1 ht
    refine ⟨_, ?_, rfl, fun binds _ => rfl⟩
    rw [Phrase.tokens, foldlM_of_step (step_var hn)]
    rfl
  | unary op operand ih =>
    intro waiting below t ht ho _
    obtain ⟨rule, u, hr, hu, rfl⟩ := Phrase.tree?_unary.1 ht
    obtain ⟨r, hrun, hexp, hcomp⟩ := ih
      (.operation (.unary op.name rule) op.level :: waiting) below hu ho.1 ho.2
    refine ⟨r, ?_, hexp, fun binds hb => ?_⟩
    · rw [Phrase.tokens, foldlM_of_step (step_unary hv hr), hrun]
    · rw [hcomp binds fun l hl => hb l (List.mem_cons_of_mem _ hl),
        complete_unary (hb op.level List.mem_cons_self)]
  | binary symbol left right ihl ihr =>
    intro waiting below t ht ho hd
    obtain ⟨o, tl, tr, hop, hl, hr, rfl⟩ := Phrase.tree?_binary.1 ht
    obtain ⟨hol, hor, htrail, hlead⟩ := (Phrase.ordered_binary hop).1 ho
    rw [Phrase.leading_binary hop, List.forall_mem_cons] at hd
    obtain ⟨r, hrun, hexp, hcomp⟩ := ihl waiting below hl hol hd.2
    have hstep := step_binary_of_complete hv hexp hcomp hop htrail hd.1
    obtain ⟨s, hrun', hexp', hcomp'⟩ := ihr
      (.operation (.binary symbol o.rule) o.level :: waiting) (tl :: below) hr hor hlead
    refine ⟨s, ?_, hexp', fun binds hb => ?_⟩
    · rw [Phrase.tokens, foldlM_of_run hrun, foldlM_of_step hstep, hrun']
    · rw [Phrase.trailing_binary hop, List.forall_mem_cons] at hb
      rw [hcomp' binds hb.2, complete_binary hb.1]
  | group inner ih =>
    intro waiting below t ht ho _
    obtain ⟨r, hrun, hexp, hcomp⟩ := ih (.group :: waiting) below ht ho fun _ _ => trivial
    refine ⟨⟨waiting, t :: below, .operator⟩, ?_, rfl, fun binds _ => rfl⟩
    have hclose : step v r (.symbol ')') = .ok ⟨waiting, t :: below, .operator⟩ := by
      rw [step_close hexp, closeGroup, hcomp _ fun _ _ => rfl]
      rfl
    rw [Phrase.tokens, foldlM_of_step step_open, foldlM_of_run hrun, foldlM_of_step hclose]
    rfl

/-- A reading that is completed as one value has its tree. -/
theorem finish_of_complete {r : Reading} {t : Expr}
    (h : r.complete (fun _ => true) = complete ⟨[], [t], .operator⟩ fun _ => true) :
    r.finish = .ok t := by
  rw [finish, h]
  rfl

end Reading

variable {v : Vocabulary}

/-! ## The tree of an ordered phrase -/

/-- The tokens of an ordered phrase have its tree. -/
theorem parseTokens_tokens (hv : v.Coherent) {c : Phrase} {t : Expr} (ht : c.tree? v = some t)
    (ho : c.Ordered v) : v.parseTokens c.tokens = .ok t := by
  obtain ⟨r, hrun, -, hcomp⟩ := Reading.foldlM_tokens hv c [] [] ht ho fun _ _ => trivial
  have hfinish := Reading.finish_of_complete (hcomp (fun _ => true) fun _ _ => rfl)
  rw [Vocabulary.parseTokens, if_neg c.tokens_ne_nil, Reading.ofTokens, Reading.start, hrun]
  exact hfinish

/-- Tokens have the tree of their ordered phrase, and none without one. -/
theorem parseTokens_eq_ok_iff (hv : v.Coherent) {tokens : List Token} {t : Expr} :
    v.parseTokens tokens = .ok t ↔
      ∃ c : Phrase, c.tokens = tokens ∧ c.tree? v = some t ∧ c.Ordered v := by
  constructor
  · exact exists_phrase_of_parseTokens
  · rintro ⟨c, rfl, ht, ho⟩
    exact parseTokens_tokens hv ht ho

/-- Tokens have at most one ordered phrase. -/
theorem Phrase.eq_of_ordered (hv : v.Coherent) {c c' : Phrase} {t t' : Expr}
    (ht : c.tree? v = some t) (ht' : c'.tree? v = some t') (ho : c.Ordered v) (ho' : c'.Ordered v)
    (h : c.tokens = c'.tokens) : c = c' := by
  have hparse := parseTokens_tokens hv ht ho
  rw [h, parseTokens_tokens hv ht' ho', Except.ok.injEq] at hparse
  subst hparse
  exact Phrase.eq_of_tokens hv ht ht' h

/-! ## The phrase of a text -/

/-- A phrase that is admitted has a tree, if its numbers are cut from a text. -/
theorem Phrase.exists_tree_of_admitted {c : Phrase} (h : c.Admitted v)
    (hlex : ∀ t ∈ c.tokens, t.IsLexeme) : ∃ t, c.tree? v = some t := by
  induction c with
  | number text =>
    have hsome := (isSome_ofNumeral?_of_isLexeme (hlex _ List.mem_cons_self)).2 h
    obtain ⟨d, hd⟩ := Option.isSome_iff_exists.1 hsome
    exact ⟨_, tree?_number.2 ⟨d, hd, rfl⟩⟩
  | var name => exact ⟨_, tree?_var.2 ⟨h, rfl⟩⟩
  | unary op operand ih =>
    obtain ⟨rule, hr⟩ := Option.isSome_iff_exists.1 h.1
    obtain ⟨u, hu⟩ := ih h.2 fun t ht => hlex t (List.mem_cons_of_mem _ ht)
    exact ⟨_, tree?_unary.2 ⟨rule, u, hr, hu, rfl⟩⟩
  | binary symbol left right ihl ihr =>
    obtain ⟨hoperator, hleft, hright⟩ := h
    rw [Vocabulary.hasOperator_eq_isSome] at hoperator
    obtain ⟨o, ho⟩ := Option.isSome_iff_exists.1 hoperator
    obtain ⟨l, hl⟩ := ihl hleft fun t ht => hlex t (List.mem_append_left _ ht)
    obtain ⟨r, hr⟩ := ihr hright fun t ht =>
      hlex t (List.mem_append_right _ (List.mem_cons_of_mem _ ht))
    exact ⟨_, tree?_binary.2 ⟨o, l, r, ho, hl, hr, rfl⟩⟩
  | group inner ih =>
    exact ih h fun t ht => hlex t (List.mem_cons_of_mem _ (List.mem_append_left _ ht))

/-- The ordered phrase of a text has a tree. -/
theorem Phrase.Parses.exists_tree {c : Phrase} {text : String}
    (h : c.Parses v (tokenize text)) : ∃ t, c.tree? v = some t := by
  refine exists_tree_of_admitted h.admitted ?_
  rw [h.reads]
  exact isLexeme_of_mem_tokenize

/-- Whatever changes made the vocabulary, a text has a tree exactly if it can be grouped by levels,
    and then in one way, whose tree it is. -/
theorem parse_eq_ok_iff (history : List Change) (text : String) :
    let v := Vocabulary.empty.evolve history
    (∀ t, v.parse text = .ok t ↔
      ∃ c : Phrase, c.Parses v (tokenize text) ∧ c.tree? v = some t) ∧
    (∀ c : Phrase, c.Parses v (tokenize text) → ∃ t, c.tree? v = some t ∧ v.parse text = .ok t) ∧
    ∀ c c' : Phrase, c.Parses v (tokenize text) → c'.Parses v (tokenize text) → c = c' := by
  intro v
  have hv : v.Coherent := Vocabulary.coherent_evolve history
  have hiff : ∀ t, v.parse text = .ok t ↔
      ∃ c : Phrase, c.Parses v (tokenize text) ∧ c.tree? v = some t := by
    intro t
    rw [Vocabulary.parse, parseTokens_eq_ok_iff hv]
    constructor
    · rintro ⟨c, htok, ht, ho⟩
      exact ⟨c, ⟨htok, Phrase.admitted_of_tree? ht, ho⟩, ht⟩
    · rintro ⟨c, hc, ht⟩
      exact ⟨c, hc.reads, ht, hc.ordered⟩
  refine ⟨hiff, fun c hc => ?_, fun c c' hc hc' => ?_⟩
  · obtain ⟨t, ht⟩ := hc.exists_tree
    exact ⟨t, ht, (hiff t).2 ⟨c, hc, ht⟩⟩
  · obtain ⟨t, ht⟩ := hc.exists_tree
    obtain ⟨t', ht'⟩ := hc'.exists_tree
    exact Phrase.eq_of_ordered hv ht ht' hc.ordered hc'.ordered (hc.reads.trans hc'.reads.symm)

/-- In `-x^x+x` the minus sign takes the power, and the sum takes the negation. -/
theorem exists_parses_negatedPower :
    let v := Vocabulary.empty.evolve preset
    let c := Phrase.binary '+' (.unary .minus (.binary '^' (.var "x") (.var "x"))) (.var "x")
    c.Parses v (tokenize "-x^x+x") ∧ ∃ t, c.tree? v = some t ∧ v.parse "-x^x+x" = .ok t := by
  intro v c
  have hsum : v.level? '+' = some .addition := rfl
  have hpower : v.level? '^' = some .exponentiation := rfl
  have hc : c.Parses v (tokenize "-x^x+x") := by
    refine ⟨by decide +kernel, ⟨rfl, ⟨rfl, rfl, rfl, rfl⟩, rfl⟩, ?_⟩
    simp only [c, Phrase.Ordered, Phrase.leading, Phrase.trailing, hsum, hpower]
    simp [UnaryOperator.level, Level.le_def, Level.lt_def, Level.rank]
  exact ⟨hc, (parse_eq_ok_iff preset "-x^x+x").2.1 c hc⟩

end Formula
