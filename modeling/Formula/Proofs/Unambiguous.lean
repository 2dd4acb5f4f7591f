import Formula.Proofs.RoundTrip

/-!
# Printed trees are told apart

The tokens of a printed tree show at once which node is at its root: a number, the variable, an
operator before an operand or an open parenthesis. So they also show where the tree ends, whatever
follows, and no two trees are printed as the same text. This holds of irregular trees as well, which
the text does not give back when it is read.

* `Printed.eq_of_append`: no printed tree begins like another one.
* `Printed.render_injective`: printed trees with the same text are the same.
* `eq_of_render_eq`: the same of what is read, in all vocabularies that can come about.
-/

namespace Formula

variable {v : Vocabulary} {t u : Expr} {c d : Phrase}

/-! ## The root of a tree -/

namespace UnaryOperator

theorem token_ne_number (op : UnaryOperator) (text : String) : op.token ≠ .number text := by
  cases op <;> simp [token]

theorem token_ne_opening (op : UnaryOperator) : op.token ≠ .symbol '(' := by
  cases op <;> simp [token]

end UnaryOperator

/-- A vocabulary has one rule for each operator before an operand. -/
theorem UnaryOperator.rule_unique {op op' : UnaryOperator} {rule rule' : UnaryRule}
    (h : op.rule? v = some rule) (h' : op'.rule? v = some rule') (ht : op.token = op'.token) :
    op = op' ∧ rule = rule' := by
  obtain rfl := token_injective ht
  rw [h, Option.some.injEq] at h'
  exact ⟨rfl, h'⟩

/-! ## The end of a tree -/

/-- What begins with the tokens of a printed tree begins with those of no other, and so shows where
    the tree ends. -/
theorem Printed.eq_of_append (hv : v.Coherent) (ht : Printed v t c) :
    ∀ {u : Expr} {d : Phrase} {rest rest' : List Token}, Printed v u d →
      c.tokens ++ rest = d.tokens ++ rest' → t = u ∧ rest = rest' := by
  induction ht with
  | constant hfinite hsign =>
    intro u d rest rest' hu h
    cases hu with
    | constant hfinite' hsign' =>
      simp only [Phrase.tokens, List.singleton_append, List.cons.injEq, Token.number.injEq] at h
      obtain ⟨hwrite, rfl⟩ := h
      rw [Number.write_injective hfinite hsign hfinite' hsign' hwrite]
      exact ⟨rfl, rfl⟩
    | var => simp [Phrase.tokens] at h
    | @unary op =>
      exact absurd (List.cons.inj h).1.symm (op.token_ne_number _)
    | binary => simp [Phrase.tokens] at h
  | var =>
    intro u d rest rest' hu h
    cases hu with
    | constant => simp [Phrase.tokens] at h
    | var => simpa [Phrase.tokens] using h
    | unary hop =>
      exact absurd (List.cons.inj h).1.symm (UnaryOperator.token_ne hv hop)
    | binary => simp [Phrase.tokens] at h
  | @unary op rule operand c hop _ ih =>
    intro u d rest rest' hu h
    cases hu with
    | constant => exact absurd (List.cons.inj h).1 (op.token_ne_number _)
    | var => exact absurd (List.cons.inj h).1 (UnaryOperator.token_ne hv hop)
    | unary hop' hoperand =>
      simp only [Phrase.tokens, List.cons_append, List.append_assoc, List.cons.injEq, true_and] at h
      obtain ⟨rfl, rfl⟩ := UnaryOperator.rule_unique hop hop' h.1
      obtain ⟨rfl, hrest⟩ := ih hoperand h.2
      exact ⟨rfl, (List.cons.inj hrest).2⟩
    | binary => exact absurd (List.cons.inj h).1 op.token_ne_opening
  | @binary symbol o left right l r ho _ _ ihl ihr =>
    intro u d rest rest' hu h
    cases hu with
    | constant => simp [Phrase.tokens] at h
    | var => simp [Phrase.tokens] at h
    | @unary op => exact absurd (List.cons.inj h).1.symm op.token_ne_opening
    | binary ho' hleft hright =>
      simp only [Phrase.tokens, List.cons_append, List.append_assoc, List.cons.injEq, true_and] at h
      -- the left operands end at the same token, and so the operators are the same
      obtain ⟨rfl, hsymbol⟩ := ihl hleft h
      rw [List.cons.injEq, Token.symbol.injEq] at hsymbol
      obtain ⟨rfl, hright'⟩ := hsymbol
      obtain ⟨rfl, hrest⟩ := ihr hright hright'
      rw [ho, Option.some.injEq] at ho'
      rw [ho']
      exact ⟨rfl, (List.cons.inj hrest).2⟩

/-- Printed trees with the same text are the same. -/
theorem Printed.render_injective (hv : v.Coherent) (ht : Printed v t c) (hu : Printed v u d)
    (h : t.render = u.render) : t = u := by
  have htokens : c.tokens = d.tokens := by
    rw [← tokenize_render hv ht, h, tokenize_render hv hu]
  exact (ht.eq_of_append hv hu (congrArg (· ++ []) htokens)).1

/-! ## Trees of texts -/

/-- Whatever changes made the vocabulary, trees that it reads from any texts are the same if they
    are printed as the same text, with their constants and rules, and so have the same values. -/
theorem eq_of_render_eq (history : List Change) {text text' : String} {t u : Expr} :
    let v := Vocabulary.empty.evolve history
    v.parse text = .ok t → v.parse text' = .ok u → t.Finite → u.Finite → t.render = u.render →
      t = u ∧ ∀ x, t.eval x = u.eval x := by
  intro v ht hu hft hfu h
  have hv : v.Coherent := Vocabulary.coherent_evolve history
  obtain ⟨c, hc⟩ := exists_printed_of_parse ht hft
  obtain ⟨d, hd⟩ := exists_printed_of_parse hu hfu
  obtain rfl := hc.render_injective hv hd h
  exact ⟨rfl, fun _ => rfl⟩

/-- The power of a negation, which its text does not give back, with its exponent written in two
    ways. -/
theorem eq_of_render_eq_power :
    let v := Vocabulary.empty.evolve preset
    ∃ t u, v.parse "(-x)^2" = .ok t ∧ v.parse "((-x)^2.0)" = .ok u ∧ t.Finite ∧ u.Finite ∧
      t.render = "(-(x)^2)" ∧ u.render = "(-(x)^2)" ∧ t = u ∧ ∀ x, t.eval x = u.eval x := by
  intro v
  let power (exponent : Number.Decimal) : Expr :=
    .binary '^' Float.pow (.unary "-" (fun x => -x) (.var "x")) (.constant exponent.toFloat)
  have hfirst : v.parse "(-x)^2" = .ok (power ⟨2, 0⟩) := rfl
  have hsecond : v.parse "((-x)^2.0)" = .ok (power ⟨20, -1⟩) := rfl
  have htwo : Number.magnitude (⟨2, 0⟩ : Number.Decimal).toFloat < Number.infinity := by
    decide +kernel
  have htwo' : Number.magnitude (⟨20, -1⟩ : Number.Decimal).toFloat < Number.infinity := by
    decide +kernel
  have hrender : (power ⟨2, 0⟩).render = "(-(x)^2)" := by decide +kernel
  have hrender' : (power ⟨20, -1⟩).render = "(-(x)^2)" := by decide +kernel
  have hfinite : (power ⟨2, 0⟩).Finite := ⟨trivial, htwo⟩
  have hfinite' : (power ⟨20, -1⟩).Finite := ⟨trivial, htwo'⟩
  exact ⟨_, _, hfirst, hsecond, hfinite, hfinite', hrender, hrender',
    eq_of_render_eq preset hfirst hsecond hfinite hfinite' (hrender.trans hrender'.symm)⟩

end Formula
