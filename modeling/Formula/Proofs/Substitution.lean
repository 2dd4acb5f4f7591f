import Formula.Proofs.Origin
import Formula.Proofs.Precedence
import Formula.Proofs.Replacement

/-!
# Groups in place of the variable

A group behaves as the variable does: nothing in it can reach an operation or a value that waits
before it. So a group may stand wherever the variable may, if its inside is a formula, and its tree
stands where the variable stood.

* `isOk_of_group`: the inside of a group is a formula, and the variable could stand in its place.
* `parseTokens_group`: a group in place of one variable.
* `parseTokens_groups`: groups in place of every variable.
* `parseTokens_substitution`: all of this for the vocabularies that can come about.
-/

namespace Formula

open Token (opening closing)

variable {v : Vocabulary}

/-! ## Inside and outside of groups -/

/-- Where a group is taken, its inside is a formula of its own, and the variable would have been
    taken in its place. -/
theorem isOk_of_group {before inner after : List Token} (hs : Balanced inner)
    (h : ∃ t, v.parseTokens (before ++ opening :: (inner ++ closing :: after)) = .ok t) :
    (∃ u, v.parseTokens inner = .ok u) ∧
      ∃ w, v.parseTokens (before ++ .identifier v.variableName :: after) = .ok w := by
  simp only [parseTokens_isOk_iff, Stance.ofTokens] at h ⊢
  obtain ⟨⟨expected, depth⟩, hbefore, h⟩ := exists_of_foldlM_append h
  obtain ⟨opened, hopen, h⟩ := exists_of_foldlM_cons h
  obtain ⟨filled, hinner, h⟩ := exists_of_foldlM_append h
  obtain ⟨closed, hclose, hafter⟩ := exists_of_foldlM_cons h
  obtain ⟨rfl, rfl⟩ : expected = .value ∧ opened = ⟨.value, depth + 1⟩ := by
    rcases Stance.step_cases hopen with ⟨hp, -⟩ | ⟨-, he, ho⟩ | ⟨hp, -⟩
    · cases hp
    · exact ⟨he, ho⟩
    · exact absurd hp opening_ne_closing
  obtain ⟨hexpected, hdepth, hclosed⟩ : filled.expected = .operator ∧
      filled.depth = closed.depth + 1 ∧ closed = ⟨.operator, closed.depth⟩ := by
    rcases Stance.step_cases hclose with ⟨hp, -⟩ | ⟨hp, -⟩ | ⟨-, hc⟩
    · cases hp
    · exact absurd hp.symm opening_ne_closing
    · exact hc
  -- the inside does not see the groups around it
  have hraise : inner.foldlM (Stance.step v) (Stance.raise (depth + 1) ⟨.value, 0⟩)
      = (inner.foldlM (Stance.step v) ⟨.value, 0⟩).map (Stance.raise (depth + 1)) :=
    Stance.foldlM_raise (depth + 1) fun first hfirst => by
      simpa using hs.beginning first hfirst
  rw [Stance.raise, Nat.zero_add, hinner] at hraise
  cases hrun : inner.foldlM (Stance.step v) ⟨.value, 0⟩ with
  | error e =>
    rw [hrun] at hraise
    cases hraise
  | ok alone =>
    rw [hrun] at hraise
    cases hraise
    have hzero : alone.depth = 0 := by
      have hdepth : alone.depth + inner.count closing = 0 + inner.count opening :=
        Stance.depth_foldlM hrun
      have := hs.total
      omega
    have halone : alone = ⟨.operator, 0⟩ := by
      rw [← hzero, ← show alone.expected = .operator from hexpected]
    have houter : closed = ⟨.operator, depth⟩ := by
      rw [hclosed, show closed.depth = depth by simp only [Stance.raise] at hdepth; omega]
    have hvar : Stance.step v ⟨.value, depth⟩ (.identifier v.variableName)
        = .ok ⟨.operator, depth⟩ := by simp [Stance.step]
    refine ⟨by rw [halone], ?_⟩
    rw [foldlM_of_run hbefore, foldlM_of_step hvar, ← houter, hafter]

/-! ## Groups in place of the variable -/

/-- Formulas in place of occurrences of the variable give a formula, of the trees in place of the
    variable. -/
theorem parseTokens_replaceTokens (hv : v.Coherent) {tokens : List Token} {t : Expr}
    (h : v.parseTokens tokens = .ok t) {f : Nat → Phrase} {g : Nat → String → Expr}
    (hf : ∀ i, (f i).Closed v) (hg : ∀ i, (f i).tree? v = some (g i v.variableName)) :
    v.parseTokens (replaceTokens (.identifier v.variableName) (fun i => (f i).tokens) 0 tokens)
      = .ok (t.replaceVars g 0) := by
  obtain ⟨c, rfl, ht, ho⟩ := exists_phrase_of_parseTokens h
  rw [← tokens_replaceVars hv ht]
  exact parseTokens_tokens hv (Phrase.tree?_replaceVars hg ht 0)
    (Phrase.ordered_replaceVars hf ho 0)

/-- A formula has one occurrence of the variable for each of its tokens. -/
theorem varCount_of_parseTokens (hv : v.Coherent) {tokens : List Token} {t : Expr}
    (h : v.parseTokens tokens = .ok t) :
    t.varCount = tokens.count (.identifier v.variableName) := by
  obtain ⟨c, rfl, ht, -⟩ := exists_phrase_of_parseTokens h
  rw [Phrase.varCount_tree? ht, count_tokens hv ht]

/-- A group in place of one variable. -/
theorem parseTokens_group (hv : v.Coherent) {before inner after : List Token} {u w : Expr}
    (hu : v.parseTokens inner = .ok u)
    (hw : v.parseTokens (before ++ .identifier v.variableName :: after) = .ok w) :
    v.parseTokens (before ++ opening :: (inner ++ closing :: after))
      = .ok (w.replaceVar (before.count (.identifier v.variableName)) u) := by
  obtain ⟨c, rfl, ht, ho⟩ := exists_phrase_of_parseTokens hu
  have hrun := parseTokens_replaceTokens hv hw
    (f := fun i => if i = before.count (.identifier v.variableName) then .group c
      else .var v.variableName)
    (g := fun i name => if i = before.count (.identifier v.variableName) then u else .var name)
    (fun i => by
      split_ifs
      · exact Phrase.closed_group ho
      · exact Phrase.closed_var _)
    (fun i => by
      split_ifs
      · exact ht
      · exact Phrase.tree?_var.2 ⟨rfl, rfl⟩)
  have htokens : (fun i => (if i = before.count (.identifier v.variableName) then Phrase.group c
      else .var v.variableName).tokens)
      = fun i => if i = before.count (.identifier v.variableName)
        then opening :: (c.tokens ++ [closing]) else [.identifier v.variableName] := by
    funext i
    split_ifs <;> rfl
  rw [htokens, replaceTokens_single, List.cons_append, List.append_assoc] at hrun
  exact hrun

/-- A group in place of every variable. -/
theorem parseTokens_groups (hv : v.Coherent) {outer inner : List Token} {t u : Expr}
    (ht : v.parseTokens outer = .ok t) (hu : v.parseTokens inner = .ok u) :
    v.parseTokens (outer.flatMap fun token =>
        if token = .identifier v.variableName then opening :: (inner ++ [closing]) else [token])
      = .ok (t.replaceVars (fun _ _ => u) 0) := by
  obtain ⟨c, rfl, hc, ho⟩ := exists_phrase_of_parseTokens hu
  rw [← replaceTokens_const _ 0]
  exact parseTokens_replaceTokens hv ht (f := fun _ => .group c) (g := fun _ _ => u)
    (fun _ => Phrase.closed_group ho) fun _ => hc

/-- Tokens with groups in place of some of them are those of a text, if what they are made of is. -/
theorem isLexeme_of_mem_groups {x : Token} {outer inner : String} :
    ∀ token ∈ (tokenize outer).flatMap (fun token =>
      if token = x then opening :: (tokenize inner ++ [closing]) else [token]), token.IsLexeme := by
  intro token htoken
  obtain ⟨origin, horigin, htoken⟩ := List.mem_flatMap.1 htoken
  split_ifs at htoken
  · simp only [List.mem_cons, List.mem_append, List.not_mem_nil, or_false] at htoken
    rcases htoken with rfl | hinner | rfl
    · exact isLexeme_opening
    · exact isLexeme_of_mem_tokenize token hinner
    · exact isLexeme_closing
  · rw [List.mem_singleton.1 htoken]
    exact isLexeme_of_mem_tokenize origin horigin

/-- Whatever changes made the vocabulary: a group may stand exactly where the variable may, if what
    it holds is a formula, and its tree stands where the variable stood. With groups in place of
    every variable the value is that of the one formula at the value of the other. -/
theorem parseTokens_substitution (history : List Change) :
    let v := Vocabulary.empty.evolve history
    let x := Token.identifier v.variableName
    (∀ before inner after : List Token, Balanced inner →
      ((∃ t, v.parseTokens (before ++ opening :: (inner ++ closing :: after)) = .ok t) ↔
        (∃ u, v.parseTokens inner = .ok u) ∧ ∃ w, v.parseTokens (before ++ x :: after) = .ok w) ∧
      ∀ u w, v.parseTokens inner = .ok u → v.parseTokens (before ++ x :: after) = .ok w →
        w.varCount = before.count x + 1 + after.count x ∧
        v.parseTokens (before ++ opening :: (inner ++ closing :: after))
          = .ok (w.replaceVar (before.count x) u)) ∧
    ∀ (outer inner : String) (t u : Expr), v.parse outer = .ok t → v.parse inner = .ok u →
      let tokens := (tokenize outer).flatMap fun token =>
        if token = x then opening :: (tokenize inner ++ [closing]) else [token]
      (∃ text, tokenize text = tokens) ∧
      ∀ text, tokenize text = tokens → ∃ w, v.parse text = .ok w ∧
        ∀ a, ∃ b c, u.eval a = .ok b ∧ t.eval b = .ok c ∧ w.eval a = .ok c := by
  intro v x
  have hv : v.Coherent := Vocabulary.coherent_evolve history
  refine ⟨fun before inner after hs => ⟨⟨isOk_of_group hs, ?_⟩, fun u w hu hw => ⟨?_, ?_⟩⟩, ?_⟩
  · rintro ⟨⟨u, hu⟩, w, hw⟩
    exact ⟨_, parseTokens_group hv hu hw⟩
  · rw [varCount_of_parseTokens hv hw]
    change (before ++ x :: after).count x = _
    rw [List.count_append, List.count_cons_self, Nat.add_assoc, Nat.add_comm 1]
  · exact parseTokens_group hv hu hw
  · intro outer inner t u ht hu tokens
    have hparse : v.parseTokens tokens = .ok (t.replaceVars (fun _ _ => u) 0) :=
      parseTokens_groups hv ht hu
    refine ⟨⟨spaced tokens, tokenize_spaced isLexeme_of_mem_groups⟩, fun text htext => ?_⟩
    refine ⟨_, by rw [Vocabulary.parse, htext, hparse], fun a => ?_⟩
    obtain ⟨cu, -, hcu, -⟩ := exists_phrase_of_parseTokens hu
    obtain ⟨ct, -, hct, -⟩ := exists_phrase_of_parseTokens ht
    obtain ⟨b, hb⟩ := Phrase.exists_eval hcu a
    obtain ⟨c, hc⟩ := Phrase.exists_eval hct b
    exact ⟨b, c, hb, hc, by rw [eval_replaceVars hb, hc]⟩

/-- The group of `(x)+x` may stand for the second variable of `x^x*x`. -/
theorem parseTokens_substitution_power :
    let v := Vocabulary.empty.evolve preset
    Balanced (tokenize "(x)+x") ∧ ∃ u w, v.parseTokens (tokenize "(x)+x") = .ok u ∧
      v.parseTokens (tokenize "x^x*x") = .ok w ∧
      v.parseTokens (tokenize "x^((x)+x)*x") = .ok (w.replaceVar 1 u) := by
  intro v
  have hs : Balanced (tokenize "(x)+x") :=
    balanced_tokens (Vocabulary.coherent_evolve preset)
      (c := .binary '+' (.group (.var "x")) (.var "x")) rfl
  have hgroup := ((parseTokens_substitution preset).1 (tokenize "x^") (tokenize "(x)+x")
    (tokenize "*x") hs).2
  exact ⟨hs, _, _, rfl, rfl, (hgroup _ _ rfl rfl).2⟩

end Formula
