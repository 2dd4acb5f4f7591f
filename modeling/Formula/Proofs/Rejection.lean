import Formula.Proofs.Lexing
import Formula.Proofs.Unfinished

/-!
# Errors at the earliest token

A token is refused only if no formula begins with the tokens up to it, and then it is refused
whatever follows. Tokens that are all taken are the beginning of a formula: a value may be missing,
and as many closed parentheses as groups are open.

* `ParseError.atToken`: the errors that a token makes; the others are found at the end.
* `atToken_of_ofTokens`, `Reading.atToken_of_finish`: which errors come when.
* `parseTokens_append_of_error`: no tokens that follow make it good.
* `exists_parseTokens_append`: tokens that are all taken can be completed.
* `parse_correctPrefix`: the same of texts with a space between them.
-/

namespace Formula

open Token (opening closing)

/-- The errors that a token makes, as opposed to those that are found where the text ends. -/
def ParseError.atToken : ParseError → Bool
  | unexpectedToken .. | invalidNumber _ | unknownOperator _ | unknownFunction _ => true
  | unmatchedClosed => true
  | emptyExpression | unmatchedOpen | operandsExhausted | excessValues _ => false

variable {v : Vocabulary}

/-! ## Which errors come when -/

/-- An error that a token makes of a stance is one of a token. -/
theorem Stance.atToken_of_step {s : Stance} {token : Token} {e : ParseError}
    (h : s.step v token = .error e) : e.atToken = true := by
  obtain ⟨expected, depth⟩ := s
  match expected, token with
  | .value, .number text =>
    simp only [step] at h
    split_ifs at h
    cases h
    rfl
  | .value, .identifier name =>
    simp only [step] at h
    split_ifs at h
    cases h
    rfl
  | .value, .symbol char =>
    simp only [step] at h
    split_ifs at h
    cases h
    rfl
  | .operator, .number text =>
    cases h
    rfl
  | .operator, .identifier name =>
    cases h
    rfl
  | .operator, .symbol char =>
    simp only [step] at h
    split_ifs at h
    · cases h
      rfl
    · cases depth with
      | zero =>
        cases h
        rfl
      | succ depth => cases h
    · cases h
      rfl

theorem Stance.atToken_of_foldlM {tokens : List Token} {s : Stance} {e : ParseError}
    (h : tokens.foldlM (Stance.step v) s = .error e) : e.atToken = true := by
  induction tokens generalizing s with
  | nil => cases h
  | cons token tokens ih =>
    rw [List.foldlM_cons] at h
    cases hstep : s.step v token with
    | error first =>
      rw [hstep] at h
      cases h
      exact atToken_of_step hstep
    | ok next =>
      rw [hstep] at h
      exact ih h

/-- An error of a reading is one of a token. -/
theorem atToken_of_ofTokens {tokens : List Token} {e : ParseError}
    (h : Reading.ofTokens v tokens = .error e) : e.atToken = true := by
  have hstance := stance_ofTokens v tokens
  rw [h] at hstance
  exact Stance.atToken_of_foldlM hstance

theorem Reading.eq_of_complete {r : Reading} {binds : Level → Bool} {e : ParseError}
    (h : r.complete binds = .error e) : e = .operandsExhausted := by
  unfold complete at h
  split at h <;> cases h
  rfl

/-- An error that is found at the end is none of a token. -/
theorem Reading.atToken_of_finish {r : Reading} {e : ParseError} (h : r.finish = .error e) :
    e.atToken = false := by
  unfold finish at h
  cases hc : r.complete fun _ => true with
  | error other =>
    rw [hc] at h
    cases h
    rw [eq_of_complete hc]
    rfl
  | ok s =>
    rw [hc] at h
    obtain ⟨pending, operands, expected⟩ := s
    match pending, operands, h with
    | _ :: _, _, h =>
      cases h
      rfl
    | [], [], h =>
      cases h
      rfl
    | [], _ :: _ :: _, h =>
      cases h
      rfl

/-- Such an error is that of reading the tokens, up to the one that makes it. -/
theorem parseTokens_eq_error_iff {tokens : List Token} {e : ParseError} (he : e.atToken = true) :
    v.parseTokens tokens = .error e ↔ Reading.ofTokens v tokens = .error e := by
  unfold Vocabulary.parseTokens
  split_ifs with hne
  · subst hne
    constructor
    · intro h
      cases h
      cases he
    · intro h
      cases h
  cases hr : Reading.ofTokens v tokens with
  | error other =>
    show (Except.error other : Except ParseError Expr) = .error e ↔ _
    rw [Except.error.injEq, Except.error.injEq]
  | ok r =>
    constructor
    · intro h
      have hend : e.atToken = false := Reading.atToken_of_finish h
      rw [he] at hend
      cases hend
    · intro h
      cases h

/-! ## What follows -/

/-- What a token makes wrong is not made good by what follows. -/
theorem parseTokens_append_of_error {tokens : List Token} {e : ParseError} (he : e.atToken = true)
    (h : v.parseTokens tokens = .error e) (rest : List Token) :
    v.parseTokens (tokens ++ rest) = .error e := by
  rw [parseTokens_eq_error_iff he, Reading.ofTokens] at h ⊢
  rw [List.foldlM_append, h]
  rfl

/-- Closed parentheses close the groups that are open. -/
theorem Stance.foldlM_replicate_closing (depth : Nat) :
    (List.replicate depth closing).foldlM (Stance.step v) ⟨.operator, depth⟩
      = .ok ⟨.operator, 0⟩ := by
  induction depth with
  | zero => rfl
  | succ depth ih =>
    have hstep : Stance.step v ⟨.operator, depth + 1⟩ closing = .ok ⟨.operator, depth⟩ := by
      simp [step, closing]
    rw [List.replicate_succ, foldlM_of_step hstep]
    exact ih

/-- From every stance some tokens lead to the end of a formula: the variable where a value is
    missing, and then closed parentheses. -/
theorem Stance.exists_foldlM (hv : v.Coherent) (s : Stance) :
    ∃ rest : List Token, (∀ t ∈ rest, t.IsLexeme) ∧
      rest.foldlM (Stance.step v) s = .ok ⟨.operator, 0⟩ := by
  obtain ⟨expected, depth⟩ := s
  have hclosing : ∀ t ∈ List.replicate depth closing, t.IsLexeme := by
    intro t ht
    rw [List.eq_of_mem_replicate ht]
    exact isLexeme_closing
  cases expected with
  | operator => exact ⟨_, hclosing, foldlM_replicate_closing depth⟩
  | value =>
    have hstep : Stance.step v ⟨.value, depth⟩ (.identifier v.variableName)
        = .ok ⟨.operator, depth⟩ := by simp [step]
    refine ⟨.identifier v.variableName :: List.replicate depth closing, ?_, ?_⟩
    · exact List.forall_mem_cons.2 ⟨hv.variable_fit, hclosing⟩
    · rw [foldlM_of_step hstep]
      exact foldlM_replicate_closing depth

/-- Tokens of which none makes an error are the beginning of a formula. -/
theorem exists_parseTokens_append (hv : v.Coherent) {tokens : List Token}
    (h : ∀ e, v.parseTokens tokens = .error e → e.atToken = false) :
    ∃ rest : List Token, (∀ t ∈ rest, t.IsLexeme) ∧
      ∃ t, v.parseTokens (tokens ++ rest) = .ok t := by
  cases hr : Reading.ofTokens v tokens with
  | error e =>
    have he : e.atToken = true := atToken_of_ofTokens hr
    have hend := h e ((parseTokens_eq_error_iff he).2 hr)
    rw [he] at hend
    cases hend
  | ok r =>
    have hstance : Stance.ofTokens v tokens = .ok r.stance := by
      rw [stance_ofTokens, hr]
      rfl
    obtain ⟨rest, hlex, hrest⟩ := r.stance.exists_foldlM hv
    refine ⟨rest, hlex, parseTokens_isOk_iff.2 ?_⟩
    rw [Stance.ofTokens, foldlM_of_run hstance]
    exact hrest

/-! ## Texts -/

/-- Whatever changes made the vocabulary, an error that a token makes stays the same whatever is
    written after a space; and in all other cases something can be written there that makes a
    formula of the text. -/
theorem parse_correctPrefix (history : List Change) (text : String) :
    let v := Vocabulary.empty.evolve history
    (∀ e, v.parse text = .error e → e.atToken = true →
      ∀ more, v.parse (text ++ " " ++ more) = .error e) ∧
    ((∀ e, v.parse text = .error e → e.atToken = false) →
      ∃ more t, v.parse (text ++ " " ++ more) = .ok t) := by
  intro v
  have hv : v.Coherent := Vocabulary.coherent_evolve history
  have htokens : ∀ more, tokenize (text ++ " " ++ more) = tokenize text ++ tokenize more :=
    tokenize_append_blank isBlank_space text
  constructor
  · intro e h he more
    rw [Vocabulary.parse, htokens]
    exact parseTokens_append_of_error he h (tokenize more)
  · intro h
    obtain ⟨rest, hlex, t, ht⟩ := exists_parseTokens_append hv h
    refine ⟨spaced rest, t, ?_⟩
    rw [Vocabulary.parse, htokens, tokenize_spaced hlex]
    exact ht

/-- Nothing makes a formula of two numbers in a row, but of a sum in an open group something
    does. -/
theorem parse_correctPrefix_sum :
    let v := Vocabulary.empty.evolve preset
    (v.parse "2 3" = .error (.unexpectedToken .operator "3") ∧
      v.parse ("2 3" ++ " " ++ "+x)") = .error (.unexpectedToken .operator "3")) ∧
    v.parse "-(x+" = .error .operandsExhausted ∧
      ∃ more t, v.parse ("-(x+" ++ " " ++ more) = .ok t := by
  intro v
  have hnumbers : v.parse "2 3" = .error (.unexpectedToken .operator "3") := rfl
  have hsum : v.parse "-(x+" = .error .operandsExhausted := rfl
  refine ⟨⟨hnumbers, (parse_correctPrefix preset "2 3").1 _ hnumbers rfl "+x)"⟩, hsum, ?_⟩
  refine (parse_correctPrefix preset "-(x+").2 ?_
  intro e he
  have hexhausted : ParseError.operandsExhausted = e := Except.error.inj (hsum.symm.trans he)
  rw [← hexhausted]
  rfl

end Formula
