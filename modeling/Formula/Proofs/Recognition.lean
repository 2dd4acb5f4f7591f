import Formula.Proofs.Names
import Formula.Proofs.RoundTrip

/-!
# What is added can be used

A vocabulary accepts exactly the symbols and names that a text is cut into, so that no entry is out
of reach: each operator stands between two formulas in parentheses, and each function before one.
The minus sign before a formula negates it even where it is an operator as well, and no function
hides the variable.

* `symbolFault?_eq_none_iff_tokenize`, `nameFault?_eq_none_iff_tokenize`: what is accepted.
* `parse_unary`, `parse_binary`: a function or operator in front of or between groups.
* `parse_recognized`: all of this for the vocabularies that can come about.
-/

namespace Formula

open Token (opening closing)

/-! ## What is accepted -/

/-- A character is fit for an operator exactly if it is cut off as a symbol that is no
    parenthesis. -/
theorem symbolFault?_eq_none_iff_tokenize {symbol : Char} :
    symbolFault? symbol = none ↔
      tokenize (String.singleton symbol) = [.symbol symbol] ∧ symbol ≠ '(' ∧ symbol ≠ ')' := by
  have hlexeme := tokenize_text_iff (t := .symbol symbol)
  rw [Token.text] at hlexeme
  rw [hlexeme, Vocabulary.symbolFault?_eq_none_iff, Token.IsLexeme]
  simp only [and_assoc]

/-- A text is fit as a name exactly if it is cut into one identifier. -/
theorem nameFault?_eq_none_iff_tokenize {name : String} :
    nameFault? name = none ↔ tokenize name = [.identifier name] :=
  (tokenize_text_iff (t := .identifier name)).symm

/-! ## What is read -/

/-- A text in parentheses is cut into parentheses and its own tokens, whatever stands before it. -/
theorem tokenize_append_group (before text : String) :
    tokenize (before ++ "(" ++ text ++ ")")
      = tokenize before ++ opening :: (tokenize text ++ [closing]) := by
  have hclose : tokenize (text ++ ")" ++ "") = tokenize text ++ [closing] :=
    tokenize_append_symbol isLexeme_closing text ""
  have hopen : tokenize (before ++ "(" ++ (text ++ ")" ++ ""))
      = tokenize before ++ opening :: tokenize (text ++ ")" ++ "") :=
    tokenize_append_symbol isLexeme_opening before (text ++ ")" ++ "")
  rw [hclose] at hopen
  rwa [String.append_empty, ← String.append_assoc] at hopen

variable {v : Vocabulary} {a b : String} {t u : Expr}

/-- A function or the minus sign before a formula in parentheses is applied to it. -/
theorem parse_unary (hv : v.Coherent) {op : UnaryOperator} {rule : UnaryRule}
    (hop : op.rule? v = some rule) (ha : v.parse a = .ok t) :
    v.parse (op.name ++ "(" ++ a ++ ")") = .ok (.unary op.name rule t) := by
  obtain ⟨c, htok, htree, hord⟩ := exists_phrase_of_parseTokens ha
  have hname : tokenize op.name = [op.token] := by
    rw [← op.text_token]
    exact tokenize_text_iff.2 (op.isLexeme_token hv hop)
  have htokens : tokenize (op.name ++ "(" ++ a ++ ")") = (Phrase.unary op (.group c)).tokens := by
    rw [tokenize_append_group, hname, ← htok]
    rfl
  rw [Vocabulary.parse, htokens]
  exact parseTokens_tokens hv (Phrase.tree?_unary.2 ⟨rule, t, hop, htree, rfl⟩)
    ⟨hord, fun _ hl => absurd hl List.not_mem_nil⟩

/-- An operator between two formulas in parentheses is applied to them. -/
theorem parse_binary (hv : v.Coherent) {symbol : Char} {o : Operator}
    (ho : v.operator? symbol = some o) (ha : v.parse a = .ok t) (hb : v.parse b = .ok u) :
    v.parse ("(" ++ a ++ ")" ++ String.singleton symbol ++ "(" ++ b ++ ")")
      = .ok (.binary symbol o.rule t u) := by
  obtain ⟨c, htok, htree, hord⟩ := exists_phrase_of_parseTokens ha
  obtain ⟨d, htok', htree', hord'⟩ := exists_phrase_of_parseTokens hb
  have hgroup : tokenize ("(" ++ a ++ ")") = (Phrase.group c).tokens := by
    have h := tokenize_append_group "" a
    rw [String.empty_append, ← htok] at h
    exact h
  have hsymbol : tokenize ("(" ++ a ++ ")" ++ String.singleton symbol)
      = (Phrase.group c).tokens ++ [.symbol symbol] := by
    have h := tokenize_append_symbol (isLexeme_operator hv ho) ("(" ++ a ++ ")") ""
    rw [String.append_empty, hgroup] at h
    exact h
  have htokens : tokenize ("(" ++ a ++ ")" ++ String.singleton symbol ++ "(" ++ b ++ ")")
      = (Phrase.binary symbol (.group c) (.group d)).tokens := by
    rw [tokenize_append_group, hsymbol, ← htok', List.append_assoc]
    rfl
  rw [Vocabulary.parse, htokens]
  exact parseTokens_tokens hv (Phrase.tree?_binary.2 ⟨o, t, u, ho, htree, htree', rfl⟩)
    ((Phrase.ordered_binary ho).2 ⟨hord, hord', fun _ hl => absurd hl List.not_mem_nil,
      fun _ hl => absurd hl List.not_mem_nil⟩)

/-- The name of the variable is a formula, which no function hides. -/
theorem parse_variableName (hv : v.Coherent) :
    v.parse v.variableName = .ok (.var v.variableName) := by
  have htokens : tokenize v.variableName = (Phrase.var v.variableName).tokens :=
    nameFault?_eq_none_iff_tokenize.1 hv.variable_fit
  rw [Vocabulary.parse, htokens]
  exact parseTokens_tokens hv (Phrase.tree?_var.2 ⟨rfl, rfl⟩) trivial

/-- Exactly the characters and texts that are cut off as symbols and names are accepted as such. So,
    whatever changes made the vocabulary, each of its operators, functions and its variable is read
    as what it was added as, and so is the negation. -/
theorem parse_recognized (history : List Change) :
    let v := Vocabulary.empty.evolve history
    (∀ symbol operator, (v.update (.addOperator symbol operator)).1 = .accepted ↔
      tokenize (String.singleton symbol) = [.symbol symbol] ∧ symbol ≠ '(' ∧ symbol ≠ ')') ∧
    (∀ name, nameFault? name = none ↔ tokenize name = [.identifier name]) ∧
    (∀ a b t u, v.parse a = .ok t → v.parse b = .ok u →
      (∀ symbol o, v.operator? symbol = some o →
        v.parse ("(" ++ a ++ ")" ++ String.singleton symbol ++ "(" ++ b ++ ")")
          = .ok (.binary symbol o.rule t u)) ∧
      (∀ name rule, v.function? name = some rule →
        v.parse (name ++ "(" ++ a ++ ")") = .ok (.unary name rule t)) ∧
      v.parse ("-(" ++ a ++ ")") = .ok (.unary "-" (fun x => -x) t)) ∧
    v.parse v.variableName = .ok (.var v.variableName) := by
  intro v
  have hv : v.Coherent := Vocabulary.coherent_evolve history
  refine ⟨fun symbol operator => ?_, fun name => nameFault?_eq_none_iff_tokenize,
    fun a b t u ha hb => ⟨fun symbol o ho => parse_binary hv ho ha hb, fun name rule hf => ?_, ?_⟩,
    parse_variableName hv⟩
  · rw [Vocabulary.accepted_addOperator_iff, symbolFault?_eq_none_iff_tokenize]
  · have hop : (UnaryOperator.function name).rule? v = some rule := hf
    have hunary := parse_unary hv hop ha
    exact hunary
  · have hminus := parse_unary hv (show UnaryOperator.minus.rule? v = _ from rfl) ha
    exact hminus

/-- In the standard vocabulary, where the minus sign is an operator as well. -/
theorem parse_recognized_minus :
    let v := Vocabulary.empty.evolve preset
    v.parse "x" = .ok (.var "x") ∧ v.operator? '-' = some ⟨.addition, (· - ·)⟩ ∧
      v.parse ("(" ++ "x" ++ ")" ++ String.singleton '-' ++ "(" ++ "x" ++ ")")
        = .ok (.binary '-' (· - ·) (.var "x") (.var "x")) ∧
      v.function? "ln" = some Float.log ∧
      v.parse ("ln" ++ "(" ++ "x" ++ ")") = .ok (.unary "ln" Float.log (.var "x")) ∧
      v.parse ("-(" ++ "x" ++ ")") = .ok (.unary "-" (fun x => -x) (.var "x")) := by
  intro v
  have hx : v.parse "x" = .ok (.var "x") := rfl
  have hoperator : v.operator? '-' = some ⟨.addition, (· - ·)⟩ := rfl
  have hfunction : v.function? "ln" = some Float.log := rfl
  obtain ⟨hbinary, hunary, hminus⟩ := (parse_recognized preset).2.2.1 "x" "x" _ _ hx hx
  exact ⟨hx, hoperator, hbinary '-' _ hoperator, hfunction, hunary "ln" _ hfunction, hminus⟩

end Formula
