import Formula.Vocabulary.Standard
import Mathlib.Tactic.SplitIfs

/-!
# Vocabularies in use

A vocabulary starts with the variable alone and is then changed step by step. Whatever the changes
are, and whether they are accepted or refused, names and symbols stay apart: no function has the
name of the variable, and no operator is a parenthesis or a character of a number or a name.

* `Vocabulary.evolve`: the vocabulary after a list of changes.
* `rename_run`, `addOperator_run`, `addFunction_run`: what a change that can be refused leaves.
* `Vocabulary.Becomes`, `update_granted`, `update_of_becomes`: what a change does, unless it is
  refused.
* `Coherent.update`: a change keeps names and symbols apart.
* `coherent_evolve`: so does every list of changes.
* `standard_eq`: the standard vocabulary is one of those vocabularies.
-/

namespace Formula

namespace Vocabulary

/-- The vocabulary after some changes; those that are refused leave no trace. -/
def evolve (v : Vocabulary) (history : List Change) : Vocabulary :=
  history.foldl (fun v change => (v.update change).2) v

/-- Names and symbols are fit for their use, and the variable shares its name with no function. -/
structure Coherent (v : Vocabulary) : Prop where
  variable_fit : nameFault? v.variableName = none
  function_fit : ∀ name, v.hasFunction name = true → nameFault? name = none
  variable_apart : v.hasFunction v.variableName = false
  operator_fit : ∀ symbol, v.hasOperator symbol = true → symbolFault? symbol = none

/-! ## Names and symbols -/

theorem nameFault?_eq_none_iff {name : String} :
    nameFault? name = none ↔ name ≠ "" ∧ ∀ c ∈ name.toList, Text.isLetter c = true := by
  unfold nameFault?
  split
  · simp_all
  · rename_i hne
    simp [hne]

/-- The minus sign is no name. -/
theorem ne_minus_of_nameFault? {name : String} (h : nameFault? name = none) : name ≠ "-" := by
  rintro rfl
  revert h
  decide +kernel

theorem symbolFault?_eq_none_iff {symbol : Char} :
    symbolFault? symbol = none ↔ Text.isBlank symbol = false ∧ symbol.isDigit = false ∧
      symbol ≠ '.' ∧ Text.isLetter symbol = false ∧ symbol ≠ '(' ∧ symbol ≠ ')' := by
  unfold symbolFault?
  split_ifs <;> grind

theorem hasOperator_of_operator? {v : Vocabulary} {symbol : Char} {o : Operator}
    (h : v.operator? symbol = some o) : v.hasOperator symbol = true := by
  rw [hasOperator_eq_isSome, h]
  rfl

theorem hasFunction_of_function? {v : Vocabulary} {name : String} {rule : UnaryRule}
    (h : v.function? name = some rule) : v.hasFunction name = true := by
  rw [hasFunction_eq_isSome, h]
  rfl

theorem Coherent.operator_ne {v : Vocabulary} (h : v.Coherent) {symbol : Char} {o : Operator}
    (hs : v.operator? symbol = some o) : symbol ≠ '(' ∧ symbol ≠ ')' := by
  have hfit := h.operator_fit symbol (hasOperator_of_operator? hs)
  exact (symbolFault?_eq_none_iff.1 hfit).2.2.2.2

theorem Coherent.function_ne {v : Vocabulary} (h : v.Coherent) {name : String} {rule : UnaryRule}
    (hn : v.function? name = some rule) : name ≠ v.variableName := by
  rintro rfl
  have hapart := h.variable_apart
  rw [hasFunction_of_function? hn] at hapart
  cases hapart

/-! ## One change -/

@[simp]
theorem check_run (fault? : Option ConfigError) (v : Vocabulary) :
    (check fault?).run v = fault?.elim (.ok () v) fun fault => .error fault v := by
  cases fault? <;> rfl

/-- The variable takes every name that is one and that no function has. Either check leaves the
    vocabulary as it is. -/
theorem rename_run (name : String) (v : Vocabulary) :
    (rename name).run v =
      match nameFault? name with
      | some fault => .error fault v
      | none =>
        if v.hasFunction name then .error (.functionNameTaken name) v
        else .ok () { v with variableName := name } := by
  cases hfit : nameFault? name with
  | some fault => simp [rename, hfit]
  | none => cases hfree : v.hasFunction name <;> simp [rename, hfit, hfree]

/-- Every character that is fit for it becomes an operator. -/
theorem addOperator_run (symbol : Char) (operator : Operator) (v : Vocabulary) :
    (addOperator symbol operator).run v =
      match symbolFault? symbol with
      | some fault => .error (.invalidSymbol symbol fault) v
      | none => .ok () { v with operators := v.operators.insert symbol operator } := by
  cases hfit : symbolFault? symbol <;> simp [addOperator, hfit]

/-- A function takes every name that is one and that the variable does not have. -/
theorem addFunction_run (name : String) (rule : UnaryRule) (v : Vocabulary) :
    (addFunction name rule).run v =
      match nameFault? name with
      | some fault => .error fault v
      | none =>
        if name = v.variableName then .error (.variableNameTaken name) v
        else .ok () { v with functions := v.functions.insert name rule } := by
  cases hfit : nameFault? name with
  | some fault => simp [addFunction, hfit]
  | none =>
    by_cases hname : name = v.variableName
    · simp [addFunction, hfit, ← hname]
    · simp [addFunction, hfit, hname]

/-- A change that is not refused, and the vocabulary after it. -/
inductive Becomes (v : Vocabulary) : Change → Vocabulary → Prop
  | rename {name : String} : nameFault? name = none → v.hasFunction name = false →
      Becomes v (.rename name) { v with variableName := name }
  | addOperator {symbol : Char} {operator : Operator} : symbolFault? symbol = none →
      Becomes v (.addOperator symbol operator)
        { v with operators := v.operators.insert symbol operator }
  | removeOperator {symbol : Char} : Becomes v (.removeOperator symbol) (v.removeOperator symbol)
  | addFunction {name : String} {rule : UnaryRule} : nameFault? name = none →
      name ≠ v.variableName →
      Becomes v (.addFunction name rule) { v with functions := v.functions.insert name rule }
  | removeFunction {name : String} : Becomes v (.removeFunction name) (v.removeFunction name)

/-- The answer to a change that is not refused. -/
def grant (v : Vocabulary) : Change → Reply
  | .removeOperator symbol => .removed (v.hasOperator symbol)
  | .removeFunction name => .removed (v.hasFunction name)
  | _ => .accepted

/-- A change is refused and leaves no trace, or it is granted and does what it is for. -/
theorem update_granted (v : Vocabulary) (change : Change) :
    (∃ cause, v.update change = (.refused cause, v)) ∨
      ∃ w, v.Becomes change w ∧ v.update change = (v.grant change, w) := by
  cases change with
  | rename name =>
    rw [update, rename_run]
    cases hfit : nameFault? name with
    | some fault => exact .inl ⟨fault, rfl⟩
    | none =>
      cases hfree : v.hasFunction name with
      | true => exact .inl ⟨_, rfl⟩
      | false => exact .inr ⟨_, .rename hfit hfree, rfl⟩
  | addOperator symbol operator =>
    rw [update, addOperator_run]
    cases hfit : symbolFault? symbol with
    | some fault => exact .inl ⟨_, rfl⟩
    | none => exact .inr ⟨_, .addOperator hfit, rfl⟩
  | removeOperator symbol => exact .inr ⟨_, .removeOperator, rfl⟩
  | addFunction name rule =>
    rw [update, addFunction_run]
    cases hfit : nameFault? name with
    | some fault => exact .inl ⟨fault, rfl⟩
    | none =>
      by_cases hname : name = v.variableName
      · rw [if_pos hname]
        exact .inl ⟨_, rfl⟩
      · rw [if_neg hname]
        exact .inr ⟨_, .addFunction hfit hname, rfl⟩
  | removeFunction name => exact .inr ⟨_, .removeFunction, rfl⟩

/-- What a change can do, it does. -/
theorem update_of_becomes {v w : Vocabulary} {change : Change} (h : v.Becomes change w) :
    v.update change = (v.grant change, w) := by
  cases h with
  | rename hfit hfree =>
    rw [update, rename_run, hfit]
    simp only [hfree]
    rfl
  | addOperator hfit =>
    rw [update, addOperator_run, hfit]
    rfl
  | removeOperator => rfl
  | addFunction hfit hne =>
    rw [update, addFunction_run, hfit]
    simp only [if_neg hne]
    rfl
  | removeFunction => rfl

theorem update_becomes (v : Vocabulary) (change : Change) :
    (v.update change).2 = v ∨ v.Becomes change (v.update change).2 := by
  rcases v.update_granted change with ⟨cause, h⟩ | ⟨w, hw, h⟩
  · exact .inl (congrArg Prod.snd h)
  · rw [h]
    exact .inr hw

theorem operator?_insert {v : Vocabulary} {symbol other : Char} {operator : Operator} :
    operator? { v with operators := v.operators.insert symbol operator } other
      = if symbol = other then some operator else v.operator? other := by
  simp [operator?, Std.TreeMap.getElem?_insert]

theorem function?_insert {v : Vocabulary} {name other : String} {rule : UnaryRule} :
    function? { v with functions := v.functions.insert name rule } other
      = if name = other then some rule else v.function? other := by
  simp [function?, Std.TreeMap.getElem?_insert]

theorem hasOperator_insert {v : Vocabulary} {symbol other : Char} {operator : Operator} :
    hasOperator { v with operators := v.operators.insert symbol operator } other = true ↔
      symbol = other ∨ v.hasOperator other = true := by
  simp [hasOperator, Std.TreeMap.contains_insert]

theorem hasFunction_insert {v : Vocabulary} {name other : String} {rule : UnaryRule} :
    hasFunction { v with functions := v.functions.insert name rule } other = true ↔
      name = other ∨ v.hasFunction other = true := by
  simp [hasFunction, Std.TreeMap.contains_insert]

theorem hasOperator_of_removeOperator {v : Vocabulary} {symbol other : Char}
    (h : (v.removeOperator symbol).hasOperator other = true) : v.hasOperator other = true := by
  rw [hasOperator_eq_isSome, operator?_removeOperator] at h
  split at h
  · cases h
  · rwa [hasOperator_eq_isSome]

theorem hasFunction_of_removeFunction {v : Vocabulary} {name other : String}
    (h : (v.removeFunction name).hasFunction other = true) : v.hasFunction other = true := by
  rw [hasFunction_eq_isSome, function?_removeFunction] at h
  split at h
  · cases h
  · rwa [hasFunction_eq_isSome]

theorem coherent_empty : empty.Coherent where
  variable_fit := by decide +kernel
  function_fit name h := by simp [empty, hasFunction] at h
  variable_apart := by simp [empty, hasFunction]
  operator_fit symbol h := by simp [empty, hasOperator] at h

theorem Coherent.of_becomes {v w : Vocabulary} {change : Change} (h : v.Coherent)
    (hw : v.Becomes change w) : w.Coherent := by
  cases hw with
  | rename hfit hfree => exact { h with variable_fit := hfit, variable_apart := hfree }
  | addOperator hfit =>
    refine { h with operator_fit := fun other ho => ?_ }
    rcases hasOperator_insert.1 ho with rfl | ho
    · exact hfit
    · exact h.operator_fit other ho
  | removeOperator =>
    exact { h with operator_fit := fun other ho =>
              h.operator_fit other (hasOperator_of_removeOperator ho) }
  | addFunction hfit hne =>
    refine { h with function_fit := fun other ho => ?_,
                    variable_apart := Bool.eq_false_iff.2 fun hc => ?_ }
    · rcases hasFunction_insert.1 ho with rfl | ho
      · exact hfit
      · exact h.function_fit other ho
    · rcases hasFunction_insert.1 hc with hname | hc
      · exact hne hname
      · exact Bool.eq_false_iff.1 h.variable_apart hc
  | removeFunction =>
    refine { h with function_fit := fun other ho => ?_,
                    variable_apart := Bool.eq_false_iff.2 fun hc => ?_ }
    · exact h.function_fit other (hasFunction_of_removeFunction ho)
    · exact Bool.eq_false_iff.1 h.variable_apart (hasFunction_of_removeFunction hc)

/-- A change keeps names and symbols apart. -/
theorem Coherent.update {v : Vocabulary} (h : v.Coherent) (change : Change) :
    (v.update change).2.Coherent := by
  rcases v.update_becomes change with hsame | hbecomes
  · rwa [hsame]
  · exact h.of_becomes hbecomes

/-! ## Histories -/

theorem evolve_cons (v : Vocabulary) (change : Change) (rest : List Change) :
    v.evolve (change :: rest) = (v.update change).2.evolve rest := rfl

theorem Coherent.evolve {v : Vocabulary} (h : v.Coherent) (history : List Change) :
    (v.evolve history).Coherent := by
  induction history generalizing v with
  | nil => exact h
  | cons change history ih => exact ih (h.update change)

/-- Names and symbols are apart after every list of changes. -/
theorem coherent_evolve (history : List Change) : (empty.evolve history).Coherent :=
  coherent_empty.evolve history

/-! ## The standard vocabulary -/

theorem evolve_of_install {v : Vocabulary} {changes : List Change}
    (h : (v.install changes).1 = .accepted) : (v.install changes).2 = v.evolve changes := by
  induction changes generalizing v with
  | nil => rfl
  | cons change rest ih =>
    rw [install] at h ⊢
    rw [evolve_cons]
    split at h
    · cases h
    · rename_i reply changed hne hu
      rw [hu]
      exact ih h

/-- The standard vocabulary comes about by its changes, of which none is refused. -/
theorem standard_eq : standard = .ok (empty.evolve preset) := by
  have h : (empty.install preset).1 = .accepted := by decide +kernel
  rw [← evolve_of_install h, standard]
  split
  · rename_i cause v hv
    rw [hv] at h
    cases h
  · rename_i reply v hne hv
    rw [hv]

end Vocabulary

end Formula
