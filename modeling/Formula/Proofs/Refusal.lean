import Formula.Proofs.Names
import Formula.Proofs.Record
import Formula.Reading.Basic
import Mathlib.Data.List.Sort

/-!
# What a refusal leaves

A change that is refused leaves a vocabulary as it was, and a memo with all its trees in their
order; so does a text that is not a formula. This is so because a vocabulary is not touched before
all has been checked, because a memo drops its trees only after a change that could be refused, and
because to look for a tree in vain moves none of the others.

A list of changes is not taken back when one of them is refused: those before it stay. The preset is
refused exactly if the variable has the name of one of its functions, and it stops there. Where it
is not refused, it may be installed again, to no effect that could be told by looking things up or
by asking for anything.

* `update_of_refused`, `eq_of_error`, `Memo.update_of_refused`, `Memo.parse_of_error`: one refusal.
* `accepted_install_iff`, `exists_of_install_refused`: several changes, up to a refusal.
* `Change.FitAddition`, `record_of_fit`: additions that only the name of the variable can prevent.
* `Vocabulary.Alike`: vocabularies with the same entries, which `Alike.session` does not tell apart.
* `alike_evolve_evolve`: changes that are answered in the same way again have no effect again.
* `refused_intact`: all of this for vocabularies, memos and the preset.
-/

namespace Formula

/-- Adds an operator or a function, under a symbol or a name that is fit for it. -/
def Change.FitAddition : Change → Prop
  | addOperator symbol _ => symbolFault? symbol = none
  | addFunction name _ => nameFault? name = none
  | _ => False

instance : DecidablePred Change.FitAddition
  | .addOperator symbol _ => inferInstanceAs (Decidable (symbolFault? symbol = none))
  | .addFunction name _ => inferInstanceAs (Decidable (nameFault? name = none))
  | .rename _ | .removeOperator _ | .removeFunction _ => inferInstanceAs (Decidable False)

/-- The variable has the same name, and there are the same operators and functions. -/
def Vocabulary.Alike (v w : Vocabulary) : Prop := ∀ subject, v.lookup? subject = w.lookup? subject

/-! ## One refusal -/

theorem Vocabulary.update_of_refused {v : Vocabulary} {change : Change} {cause : ConfigError}
    (h : (v.update change).1 = .refused cause) : v.update change = (.refused cause, v) := by
  rcases v.update_granted change with ⟨other, hv⟩ | ⟨w, -, hv⟩
  · rw [hv] at h
    rw [hv, Reply.refused.inj h]
  · have hgrant : v.grant change = .refused cause := by rwa [hv] at h
    have hrefusal := v.isRefusal_grant change
    rw [hgrant] at hrefusal
    cases hrefusal

/-- No way to ask for a change leaves anything behind when it ends with an error. -/
theorem Vocabulary.eq_of_error {v w : Vocabulary} {edit : EStateM ConfigError Vocabulary Unit}
    {cause : ConfigError} (change : Change) (hedit : v.update change = outcome (edit.run v))
    (h : edit.run v = .error cause w) : w = v := by
  have hw : v.update change = (.refused cause, w) := by
    rw [hedit, h]
    rfl
  have hv : v.update change = (.refused cause, v) := update_of_refused (congrArg Prod.fst hw)
  rw [hw] at hv
  exact congrArg Prod.snd hv

theorem Memo.update_of_refused {m : Memo} {change : Change} {cause : ConfigError}
    (h : (m.update change).1 = .refused cause) : m.update change = (.refused cause, m) := by
  rcases m.update_eq change with ⟨other, -, hm⟩ | ⟨hgranted, hm⟩
  · rw [hm] at h
    rw [hm, Reply.refused.inj h]
  · rw [hm] at h
    exact absurd h (hgranted cause)

theorem Memo.parse_of_error {m : Memo} {formula : String} {cause : ParseError}
    (h : (m.parse formula).1 = .error cause) : m.parse formula = (.error cause, m) := by
  rcases m.parse_eq formula with ⟨tree, -, hm⟩ | ⟨other, -, hm⟩
  · rw [hm] at h
    cases h
  · rw [hm] at h
    rw [hm, Except.error.inj h]

namespace Vocabulary

variable {v w : Vocabulary} {changes : List Change}

/-! ## Several changes -/

theorem install_cons_of_granted {change : Change} (h : v.update change = (v.grant change, w))
    (rest : List Change) : v.install (change :: rest) = w.install rest := by
  rw [install, h]
  cases change <;> rfl

theorem install_cons_of_refused {change : Change} {cause : ConfigError}
    (h : v.update change = (.refused cause, v)) (rest : List Change) :
    v.install (change :: rest) = (.refused cause, v) := by
  rw [install, h]

/-- Several changes are accepted if none of them is refused. -/
theorem accepted_install_iff :
    (v.install changes).1 = .accepted ↔
      ∀ entry ∈ v.record changes, entry.2.isRefusal = false := by
  induction changes generalizing v with
  | nil => simp [install, record]
  | cons change rest ih =>
    rw [record, List.forall_mem_cons]
    rcases v.update_granted change with ⟨cause, h⟩ | ⟨w, -, h⟩
    · simp [install_cons_of_refused h, h, Reply.isRefusal]
    · rw [install_cons_of_granted h, h, ih]
      exact ⟨fun hall => ⟨v.isRefusal_grant change, hall⟩, fun hall => hall.2⟩

/-- Changes that are not accepted are made up to one that is refused, and no further. -/
theorem exists_of_install_refused (h : (v.install changes).1 ≠ .accepted) :
    ∃ before change after cause, changes = before ++ change :: after ∧
      v.install before = (.accepted, v.evolve before) ∧
      ((v.evolve before).update change).1 = .refused cause ∧
      v.install changes = (.refused cause, v.evolve before) := by
  induction changes generalizing v with
  | nil => exact absurd rfl h
  | cons change rest ih =>
    rcases v.update_granted change with ⟨cause, hv⟩ | ⟨w, -, hv⟩
    · have hrefused : (v.update change).1 = .refused cause := congrArg Prod.fst hv
      exact ⟨[], change, rest, cause, rfl, rfl, hrefused, install_cons_of_refused hv rest⟩
    · rw [install_cons_of_granted hv] at h
      obtain ⟨before, refused, after, cause, rfl, hbefore, hrefused, hrest⟩ := ih h
      have hevolve : v.evolve (change :: before) = w.evolve before := by rw [evolve_cons, hv]
      refine ⟨change :: before, refused, after, cause, rfl, ?_⟩
      rw [hevolve, install_cons_of_granted hv, install_cons_of_granted hv]
      exact ⟨hbefore, hrefused, hrest⟩

theorem lookup?_update_of_ne {change : Change} {subject : Subject} (h : change.subject ≠ subject) :
    (v.update change).2.lookup? subject = v.lookup? subject := by
  rcases v.update_becomes change with hsame | hbecomes
  · rw [hsame]
  · exact hbecomes.lookup?_of_ne h

/-- What no change is about stays as it is. -/
theorem lookup?_evolve_of_ne {subject : Subject}
    (h : ∀ change ∈ changes, change.subject ≠ subject) :
    (v.evolve changes).lookup? subject = v.lookup? subject := by
  induction changes generalizing v with
  | nil => rfl
  | cons change rest ih =>
    obtain ⟨hfirst, hrest⟩ := List.forall_mem_cons.1 h
    rw [evolve_cons, ih hrest, lookup?_update_of_ne hfirst]

/-! ## Vocabularies with the same entries -/

namespace Alike

theorem variableName (h : v.Alike w) : v.variableName = w.variableName := by
  simpa [lookup?] using h .variableName

theorem operator? (h : v.Alike w) (symbol : Char) : v.operator? symbol = w.operator? symbol := by
  refine Option.ext fun operator => ?_
  rw [← lookup?_operator_iff, h, lookup?_operator_iff]

theorem function? (h : v.Alike w) (name : String) : v.function? name = w.function? name := by
  refine Option.ext fun rule => ?_
  rw [← lookup?_function_iff, h, lookup?_function_iff]

theorem hasOperator (h : v.Alike w) (symbol : Char) :
    v.hasOperator symbol = w.hasOperator symbol := by
  rw [hasOperator_eq_isSome, hasOperator_eq_isSome, h.operator?]

theorem hasFunction (h : v.Alike w) (name : String) : v.hasFunction name = w.hasFunction name := by
  rw [hasFunction_eq_isSome, hasFunction_eq_isSome, h.function?]

/-- Two lists that ascend and have the same members are the same. -/
theorem operatorSymbols (h : v.Alike w) : v.operatorSymbols = w.operatorSymbols := by
  refine v.pairwise_operatorSymbols.eq_of_mem_iff w.pairwise_operatorSymbols fun symbol => ?_
  rw [mem_operatorSymbols_iff, mem_operatorSymbols_iff, h.operator?]

theorem functionNames (h : v.Alike w) : v.functionNames = w.functionNames := by
  refine v.pairwise_functionNames.eq_of_mem_iff w.pairwise_functionNames fun name => ?_
  rw [mem_functionNames_iff, mem_functionNames_iff, h.function?]

theorem step (h : v.Alike w) : Reading.step v = Reading.step w := by
  funext r token
  cases token <;>
    simp only [Reading.step, Reading.onValue, Reading.onOperator, h.variableName, h.operator?,
      h.function?]

theorem parse (h : v.Alike w) (formula : String) : v.parse formula = w.parse formula := by
  simp only [Vocabulary.parse, parseTokens, Reading.ofTokens, h.step]

theorem reply (h : v.Alike w) (change : Change) : (v.update change).1 = (w.update change).1 := by
  cases change with
  | rename name =>
    simp only [Vocabulary.update, rename_run, h.hasFunction]
    cases nameFault? name with
    | some fault => rfl
    | none => cases w.hasFunction name <;> rfl
  | addOperator symbol operator =>
    simp only [Vocabulary.update, addOperator_run]
    cases symbolFault? symbol <;> rfl
  | removeOperator symbol => exact congrArg Reply.removed (h.hasOperator symbol)
  | addFunction name rule =>
    simp only [Vocabulary.update, addFunction_run, h.variableName]
    cases nameFault? name with
    | some fault => rfl
    | none => by_cases hname : name = w.variableName <;> simp [outcome, hname]
  | removeFunction name => exact congrArg Reply.removed (h.hasFunction name)

theorem update (h : v.Alike w) (change : Change) :
    (v.update change).2.Alike (w.update change).2 := by
  refine fun subject => Option.ext fun put => ?_
  rw [lookup?_update_iff, lookup?_update_iff, h.reply, h]

theorem answer (h : v.Alike w) (request : Request) :
    (v.answer request).1 = (w.answer request).1 ∧
      (v.answer request).2.Alike (w.answer request).2 := by
  cases request with
  | parse formula => exact ⟨congrArg Answer.tree (h.parse formula), h⟩
  | update change => exact ⟨congrArg Answer.reply (h.reply change), h.update change⟩

theorem foldl {s t : Session Vocabulary} (hlog : s.log = t.log) (h : s.state.Alike t.state)
    (requests : List Request) :
    (requests.foldl (Session.ask Vocabulary.answer) s).log
      = (requests.foldl (Session.ask Vocabulary.answer) t).log := by
  induction requests generalizing s t with
  | nil => exact hlog
  | cons request requests ih =>
    obtain ⟨hanswer, hstate⟩ := h.answer request
    refine ih ?_ hstate
    unfold Session.ask
    rw [hanswer, hlog]

/-- Whatever they are asked for, they answer the same. -/
theorem session (h : v.Alike w) (requests : List Request) :
    (v.session requests).log = (w.session requests).log :=
  foldl (s := ⟨[], v⟩) (t := ⟨[], w⟩) rfl h requests

end Alike

/-- Changes that are answered in the same way when made again have no effect then. -/
theorem alike_evolve_evolve (h : (v.evolve changes).record changes = v.record changes) :
    ((v.evolve changes).evolve changes).Alike (v.evolve changes) := by
  refine fun subject => Option.ext fun put => ?_
  rw [lookup?_evolve_iff, h, lookup?_evolve_iff]
  tauto

/-! ## Additions -/

theorem subject_ne_of_fit {change : Change} (h : change.FitAddition) :
    change.subject ≠ .variableName := by
  cases change with
  | rename _ => cases h
  | _ => nofun

theorem exists_rule_of_fit {change : Change} {name : String} (h : change.FitAddition)
    (hsubject : change.subject = .function name) : ∃ rule, change = .addFunction name rule := by
  cases change with
  | addFunction other rule =>
    cases hsubject
    exact ⟨rule, rfl⟩
  | removeFunction _ => cases h
  | _ => nomatch hsubject

/-- Only the variable can prevent an addition, by having the name of the function. -/
theorem reply_of_fit {change : Change} (h : change.FitAddition) :
    (v.update change).1 =
      if change.subject = .function v.variableName then
        .refused (.variableNameTaken v.variableName)
      else .accepted := by
  cases change with
  | addOperator symbol operator =>
    rw [if_neg nofun]
    exact accepted_addOperator_iff.2 h
  | addFunction name rule =>
    have hfit : nameFault? name = none := h
    by_cases hname : name = v.variableName
    · simp [update, addFunction_run, outcome, Change.subject, hfit, ← hname]
    · have hsubject : (Change.addFunction name rule).subject ≠ .function v.variableName :=
        fun heq => hname (Subject.function.inj heq)
      rw [if_neg hsubject]
      exact accepted_addFunction_iff.2 ⟨hfit, hname⟩
  | _ => cases h

theorem variableName_evolve_of_fit (h : ∀ change ∈ changes, change.FitAddition) :
    (v.evolve changes).variableName = v.variableName := by
  have hentry : (v.evolve changes).lookup? .variableName = v.lookup? .variableName :=
    lookup?_evolve_of_ne fun change hchange => subject_ne_of_fit (h change hchange)
  simpa [lookup?] using hentry

/-- The name of the variable alone decides how additions are answered. -/
theorem record_of_fit (h : ∀ change ∈ changes, change.FitAddition) :
    v.record changes = changes.map fun change =>
      (change, if change.subject = .function v.variableName then
          .refused (.variableNameTaken v.variableName)
        else .accepted) := by
  induction changes generalizing v with
  | nil => rfl
  | cons change rest ih =>
    obtain ⟨hfirst, hrest⟩ := List.forall_mem_cons.1 h
    have hone : (v.evolve [change]).variableName = v.variableName :=
      variableName_evolve_of_fit (List.forall_mem_singleton.2 hfirst)
    have hname : (v.update change).2.variableName = v.variableName := hone
    rw [record, ih hrest, hname, reply_of_fit hfirst, List.map_cons]

theorem accepted_install_iff_of_fit (h : ∀ change ∈ changes, change.FitAddition) :
    (v.install changes).1 = .accepted ↔
      ∀ change ∈ changes, change.subject ≠ .function v.variableName := by
  rw [accepted_install_iff, record_of_fit h, List.forall_mem_map]
  refine forall₂_congr fun change _ => ?_
  split_ifs with hsubject
  · exact iff_of_false nofun fun hne => hne hsubject
  · exact iff_of_true rfl hsubject

/-- Additions that are not accepted stop at the function that has the name of the variable. -/
theorem exists_of_install_refused_of_fit (h : ∀ change ∈ changes, change.FitAddition)
    (hrefused : (v.install changes).1 ≠ .accepted) :
    ∃ before rule after, changes = before ++ .addFunction v.variableName rule :: after ∧
      v.install before = (.accepted, v.evolve before) ∧
      v.install changes = (.refused (.variableNameTaken v.variableName), v.evolve before) := by
  obtain ⟨before, change, after, cause, rfl, hbefore, hchange, hinstall⟩ :=
    exists_of_install_refused hrefused
  obtain ⟨hearlier, hlater⟩ := List.forall_mem_append.1 h
  have hfit : change.FitAddition := (List.forall_mem_cons.1 hlater).1
  rw [reply_of_fit hfit, variableName_evolve_of_fit hearlier] at hchange
  split_ifs at hchange with hsubject
  cases hchange
  obtain ⟨rule, rfl⟩ := exists_rule_of_fit hfit hsubject
  exact ⟨before, rule, after, rfl, hbefore, hinstall⟩

/-- Additions that are accepted are accepted again, to no effect. -/
theorem install_again_of_fit (h : ∀ change ∈ changes, change.FitAddition)
    (haccepted : (v.install changes).1 = .accepted) :
    let w := (v.install changes).2
    (w.install changes).1 = .accepted ∧ (w.install changes).2.Alike w := by
  intro w
  have hw : w = v.evolve changes := evolve_of_install haccepted
  have hname : w.variableName = v.variableName := by rw [hw, variableName_evolve_of_fit h]
  have hagain : (w.install changes).1 = .accepted := by
    rw [accepted_install_iff_of_fit h] at haccepted ⊢
    rwa [hname]
  refine ⟨hagain, ?_⟩
  rw [evolve_of_install hagain, hw]
  refine alike_evolve_evolve ?_
  rw [record_of_fit h, record_of_fit h, ← hw, hname]

/-! ## The preset -/

theorem fit_preset : ∀ change ∈ preset, change.FitAddition := by decide +kernel

/-- The preset is accepted unless one of its functions has the name of the variable. -/
theorem accepted_install_preset_iff :
    (v.install preset).1 = .accepted ↔ ¬ ∃ rule, .addFunction v.variableName rule ∈ preset := by
  rw [accepted_install_iff_of_fit fit_preset]
  constructor
  · rintro h ⟨rule, hrule⟩
    exact h _ hrule rfl
  · intro h change hchange hsubject
    obtain ⟨rule, rfl⟩ := exists_rule_of_fit (fit_preset change hchange) hsubject
    exact h ⟨rule, hchange⟩

end Vocabulary

/-- What is refused leaves everything as it was: a change of a vocabulary, as it is carried out and
    as it is answered, a change of a memo, and a text that is given to a memo but is no formula. The
    preset is refused if and only if the variable has the name of one of its functions. Then what
    comes before this function is installed, and nothing else is touched. A preset that is accepted
    is accepted again, and leaves a vocabulary that cannot be told from what it was. -/
theorem refused_intact (v : Vocabulary) (m : Memo) :
    ((∀ name cause w, (Vocabulary.rename name).run v = .error cause w → w = v) ∧
      (∀ symbol operator cause w,
        (Vocabulary.addOperator symbol operator).run v = .error cause w → w = v) ∧
      ∀ name rule cause w, (Vocabulary.addFunction name rule).run v = .error cause w → w = v) ∧
    (∀ change cause, (v.update change).1 = .refused cause → (v.update change).2 = v) ∧
    (∀ change cause, (m.update change).1 = .refused cause → (m.update change).2 = m) ∧
    (∀ formula cause, (m.parse formula).1 = .error cause → (m.parse formula).2 = m) ∧
    ((v.install preset).1 ≠ .accepted ↔ ∃ rule, .addFunction v.variableName rule ∈ preset) ∧
    ((v.install preset).1 ≠ .accepted →
      (v.install preset).1 = .refused (.variableNameTaken v.variableName) ∧
      ∃ before rule after, preset = before ++ .addFunction v.variableName rule :: after ∧
        v.install before = (.accepted, (v.install preset).2) ∧
        ∀ subject, (∀ change ∈ before, change.subject ≠ subject) →
          (v.install preset).2.lookup? subject = v.lookup? subject) ∧
    ((v.install preset).1 = .accepted →
      let w := (v.install preset).2
      let again := (w.install preset).2
      (w.install preset).1 = .accepted ∧ again.variableName = w.variableName ∧
      (∀ symbol, again.operator? symbol = w.operator? symbol) ∧
      (∀ name, again.function? name = w.function? name) ∧
      again.operatorSymbols = w.operatorSymbols ∧ again.functionNames = w.functionNames ∧
      ∀ requests, (again.session requests).log = (w.session requests).log) := by
  refine ⟨⟨fun name _ _ => Vocabulary.eq_of_error (.rename name) rfl,
      fun symbol operator _ _ => Vocabulary.eq_of_error (.addOperator symbol operator) rfl,
      fun name rule _ _ => Vocabulary.eq_of_error (.addFunction name rule) rfl⟩,
    fun change cause h => ?_, fun change cause h => ?_, fun formula cause h => ?_, ?_,
    fun h => ?_, fun h => ?_⟩
  · rw [Vocabulary.update_of_refused h]
  · rw [Memo.update_of_refused h]
  · rw [Memo.parse_of_error h]
  · rw [ne_eq, Vocabulary.accepted_install_preset_iff, not_not]
  · obtain ⟨before, rule, after, hpreset, hbefore, hinstall⟩ :=
      Vocabulary.exists_of_install_refused_of_fit Vocabulary.fit_preset h
    rw [hinstall]
    exact ⟨rfl, before, rule, after, hpreset, hbefore,
      fun subject hsubject => Vocabulary.lookup?_evolve_of_ne hsubject⟩
  · obtain ⟨hagain, halike⟩ := Vocabulary.install_again_of_fit Vocabulary.fit_preset h
    exact ⟨hagain, halike.variableName, halike.operator?, halike.function?,
      halike.operatorSymbols, halike.functionNames, halike.session⟩

/-- A variable with the name of the tangent stops the preset there, and takes no empty name either.
    A function with the name of that variable is refused where it is added already, too.
    A memo with two trees keeps them when it is asked for a function with the name of its variable,
    and for the tree of an unfinished sum. The preset alone is accepted twice. -/
theorem refused_intact_tangent :
    let v := Vocabulary.empty.evolve [.rename "tan"]
    let w := (Vocabulary.empty.install preset).2
    let m := ((Memo.ofCapacity w 2).session [.parse "x+x", .parse "x"]).state
    let change : Change := .addFunction "x" Float.abs
    (∃ w, (Vocabulary.addFunction "tan" Float.abs).run v = .error (.variableNameTaken "tan") w ∧
        w = v) ∧
      ((v.update (.rename "")).1 = .refused .emptyName ∧ (v.update (.rename "")).2 = v) ∧
      m.trees.keys = ["x", "x+x"] ∧
      ((m.update change).1 = .refused (.variableNameTaken "x") ∧ (m.update change).2 = m) ∧
      ((m.parse "x+").1 = .error .operandsExhausted ∧ (m.parse "x+").2 = m) ∧
      ((v.install preset).1 ≠ .accepted ∧
        ∃ before rule after, preset = before ++ .addFunction v.variableName rule :: after ∧
          v.install before = (.accepted, (v.install preset).2)) ∧
      (v.install preset).2.functionNames = ["cos", "sin", "sqrt"] ∧
      (Vocabulary.empty.install preset).1 = .accepted ∧ (w.install preset).1 = .accepted := by
  intro v w m change
  obtain ⟨⟨-, -, hadd⟩, hv, hupdate, hparse, hpreset, hstop, -⟩ := refused_intact v m
  obtain ⟨-, -, -, -, -, -, hagain⟩ := refused_intact Vocabulary.empty m
  have htaken : (Vocabulary.addFunction "tan" Float.abs).run v
      = .error (.variableNameTaken "tan") v := rfl
  have hname : (v.update (.rename "")).1 = .refused .emptyName := rfl
  have hchange : (m.update change).1 = .refused (.variableNameTaken "x") := by decide +kernel
  have hformula : (m.parse "x+").1 = .error .operandsExhausted := rfl
  have hvariable : v.variableName = "tan" := rfl
  have htan : (v.install preset).1 ≠ .accepted :=
    hpreset.2 ⟨Float.tan, by simp [hvariable, preset, elementary]⟩
  have haccepted : (Vocabulary.empty.install preset).1 = .accepted := by decide +kernel
  obtain ⟨-, before, rule, after, hsplit, hbefore, -⟩ := hstop htan
  exact ⟨⟨v, htaken, hadd _ _ _ _ htaken⟩, ⟨hname, hv _ _ hname⟩, by decide +kernel,
    ⟨hchange, hupdate _ _ hchange⟩, ⟨hformula, hparse _ _ hformula⟩,
    ⟨htan, before, rule, after, hsplit, hbefore⟩, by decide +kernel, haccepted,
    (hagain haccepted).1⟩

end Formula
