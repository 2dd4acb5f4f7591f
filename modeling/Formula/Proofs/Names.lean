import Formula.Proofs.History

/-!
# Names that are taken

The variable and the functions share one stock of names. A name that one of them has is out of
reach of the other until it is given up, and a name that neither has is open to both. So what a
vocabulary does with a name can be told from who has it, in every vocabulary that can come about.

* `Vocabulary.Taken`, `Vocabulary.Keeps`: a name that somebody has, and changes that never free it.
* `accepted_iff_exists_becomes`, `accepted_rename_iff`, `accepted_addFunction_iff`: which changes,
  and so which names, are accepted.
* `Coherent.variableName_update`, `Coherent.hasFunction_update`: while a name is taken, it stays
  with whoever has it.
* `names_evolve`: all of this after every list of changes.
-/

namespace Formula.Vocabulary

/-- The variable or a function has this name. -/
def Taken (v : Vocabulary) (name : String) : Prop :=
  name = v.variableName ∨ v.hasFunction name = true

instance (v : Vocabulary) (name : String) : Decidable (v.Taken name) :=
  inferInstanceAs (Decidable (name = v.variableName ∨ v.hasFunction name = true))

/-- None of the changes, made one after the other, frees the name. -/
def Keeps (name : String) : Vocabulary → List Change → Prop
  | _, [] => True
  | v, change :: rest =>
    (v.Taken name → (v.update change).2.Taken name) ∧ Keeps name (v.update change).2 rest

variable {v : Vocabulary} {name : String}

/-! ## Which names are accepted -/

/-- Unless it removes something, a change is accepted if there is something that it can do. -/
theorem accepted_iff_exists_becomes {change : Change} (hadds : change.removes = false) :
    (v.update change).1 = .accepted ↔ ∃ w, v.Becomes change w := by
  constructor
  · intro h
    rcases v.update_granted change with ⟨cause, hv⟩ | ⟨w, hw, -⟩
    · rw [hv] at h
      cases h
    · exact ⟨w, hw⟩
  · rintro ⟨w, hw⟩
    rw [update_of_becomes hw]
    cases change with
    | removeOperator _ => cases hadds
    | removeFunction _ => cases hadds
    | _ => rfl

/-- The variable may have every name that is one, unless a function has it. -/
theorem accepted_rename_iff :
    (v.update (.rename name)).1 = .accepted ↔
      nameFault? name = none ∧ v.hasFunction name = false := by
  rw [accepted_iff_exists_becomes rfl]
  constructor
  · rintro ⟨_, hw⟩
    cases hw with
    | rename hfit hfree => exact ⟨hfit, hfree⟩
  · rintro ⟨hfit, hfree⟩
    exact ⟨_, .rename hfit hfree⟩

/-- A name that is accepted is the name of the variable from then on. -/
theorem update_rename_of_accepted (h : (v.update (.rename name)).1 = .accepted) :
    (v.update (.rename name)).2 = { v with variableName := name } := by
  obtain ⟨hfit, hfree⟩ := accepted_rename_iff.1 h
  rw [update_of_becomes (.rename hfit hfree)]

/-- Every character may be an operator that has no other use. -/
theorem accepted_addOperator_iff {symbol : Char} {operator : Operator} :
    (v.update (.addOperator symbol operator)).1 = .accepted ↔ symbolFault? symbol = none := by
  rw [accepted_iff_exists_becomes rfl]
  constructor
  · rintro ⟨_, hw⟩
    cases hw with
    | addOperator hfit => exact hfit
  · intro hfit
    exact ⟨_, .addOperator hfit⟩

/-- A function may have every name that is one, unless the variable has it. -/
theorem accepted_addFunction_iff {rule : UnaryRule} :
    (v.update (.addFunction name rule)).1 = .accepted ↔
      nameFault? name = none ∧ name ≠ v.variableName := by
  rw [accepted_iff_exists_becomes rfl]
  constructor
  · rintro ⟨_, hw⟩
    cases hw with
    | addFunction hfit hne => exact ⟨hfit, hne⟩
  · rintro ⟨hfit, hne⟩
    exact ⟨_, .addFunction hfit hne⟩

/-! ## One change -/

/-- The variable keeps its name or gets one that no function had. -/
theorem variableName_update_cases (v : Vocabulary) (change : Change) :
    (v.update change).2.variableName = v.variableName ∨
      v.hasFunction (v.update change).2.variableName = false := by
  rcases v.update_becomes change with hsame | hbecomes
  · exact .inl (congrArg variableName hsame)
  · generalize (v.update change).2 = w at hbecomes ⊢
    cases hbecomes with
    | rename _ hfree => exact .inr hfree
    | _ => exact .inl rfl

/-- A function was there before, or got a name that the variable does not have. -/
theorem hasFunction_update_cases {change : Change}
    (h : (v.update change).2.hasFunction name = true) :
    v.hasFunction name = true ∨ name ≠ v.variableName := by
  rcases v.update_becomes change with hsame | hbecomes
  · rw [hsame] at h
    exact .inl h
  · generalize (v.update change).2 = w at h hbecomes
    cases hbecomes with
    | addFunction _ hne =>
      rcases hasFunction_insert.1 h with rfl | h
      · exact .inr hne
      · exact .inl h
    | removeFunction => exact .inl (hasFunction_of_removeFunction h)
    | _ => exact .inl h

/-- A name of the variable that stays taken stays that of the variable. -/
theorem Coherent.variableName_update (h : v.Coherent) {change : Change}
    (hname : name = v.variableName) (htaken : (v.update change).2.Taken name) :
    name = (v.update change).2.variableName := by
  rcases htaken with htaken | htaken
  · exact htaken
  · have hfree : v.hasFunction name = false := hname ▸ h.variable_apart
    rcases hasFunction_update_cases htaken with hfunction | hne
    · rw [hfree] at hfunction
      cases hfunction
    · exact absurd hname hne

/-- A name of a function that stays taken stays that of a function. -/
theorem Coherent.hasFunction_update (h : v.Coherent) {change : Change}
    (hname : v.hasFunction name = true) (htaken : (v.update change).2.Taken name) :
    (v.update change).2.hasFunction name = true := by
  rcases htaken with rfl | htaken
  · rcases v.variableName_update_cases change with hsame | hfree
    · rw [hsame, h.variable_apart] at hname
      cases hname
    · rw [hfree] at hname
      cases hname
  · exact htaken

/-! ## Many changes -/

theorem Coherent.variableName_evolve (h : v.Coherent) (hname : name = v.variableName)
    {changes : List Change} (hkeeps : v.Keeps name changes) :
    name = (v.evolve changes).variableName := by
  induction changes generalizing v with
  | nil => exact hname
  | cons change changes ih =>
    obtain ⟨hfirst, hrest⟩ := hkeeps
    exact ih (h.update change) (h.variableName_update hname (hfirst (.inl hname))) hrest

theorem Coherent.hasFunction_evolve (h : v.Coherent) (hname : v.hasFunction name = true)
    {changes : List Change} (hkeeps : v.Keeps name changes) :
    (v.evolve changes).hasFunction name = true := by
  induction changes generalizing v with
  | nil => exact hname
  | cons change changes ih =>
    obtain ⟨hfirst, hrest⟩ := hkeeps
    exact ih (h.update change) (h.hasFunction_update hname (hfirst (.inr hname))) hrest

/-- Once the variable has asked for a free name, no function gets it until it is freed. -/
theorem Coherent.not_accepted_addFunction (h : v.Coherent) (hfree : ¬ v.Taken name)
    {between : List Change} (hkeeps : (v.update (.rename name)).2.Keeps name between)
    (rule : UnaryRule) :
    (((v.update (.rename name)).2.evolve between).update (.addFunction name rule)).1
      ≠ .accepted := by
  intro haccepted
  obtain ⟨hfit, hne⟩ := accepted_addFunction_iff.1 haccepted
  have hfunction : v.hasFunction name = false := Bool.eq_false_iff.2 fun hf => hfree (.inr hf)
  have hfirst : (v.update (.rename name)).1 = .accepted := accepted_rename_iff.2 ⟨hfit, hfunction⟩
  refine hne ((h.update _).variableName_evolve ?_ hkeeps)
  rw [update_rename_of_accepted hfirst]

/-- Once a function has asked for a free name, the variable does not get it until it is freed. -/
theorem Coherent.not_accepted_rename (h : v.Coherent) (hfree : ¬ v.Taken name)
    {rule : UnaryRule} {between : List Change}
    (hkeeps : (v.update (.addFunction name rule)).2.Keeps name between) :
    (((v.update (.addFunction name rule)).2.evolve between).update (.rename name)).1
      ≠ .accepted := by
  intro haccepted
  obtain ⟨hfit, hfunction⟩ := accepted_rename_iff.1 haccepted
  have hne : name ≠ v.variableName := fun hname => hfree (.inl hname)
  have hlast := (h.update _).hasFunction_evolve (by
    rw [update_of_becomes (.addFunction hfit hne)]
    exact hasFunction_insert.2 (.inl rfl)) hkeeps
  rw [hfunction] at hlast
  cases hlast

/-- After every list of changes names are made of letters and the variable has none of a function,
    and symbols are of no use for anything else. Exactly the names that are one and that the other
    kind does not have are accepted, so that of a function and the variable that both ask for a free
    name at most the first one gets it, as long as it is not freed in between. -/
theorem names_evolve (history : List Change) :
    let v := empty.evolve history
    (v.variableName ≠ "" ∧ ∀ c ∈ v.variableName.toList, Text.isLetter c = true) ∧
    (∀ name, v.hasFunction name = true →
      name ≠ "" ∧ (∀ c ∈ name.toList, Text.isLetter c = true) ∧ name ≠ v.variableName) ∧
    (∀ symbol, v.hasOperator symbol = true → Text.isBlank symbol = false ∧
      symbol.isDigit = false ∧ symbol ≠ '.' ∧ Text.isLetter symbol = false ∧ symbol ≠ '(' ∧
      symbol ≠ ')') ∧
    (∀ name, (v.update (.rename name)).1 = .accepted ↔
      (name ≠ "" ∧ ∀ c ∈ name.toList, Text.isLetter c = true) ∧ v.hasFunction name = false) ∧
    (∀ name rule, (v.update (.addFunction name rule)).1 = .accepted ↔
      (name ≠ "" ∧ ∀ c ∈ name.toList, Text.isLetter c = true) ∧ name ≠ v.variableName) ∧
    ∀ name rule between, ¬ v.Taken name →
      ((v.update (.rename name)).2.Keeps name between →
        (((v.update (.rename name)).2.evolve between).update (.addFunction name rule)).1
          ≠ .accepted) ∧
      ((v.update (.addFunction name rule)).2.Keeps name between →
        (((v.update (.addFunction name rule)).2.evolve between).update (.rename name)).1
          ≠ .accepted) := by
  intro v
  have hv : v.Coherent := coherent_evolve history
  refine ⟨nameFault?_eq_none_iff.1 hv.variable_fit, fun name hname => ?_, fun symbol hsymbol => ?_,
    fun name => ?_, fun name rule => ?_, fun name rule between hfree => ⟨fun hkeeps => ?_, ?_⟩⟩
  · obtain ⟨hne, hletters⟩ := nameFault?_eq_none_iff.1 (hv.function_fit name hname)
    refine ⟨hne, hletters, ?_⟩
    rintro rfl
    rw [hv.variable_apart] at hname
    cases hname
  · exact symbolFault?_eq_none_iff.1 (hv.operator_fit symbol hsymbol)
  · rw [accepted_rename_iff, nameFault?_eq_none_iff]
  · rw [accepted_addFunction_iff, nameFault?_eq_none_iff]
  · exact hv.not_accepted_addFunction hfree hkeeps rule
  · exact hv.not_accepted_rename hfree

/-- The name `y` goes to the variable, which gives up `x` for it. A function takes `x`, and neither
    of the two frees `y`; so it is refused to a function afterwards, though removed as one. The
    other way round a function has `y`, and the variable gets `z` but not `y`. -/
theorem names_evolve_renamed :
    let v := empty.evolve preset
    let between : List Change := [.addFunction "x" Float.abs, .removeFunction "y"]
    let between' : List Change := [.rename "z", .removeFunction "ln"]
    (v.hasFunction "ln" = true ∧ "ln" ≠ v.variableName) ∧
      (v.hasOperator '-' = true ∧ Text.isLetter '-' = false) ∧ ¬ v.Taken "y" ∧
      ((v.update (.rename "y")).2.Keeps "y" between ∧ (v.update (.rename "y")).1 = .accepted ∧
        (((v.update (.rename "y")).2.evolve between).update (.addFunction "y" Float.abs)).1
          ≠ .accepted) ∧
      (v.update (.addFunction "y" Float.abs)).2.Keeps "y" between' ∧
        (v.update (.addFunction "y" Float.abs)).1 = .accepted ∧
        (((v.update (.addFunction "y" Float.abs)).2.evolve between').update (.rename "y")).1
          ≠ .accepted := by
  intro v between between'
  obtain ⟨-, hnames, hsymbols, -, -, hfirst⟩ := names_evolve preset
  have hfunction : v.hasFunction "ln" = true := rfl
  have hoperator : v.hasOperator '-' = true := rfl
  have hfree : ¬ v.Taken "y" := by decide +kernel
  have hvariable : (v.update (.rename "y")).2.Keeps "y" between :=
    ⟨fun _ => .inl rfl, fun _ => .inl rfl, trivial⟩
  have hlast : (v.update (.addFunction "y" Float.abs)).2.Keeps "y" between' :=
    ⟨fun _ => .inr rfl, fun _ => .inr rfl, trivial⟩
  exact ⟨⟨hfunction, (hnames "ln" hfunction).2.2⟩,
    ⟨hoperator, (hsymbols '-' hoperator).2.2.2.1⟩, hfree,
    ⟨hvariable, rfl, (hfirst "y" Float.abs between hfree).1 hvariable⟩,
    hlast, rfl, (hfirst "y" Float.abs between' hfree).2 hlast⟩

end Formula.Vocabulary
