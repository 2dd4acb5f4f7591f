import Formula.Proofs.Session
import Mathlib.Data.Char
import Mathlib.Data.String.Basic
import Mathlib.Order.Compare

/-!
# What a record shows

A vocabulary can be told from the record of what was asked of it and how it answered. Of each name
and symbol, and of the name of the variable, the last change that was not refused counts: if it put
something there, that is what is found, and if it was a removal, nothing is. Refused changes do not
count, and neither does what came before.

* `Subject`, `Change.subject`: what a change is about.
* `Vocabulary.lookup?`: what a vocabulary has under a subject.
* `Vocabulary.record`, `InForce`: changes with their answers, and those that count at the end.
* `Becomes.lookup?_eq`, `lookup?_update_iff`: what one change does to an entry.
* `lookup?_evolve_iff`: an entry is put there by the change in force, or was there from the start.
* `removed_operator_of_record`, `removed_function_of_record`: what a removal is answered can be told
  from the record before it.
* `lookups_evolve`: all that can be looked up after a list of changes.
-/

namespace Formula

/-! ## Definitions -/

/-- What a change is about. -/
inductive Subject where
  | variableName
  | operator (symbol : Char)
  | function (name : String)
deriving DecidableEq

/-- A change is about the name of the variable, or about one operator or function. -/
def Change.subject : Change → Subject
  | rename _ => .variableName
  | addOperator symbol _ | removeOperator symbol => .operator symbol
  | addFunction name _ | removeFunction name => .function name

/-- Whether something was refused. -/
def Reply.isRefusal : Reply → Bool
  | refused _ => true
  | _ => false

/-- What a vocabulary has under a subject, as the change that puts it there. -/
def Vocabulary.lookup? (v : Vocabulary) : Subject → Option Change
  | .variableName => some (.rename v.variableName)
  | .operator symbol => (v.operator? symbol).map (.addOperator symbol)
  | .function name => (v.function? name).map (.addFunction name)

/-- Changes with the answers to them, in their order. -/
def Vocabulary.record (v : Vocabulary) : List Change → List (Change × Reply)
  | [] => []
  | change :: rest => (change, (v.update change).1) :: (v.update change).2.record rest

/-- All changes of this subject are refused. -/
def Untouched (subject : Subject) (record : List (Change × Reply)) : Prop :=
  ∀ entry ∈ record, entry.1.subject = subject → entry.2.isRefusal = true

instance (subject : Subject) (record : List (Change × Reply)) :
    Decidable (Untouched subject record) :=
  inferInstanceAs
    (Decidable (∀ entry ∈ record, entry.1.subject = subject → entry.2.isRefusal = true))

/-- The entry is in the record, and all later changes of its subject are refused. -/
def InForce (record : List (Change × Reply)) (entry : Change × Reply) : Prop :=
  ∃ before after, record = before ++ entry :: after ∧ Untouched entry.1.subject after

variable {v w : Vocabulary}

/-! ## Records -/

theorem untouched_cons_iff {subject : Subject} {first : Change × Reply}
    {record : List (Change × Reply)} :
    Untouched subject (first :: record) ↔
      (first.1.subject = subject → first.2.isRefusal = true) ∧ Untouched subject record :=
  List.forall_mem_cons

/-- An entry in force at the end is one of the rest, or the first if the rest does not touch it. -/
theorem inForce_cons_iff {first entry : Change × Reply} {record : List (Change × Reply)} :
    InForce (first :: record) entry ↔
      InForce record entry ∨ (first = entry ∧ Untouched entry.1.subject record) := by
  constructor
  · rintro ⟨before, after, hrecord, hafter⟩
    cases before with
    | nil =>
      obtain ⟨rfl, rfl⟩ := List.cons.inj hrecord
      exact .inr ⟨rfl, hafter⟩
    | cons _ before => exact .inl ⟨before, after, (List.cons.inj hrecord).2, hafter⟩
  · rintro (⟨before, after, rfl, hafter⟩ | ⟨rfl, hrecord⟩)
    · exact ⟨first :: before, after, rfl, hafter⟩
    · exact ⟨[], record, rfl, hrecord⟩

theorem not_inForce_nil {entry : Change × Reply} : ¬ InForce [] entry := by
  rintro ⟨before, after, hrecord, -⟩
  exact absurd hrecord.symm (by simp)

/-! ## One change -/

namespace Vocabulary

theorem lookup?_operator_iff {symbol : Char} {operator : Operator} :
    v.lookup? (.operator symbol) = some (.addOperator symbol operator) ↔
      v.operator? symbol = some operator := by
  simp [lookup?]

theorem lookup?_function_iff {name : String} {rule : UnaryRule} :
    v.lookup? (.function name) = some (.addFunction name rule) ↔ v.function? name = some rule := by
  simp [lookup?]

/-- A change that is not refused puts an entry under its subject, or takes away what is there. -/
theorem Becomes.lookup?_subject {change : Change} (h : v.Becomes change w) :
    w.lookup? change.subject = if change.removes then none else some change := by
  cases h with
  | rename _ _ => rfl
  | addOperator _ => simp [lookup?, Change.subject, Change.removes, operator?_insert]
  | removeOperator => simp [lookup?, Change.subject, Change.removes, operator?_removeOperator]
  | addFunction _ _ => simp [lookup?, Change.subject, Change.removes, function?_insert]
  | removeFunction => simp [lookup?, Change.subject, Change.removes, function?_removeFunction]

/-- A change leaves everything that it is not about. -/
theorem Becomes.lookup?_of_ne {change : Change} {subject : Subject} (h : v.Becomes change w)
    (hne : change.subject ≠ subject) : w.lookup? subject = v.lookup? subject := by
  cases subject with
  | variableName =>
    cases h with
    | rename _ _ => exact absurd rfl hne
    | _ => rfl
  | operator symbol =>
    cases h with
    | @addOperator other operator _ =>
      have hother : other ≠ symbol := fun heq => hne (congrArg Subject.operator heq)
      simp [lookup?, operator?_insert, hother]
    | @removeOperator other =>
      have hother : other ≠ symbol := fun heq => hne (congrArg Subject.operator heq)
      simp [lookup?, operator?_removeOperator, hother]
    | _ => rfl
  | function name =>
    cases h with
    | @addFunction other rule _ _ =>
      have hother : other ≠ name := fun heq => hne (congrArg Subject.function heq)
      simp [lookup?, function?_insert, hother]
    | @removeFunction other =>
      have hother : other ≠ name := fun heq => hne (congrArg Subject.function heq)
      simp [lookup?, function?_removeFunction, hother]
    | _ => rfl

theorem isRefusal_grant (v : Vocabulary) (change : Change) :
    (v.grant change).isRefusal = false := by
  cases change <;> rfl

theorem grant_eq_accepted_iff {change : Change} :
    v.grant change = .accepted ↔ change.removes = false := by
  cases change <;> simp [grant, Change.removes]

/-- An entry after a change is the change itself, if it is accepted, or it was there before, if the
    change is about something else or is refused. -/
theorem lookup?_update_iff {change put : Change} {subject : Subject} :
    (v.update change).2.lookup? subject = some put ↔
      (put.subject = subject ∧ (change, (v.update change).1) = (put, .accepted)) ∨
      (v.lookup? subject = some put ∧
        (change.subject = subject → (v.update change).1.isRefusal = true)) := by
  rcases v.update_granted change with ⟨cause, h⟩ | ⟨w, hw, h⟩
  · simp [h, Reply.isRefusal]
  · rw [h, isRefusal_grant, Prod.mk.injEq, grant_eq_accepted_iff]
    by_cases hsubject : change.subject = subject
    · subst hsubject
      rw [hw.lookup?_subject]
      cases hremoves : change.removes with
      | true => simp
      | false =>
        constructor
        · intro hput
          cases hput
          exact .inl ⟨rfl, rfl, rfl⟩
        · rintro (⟨-, rfl, -⟩ | ⟨-, hfalse⟩)
          · rfl
          · cases hfalse rfl
    · rw [hw.lookup?_of_ne hsubject]
      constructor
      · exact fun hput => .inr ⟨hput, fun hsame => absurd hsame hsubject⟩
      · rintro (⟨hput, rfl, -⟩ | ⟨hput, -⟩)
        · exact absurd hput hsubject
        · exact hput

/-! ## Many changes -/

/-- An entry is there after changes if it was put there by a change that is in force at the end, or
    if it was there before and no change touched it. -/
theorem lookup?_evolve_iff {history : List Change} {put : Change} {subject : Subject} :
    (v.evolve history).lookup? subject = some put ↔
      (put.subject = subject ∧ InForce (v.record history) (put, .accepted)) ∨
      (v.lookup? subject = some put ∧ Untouched subject (v.record history)) := by
  induction history generalizing v with
  | nil => simp [evolve, record, not_inForce_nil, Untouched]
  | cons change rest ih =>
    rw [evolve_cons, ih, record, inForce_cons_iff, untouched_cons_iff, lookup?_update_iff]
    constructor
    · rintro (⟨rfl, hput⟩ | ⟨⟨rfl, hfirst⟩ | ⟨hput, hfirst⟩, hrest⟩)
      · exact .inl ⟨rfl, .inl hput⟩
      · exact .inl ⟨rfl, .inr ⟨hfirst, hrest⟩⟩
      · exact .inr ⟨hput, hfirst, hrest⟩
    · rintro (⟨rfl, hput | ⟨hfirst, hrest⟩⟩ | ⟨hput, hfirst, hrest⟩)
      · exact .inl ⟨rfl, hput⟩
      · exact .inr ⟨.inl ⟨rfl, hfirst⟩, hrest⟩
      · exact .inr ⟨.inr ⟨hput, hfirst⟩, hrest⟩

/-- The part of a record before an entry is the record of the changes before it, after which the
    change was asked for. -/
theorem exists_of_record_eq {history : List Change} {before after : List (Change × Reply)}
    {change : Change} {reply : Reply} (h : v.record history = before ++ (change, reply) :: after) :
    ∃ earlier, before = v.record earlier ∧ reply = ((v.evolve earlier).update change).1 := by
  induction before generalizing v history with
  | nil =>
    cases history with
    | nil => cases h
    | cons _ _ =>
      cases h
      exact ⟨[], rfl, rfl⟩
  | cons first before ih =>
    cases history with
    | nil => cases h
    | cons c rest =>
      obtain ⟨hfirst, hrest⟩ := List.cons.inj h
      obtain ⟨earlier, hbefore, hreply⟩ := ih hrest
      refine ⟨c :: earlier, ?_, hreply⟩
      rw [record, hfirst, hbefore]

/-! ## What can be looked up -/

/-- The symbols of the operators ascend, so that none is there twice. -/
theorem pairwise_operatorSymbols (v : Vocabulary) :
    v.operatorSymbols.Pairwise (·.toNat < ·.toNat) := by
  have h : v.operators.keys.Pairwise fun first second => compare first second = .lt :=
    Std.TreeMap.ordered_keys
  exact h.imp fun hlt => compare_lt_iff_lt.1 hlt

/-- The names of the functions ascend, so that none is there twice. -/
theorem pairwise_functionNames (v : Vocabulary) :
    v.functionNames.Pairwise
      fun first second => first.toList.map Char.toNat < second.toList.map Char.toNat := by
  have h : v.functions.keys.Pairwise fun first second => compare first second = .lt :=
    Std.TreeMap.ordered_keys
  refine h.imp fun hlt => ?_
  exact List.map_lt (fun _ _ hc => hc) (String.lt_iff.1 (compare_lt_iff_lt.1 hlt))

theorem mem_operatorSymbols_iff {symbol : Char} :
    symbol ∈ v.operatorSymbols ↔ ∃ operator, v.operator? symbol = some operator := by
  rw [← Option.isSome_iff_exists, ← hasOperator_eq_isSome]
  exact Std.TreeMap.mem_keys.trans Std.TreeMap.mem_iff_contains

theorem mem_functionNames_iff {name : String} :
    name ∈ v.functionNames ↔ ∃ rule, v.function? name = some rule := by
  rw [← Option.isSome_iff_exists, ← hasFunction_eq_isSome]
  exact Std.TreeMap.mem_keys.trans Std.TreeMap.mem_iff_contains

variable {history : List Change}

theorem operator?_evolve_iff {symbol : Char} {operator : Operator} :
    (empty.evolve history).operator? symbol = some operator ↔
      InForce (empty.record history) (.addOperator symbol operator, .accepted) := by
  rw [← lookup?_operator_iff, lookup?_evolve_iff]
  simp [Change.subject, lookup?, empty, operator?]

theorem function?_evolve_iff {name : String} {rule : UnaryRule} :
    (empty.evolve history).function? name = some rule ↔
      InForce (empty.record history) (.addFunction name rule, .accepted) := by
  rw [← lookup?_function_iff, lookup?_evolve_iff]
  simp [Change.subject, lookup?, empty, function?]

theorem variableName_evolve_iff {name : String} :
    (empty.evolve history).variableName = name ↔
      InForce (empty.record history) (.rename name, .accepted) ∨
        (name = "x" ∧ Untouched .variableName (empty.record history)) := by
  have h : (empty.evolve history).lookup? .variableName = some (.rename name) ↔ _ :=
    lookup?_evolve_iff
  simpa [Change.subject, lookup?, empty, eq_comm] using h

/-- A removal tells whether the last change of the operator that was not refused had added it. -/
theorem removed_operator_of_record {before after : List (Change × Reply)} {symbol : Char}
    {reply : Reply}
    (h : empty.record history = before ++ (.removeOperator symbol, reply) :: after) :
    ∃ present, reply = .removed present ∧
      (present = true ↔ ∃ operator, InForce before (.addOperator symbol operator, .accepted)) := by
  obtain ⟨earlier, rfl, rfl⟩ := exists_of_record_eq h
  refine ⟨(empty.evolve earlier).hasOperator symbol, rfl, ?_⟩
  rw [hasOperator_eq_isSome, Option.isSome_iff_exists]
  exact exists_congr fun operator => operator?_evolve_iff

/-- A removal tells whether the last change of the function that was not refused had added it. -/
theorem removed_function_of_record {before after : List (Change × Reply)} {name : String}
    {reply : Reply}
    (h : empty.record history = before ++ (.removeFunction name, reply) :: after) :
    ∃ present, reply = .removed present ∧
      (present = true ↔ ∃ rule, InForce before (.addFunction name rule, .accepted)) := by
  obtain ⟨earlier, rfl, rfl⟩ := exists_of_record_eq h
  refine ⟨(empty.evolve earlier).hasFunction name, rfl, ?_⟩
  rw [hasFunction_eq_isSome, Option.isSome_iff_exists]
  exact exists_congr fun rule => function?_evolve_iff

/-- All that can be looked up after a list of changes can be told from the record of them. Of each
    symbol and each name, and of the name of the variable, the last change that was not refused
    counts; what a removal answers depends on it in the same way. The two lists ascend by code
    points, without repetition, and have exactly what can be looked up. -/
theorem lookups_evolve (history : List Change) :
    let v := empty.evolve history
    let record := empty.record history
    (∀ symbol operator, v.operator? symbol = some operator ↔
      InForce record (.addOperator symbol operator, .accepted)) ∧
    (∀ name rule, v.function? name = some rule ↔
      InForce record (.addFunction name rule, .accepted)) ∧
    (∀ name, v.variableName = name ↔ InForce record (.rename name, .accepted) ∨
      (name = "x" ∧ Untouched .variableName record)) ∧
    (∀ before symbol reply after, record = before ++ (.removeOperator symbol, reply) :: after →
      ∃ present, reply = .removed present ∧
        (present = true ↔
          ∃ operator, InForce before (.addOperator symbol operator, .accepted))) ∧
    (∀ before name reply after, record = before ++ (.removeFunction name, reply) :: after →
      ∃ present, reply = .removed present ∧
        (present = true ↔ ∃ rule, InForce before (.addFunction name rule, .accepted))) ∧
    (∀ symbol, v.hasOperator symbol = (v.operator? symbol).isSome) ∧
    (∀ name, v.hasFunction name = (v.function? name).isSome) ∧
    (v.operatorSymbols.Pairwise (·.toNat < ·.toNat) ∧
      ∀ symbol, symbol ∈ v.operatorSymbols ↔ ∃ operator, v.operator? symbol = some operator) ∧
    v.functionNames.Pairwise
        (fun first second => first.toList.map Char.toNat < second.toList.map Char.toNat) ∧
      ∀ name, name ∈ v.functionNames ↔ ∃ rule, v.function? name = some rule :=
  ⟨fun _ _ => operator?_evolve_iff, fun _ _ => function?_evolve_iff,
    fun _ => variableName_evolve_iff, fun _ _ _ _ => removed_operator_of_record,
    fun _ _ _ _ => removed_function_of_record, hasOperator_eq_isSome _, hasFunction_eq_isSome _,
    ⟨pairwise_operatorSymbols _, fun _ => mem_operatorSymbols_iff⟩,
    pairwise_functionNames _, fun _ => mem_functionNames_iff⟩

/-- Of the two rules for `+` the second is in force, and the parenthesis that is asked for next is
    refused; the variable is `t`, since the empty name is refused. The name `x` goes to a function,
    once the variable has given it up, so that there is a function to be removed. -/
theorem lookups_evolve_replaced :
    let product : Operator := ⟨.multiplication, (· * ·)⟩
    let history : List Change := [.addOperator '+' ⟨.addition, (· + ·)⟩,
      .addFunction "x" Float.exp, .addOperator '+' product, .addOperator '(' product,
      .rename "t", .addFunction "x" Float.abs, .rename "", .removeFunction "x",
      .removeOperator '*']
    let v := empty.evolve history
    let record := empty.record history
    let before := record.take 7
    let after := record.drop 8
    (InForce record (.addOperator '+' product, .accepted) ∧ v.operator? '+' = some product) ∧
      (InForce record (.rename "t", .accepted) ∧ v.variableName = "t") ∧
      record = before ++ (.removeFunction "x", .removed true) :: after ∧
      (∃ rule, InForce before (.addFunction "x" rule, .accepted)) ∧ v.function? "x" = none := by
  intro product history v record before after
  obtain ⟨hoperator, -, hvariable, -, hremoved, -⟩ := lookups_evolve history
  have hplus : InForce record (.addOperator '+' product, .accepted) :=
    ⟨record.take 2, record.drop 3, rfl, by decide +kernel⟩
  have hname : InForce record (.rename "t", .accepted) :=
    ⟨record.take 4, record.drop 5, rfl, by decide +kernel⟩
  have hsplit : record = before ++ (.removeFunction "x", .removed true) :: after := rfl
  obtain ⟨present, hreply, hpresent⟩ := hremoved before "x" _ after hsplit
  cases hreply
  exact ⟨⟨hplus, (hoperator '+' product).2 hplus⟩, ⟨hname, (hvariable "t").2 (.inl hname)⟩, hsplit,
    hpresent.1 rfl, rfl⟩

end Vocabulary

end Formula
