import Formula.Memo
import Formula.Proofs.History

/-!
# Sessions

A vocabulary and a memo are asked for the same things: for the trees of formulas, and for changes.
A memo may have read a formula long before it is asked for it again, and still it answers as its
vocabulary would at that moment, since it never remembers a tree that its vocabulary would not read.

* `Session`: what was asked and answered, and what has become of the one who answers.
* `Memo.parse_eq`, `Memo.update_eq`: what one request can do to a memo.
* `Memo.Faithful`: what a memo remembers is what its vocabulary reads.
* `Faithful.parse`, `Faithful.update`: a faithful memo answers as its vocabulary does, and stays
  faithful.
* `Follows.ask`, `Follows.foldl`: so a session with it goes as one with its vocabulary.
* `session_ofCapacity`: this holds of every memo that starts with nothing remembered.
-/

namespace Formula

/-! ## Questions and answers -/

/-- What a vocabulary or a memo is asked for. -/
inductive Request where
  | parse (formula : String)
  | update (change : Change)

/-- What is answered. -/
inductive Answer where
  | tree (result : Except ParseError Expr)
  | reply (reply : Reply)

/-- The answer of a vocabulary, and the vocabulary after it. -/
def Vocabulary.answer (v : Vocabulary) : Request → Answer × Vocabulary
  | .parse formula => (.tree (v.parse formula), v)
  | .update change => (.reply (v.update change).1, (v.update change).2)

/-- The answer of a memo, and the memo after it. -/
def Memo.answer (m : Memo) : Request → Answer × Memo
  | .parse formula => (.tree (m.parse formula).1, (m.parse formula).2)
  | .update change => (.reply (m.update change).1, (m.update change).2)

/-- A request with its answer. -/
structure Exchange where
  request : Request
  answer : Answer

/-- Requests to a vocabulary or a memo with their answers, newest first, and what it is like after
    them. -/
structure Session (σ : Type) where
  log : List Exchange
  state : σ

/-- The session with one more request. -/
def Session.ask {σ : Type} (answer : σ → Request → Answer × σ) (s : Session σ)
    (request : Request) : Session σ :=
  ⟨⟨request, (answer s.state request).1⟩ :: s.log, (answer s.state request).2⟩

/-- The session of a vocabulary that is asked for all of this, one after the other. -/
def Vocabulary.session (v : Vocabulary) (requests : List Request) : Session Vocabulary :=
  requests.foldl (Session.ask Vocabulary.answer) ⟨[], v⟩

/-- The session of a memo that is asked for all of this, one after the other. -/
def Memo.session (m : Memo) (requests : List Request) : Session Memo :=
  requests.foldl (Session.ask Memo.answer) ⟨[], m⟩

/-! ## One request -/

/-- A removal is always carried out. Any other change is accepted, or else refused, and then the
    vocabulary stays as it is. -/
theorem Vocabulary.update_cases (v : Vocabulary) (change : Change) :
    (change.removes = false ∧ ∃ cause, v.update change = (.refused cause, v)) ∨
    (change.removes = false ∧ (v.update change).1 = .accepted) ∨
    (change.removes = true ∧ ∃ present, (v.update change).1 = .removed present) := by
  rcases v.update_granted change with ⟨cause, h⟩ | ⟨w, -, h⟩
  · refine .inl ⟨?_, cause, h⟩
    cases change with
    | removeOperator symbol => nomatch h
    | removeFunction name => nomatch h
    | _ => rfl
  · rw [h]
    cases change with
    | removeOperator symbol => exact .inr (.inr ⟨rfl, _, rfl⟩)
    | removeFunction name => exact .inr (.inr ⟨rfl, _, rfl⟩)
    | _ => exact .inr (.inl ⟨rfl, rfl⟩)

namespace Memo

/-- A tree that is remembered is answered as it is, and becomes the most recent one. -/
theorem parse_of_mem {m : Memo} {formula : String} {tree : Expr}
    (h : (formula, tree) ∈ m.trees.entries) :
    m.parse formula = (.ok tree, { m with trees := m.trees.put formula tree }) := by
  rw [parse, Recent.get_of_mem h]

/-- A formula that is not remembered is read. Only if it has a tree is anything put. -/
theorem parse_of_not_remembers {m : Memo} {formula : String} (h : m.remembers formula = false) :
    m.parse formula =
      match m.vocabulary.parse formula with
      | .error cause => (.error cause, m)
      | .ok tree => (.ok tree, { m with trees := m.trees.put formula tree }) := by
  have hget : m.trees.get formula = (none, m.trees) := Recent.get_of_not_contains h
  cases hp : m.vocabulary.parse formula <;> simp only [parse, hget, hp]

/-- A tree that is answered is remembered or read, and becomes the most recent one. What is not a
    formula leaves no trace. -/
theorem parse_eq (m : Memo) (formula : String) :
    (∃ tree, ((formula, tree) ∈ m.trees.entries ∨ m.vocabulary.parse formula = .ok tree) ∧
      m.parse formula = (.ok tree, { m with trees := m.trees.put formula tree })) ∨
    (∃ cause, m.vocabulary.parse formula = .error cause ∧
      m.parse formula = (.error cause, m)) := by
  cases hremembers : m.remembers formula with
  | true =>
    obtain ⟨tree, htree⟩ := Recent.contains_iff_exists.1 hremembers
    exact .inl ⟨tree, .inl htree, parse_of_mem htree⟩
  | false =>
    rw [parse_of_not_remembers hremembers]
    cases hp : m.vocabulary.parse formula with
    | ok tree => exact .inl ⟨tree, .inr rfl, rfl⟩
    | error cause => exact .inr ⟨cause, rfl, rfl⟩

theorem forget_eq (m : Memo) : m.forget = { m with trees := m.trees.clear } := by
  unfold forget
  split_ifs with hsize
  · rw [Recent.clear_of_size hsize]
  · rfl

theorem revise_eq (m : Memo) (change : Change) :
    m.revise change = ((m.vocabulary.update change).1,
      { m with vocabulary := (m.vocabulary.update change).2 }) := rfl

/-- A memo replies as its vocabulary does. A refusal changes nothing; after any other reply nothing
    is remembered. -/
theorem update_eq (m : Memo) (change : Change) :
    (∃ cause, m.vocabulary.update change = (.refused cause, m.vocabulary) ∧
      m.update change = (.refused cause, m)) ∨
    ((∀ cause, (m.vocabulary.update change).1 ≠ .refused cause) ∧
      m.update change = ((m.vocabulary.update change).1,
        ⟨(m.vocabulary.update change).2, m.trees.clear⟩)) := by
  rcases m.vocabulary.update_cases change with ⟨hr, cause, hv⟩ | ⟨hr, hv⟩ | ⟨hr, present, hv⟩
  · rw [update, hr, if_neg Bool.false_ne_true, revise_eq, hv]
    exact .inl ⟨cause, rfl, rfl⟩
  · refine .inr ⟨by simp [hv], ?_⟩
    rw [update, hr, if_neg Bool.false_ne_true, revise_eq, hv]
    exact congrArg (Prod.mk _) (forget_eq _)
  · refine .inr ⟨by simp [hv], ?_⟩
    -- the trees are dropped first here, which the vocabulary does not see
    rw [update, hr, if_pos rfl, forget_eq, revise_eq]

/-! ## Faithful memos -/

/-- A memo remembers the trees that its vocabulary reads, and no others. -/
def Faithful (m : Memo) : Prop :=
  ∀ formula tree, (formula, tree) ∈ m.trees.entries → m.vocabulary.parse formula = .ok tree

theorem faithful_ofCapacity (v : Vocabulary) (capacity : Nat) :
    (ofCapacity v capacity).Faithful := by
  intro formula tree h
  cases h

namespace Faithful

variable {m : Memo}

/-- A tree of the vocabulary may be remembered. -/
theorem put (h : m.Faithful) {formula : String} {tree : Expr}
    (hp : m.vocabulary.parse formula = .ok tree) :
    Faithful { m with trees := m.trees.put formula tree } := by
  intro other t ht
  rcases Recent.mem_put ht with he | he
  · rw [Prod.mk.injEq] at he
    rw [he.1, he.2]
    exact hp
  · exact h other t he

/-- A faithful memo reads a formula as its vocabulary does, which stays the same. -/
theorem parse (h : m.Faithful) (formula : String) :
    (m.parse formula).1 = m.vocabulary.parse formula ∧
      (m.parse formula).2.vocabulary = m.vocabulary ∧ (m.parse formula).2.Faithful := by
  rcases m.parse_eq formula with ⟨tree, hfound, hm⟩ | ⟨cause, hv, hm⟩
  · have hp : m.vocabulary.parse formula = .ok tree := by
      rcases hfound with hfound | hp
      · exact h formula tree hfound
      · exact hp
    rw [hm, hp]
    exact ⟨rfl, rfl, h.put hp⟩
  · rw [hm, hv]
    exact ⟨rfl, rfl, h⟩

/-- A faithful memo takes a change as its vocabulary does. -/
theorem update (h : m.Faithful) (change : Change) :
    (m.update change).1 = (m.vocabulary.update change).1 ∧
      (m.update change).2.vocabulary = (m.vocabulary.update change).2 ∧
      (m.update change).2.Faithful := by
  rcases m.update_eq change with ⟨cause, hv, hm⟩ | ⟨-, hm⟩
  · rw [hv, hm]
    exact ⟨rfl, rfl, h⟩
  · rw [hm]
    refine ⟨rfl, rfl, ?_⟩
    intro formula tree ht
    cases ht

/-- A faithful memo answers as its vocabulary does. -/
theorem answer (h : m.Faithful) (request : Request) :
    (m.answer request).1 = (m.vocabulary.answer request).1 ∧
      (m.answer request).2.vocabulary = (m.vocabulary.answer request).2 ∧
      (m.answer request).2.Faithful := by
  cases request with
  | parse formula =>
    obtain ⟨hresult, hvocabulary, hfaithful⟩ := h.parse formula
    exact ⟨congrArg Answer.tree hresult, hvocabulary, hfaithful⟩
  | update change =>
    obtain ⟨hreply, hvocabulary, hfaithful⟩ := h.update change
    exact ⟨congrArg Answer.reply hreply, hvocabulary, hfaithful⟩

end Faithful

end Memo

/-! ## Sessions side by side -/

/-- The same was asked and answered, the memo has the vocabulary of the other session, and is
    faithful to it. -/
structure Follows (s : Session Memo) (t : Session Vocabulary) : Prop where
  log : s.log = t.log
  vocabulary : s.state.vocabulary = t.state
  faithful : s.state.Faithful

namespace Follows

variable {s : Session Memo} {t : Session Vocabulary}

theorem ask (h : Follows s t) (request : Request) :
    Follows (s.ask Memo.answer request) (t.ask Vocabulary.answer request) := by
  obtain ⟨hanswer, hvocabulary, hfaithful⟩ := h.faithful.answer request
  rw [h.vocabulary] at hanswer hvocabulary
  refine ⟨?_, hvocabulary, hfaithful⟩
  unfold Session.ask
  rw [hanswer, h.log]

theorem foldl (h : Follows s t) (requests : List Request) :
    Follows (requests.foldl (Session.ask Memo.answer) s)
      (requests.foldl (Session.ask Vocabulary.answer) t) := by
  induction requests generalizing s t with
  | nil => exact h
  | cons request requests ih => exact ih (h.ask request)

end Follows

/-- A memo is not to be told from its vocabulary: whatever either is asked for, the answers are the
    same, and so is the vocabulary after them; every tree that is remembered is the one that the
    vocabulary would read now. -/
theorem session_ofCapacity (v : Vocabulary) (capacity : Nat) (requests : List Request) :
    let s := (Memo.ofCapacity v capacity).session requests
    let t := v.session requests
    s.log = t.log ∧ s.state.vocabulary = t.state ∧
      ∀ formula tree, (formula, tree) ∈ s.state.trees.entries →
        s.state.vocabulary.parse formula = .ok tree := by
  intro s t
  have h : Follows s t := Follows.foldl ⟨rfl, rfl, Memo.faithful_ofCapacity v capacity⟩ requests
  exact ⟨h.log, h.vocabulary, h.faithful⟩

/-- With room for one tree, the sum is read and remembered, forgotten with its operator, and the
    variable is remembered in its place. -/
theorem session_ofCapacity_sum :
    let v := Vocabulary.empty.evolve preset
    let requests : List Request := [.parse "x+x", .parse "x+x", .update (.removeOperator '+'),
      .parse "x+x", .parse "x"]
    let s := (Memo.ofCapacity v 0).session requests
    ("x", Expr.var "x") ∈ s.state.trees.entries ∧
      s.state.vocabulary.parse "x" = .ok (.var "x") := by
  intro v requests s
  have h : ("x", Expr.var "x") ∈ s.state.trees.entries := List.mem_singleton_self _
  exact ⟨h, (session_ofCapacity v 0 requests).2.2 "x" (.var "x") h⟩

end Formula
