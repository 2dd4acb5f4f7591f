import Formula.Proofs.Session
import Mathlib.Data.List.Nodup

/-!
# Which formulas are remembered

A memo remembers the formulas that were read last. Which these are can be told from what was asked
and answered alone: look back to the last request that made it forget, take every formula that was
read since once, where it was read last, and of these as many as there is room for.

* `recentFormulas`: the formulas read since the memo last had to forget.
* `eraseDups_cons_filter`, `take_cons_filter_take`: one more entry in front of distinct ones.
* `Recency.ask`, `Recency.foldl`: what is remembered stays the beginning of what was read.
* `mem_take_eraseDups_iff`: whether an entry is among the first distinct ones.
* `Memo.exists_of_remembers`, `Memo.parse_fst_of_not_remembers`: what is remembered is not read.
* `keys_session`: the formulas that are remembered, in the order of their last use.
-/

namespace Formula

/-! ## What the log shows -/

namespace Exchange

/-- Whether a memo forgets everything: at a change that is accepted, and at every removal, even of
    what is not there. -/
def forgets : Exchange → Bool
  | ⟨.update change, .reply reply⟩ => change.removes || decide (reply = .accepted)
  | _ => false

/-- The formula that was read, if it was one. -/
def read? : Exchange → Option String
  | ⟨.parse formula, .tree (.ok _)⟩ => some formula
  | _ => none

/-- Whether a text was no formula, or a change was refused. -/
def fails : Exchange → Bool
  | ⟨_, .tree (.error _)⟩ | ⟨_, .reply (.refused _)⟩ => true
  | _ => false

end Exchange

/-- The formulas that were read since everything was last forgotten, newest first, each as often as
    it was read. -/
def recentFormulas (log : List Exchange) : List String :=
  (log.takeWhile fun e => !e.forgets).filterMap Exchange.read?

section Log

variable {e : Exchange} {log : List Exchange}

theorem recentFormulas_of_forgets (h : e.forgets = true) : recentFormulas (e :: log) = [] := by
  rw [recentFormulas, List.takeWhile_cons, h]
  rfl

theorem recentFormulas_of_read {formula : String} (h : e.forgets = false)
    (hr : e.read? = some formula) : recentFormulas (e :: log) = formula :: recentFormulas log := by
  simp only [recentFormulas, List.takeWhile_cons, h, Bool.not_false, if_true]
  exact List.filterMap_cons_some hr

theorem recentFormulas_of_not_read (h : e.forgets = false) (hr : e.read? = none) :
    recentFormulas (e :: log) = recentFormulas log := by
  simp only [recentFormulas, List.takeWhile_cons, h, Bool.not_false, if_true]
  exact List.filterMap_cons_none hr

end Log

/-- Removals are never refused, so that a change makes a memo forget unless it is refused. -/
theorem forgets_update_iff (v : Vocabulary) (change : Change) :
    Exchange.forgets ⟨.update change, .reply (v.update change).1⟩ = true ↔
      ∀ cause, (v.update change).1 ≠ .refused cause := by
  rcases v.update_cases change with ⟨hr, cause, hv⟩ | ⟨hr, hv⟩ | ⟨hr, present, hv⟩
  · simp [Exchange.forgets, hr, hv]
  · simp [Exchange.forgets, hr, hv]
  · simp [Exchange.forgets, hr, hv]

/-! ## Distinct entries -/

section Distinct

variable {α : Type} [DecidableEq α]

theorem eraseDups_filter (p : α → Bool) (l : List α) :
    (l.filter p).eraseDups = l.eraseDups.filter p := by
  induction hn : l.length using Nat.strongRecOn generalizing l with
  | ind n ih =>
    match l with
    | [] => rfl
    | a :: l =>
      have hlt : (l.filter fun b => !b == a).length < n := by
        rw [← hn, List.length_cons, Nat.lt_succ_iff]
        exact List.length_filter_le _ _
      rw [List.eraseDups_cons]
      by_cases ha : p a = true
      · rw [List.filter_cons_of_pos ha, List.filter_cons_of_pos ha, List.eraseDups_cons,
          ← ih _ hlt _ rfl, List.filter_comm]
      · rw [List.filter_cons_of_neg ha, List.filter_cons_of_neg ha, ← ih _ hlt _ rfl,
          List.filter_filter]
        -- what passes is not the first entry, which does not
        congr 1
        apply List.filter_congr
        intro b _
        by_cases hb : b = a
        · simp [hb, ha]
        · simp [hb]

/-- An entry in front of others is the first of its kind, and the only one that is kept. -/
theorem eraseDups_cons_filter (a : α) (l : List α) :
    (a :: l).eraseDups = a :: l.eraseDups.filter (· ≠ a) := by
  rw [List.eraseDups_cons, eraseDups_filter]
  congr 2
  funext b
  by_cases hb : b = a <;> simp [hb]

theorem nodup_eraseDups (l : List α) : l.eraseDups.Nodup := by
  induction l with
  | nil => exact List.nodup_nil
  | cons a l ih =>
    rw [eraseDups_cons_filter, List.nodup_cons]
    exact ⟨by simp, ih.filter _⟩

theorem take_erase_take (a : α) (l : List α) (n : Nat) :
    ((l.take (n + 1)).erase a).take n = (l.erase a).take n := by
  induction l generalizing n with
  | nil => rfl
  | cons b l ih =>
    rw [List.take_succ_cons, List.erase_cons, List.erase_cons]
    split_ifs with hb
    · rw [List.take_take, Nat.min_self]
    · cases n with
      | zero => rfl
      | succ n => rw [List.take_succ_cons, List.take_succ_cons, ih]

/-- To put an entry in front of the first distinct ones, these are all that has to be known. -/
theorem take_cons_filter_take {l : List α} (h : l.Nodup) (a : α) (n : Nat) :
    (a :: (l.take n).filter (· ≠ a)).take n = (a :: l.filter (· ≠ a)).take n := by
  cases n with
  | zero => rfl
  | succ n =>
    have herase : ∀ l : List α, l.Nodup → l.filter (· ≠ a) = l.erase a := by
      intro l hl
      rw [hl.erase_eq_filter]
      apply List.filter_congr
      intro b _
      by_cases hb : b = a <;> simp [hb]
    rw [herase _ h, herase _ (h.sublist (List.take_sublist _ _)), List.take_succ_cons,
      List.take_succ_cons, take_erase_take]

/-- An entry is among the first distinct ones if fewer others come before it. -/
theorem mem_take_eraseDups_iff {a : α} {l : List α} {n : Nat} :
    a ∈ l.eraseDups.take n ↔ a ∈ l ∧ (l.takeWhile (· ≠ a)).eraseDups.length < n := by
  by_cases ha : a ∈ l
  · obtain ⟨first, rest, hl, hfirst⟩ := List.eq_append_cons_of_mem ha
    have htake : l.takeWhile (· ≠ a) = first := by
      rw [hl, List.takeWhile_append_of_pos, List.takeWhile_cons_of_neg (by simp), List.append_nil]
      intro b hb
      have hne : b ≠ a := by
        rintro rfl
        exact hfirst hb
      simpa using hne
    have hindex : l.eraseDups.idxOf a = first.eraseDups.length := by
      have hkept : first.contains a = false := by simpa using hfirst
      rw [hl, List.eraseDups_append, List.cons_removeAll, if_pos hkept, List.eraseDups_cons,
        List.idxOf_append_of_notMem (by rwa [List.mem_eraseDups]), List.idxOf_cons_self,
        Nat.add_zero]
    rw [List.mem_take_iff_idxOf_lt (List.mem_eraseDups.2 ha), hindex, htake]
    exact (and_iff_right ha).symm
  · refine iff_of_false ?_ (fun h => ha h.1)
    intro h
    exact ha (List.mem_eraseDups.1 (List.mem_of_mem_take h))

end Distinct

/-! ## What is remembered -/

/-- A memo with room for `n` trees remembers the first `n` distinct formulas of those read since it
    last had to forget. -/
structure Recency (n : Nat) (s : Session Memo) : Prop where
  capacity : s.state.trees.capacity = n
  keys : s.state.trees.keys = (recentFormulas s.log).eraseDups.take n

namespace Recency

variable {n : Nat} {s : Session Memo}

/-- A formula that is read is remembered before all others. -/
theorem read (h : Recency n s) (formula : String) (tree : Expr) :
    Recency n ⟨⟨.parse formula, .tree (.ok tree)⟩ :: s.log,
      { s.state with trees := s.state.trees.put formula tree }⟩ where
  capacity := h.capacity
  keys := by
    show (s.state.trees.put formula tree).keys = _
    rw [Recent.keys_put, h.capacity, h.keys, recentFormulas_of_read rfl rfl,
      eraseDups_cons_filter, take_cons_filter_take (nodup_eraseDups _)]

/-- What is asked next is remembered, is what makes the memo forget, or leaves no trace. -/
theorem ask (h : Recency n s) (request : Request) : Recency n (s.ask Memo.answer request) := by
  unfold Session.ask
  cases request with
  | parse formula =>
    rcases s.state.parse_eq formula with ⟨tree, -, hm⟩ | ⟨cause, -, hm⟩
    · simp only [Memo.answer, hm]
      exact h.read formula tree
    · simp only [Memo.answer, hm]
      refine ⟨h.capacity, ?_⟩
      rw [recentFormulas_of_not_read rfl rfl]
      exact h.keys
  | update change =>
    have hforgets := forgets_update_iff s.state.vocabulary change
    rcases s.state.update_eq change with ⟨cause, hv, hm⟩ | ⟨hv, hm⟩
    · simp only [Memo.answer, hm]
      refine ⟨h.capacity, ?_⟩
      have hnot : Exchange.forgets ⟨.update change, .reply (.refused cause)⟩ = false := by
        rw [hv] at hforgets
        rw [← Bool.not_eq_true, hforgets]
        exact fun hne => hne cause rfl
      rw [recentFormulas_of_not_read hnot rfl]
      exact h.keys
    · simp only [Memo.answer, hm]
      refine ⟨h.capacity, ?_⟩
      rw [recentFormulas_of_forgets (hforgets.2 hv), List.eraseDups_nil, List.take_nil]
      rfl

theorem foldl (h : Recency n s) (requests : List Request) :
    Recency n (requests.foldl (Session.ask Memo.answer) s) := by
  induction requests generalizing s with
  | nil => exact h
  | cons request requests ih => exact ih (h.ask request)

/-- There are never more trees than there is room for. -/
theorem size_le (h : Recency n s) : s.state.trees.size ≤ n := by
  have hlen : s.state.trees.size = s.state.trees.keys.length := by
    rw [Recent.keys, List.length_map]
    rfl
  rw [hlen, h.keys, List.length_take]
  omega

/-- A formula is remembered if it was read since the memo last had to forget, and few enough others
    were read after it. -/
theorem remembers_iff (h : Recency n s) (formula : String) :
    s.state.remembers formula = true ↔ formula ∈ recentFormulas s.log ∧
      ((recentFormulas s.log).takeWhile (· ≠ formula)).eraseDups.length < n := by
  rw [Memo.remembers, Recent.contains_iff, h.keys, mem_take_eraseDups_iff]

end Recency

/-- The tree of a formula that is remembered is the answer, whatever the vocabulary. -/
theorem Memo.exists_of_remembers {m : Memo} {formula : String} (h : m.remembers formula = true) :
    ∃ tree, (formula, tree) ∈ m.trees.entries ∧
      ∀ w : Vocabulary, (Memo.parse ⟨w, m.trees⟩ formula).1 = .ok tree := by
  obtain ⟨tree, htree⟩ := Recent.contains_iff_exists.1 h
  refine ⟨tree, htree, fun w => ?_⟩
  rw [parse_of_mem (m := ⟨w, m.trees⟩) htree]

/-- A formula that is not remembered is answered as the vocabulary reads it. -/
theorem Memo.parse_fst_of_not_remembers {m : Memo} {formula : String}
    (h : m.remembers formula = false) (w : Vocabulary) :
    (Memo.parse ⟨w, m.trees⟩ formula).1 = w.parse formula := by
  rw [parse_of_not_remembers (m := ⟨w, m.trees⟩) h]
  cases w.parse formula <;> rfl

/-- What is not a formula and what is refused leaves a memo as it is. -/
theorem Memo.answer_of_fails (m : Memo) (request : Request)
    (h : Exchange.fails ⟨request, (m.answer request).1⟩ = true) : (m.answer request).2 = m := by
  cases request with
  | parse formula =>
    rcases m.parse_eq formula with ⟨tree, -, hm⟩ | ⟨cause, -, hm⟩
    · simp only [answer, hm] at h
      cases h
    · simp only [answer, hm]
  | update change =>
    rcases m.update_eq change with ⟨cause, -, hm⟩ | ⟨hv, hm⟩
    · simp only [answer, hm]
    · simp only [answer, hm] at h
      cases hr : (m.vocabulary.update change).1 with
      | refused cause => exact absurd hr (hv cause)
      | accepted =>
        rw [hr] at h
        cases h
      | removed present =>
        rw [hr] at h
        cases h

/-- Whatever a memo is asked for, it remembers the formulas that were read last since it had to
    forget, in the order of their last use and as many as it has room for. So a formula is
    remembered if it was read since then, and fewer others were read after it than there is room
    for. What is remembered is answered with the tree it was kept with, whatever the vocabulary, and
    what is not is read; what fails leaves everything as it is. -/
theorem keys_session (v : Vocabulary) (capacity : Nat) (requests : List Request) :
    let s := (Memo.ofCapacity v capacity).session requests
    let formulas := recentFormulas s.log
    let room := max capacity 1
    s.state.trees.keys = formulas.eraseDups.take room ∧
      s.state.trees.size ≤ room ∧
      (∀ formula, s.state.remembers formula = true ↔ formula ∈ formulas ∧
        (formulas.takeWhile (· ≠ formula)).eraseDups.length < room) ∧
      (∀ formula, s.state.remembers formula = true →
        ∃ tree, (formula, tree) ∈ s.state.trees.entries ∧
          ∀ w : Vocabulary, (Memo.parse ⟨w, s.state.trees⟩ formula).1 = .ok tree) ∧
      (∀ formula, s.state.remembers formula = false →
        ∀ w : Vocabulary, (Memo.parse ⟨w, s.state.trees⟩ formula).1 = w.parse formula) ∧
      ∀ request, Exchange.fails ⟨request, (s.state.answer request).1⟩ = true →
        (s.state.answer request).2 = s.state := by
  intro s formulas room
  have hstart : Recency room ⟨[], Memo.ofCapacity v capacity⟩ := ⟨rfl, List.take_nil.symm⟩
  have h : Recency room s := hstart.foldl requests
  exact ⟨h.keys, h.size_le, h.remembers_iff, fun _ => Memo.exists_of_remembers,
    fun _ => Memo.parse_fst_of_not_remembers, s.state.answer_of_fails⟩

/-- With room for two trees, the variable is kept for being read again, and the sum, which was not,
    is given up for the power; the open group that follows leaves no trace. The variable would even
    be answered by a memo of a vocabulary that gives its name to nothing, and the sum would not. -/
theorem keys_session_power :
    let v := Vocabulary.empty.evolve preset
    let w := Vocabulary.empty.evolve [.rename "y"]
    let requests : List Request := [.parse "x", .parse "x+x", .parse "x", .parse "x^x"]
    let s := (Memo.ofCapacity v 2).session requests
    s.state.trees.keys = ["x^x", "x"] ∧ s.state.remembers "x" = true ∧
      (Memo.parse ⟨w, s.state.trees⟩ "x").1 = .ok (.var "x") ∧
      s.state.remembers "x+x" = false ∧
      (Memo.parse ⟨w, s.state.trees⟩ "x+x").1 = .error (.unknownFunction "x") ∧
      Exchange.fails ⟨.parse "(x", (s.state.answer (.parse "(x")).1⟩ = true ∧
      (s.state.answer (.parse "(x")).2 = s.state := by
  intro v w requests s
  obtain ⟨hkeys, -, hremembers, hhit, hmiss, hfails⟩ := keys_session v 2 requests
  have hlog : recentFormulas s.log = ["x^x", "x", "x+x", "x"] := rfl
  have hopen : Exchange.fails ⟨.parse "(x", (s.state.answer (.parse "(x")).1⟩ = true := rfl
  have hvariable : s.state.remembers "x" = true := (hremembers "x").2 (by rw [hlog]; decide)
  have hsum : s.state.remembers "x+x" = false := by
    rw [← Bool.not_eq_true, hremembers, hlog]
    decide
  obtain ⟨tree, htree, hanswer⟩ := hhit "x" hvariable
  have hentries : s.state.trees.entries =
      [("x^x", .binary '^' Float.pow (.var "x") (.var "x")), ("x", .var "x")] := rfl
  have hkept : tree = .var "x" := by
    rw [hentries] at htree
    simpa using htree
  exact ⟨hkeys.trans (by rw [hlog]; rfl), hvariable, hkept ▸ hanswer w, hsum, hmiss "x+x" hsum w,
    hopen, hfails _ hopen⟩

end Formula
