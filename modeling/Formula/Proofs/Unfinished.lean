import Formula.Proofs.Stance

/-!
# Unfinished phrases

Every reading shows how far a phrase has come: each waiting operation and open group stands for a
part that lacks its last operand, and each value for an operand that is complete. The parts are
grouped by levels already, so that whatever completes them is an ordered phrase.

* `Unfinished`: the parts that wait, with their tokens and values.
* `Unfinished.complete`: completing turns the newest parts into one ordered phrase, and never fails.
* `Reads.step`: a token that is taken extends the phrase, and does to the stance what it does to
  the reading.
* `exists_phrase_of_parseTokens`: what is parsed is an ordered phrase.
* `parseTokens_isOk_iff`: whether tokens are parsed can be told from their stance.
-/

namespace Formula

/-- The parts of a phrase that lack their last operand, as tokens, as what waits and as the values
    that are known, newest first. A left operand binds at least as tightly as its operator, and
    nothing in it had to wait for an operation further down. -/
inductive Unfinished (v : Vocabulary) : List Token → List Pending → List Expr → Prop
  | start : Unfinished v [] [] []
  | group {tokens : List Token} {waiting : List Pending} {below : List Expr} :
      Unfinished v tokens waiting below →
      Unfinished v (tokens ++ [.symbol '(']) (.group :: waiting) below
  | unary {tokens : List Token} {waiting : List Pending} {below : List Expr} {op : UnaryOperator}
      {rule : UnaryRule} : Unfinished v tokens waiting below → op.rule? v = some rule →
      Unfinished v (tokens ++ [op.token])
        (.operation (.unary op.name rule) op.level :: waiting) below
  | binary {tokens : List Token} {waiting : List Pending} {below : List Expr} {symbol : Char}
      {o : Operator} {left : Phrase} {t : Expr} : Unfinished v tokens waiting below →
      v.operator? symbol = some o → left.tree? v = some t → left.Ordered v →
      (∀ l ∈ left.trailing v, o.level ≤ l) →
      (∀ l ∈ o.level :: left.leading v, Pending.Defers l waiting) →
      Unfinished v (tokens ++ (left.tokens ++ [.symbol symbol]))
        (.operation (.binary symbol o.rule) o.level :: waiting) (t :: below)

/-- An ordered phrase with its tree, of which nothing has to wait for what waits already. -/
structure Phrase.Fits (v : Vocabulary) (c : Phrase) (t : Expr) (waiting : List Pending) : Prop where
  tree : c.tree? v = some t
  ordered : c.Ordered v
  leading : ∀ l ∈ c.leading v, Pending.Defers l waiting

/-- A reading shows the tokens it has taken. Where an operator is expected, the newest value is that
    of a leaf or a group. -/
inductive Reads (v : Vocabulary) : List Token → Reading → Prop
  | value {tokens : List Token} {waiting : List Pending} {below : List Expr} :
      Unfinished v tokens waiting below → Reads v tokens ⟨waiting, below, .value⟩
  | operator {tokens : List Token} {waiting : List Pending} {below : List Expr} {c : Phrase}
      {t : Expr} : Unfinished v tokens waiting below → c.Fits v t waiting → c.trailing v = [] →
      Reads v (tokens ++ c.tokens) ⟨waiting, t :: below, .operator⟩

variable {v : Vocabulary}

/-! ## Completing -/

/-- The newest parts, down to the first that does not bind, and the operand they wait for are one
    ordered phrase. -/
theorem Unfinished.complete (binds : Level → Bool) {tokens : List Token} {waiting : List Pending}
    {below : List Expr} (h : Unfinished v tokens waiting below) :
    ∀ {c : Phrase} {t : Expr}, c.Fits v t waiting → (∀ l ∈ c.trailing v, binds l = true) →
      ∃ tokens' waiting' below' c' t',
        Reading.complete ⟨waiting, t :: below, .operator⟩ binds
          = .ok ⟨waiting', t' :: below', .operator⟩ ∧
        Unfinished v tokens' waiting' below' ∧ Phrase.Fits v c' t' waiting' ∧
        (∀ l ∈ c'.trailing v, binds l = true) ∧ tokens' ++ c'.tokens = tokens ++ c.tokens ∧
        Pending.release binds waiting' = ([], waiting') := by
  induction h with
  | start =>
    intro c t hc hb
    exact ⟨[], [], [], c, t, rfl, .start, hc, hb, rfl, rfl⟩
  | group h _ =>
    intro c t hc hb
    exact ⟨_, _, _, c, t, rfl, h.group, hc, hb, rfl, rfl⟩
  | @unary tokens waiting below op rule h hr ih =>
    intro c t hc hb
    by_cases hl : binds op.level = true
    · have hc' : (Phrase.unary op c).Fits v (.unary op.name rule t) waiting :=
        { tree := Phrase.tree?_unary.2 ⟨rule, t, hr, hc.tree, rfl⟩
          ordered := ⟨hc.ordered, hc.leading⟩
          leading := fun l hl => absurd hl List.not_mem_nil }
      rw [Reading.complete_unary hl]
      simpa [Phrase.tokens] using ih hc' (List.forall_mem_cons.2 ⟨hl, hb⟩)
    · have hs : Pending.release binds (.operation (.unary op.name rule) op.level :: waiting)
          = ([], .operation (.unary op.name rule) op.level :: waiting) := by
        simp [Pending.release, hl]
      exact ⟨_, _, _, c, t, Reading.complete_of_release hs, h.unary hr, hc, hb, rfl, hs⟩
  | @binary tokens waiting below symbol o left tl h ho htl hol htrail hlead ih =>
    intro c t hc hb
    by_cases hl : binds o.level = true
    · have hc' : (Phrase.binary symbol left c).Fits v (.binary symbol o.rule tl t) waiting :=
        { tree := Phrase.tree?_binary.2 ⟨o, tl, t, ho, htl, hc.tree, rfl⟩
          ordered := (Phrase.ordered_binary ho).2 ⟨hol, hc.ordered, htrail, hc.leading⟩
          leading := by rwa [Phrase.leading_binary ho] }
      rw [Reading.complete_binary hl]
      have hb' : ∀ l ∈ (Phrase.binary symbol left c).trailing v, binds l = true := by
        rw [Phrase.trailing_binary ho]
        exact List.forall_mem_cons.2 ⟨hl, hb⟩
      simpa [Phrase.tokens] using ih hc' hb'
    · have hs : Pending.release binds (.operation (.binary symbol o.rule) o.level :: waiting)
          = ([], .operation (.binary symbol o.rule) o.level :: waiting) := by
        simp [Pending.release, hl]
      exact ⟨_, _, _, c, t, Reading.complete_of_release hs, h.binary ho htl hol htrail hlead, hc,
        hb, rfl, hs⟩

/-- An operator completes the parts that bind as tightly as it does, and waits itself. -/
theorem Unfinished.onBinary {tokens : List Token} {waiting : List Pending} {below : List Expr}
    {c : Phrase} {t : Expr} (h : Unfinished v tokens waiting below) (hc : c.Fits v t waiting)
    (htrail : c.trailing v = []) {symbol : Char} {o : Operator} (ho : v.operator? symbol = some o) :
    ∃ s, Reading.onBinary ⟨waiting, t :: below, .operator⟩ symbol o = .ok s ∧
      Reads v (tokens ++ c.tokens ++ [.symbol symbol]) s ∧ s.expected = .value ∧
      Pending.depth s.pending = Pending.depth waiting := by
  obtain ⟨tokens', waiting', below', c', t', hcomp, h', hc', hb, htok, hstop⟩ :=
    h.complete (fun l => decide (o.level ≤ l)) hc (by simp [htrail])
  have hdepth : Pending.depth waiting' = Pending.depth waiting := Reading.depth_complete hcomp
  have hdefers : Pending.Defers o.level waiting' := Pending.defers_of_release hstop
  refine ⟨⟨.operation (.binary symbol o.rule) o.level :: waiting', t' :: below', .value⟩, ?_, ?_,
    rfl, hdepth⟩
  · rw [Reading.onBinary, hcomp]
    rfl
  · rw [← htok, List.append_assoc]
    exact .value (h'.binary ho hc'.tree hc'.ordered (by simpa using hb)
      (List.forall_mem_cons.2 ⟨hdefers, hc'.leading⟩))

/-- A closed parenthesis makes a group of the newest parts, if there is an open one. -/
theorem Unfinished.closeGroup {tokens : List Token} {waiting : List Pending} {below : List Expr}
    {c : Phrase} {t : Expr} (h : Unfinished v tokens waiting below) (hc : c.Fits v t waiting) :
    (Pending.depth waiting = 0 ∧
      Reading.closeGroup ⟨waiting, t :: below, .operator⟩ = .error .unmatchedClosed) ∨
    ∃ s, Reading.closeGroup ⟨waiting, t :: below, .operator⟩ = .ok s ∧
      Reads v (tokens ++ c.tokens ++ [.symbol ')']) s ∧ s.expected = .operator ∧
      Pending.depth s.pending + 1 = Pending.depth waiting := by
  obtain ⟨tokens', waiting', below', c', t', hcomp, h', hc', -, htok, hstop⟩ :=
    h.complete (fun _ => true) hc (fun _ _ => rfl)
  have hdepth : Pending.depth waiting' = Pending.depth waiting := Reading.depth_complete hcomp
  cases h' with
  | start =>
    refine .inl ⟨hdepth.symm, ?_⟩
    rw [Reading.closeGroup, hcomp]
    rfl
  | unary h' hr => simp [Pending.release] at hstop
  | binary h' ho htl hol htrail hlead => simp [Pending.release] at hstop
  | @group outer waiting' _ h' =>
    refine .inr ⟨⟨waiting', t' :: below', .operator⟩, ?_, ?_, rfl, hdepth⟩
    · rw [Reading.closeGroup, hcomp]
      rfl
    · have hg : (Phrase.group c').Fits v t' waiting' :=
        { tree := hc'.tree
          ordered := hc'.ordered
          leading := fun l hl => absurd hl List.not_mem_nil }
      have hr : Reads v (outer ++ (Phrase.group c').tokens) ⟨waiting', t' :: below', .operator⟩ :=
        .operator h' hg rfl
      rw [← htok]
      simpa [Phrase.tokens] using hr

/-! ## Taking a token -/

/-- The stance of a reading. -/
def Reading.stance (r : Reading) : Stance := ⟨r.expected, Pending.depth r.pending⟩

/-- The outcome of a token for a reading and for its stance: the same error, or a reading of all
    tokens so far with that stance. -/
inductive Agrees (v : Vocabulary) (tokens : List Token) :
    Except ParseError Reading → Except ParseError Stance → Prop
  | error (e : ParseError) : Agrees v tokens (.error e) (.error e)
  | ok {s : Reading} : Reads v tokens s → Agrees v tokens (.ok s) (.ok s.stance)

theorem Unfinished.onValue {tokens : List Token} {waiting : List Pending} {below : List Expr}
    (h : Unfinished v tokens waiting below) (token : Token) :
    Agrees v (tokens ++ [token]) (Reading.onValue v ⟨waiting, below, .value⟩ token)
      (Stance.step v ⟨.value, Pending.depth waiting⟩ token) := by
  cases token with
  | number text =>
    cases hd : Number.Decimal.ofNumeral? text.toList with
    | none =>
      simp only [Reading.onValue, Stance.step, hd, Option.isSome_none, Bool.false_eq_true, if_false]
      exact .error _
    | some d =>
      have hc : (Phrase.number text).Fits v (.constant d.toFloat) waiting :=
        { tree := by simp [Phrase.tree?, hd]
          ordered := trivial
          leading := fun l hl => absurd hl List.not_mem_nil }
      simp only [Reading.onValue, Stance.step, hd, Option.isSome_some, if_true]
      exact .ok (.operator h hc rfl)
  | identifier name =>
    by_cases hn : name = v.variableName
    · have hc : (Phrase.var name).Fits v (.var name) waiting :=
        { tree := Phrase.tree?_var.2 ⟨hn, rfl⟩
          ordered := trivial
          leading := fun l hl => absurd hl List.not_mem_nil }
      simp only [Reading.onValue, Stance.step, if_pos hn]
      exact .ok (.operator h hc rfl)
    · simp only [Reading.onValue, Stance.step, if_neg hn, Vocabulary.hasFunction_eq_isSome]
      cases hf : v.function? name with
      | none => exact .error _
      | some rule =>
        have hr : (UnaryOperator.function name).rule? v = some rule := hf
        exact .ok (.value (h.unary hr))
  | symbol char =>
    by_cases hm : char = '-'
    · subst hm
      simp only [Reading.onValue, Stance.step, if_true]
      exact .ok (.value (h.unary (show UnaryOperator.minus.rule? v = _ from rfl)))
    · simp only [Reading.onValue, Stance.step, if_neg hm]
      split_ifs with ho
      · subst ho
        exact .ok (.value h.group)
      · exact .error _

theorem Unfinished.onOperator {tokens : List Token} {waiting : List Pending} {below : List Expr}
    {c : Phrase} {t : Expr} (h : Unfinished v tokens waiting below) (hc : c.Fits v t waiting)
    (htrail : c.trailing v = []) (token : Token) :
    Agrees v (tokens ++ c.tokens ++ [token])
      (Reading.onOperator v ⟨waiting, t :: below, .operator⟩ token)
      (Stance.step v ⟨.operator, Pending.depth waiting⟩ token) := by
  cases token with
  | number text => exact .error _
  | identifier name => exact .error _
  | symbol char =>
    simp only [Reading.onOperator, Stance.step]
    split_ifs with ho hcl hop
    · exact .error _
    · subst hcl
      rcases h.closeGroup hc with ⟨hdepth, herr⟩ | ⟨s, hs, hreads, hexp, hdepth⟩
      · rw [hdepth, herr]
        exact .error _
      · have hst : s.stance = ⟨.operator, Pending.depth s.pending⟩ := by rw [Reading.stance, hexp]
        rw [hs, ← hdepth]
        simp only [← hst]
        exact .ok hreads
    · rw [Vocabulary.hasOperator_eq_isSome, Option.isSome_iff_exists] at hop
      obtain ⟨o, ho⟩ := hop
      obtain ⟨s, hs, hreads, hexp, hdepth⟩ := h.onBinary hc htrail ho
      have hst : s.stance = ⟨.value, Pending.depth waiting⟩ := by
        rw [Reading.stance, hexp, hdepth]
      rw [ho, ← hst]
      simp only [hs]
      exact .ok hreads
    · rw [Vocabulary.hasOperator_eq_isSome, Bool.not_eq_true, Option.isSome_eq_false_iff,
        Option.isNone_iff_eq_none] at hop
      rw [hop]
      exact .error _

/-- A token does to the stance what it does to the reading, and what is taken extends the
    phrase. -/
theorem Reads.step {tokens : List Token} {r : Reading} (h : Reads v tokens r) (token : Token) :
    Agrees v (tokens ++ [token]) (Reading.step v r token) (r.stance.step v token) := by
  cases h with
  | value h => exact h.onValue token
  | operator h hc htrail => exact h.onOperator hc htrail token

/-! ## Taking many tokens -/

theorem Reads.foldlM {tokens : List Token} {r : Reading} (h : Reads v tokens r)
    (rest : List Token) :
    Agrees v (tokens ++ rest) (rest.foldlM (Reading.step v) r)
      (rest.foldlM (Stance.step v) r.stance) := by
  induction rest generalizing tokens r with
  | nil =>
    rw [List.append_nil]
    exact .ok h
  | cons token rest ih =>
    rw [List.foldlM_cons, List.foldlM_cons]
    generalize hr : Reading.step v r token = result, hs : r.stance.step v token = stance
    have hstep := h.step token
    rw [hr, hs] at hstep
    cases hstep with
    | error e => exact .error e
    | ok hreads =>
      rw [List.append_cons]
      exact ih hreads

/-- The reading of a list of tokens shows them all; its stance and its error do not depend on the
    levels of operators. -/
theorem agrees_ofTokens (v : Vocabulary) (tokens : List Token) :
    Agrees v tokens (Reading.ofTokens v tokens) (Stance.ofTokens v tokens) :=
  Reads.foldlM (.value .start) tokens

/-- The stance after tokens is that of their reading, and is missing for the same reason. -/
theorem stance_ofTokens (v : Vocabulary) (tokens : List Token) :
    Stance.ofTokens v tokens = (Reading.ofTokens v tokens).map Reading.stance := by
  have hagrees := agrees_ofTokens v tokens
  generalize Reading.ofTokens v tokens = result, Stance.ofTokens v tokens = stance at hagrees ⊢
  cases hagrees <;> rfl

/-! ## The end -/

/-- There is one value for each waiting operation with two operands. -/
theorem Unfinished.length_eq {tokens : List Token} {waiting : List Pending} {below : List Expr}
    (h : Unfinished v tokens waiting below) : below.length = Pending.binaries waiting := by
  induction h with
  | start => rfl
  | group _ ih => exact ih
  | unary _ _ ih => exact ih
  | binary _ _ _ _ _ _ ih => simp [Pending.binaries, ih]

theorem Reading.complete_of_finish {r : Reading} {t : Expr} (h : r.finish = .ok t) :
    ∃ s, r.complete (fun _ => true) = .ok s ∧ s.pending = [] ∧ s.operands = [t] := by
  unfold Reading.finish at h
  cases hc : r.complete fun _ => true with
  | error e =>
    rw [hc] at h
    cases h
  | ok s =>
    rw [hc] at h
    refine ⟨s, rfl, ?_⟩
    obtain ⟨pending, operands, expected⟩ := s
    match pending, operands, h with
    | [], [tree], h =>
      cases h
      exact ⟨rfl, rfl⟩

/-- A reading that expects a value has no tree. -/
theorem Unfinished.finish_ne_ok {tokens : List Token} {waiting : List Pending} {below : List Expr}
    (h : Unfinished v tokens waiting below) (t : Expr) :
    Reading.finish ⟨waiting, below, .value⟩ ≠ .ok t := by
  intro hf
  obtain ⟨s, hcomp, hpending, hoperands⟩ := Reading.complete_of_finish hf
  have hlen := Reading.length_complete hcomp
  rw [hpending, hoperands] at hlen
  have := h.length_eq
  simp [Pending.binaries] at hlen
  omega

/-- A reading that expects an operator has the tree of an ordered phrase, unless a group is open. -/
theorem Unfinished.finish {tokens : List Token} {waiting : List Pending} {below : List Expr}
    {c : Phrase} {t : Expr} (h : Unfinished v tokens waiting below) (hc : c.Fits v t waiting) :
    (Pending.depth waiting = 0 ∧ ∃ (c' : Phrase) (t' : Expr),
      Reading.finish ⟨waiting, t :: below, .operator⟩ = .ok t' ∧
      c'.tree? v = some t' ∧ c'.Ordered v ∧ c'.tokens = tokens ++ c.tokens) ∨
    (0 < Pending.depth waiting ∧
      Reading.finish ⟨waiting, t :: below, .operator⟩ = .error .unmatchedOpen) := by
  obtain ⟨tokens', waiting', below', c', t', hcomp, h', hc', -, htok, hstop⟩ :=
    h.complete (fun _ => true) hc (fun _ _ => rfl)
  have hdepth : Pending.depth waiting' = Pending.depth waiting := Reading.depth_complete hcomp
  cases h' with
  | start =>
    refine .inl ⟨hdepth.symm, c', t', ?_, hc'.tree, hc'.ordered, htok⟩
    rw [Reading.finish, hcomp]
    rfl
  | unary h' hr => simp [Pending.release] at hstop
  | binary h' ho htl hol htrail hlead => simp [Pending.release] at hstop
  | group h' =>
    refine .inr ⟨hdepth ▸ Nat.succ_pos _, ?_⟩
    rw [Reading.finish, hcomp]
    rfl

/-- What a reading has as its tree is the tree of an ordered phrase of all its tokens. -/
theorem Reads.of_finish {tokens : List Token} {r : Reading} (h : Reads v tokens r) {t : Expr}
    (hf : r.finish = .ok t) :
    ∃ c : Phrase, c.tokens = tokens ∧ c.tree? v = some t ∧ c.Ordered v := by
  cases h with
  | value h => exact absurd hf (h.finish_ne_ok t)
  | operator h hc _ =>
    rcases h.finish hc with ⟨-, c', t', hf', htree, hord, htok⟩ | ⟨-, herr⟩
    · rw [hf'] at hf
      cases hf
      exact ⟨c', htok, htree, hord⟩
    · rw [herr] at hf
      cases hf

/-- A reading has a tree exactly when it expects an operator and no group is open. -/
theorem Reads.finish_isOk {tokens : List Token} {r : Reading} (h : Reads v tokens r) :
    (∃ t, r.finish = .ok t) ↔ r.stance = ⟨.operator, 0⟩ := by
  cases h with
  | value h =>
    refine ⟨fun ⟨t, ht⟩ => absurd ht (h.finish_ne_ok t), fun hs => ?_⟩
    cases congrArg Stance.expected hs
  | operator h hc _ =>
    simp only [Reading.stance, Stance.mk.injEq, true_and]
    rcases h.finish hc with ⟨hdepth, c', t', hf, -⟩ | ⟨hdepth, herr⟩
    · exact ⟨fun _ => hdepth, fun _ => ⟨t', hf⟩⟩
    · rw [herr]
      refine ⟨fun ⟨t, ht⟩ => (by cases ht), fun hd => by omega⟩

/-- What is parsed is an ordered phrase. -/
theorem exists_phrase_of_parseTokens {tokens : List Token} {t : Expr}
    (h : v.parseTokens tokens = .ok t) :
    ∃ c : Phrase, c.tokens = tokens ∧ c.tree? v = some t ∧ c.Ordered v := by
  unfold Vocabulary.parseTokens at h
  split_ifs at h with hne
  have hreads := agrees_ofTokens v tokens
  generalize Reading.ofTokens v tokens = result, Stance.ofTokens v tokens = stance at h hreads
  cases hreads with
  | error e => cases h
  | ok hr => exact hr.of_finish h

/-- Whether tokens can be parsed is a question of their stance, and so not of levels. -/
theorem parseTokens_isOk_iff {tokens : List Token} :
    (∃ t, v.parseTokens tokens = .ok t) ↔ Stance.ofTokens v tokens = .ok ⟨.operator, 0⟩ := by
  unfold Vocabulary.parseTokens
  split_ifs with hne
  · subst hne
    constructor
    · rintro ⟨t, ht⟩
      cases ht
    · intro h
      cases h
  have hreads := agrees_ofTokens v tokens
  generalize Reading.ofTokens v tokens = result, Stance.ofTokens v tokens = stance at hreads ⊢
  cases hreads with
  | error e =>
    constructor
    · rintro ⟨t, ht⟩
      cases ht
    · intro h
      cases h
  | ok hr =>
    rw [Except.ok.injEq]
    exact hr.finish_isOk

end Formula
