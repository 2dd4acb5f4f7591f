import Formula.Proofs.ClosedGroups
import Formula.Proofs.Precedence
import Formula.Proofs.Rejection

/-!
# How a text ends

Where all tokens are taken, the error at the end can be told from them. If an operator would have
to follow, only open groups are wrong. If a value is missing, the operations in the innermost group
take the values that wait outside of it, and so get to its parenthesis if there are any: one for
each operator that waits there for its right operand.

* `Unfinished.ofTokens`: an unfinished phrase is what reading its tokens leads to.
* `Unfinished.innermost`: the innermost open group, with what waits around it.
* `Unfinished.outer_iff`: an operator waits around it if one between two operands stands before it.
* `Unfinished.finish_value_cases`, `Unfinished.finish_operator_cases`: the two kinds of end.
* `parse_verdict`: the error at the end of every text, and which errors come nowhere else.
-/

namespace Formula

open Token (opening closing)

/-! ## What waits in the innermost group -/

namespace Pending

/-- The operations that wait in the innermost group, newest first. -/
def inner (waiting : List Pending) : List Operation := (release (fun _ => true) waiting).1

/-- The innermost group with what waits around it. -/
def outer (waiting : List Pending) : List Pending := (release (fun _ => true) waiting).2

theorem inner_operation (op : Operation) (level : Level) (waiting : List Pending) :
    inner (.operation op level :: waiting) = op :: inner waiting := rfl

theorem outer_group (waiting : List Pending) : outer (.group :: waiting) = .group :: waiting := rfl

theorem depth_outer (waiting : List Pending) : depth (outer waiting) = depth waiting :=
  depth_release _ waiting

theorem binaries_eq (waiting : List Pending) :
    binaries waiting = (inner waiting).countP (·.isBinary) + binaries (outer waiting) :=
  binaries_release _ waiting

end Pending

namespace Reading

/-- Operations that run out of operands are the first thing that is found wrong. -/
theorem finish_of_exhausted {r : Reading}
    (h : settle (Pending.inner r.pending) r.operands = none) :
    r.finish = .error .operandsExhausted := by
  rw [Pending.inner] at h
  rw [finish, complete, h]
  rfl

/-- A group that is still open is found wrong once the operations in it are complete. -/
theorem finish_of_open {r : Reading} {outer : List Pending}
    (h : (settle (Pending.inner r.pending) r.operands).isSome = true)
    (hopen : Pending.outer r.pending = .group :: outer) : r.finish = .error .unmatchedOpen := by
  obtain ⟨operands, hs⟩ := Option.isSome_iff_exists.1 h
  rw [Pending.inner] at hs
  rw [Pending.outer] at hopen
  rw [finish, complete, hs, hopen]
  rfl

end Reading

variable {v : Vocabulary} {tokens : List Token} {waiting : List Pending} {below : List Expr}

/-! ## Unfinished phrases are read -/

/-- Where a value is expected, an ordered phrase is read as an operand of its own. -/
theorem Reading.foldlM_operand (hv : v.Coherent)
    (h : Reading.ofTokens v tokens = .ok ⟨waiting, below, .value⟩) {c : Phrase} {t : Expr}
    (hc : c.Fits v t waiting) :
    ∃ r, Reading.ofTokens v (tokens ++ c.tokens) = .ok r ∧ r.expected = .operator ∧
      ∀ binds : Level → Bool, (∀ l ∈ c.trailing v, binds l = true) →
        r.complete binds = Reading.complete ⟨waiting, t :: below, .operator⟩ binds := by
  obtain ⟨r, hrun, hexp, hcomp⟩ :=
    Reading.foldlM_tokens hv c waiting below hc.tree hc.ordered hc.leading
  refine ⟨r, ?_, hexp, hcomp⟩
  rw [Reading.ofTokens] at h ⊢
  rw [foldlM_of_run h, hrun]

/-- An unfinished phrase is what reading its tokens leads to. -/
theorem Unfinished.ofTokens (hv : v.Coherent) (h : Unfinished v tokens waiting below) :
    Reading.ofTokens v tokens = .ok ⟨waiting, below, .value⟩ := by
  induction h with
  | start => rfl
  | group _ ih =>
    rw [Reading.ofTokens] at ih ⊢
    rw [foldlM_of_run ih, foldlM_of_step Reading.step_open]
    rfl
  | unary _ hr ih =>
    rw [Reading.ofTokens] at ih ⊢
    rw [foldlM_of_run ih, foldlM_of_step (Reading.step_unary hv hr)]
    rfl
  | binary _ ho htl hol htrail hlead ih =>
    obtain ⟨hd, hleading⟩ := List.forall_mem_cons.1 hlead
    obtain ⟨r, hrun, hexp, hcomp⟩ := Reading.foldlM_operand hv ih ⟨htl, hol, hleading⟩
    rw [Reading.ofTokens] at hrun ⊢
    rw [← List.append_assoc, foldlM_of_run hrun,
      foldlM_of_step (Reading.step_binary_of_complete hv hexp hcomp ho htrail hd)]
    rfl

/-! ## The innermost open group -/

/-- Either the parentheses match and no group is open, or behind the innermost open group they
    match and what stands before it is an unfinished phrase of its own. -/
inductive Innermost (v : Vocabulary) (tokens : List Token) (waiting : List Pending) : Prop
  | none : Pending.outer waiting = [] → Balanced tokens → Innermost v tokens waiting
  | group {before after : List Token} {around : List Pending} {values : List Expr} :
      tokens = before ++ opening :: after → Balanced after → Unfinished v before around values →
      Pending.outer waiting = .group :: around → Innermost v tokens waiting

/-- An operation that waits with tokens that match does not change which group is innermost. -/
theorem Innermost.operation (h : Innermost v tokens waiting) {more : List Token}
    (hmore : Balanced more) (op : Operation) (level : Level) :
    Innermost v (tokens ++ more) (.operation op level :: waiting) := by
  cases h with
  | none hnone htokens => exact .none hnone (htokens.append hmore)
  | @group before after around values htok hafter hbefore houter =>
    refine .group ?_ (hafter.append hmore) hbefore houter
    rw [htok, List.append_assoc, List.cons_append]

theorem Unfinished.innermost (hv : v.Coherent) (h : Unfinished v tokens waiting below) :
    Innermost v tokens waiting := by
  induction h with
  | start => exact .none rfl balanced_nil
  | group h _ => exact .group rfl balanced_nil h (Pending.outer_group _)
  | @unary _ _ _ op _ _ _ ih =>
    exact ih.operation (balanced_singleton op.isParenthesis_token) _ _
  | binary _ ho htl _ _ _ ih =>
    have hleft := balanced_tokens hv htl
    have hsymbol := balanced_singleton (isParenthesis_of_operator hv ho)
    exact ih.operation (hleft.append hsymbol) _ _

/-- An operator of the vocabulary that stands where an operator is expected, and so between two
    operands. -/
def StandsBetween (v : Vocabulary) (before : List Token) (symbol : Char) : Prop :=
  v.hasOperator symbol = true ∧ ∃ r, Reading.ofTokens v before = .ok r ∧ r.expected = .operator

/-- For every operator that waits there is one that stands between two operands, and no group that
    was open there is closed behind it. -/
theorem Unfinished.exists_standsBetween (hv : v.Coherent) (h : Unfinished v tokens waiting below)
    (hpos : 0 < Pending.binaries waiting) :
    ∃ before symbol after, tokens = before ++ .symbol symbol :: after ∧
      StandsBetween v before symbol ∧ NeverCloses after := by
  induction h with
  | start => cases hpos
  | group _ ih =>
    obtain ⟨before, symbol, after, rfl, hsymbol, hafter⟩ := ih hpos
    exact ⟨before, symbol, after ++ [opening], by simp [opening], hsymbol,
      hafter.append neverCloses_opening⟩
  | @unary _ _ _ op _ _ _ ih =>
    obtain ⟨before, symbol, after, rfl, hsymbol, hafter⟩ := ih hpos
    exact ⟨before, symbol, after ++ [op.token], by simp, hsymbol,
      hafter.append (balanced_singleton op.isParenthesis_token).beginning⟩
  | @binary tokens waiting below symbol o left t h ho htl hol htrail hlead _ =>
    obtain ⟨r, hrun, hexp, -⟩ := Reading.foldlM_operand hv (h.ofTokens hv)
      ⟨htl, hol, (List.forall_mem_cons.1 hlead).2⟩
    exact ⟨tokens ++ left.tokens, symbol, [], by simp,
      ⟨Vocabulary.hasOperator_of_operator? ho, r, hrun, hexp⟩, balanced_nil.beginning⟩

/-- While no operator waits for its right operand, a value has been expected all the time. -/
theorem Unfinished.expected_eq_value (hv : v.Coherent) (h : Unfinished v tokens waiting below)
    (hzero : Pending.binaries waiting = 0) {before : List Token} (hbefore : before <+: tokens)
    {r : Reading} (hr : Reading.ofTokens v before = .ok r) : r.expected = .value := by
  -- one token more, behind which a value is expected still
  have extend : ∀ {tokens : List Token} {token : Token} {waiting below},
      (before <+: tokens → r.expected = .value) →
      Unfinished v (tokens ++ [token]) waiting below → before <+: tokens ++ [token] →
      r.expected = .value := by
    intro tokens token waiting below ih hall hpre
    rcases List.prefix_concat_iff.1 hpre with rfl | hpre
    · rw [hall.ofTokens hv, Except.ok.injEq] at hr
      rw [← hr]
    · exact ih hpre
  induction h with
  | start =>
    rw [List.prefix_nil.1 hbefore] at hr
    cases hr
    rfl
  | group h ih => exact extend (ih hzero) h.group hbefore
  | unary h hop ih => exact extend (ih hzero) (h.unary hop) hbefore
  | binary => cases hzero

/-! ## Values missing at the end -/

/-- An operator between two operands stands before the innermost open group, and in no closed
    one. -/
def OperatorBeforeOpen (v : Vocabulary) (tokens : List Token) : Prop :=
  ∃ before symbol between after,
    tokens = before ++ .symbol symbol :: (between ++ opening :: after) ∧
    StandsBetween v before symbol ∧ InnermostOpen after ∧
    ¬ Enclosed before (.symbol symbol) (between ++ opening :: after)

/-- What the end of the tokens gets to before operands run out: a group that the last token opens,
    or one that an operator stands before. -/
def ReachesOpen (v : Vocabulary) (tokens : List Token) : Prop :=
  tokens.getLast? = some opening ∨ OperatorBeforeOpen v tokens

/-- An operator waits around the innermost open group exactly if one stands before it. -/
theorem Unfinished.outer_iff (hv : v.Coherent) (h : Unfinished v tokens waiting below) :
    0 < Pending.binaries (Pending.outer waiting) ↔ OperatorBeforeOpen v tokens := by
  cases h.innermost hv with
  | none hnone htokens =>
    rw [hnone]
    refine iff_of_false (Nat.not_lt_zero 0) ?_
    rintro ⟨before, symbol, between, after, htok, -, hopen, -⟩
    refine hopen.unclosed (htokens.allClosed (before ++ .symbol symbol :: between) after ?_)
    rw [htok, List.append_assoc, List.cons_append]
  | @group before after around values htok hafter hbefore houter =>
    subst htok
    rw [houter]
    show 0 < Pending.binaries around ↔ _
    constructor
    · intro hpos
      obtain ⟨first, symbol, between, rfl, hsymbol, hbetween⟩ :=
        hbefore.exists_standsBetween hv hpos
      refine ⟨first, symbol, between, after, by simp, hsymbol, innermostOpen_iff.2 hafter, ?_⟩
      intro henclosed
      obtain ⟨o, ho⟩ :=
        Option.isSome_iff_exists.1 ((v.hasOperator_eq_isSome symbol).symm.trans hsymbol.1)
      refine henclosed.not_neverCloses (isParenthesis_of_operator hv ho) ?_
      exact hbetween.append (neverCloses_opening.append hafter.beginning)
    · rintro ⟨first, symbol, between, after', htok, ⟨-, r, hr, hexp⟩, hopen, -⟩
      rw [← List.cons_append, ← List.append_assoc] at htok
      obtain ⟨rfl, rfl⟩ := append_inj_of_balanced hafter (innermostOpen_iff.1 hopen) htok
      by_contra hzero
      have hvalue := hbefore.expected_eq_value hv (Nat.eq_zero_of_not_pos hzero)
        (List.prefix_append _ _) hr
      rw [hexp] at hvalue
      cases hvalue

/-- Nothing waits in the innermost group exactly if the last token opens it. -/
theorem Unfinished.inner_eq_nil_iff (hv : v.Coherent) (h : Unfinished v tokens waiting below)
    (hne : tokens ≠ []) : Pending.inner waiting = [] ↔ tokens.getLast? = some opening := by
  have hother : ∀ {token : Token} {op : Operation} {level : Level} {waiting : List Pending}
      {tokens : List Token}, token.isParenthesis = false →
      (Pending.inner (.operation op level :: waiting) = [] ↔
        (tokens ++ [token]).getLast? = some opening) := by
    intro token op level waiting tokens htoken
    rw [Pending.inner_operation, List.getLast?_concat, Option.some.injEq]
    refine iff_of_false (List.cons_ne_nil _ _) ?_
    rintro rfl
    cases htoken
  cases h with
  | start => exact absurd rfl hne
  | group h =>
    rw [List.getLast?_concat]
    exact iff_of_true rfl rfl
  | @unary _ _ _ op _ h hr => exact hother op.isParenthesis_token
  | binary h ho =>
    rw [← List.append_assoc]
    exact hother (isParenthesis_of_operator hv ho)

/-- Where a value is missing, the end gets to an open group, or else operands run out before. -/
theorem Unfinished.finish_value_cases (hv : v.Coherent) (h : Unfinished v tokens waiting below)
    (hne : tokens ≠ []) :
    (ReachesOpen v tokens ∧ Reading.finish ⟨waiting, below, .value⟩ = .error .unmatchedOpen) ∨
    (¬ ReachesOpen v tokens ∧
      Reading.finish ⟨waiting, below, .value⟩ = .error .operandsExhausted) := by
  have hlen : below.length = (Pending.inner waiting).countP (·.isBinary)
      + Pending.binaries (Pending.outer waiting) := by
    rw [h.length_eq, Pending.binaries_eq]
  have hreaches : ReachesOpen v tokens ↔ (settle (Pending.inner waiting) below).isSome = true := by
    rw [isSome_settle_iff hlen, h.inner_eq_nil_iff hv hne, h.outer_iff hv, ReachesOpen]
  by_cases hsettle : (settle (Pending.inner waiting) below).isSome = true
  · refine .inl ⟨hreaches.2 hsettle, ?_⟩
    cases h.innermost hv with
    | none hnone htokens =>
      -- no group is open: none that the last token opens, and none that an operator stands before
      exfalso
      rcases hreaches.2 hsettle with hlast | hoperator
      · obtain ⟨init, rfl⟩ := List.getLast?_eq_some_iff.1 hlast
        exact balanced_nil.not_append_opening init htokens
      · rw [← h.outer_iff hv, hnone] at hoperator
        exact Nat.not_lt_zero 0 hoperator
    | group _ _ _ houter => exact Reading.finish_of_open hsettle houter
  · refine .inr ⟨mt hreaches.1 hsettle, Reading.finish_of_exhausted ?_⟩
    rwa [Bool.not_eq_true, Option.isSome_eq_false_iff, Option.isNone_iff_eq_none] at hsettle

/-! ## Groups left open at the end -/

/-- Where no value is missing, the end finds a tree, or else an open group. -/
theorem Unfinished.finish_operator_cases (hv : v.Coherent) (h : Unfinished v tokens waiting below)
    {c : Phrase} {t : Expr} (hc : c.Fits v t waiting) :
    (AllClosed (tokens ++ c.tokens) ∧
      ∃ t', Reading.finish ⟨waiting, t :: below, .operator⟩ = .ok t') ∨
    (¬ AllClosed (tokens ++ c.tokens) ∧
      Reading.finish ⟨waiting, t :: below, .operator⟩ = .error .unmatchedOpen) := by
  have hbalanced := balanced_tokens hv hc.tree
  cases h.innermost hv with
  | none hnone htokens =>
    refine .inl ⟨(htokens.append hbalanced).allClosed, ?_⟩
    rcases h.finish hc with ⟨-, -, t', hf, -⟩ | ⟨hdepth, -⟩
    · exact ⟨t', hf⟩
    · rw [← Pending.depth_outer, hnone] at hdepth
      exact absurd hdepth (Nat.not_lt_zero 0)
  | @group before after _ _ htok hafter _ houter =>
    refine .inr ⟨?_, ?_⟩
    · intro hall
      have hclosed := hall before (after ++ c.tokens) (by simp [htok])
      exact closedIn_iff.1 hclosed (hafter.append hbalanced).beginning
    · rcases h.finish hc with ⟨hdepth, -⟩ | ⟨-, hf⟩
      · rw [← Pending.depth_outer, houter] at hdepth
        cases hdepth
      · exact hf

/-! ## The end of a text -/

/-- A reading that expects an operator has a tree or an open group, and one that expects a value an
    open group or too few operands. -/
theorem Reads.finish_cases (hv : v.Coherent) {r : Reading} (h : Reads v tokens r)
    (hne : tokens ≠ []) :
    (r.expected = .operator ∧ ((AllClosed tokens ∧ ∃ t, r.finish = .ok t) ∨
      (¬ AllClosed tokens ∧ r.finish = .error .unmatchedOpen))) ∨
    (r.expected = .value ∧ ((ReachesOpen v tokens ∧ r.finish = .error .unmatchedOpen) ∨
      (¬ ReachesOpen v tokens ∧ r.finish = .error .operandsExhausted))) := by
  cases h with
  | value h => exact .inr ⟨rfl, h.finish_value_cases hv hne⟩
  | operator h hc _ => exact .inl ⟨rfl, h.finish_operator_cases hv hc⟩

/-- Tokens that are all taken are shown by their reading. -/
theorem reads_of_ofTokens {r : Reading} (h : Reading.ofTokens v tokens = .ok r) :
    Reads v tokens r := by
  have hagrees := agrees_ofTokens v tokens
  rw [h] at hagrees
  generalize Stance.ofTokens v tokens = stance at hagrees
  cases hagrees with
  | ok hreads => exact hreads

/-- Where all tokens are taken, only the end counts. -/
theorem parseTokens_of_ofTokens {r : Reading} (hne : tokens ≠ [])
    (h : Reading.ofTokens v tokens = .ok r) : v.parseTokens tokens = r.finish := by
  rw [Vocabulary.parseTokens, if_neg hne, h]
  rfl

/-- An error that no token makes is that of having no tokens, or it comes at the end of tokens that
    are all taken: an open group, or too few operands where a value is missing. -/
theorem parseTokens_error_cases (hv : v.Coherent) {e : ParseError}
    (h : v.parseTokens tokens = .error e) (he : e.atToken = false) :
    (tokens = [] ∧ e = .emptyExpression) ∨
    (tokens ≠ [] ∧ (e = .unmatchedOpen ∨ (e = .operandsExhausted ∧
      ∃ r, Reading.ofTokens v tokens = .ok r ∧ r.expected = .value ∧ ¬ ReachesOpen v tokens))) := by
  by_cases hne : tokens = []
  · rw [Vocabulary.parseTokens, if_pos hne, Except.error.injEq] at h
    exact .inl ⟨hne, h.symm⟩
  refine .inr ⟨hne, ?_⟩
  cases hresult : Reading.ofTokens v tokens with
  | error other =>
    rw [Vocabulary.parseTokens, if_neg hne, hresult] at h
    cases h
    rw [atToken_of_ofTokens hresult] at he
    cases he
  | ok r =>
    rw [parseTokens_of_ofTokens hne hresult] at h
    rcases (reads_of_ofTokens hresult).finish_cases hv hne with ⟨-, ⟨-, t, hend⟩ | ⟨-, hend⟩⟩ |
      ⟨hexp, ⟨-, hend⟩ | ⟨hnot, hend⟩⟩
    all_goals
      rw [hend] at h
      cases h
    · exact .inl rfl
    · exact .inl rfl
    · exact .inr ⟨rfl, r, rfl, hexp, hnot⟩

/-- Whatever changes made the vocabulary, the end of a text with tokens that are all taken shows
    what is wrong with it. Where an operator would have to follow it is a formula, or else a group
    is open. Where a value is missing it is none: the end gets to an open group, or else operands
    run out. They run out nowhere else, values are never left over, and only a text of blanks is
    empty. -/
theorem parse_verdict (history : List Change) (text : String) :
    let v := Vocabulary.empty.evolve history
    let tokens := tokenize text
    (∀ r, tokens ≠ [] → Reading.ofTokens v tokens = .ok r →
      (r.expected = .operator →
        (AllClosed tokens ∧ ∃ t, v.parse text = .ok t) ∨
        (¬ AllClosed tokens ∧ v.parse text = .error .unmatchedOpen)) ∧
      (r.expected = .value →
        (ReachesOpen v tokens ∧ v.parse text = .error .unmatchedOpen) ∨
        (¬ ReachesOpen v tokens ∧ v.parse text = .error .operandsExhausted))) ∧
    (v.parse text = .error .operandsExhausted → tokens ≠ [] ∧
      ∃ r, Reading.ofTokens v tokens = .ok r ∧ r.expected = .value ∧ ¬ ReachesOpen v tokens) ∧
    (∀ count, v.parse text ≠ .error (.excessValues count)) ∧
    (v.parse text = .error .emptyExpression ↔ ∀ c ∈ text.toList, Text.isBlank c = true) := by
  intro v tokens
  have hv : v.Coherent := Vocabulary.coherent_evolve history
  refine ⟨?_, ?_, ?_, ?_⟩
  · intro r hne hr
    have hreads : Reads v tokens r := reads_of_ofTokens hr
    have hparse : v.parse text = r.finish := parseTokens_of_ofTokens hne hr
    rw [hparse]
    rcases hreads.finish_cases hv hne with ⟨hexp, hcases⟩ | ⟨hexp, hcases⟩
    · refine ⟨fun _ => hcases, fun hvalue => ?_⟩
      rw [hexp] at hvalue
      cases hvalue
    · refine ⟨fun hoperator => ?_, fun _ => hcases⟩
      rw [hexp] at hoperator
      cases hoperator
  · intro h
    rcases parseTokens_error_cases hv h rfl with ⟨-, he⟩ | ⟨hne, he | ⟨-, hr⟩⟩
    · cases he
    · cases he
    · exact ⟨hne, hr⟩
  · intro count h
    rcases parseTokens_error_cases hv h rfl with ⟨-, he⟩ | ⟨-, he | ⟨he, -⟩⟩ <;> cases he
  · rw [← tokenize_eq_nil_iff]
    constructor
    · intro h
      rcases parseTokens_error_cases hv h rfl with ⟨hnil, -⟩ | ⟨-, he | ⟨he, -⟩⟩
      · exact hnil
      · cases he
      · cases he
    · intro hnil
      rw [Vocabulary.parse, Vocabulary.parseTokens, if_pos hnil]

/-- In `x+(-` the minus sign may take the value before the group, and so the open group is found;
    in `(x+` it is the sum that lacks a value. -/
theorem parse_verdict_sum :
    let v := Vocabulary.empty.evolve preset
    (v.parse "x+(-" = .error .unmatchedOpen ∧ ReachesOpen v (tokenize "x+(-")) ∧
      v.parse "(x+" = .error .operandsExhausted ∧ ¬ ReachesOpen v (tokenize "(x+") := by
  intro v
  have hminus : v.parse "x+(-" = .error .unmatchedOpen := rfl
  have hsum : v.parse "(x+" = .error .operandsExhausted := rfl
  refine ⟨⟨hminus, ?_⟩, hsum, ?_⟩
  · have hverdict := ((parse_verdict preset "x+(-").1
      ⟨[.operation negation .multiplication, .group, .operation (.binary '+' (· + ·)) .addition],
        [.var "x"], .value⟩ (by decide +kernel) rfl).2 rfl
    rcases hverdict with ⟨hreaches, -⟩ | ⟨-, hexhausted⟩
    · exact hreaches
    · rw [hminus] at hexhausted
      cases hexhausted
  · obtain ⟨-, r, -, -, hnot⟩ := (parse_verdict preset "(x+").2.1 hsum
    exact hnot

end Formula
