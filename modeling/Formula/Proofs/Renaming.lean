import Formula.Proofs.Names
import Formula.Proofs.Segmentation
import Formula.Reading.Basic

/-!
# Another name for the variable

The name of the variable stands for nothing but the variable. If it is replaced by a name that is
free, in the vocabulary and wherever it is a token of the text, the text is read as before: the tree
has the other name at its leaves and the same values, and an error is the same but for the name.

* `Token.rename`, `Expr.rename`, `ParseError.rename`: one name in place of another.
* `renameIn`, `tokenize_renameIn`: a text with its tokens renamed has these tokens.
* `Reading.step_rename`, `parseTokens_rename`: renamed tokens are read as the others are.
* `parse_rename`: all of this for the vocabularies that can come about.
-/

namespace Formula

variable {old new : String}

/-! ## One name in place of another -/

/-- The token with the new name, if it is the old one. -/
def Token.rename (old new : String) : Token → Token
  | identifier name => identifier (if name = old then new else name)
  | token => token

/-- The tree with the new name at the leaves that have the old one. -/
def Expr.rename (old new : String) : Expr → Expr
  | var name => var (if name = old then new else name)
  | unary name rule operand => unary name rule (operand.rename old new)
  | binary symbol rule left right => binary symbol rule (left.rename old new) (right.rename old new)
  | leaf => leaf

/-- The error with the new name, if it is about the old one found in a wrong place. -/
def ParseError.rename (old new : String) : ParseError → ParseError
  | unexpectedToken expected found => unexpectedToken expected (if found = old then new else found)
  | error => error

/-- The characters with other tokens in place of those that they are cut into. Blanks stay. -/
def respell (f : Token → Token) : List Token → List Char → List Char
  | [], cs => cs
  | token :: rest, cs =>
    cs.takeWhile Text.isBlank ++ ((f token).text.toList ++
      respell f rest ((cs.dropWhile Text.isBlank).drop token.text.toList.length))

/-- The text with the new name wherever the old one is a token. -/
def renameIn (old new text : String) : String :=
  String.ofList (respell (Token.rename old new) (tokenize text) text.toList)

/-- A tree has the same value whatever the variable is called. -/
theorem Expr.eval_rename (t : Expr) (x : Float) : (t.rename old new).eval x = t.eval x := by
  induction t with
  | unary name rule operand ih => simp only [rename, eval, ih]
  | binary symbol rule left right ihl ihr => simp only [rename, eval, ihl, ihr]
  | _ => rfl

/-! ## Texts -/

namespace Token

theorem isLexeme_rename (hnew : nameFault? new = none) {t : Token} (ht : t.IsLexeme) :
    (t.rename old new).IsLexeme := by
  cases t with
  | identifier name =>
    simp only [rename]
    split_ifs
    · exact hnew
    · exact ht
  | _ => exact ht

/-- Whether tokens may touch does not depend on names. -/
theorem MayTouch.rename (hnew : nameFault? new = none) {t next : Token} (h : t.MayTouch next) :
    (t.rename old new).MayTouch (next.rename old new) := by
  cases t with
  | identifier name => cases next <;> exact h
  | symbol char => trivial
  | number text =>
    cases next with
    | identifier name =>
      show (number text).MayTouch (identifier (if name = old then new else name))
      split_ifs
      · -- the new name begins with a letter, which belongs to no number
        intro c hc
        have hletter := (isLexeme_identifier.1 hnew).2 c (List.mem_of_head? hc)
        have hnumber := not_or.1 (Text.not_isDigit_or_point hletter)
        exact ⟨by simpa using hnumber.1, fun hpoint => absurd hpoint hnumber.2⟩
      · exact h
    | _ => exact h

/-- Only the token of a name has its text. -/
theorem eq_identifier_of_text {t : Token} (ht : t.IsLexeme) {name : String}
    (hname : nameFault? name = none) (h : t.text = name) : t = identifier name := by
  have hcut : tokenize name = [t] := h ▸ tokenize_text_iff.2 ht
  have hcut' : tokenize name = [identifier name] := tokenize_text_iff (t := identifier name).2 hname
  exact (List.cons.inj (hcut.symm.trans hcut')).1

/-- A token has the new name as its text if it had the old one. -/
theorem text_rename (hold : nameFault? old = none) {t : Token} (ht : t.IsLexeme) :
    (t.rename old new).text = if t.text = old then new else t.text := by
  cases t with
  | identifier name => rfl
  | _ => exact (if_neg fun h => nomatch eq_identifier_of_text ht hold h).symm

end Token

/-- Pieces are respelled one by one, with the blanks as they were. -/
theorem respell_joined (f : Token → Token) {lead : List Char} {pieces : List (Token × List Char)}
    (hlead : ∀ c ∈ lead, Text.isBlank c = true)
    (hgap : ∀ piece ∈ pieces, ∀ c ∈ piece.2, Text.isBlank c = true)
    (hlexeme : ∀ piece ∈ pieces, piece.1.IsLexeme) :
    respell f (pieces.map Prod.fst) (lead ++ joined pieces)
      = lead ++ joined (pieces.map (Prod.map f id)) := by
  induction pieces generalizing lead with
  | nil => rfl
  | cons piece pieces ih =>
    obtain ⟨t, gap⟩ := piece
    obtain ⟨hblank, hgaps⟩ := List.forall_mem_cons.1 hgap
    obtain ⟨ht, hlexemes⟩ := List.forall_mem_cons.1 hlexeme
    have hrest : joined ((t, gap) :: pieces) = t.text.toList ++ (gap ++ joined pieces) := by
      rw [joined, List.flatMap_cons, List.append_assoc]
      rfl
    obtain ⟨c, cs, hc⟩ := List.exists_cons_of_ne_nil ht.text_ne_nil
    have hfirst : ¬ Text.isBlank c = true := by
      rw [ht.isBlank_eq_false (by rw [hc]; exact List.mem_cons_self)]
      simp
    have htake : (joined ((t, gap) :: pieces)).takeWhile Text.isBlank = [] := by
      rw [hrest, hc, List.cons_append, List.takeWhile_cons_of_neg hfirst]
    have hdrop : (joined ((t, gap) :: pieces)).dropWhile Text.isBlank
        = t.text.toList ++ (gap ++ joined pieces) := by
      rw [hrest, hc, List.cons_append, List.dropWhile_cons_of_neg hfirst]
    have hpieces : joined (((t, gap) :: pieces).map (Prod.map f id))
        = (f t).text.toList ++ (gap ++ joined (pieces.map (Prod.map f id))) := by
      rw [List.map_cons, joined, List.flatMap_cons, List.append_assoc]
      rfl
    rw [List.map_cons, respell, List.takeWhile_append_of_pos hlead, htake, List.append_nil,
      List.dropWhile_append_of_pos hlead, hdrop, List.drop_left, ih hblank hgaps hlexemes, hpieces]

/-- A text with its tokens renamed is cut into the renamed tokens. -/
theorem tokenize_renameIn (hnew : nameFault? new = none) (text : String) :
    tokenize (renameIn old new text) = (tokenize text).map (Token.rename old new) := by
  have hwritten : Written text.toList (tokenize text) := written_iff.2 rfl
  obtain ⟨s, hs⟩ := hwritten.exists_segmentation
  have hchars := respell_joined (Token.rename old new) s.blank_lead s.blank_gap s.lexeme
  rw [s.chars_eq, ← Segmentation.tokens, hs] at hchars
  have hpieces : Written (joined (s.pieces.map (Prod.map (Token.rename old new) id))) _ :=
    written_joined (List.forall_mem_map.2 s.blank_gap)
      (List.forall_mem_map.2 fun piece hp => Token.isLexeme_rename hnew (s.lexeme piece hp))
      ((List.isChain_map _).2 (s.apart.imp fun piece next h hnone => (h hnone).rename hnew))
  have hrenamed := hpieces.blanks s.blank_lead
  rw [← hchars, List.map_map] at hrenamed
  rw [tokenize, renameIn, String.toList_ofList, written_iff.1 hrenamed, ← hs, Segmentation.tokens,
    List.map_map]
  rfl

/-! ## Readings -/

/-- A result with the new name in place of the old one, in what is read or in the error. -/
def renameResult {α : Type} (old new : String) (rename : α → α) :
    Except ParseError α → Except ParseError α
  | .ok value => .ok (rename value)
  | .error e => .error (e.rename old new)

/-- Renamed operands get the same operations. -/
theorem settle_rename (ops : List Operation) (operands : List Expr) :
    settle ops (operands.map (Expr.rename old new))
      = (settle ops operands).map (List.map (Expr.rename old new)) := by
  induction ops generalizing operands with
  | nil => rfl
  | cons op ops ih =>
    match op, operands with
    | .unary name rule, operand :: below => exact ih (.unary name rule operand :: below)
    | .binary symbol rule, right :: left :: below =>
      exact ih (.binary symbol rule left right :: below)
    | .unary _ _, [] => rfl
    | .binary _ _, [] => rfl
    | .binary _ _, [_] => rfl

namespace Reading

/-- The reading with the new name at the leaves that have the old one. -/
def rename (old new : String) (r : Reading) : Reading :=
  { r with operands := r.operands.map (Expr.rename old new) }

theorem complete_rename (r : Reading) (binds : Level → Bool) :
    (r.rename old new).complete binds
      = renameResult old new (rename old new) (r.complete binds) := by
  simp only [complete, rename, settle_rename]
  cases settle (Pending.release binds r.pending).1 r.operands <;> rfl

theorem closeGroup_rename (r : Reading) :
    (r.rename old new).closeGroup = renameResult old new (rename old new) r.closeGroup := by
  unfold closeGroup
  rw [complete_rename]
  cases r.complete fun _ => true with
  | error e => rfl
  | ok s =>
    obtain ⟨pending, operands, expected⟩ := s
    cases pending <;> rfl

theorem onBinary_rename (r : Reading) (symbol : Char) (operator : Operator) :
    (r.rename old new).onBinary symbol operator
      = renameResult old new (rename old new) (r.onBinary symbol operator) := by
  unfold onBinary
  rw [complete_rename]
  cases r.complete fun level => decide (operator.level ≤ level) <;> rfl

theorem finish_rename (r : Reading) :
    (r.rename old new).finish = renameResult old new (Expr.rename old new) r.finish := by
  unfold finish
  rw [complete_rename]
  cases r.complete fun _ => true with
  | error e => rfl
  | ok s =>
    obtain ⟨pending, operands, expected⟩ := s
    match pending, operands with
    | _ :: _, _ => rfl
    | [], [] => rfl
    | [], [_] => rfl
    | [], first :: second :: rest =>
      exact congrArg (Except.error <| ParseError.excessValues ·)
        (@List.length_map _ _ (first :: second :: rest) (Expr.rename old new))

variable {v : Vocabulary} {name : String} {token : Token}

/-- Where a value is expected a renamed token is taken as the token was, but for the new name
    itself, which is not the variable's before. -/
theorem onValue_rename (hfit : nameFault? v.variableName = none) (hlex : token.IsLexeme)
    (hnew : token ≠ .identifier name) (r : Reading) :
    (r.rename v.variableName name).onValue { v with variableName := name }
        (token.rename v.variableName name)
      = renameResult v.variableName name (rename v.variableName name) (r.onValue v token) := by
  cases token with
  | number text =>
    simp only [Token.rename, onValue]
    cases Number.Decimal.ofNumeral? text.toList <;> rfl
  | identifier other =>
    have hother : other ≠ name := fun h => hnew (congrArg Token.identifier h)
    simp only [Token.rename, onValue]
    by_cases hvar : other = v.variableName
    · rw [if_pos hvar, if_pos rfl, if_pos hvar]
      simp [renameResult, rename, pushOperand, Expr.rename, hvar]
    · rw [if_neg hvar, if_neg hother, if_neg hvar]
      have hfunction :
          Vocabulary.function? { v with variableName := name } other = v.function? other := rfl
      rw [hfunction]
      cases v.function? other <;> rfl
  | symbol char =>
    have htext : ((Token.symbol char).rename v.variableName name).text = _ :=
      Token.text_rename hfit hlex
    simp only [Token.rename, onValue]
    split_ifs
    · rfl
    · rfl
    · rw [renameResult, ParseError.rename]
      exact congrArg (Except.error <| ParseError.unexpectedToken _ ·) htext

/-- Where an operator is expected a renamed token is taken as the token was. -/
theorem onOperator_rename (hfit : nameFault? v.variableName = none) (hlex : token.IsLexeme)
    (r : Reading) :
    (r.rename v.variableName name).onOperator { v with variableName := name }
        (token.rename v.variableName name)
      = renameResult v.variableName name (rename v.variableName name) (r.onOperator v token) := by
  have htext : (token.rename v.variableName name).text = _ := Token.text_rename hfit hlex
  cases token with
  | number text => exact congrArg (Except.error <| ParseError.unexpectedToken _ ·) htext
  | identifier other => exact congrArg (Except.error <| ParseError.unexpectedToken _ ·) htext
  | symbol char =>
    simp only [Token.rename, onOperator]
    split_ifs
    · exact congrArg (Except.error <| ParseError.unexpectedToken _ ·) htext
    · exact closeGroup_rename r
    · have hoperator :
          Vocabulary.operator? { v with variableName := name } char = v.operator? char := rfl
      rw [hoperator]
      cases v.operator? char with
      | none => rfl
      | some operator => exact onBinary_rename r char operator

/-- A renamed token is taken as the token was, unless the new name stands for something else. -/
theorem step_rename (hfit : nameFault? v.variableName = none) (hlex : token.IsLexeme)
    (hnew : token ≠ .identifier name) (r : Reading) :
    (r.rename v.variableName name).step { v with variableName := name }
        (token.rename v.variableName name)
      = renameResult v.variableName name (rename v.variableName name) (r.step v token) := by
  obtain ⟨pending, operands, expected⟩ := r
  cases expected with
  | value => exact onValue_rename hfit hlex hnew _
  | operator => exact onOperator_rename hfit hlex _

theorem foldlM_rename (hfit : nameFault? v.variableName = none) {tokens : List Token}
    (hlex : ∀ token ∈ tokens, token.IsLexeme) (hnew : .identifier name ∉ tokens) (r : Reading) :
    (tokens.map (Token.rename v.variableName name)).foldlM
        (step { v with variableName := name }) (r.rename v.variableName name)
      = renameResult v.variableName name (rename v.variableName name)
          (tokens.foldlM (step v) r) := by
  induction tokens generalizing r with
  | nil => rfl
  | cons token tokens ih =>
    obtain ⟨hfirst, hrest⟩ := List.forall_mem_cons.1 hlex
    obtain ⟨hne, hnew⟩ := not_or.1 (mt List.mem_cons.2 hnew)
    rw [List.map_cons, List.foldlM_cons, List.foldlM_cons, step_rename hfit hfirst (Ne.symm hne)]
    cases r.step v token with
    | error e => rfl
    | ok next => exact ih hrest hnew next

end Reading

/-- Renamed tokens are read as the tokens were, with the new name in the tree or in the error. -/
theorem parseTokens_rename {v : Vocabulary} (hfit : nameFault? v.variableName = none)
    {name : String} {tokens : List Token} (hlex : ∀ token ∈ tokens, token.IsLexeme)
    (hnew : .identifier name ∉ tokens) :
    Vocabulary.parseTokens { v with variableName := name }
        (tokens.map (Token.rename v.variableName name))
      = renameResult v.variableName name (Expr.rename v.variableName name)
          (v.parseTokens tokens) := by
  by_cases hne : tokens = []
  · subst hne
    rfl
  rw [Vocabulary.parseTokens, Vocabulary.parseTokens, if_neg (by simpa using hne), if_neg hne]
  have hrun := Reading.foldlM_rename hfit hlex hnew .start
  rw [Reading.ofTokens, Reading.ofTokens]
  rw [show Reading.start.rename v.variableName name = Reading.start from rfl] at hrun
  rw [hrun]
  cases tokens.foldlM (Reading.step v) Reading.start with
  | error e => rfl
  | ok r => exact r.finish_rename

/-! ## The variable of a vocabulary -/

/-- Whatever changes made the vocabulary, its variable may get another name. A text in which that
    name is no token, with the new name in place of the old one, has a tree then exactly if it had
    one before: the same tree with the new name at its leaves, and the same value for every value of
    the variable. Otherwise there is the same error, but for the name if that is what was found. -/
theorem parse_rename (history : List Change) (name text : String) :
    let v := Vocabulary.empty.evolve history
    let w := (v.update (.rename name)).2
    let renamed := renameIn v.variableName name text
    (v.update (.rename name)).1 = .accepted → .identifier name ∉ tokenize text →
      tokenize renamed = (tokenize text).map (Token.rename v.variableName name) ∧
      ((∃ u, w.parse renamed = .ok u) ↔ ∃ t, v.parse text = .ok t) ∧
      (∀ t, v.parse text = .ok t → w.parse renamed = .ok (t.rename v.variableName name) ∧
        ∀ x, (t.rename v.variableName name).eval x = t.eval x) ∧
      ∀ e, v.parse text = .error e → w.parse renamed = .error (e.rename v.variableName name) := by
  intro v w renamed haccepted hnew
  have hv : v.Coherent := Vocabulary.coherent_evolve history
  obtain ⟨hfit, -⟩ := Vocabulary.accepted_rename_iff.1 haccepted
  have hw : w = { v with variableName := name } := Vocabulary.update_rename_of_accepted haccepted
  have htokens : tokenize renamed = (tokenize text).map (Token.rename v.variableName name) :=
    tokenize_renameIn hfit text
  have hparse : w.parse renamed = renameResult v.variableName name
      (Expr.rename v.variableName name) (v.parse text) := by
    rw [Vocabulary.parse, htokens, hw]
    exact parseTokens_rename hv.variable_fit isLexeme_of_mem_tokenize hnew
  refine ⟨htokens, ?_, fun t ht => ⟨?_, t.eval_rename⟩, fun e he => ?_⟩
  · rw [hparse]
    cases v.parse text with
    | ok t => exact iff_of_true ⟨_, rfl⟩ ⟨_, rfl⟩
    | error e => exact iff_of_false nofun nofun
  · rw [hparse, ht, renameResult]
  · rw [hparse, he, renameResult]

/-- With `angle` for `x` the exponential keeps its name, which has an `x` in it, and a product that
    is not written as one goes wrong as before. -/
theorem parse_rename_angle :
    let v := Vocabulary.empty.evolve preset
    let w := (v.update (.rename "angle")).2
    let t (leaf : String) :=
      Expr.binary '*' (· * ·) (.var leaf) (.unary "exp" Float.exp (.var leaf))
    (v.update (.rename "angle")).1 = .accepted ∧
      (.identifier "angle" ∉ tokenize "x*exp x" ∧
        renameIn "x" "angle" "x*exp x" = "angle*exp angle" ∧
        v.parse "x*exp x" = .ok (t "x") ∧ w.parse "angle*exp angle" = .ok (t "angle")) ∧
      .identifier "angle" ∉ tokenize "2x" ∧
        v.parse "2x" = .error (.unexpectedToken .operator "x") ∧
        w.parse "2angle" = .error (.unexpectedToken .operator "angle") := by
  intro v w t
  have haccepted : (v.update (.rename "angle")).1 = .accepted := rfl
  have hproduct : Token.identifier "angle" ∉ tokenize "x*exp x" := by decide +kernel
  have hnumber : Token.identifier "angle" ∉ tokenize "2x" := by decide +kernel
  have hrenamed : renameIn "x" "angle" "x*exp x" = "angle*exp angle" := by decide +kernel
  have hrenamed' : renameIn "x" "angle" "2x" = "2angle" := by decide +kernel
  have hparse : v.parse "x*exp x" = .ok (t "x") := rfl
  have herror : v.parse "2x" = .error (.unexpectedToken .operator "x") := rfl
  obtain ⟨-, -, htree, -⟩ := parse_rename preset "angle" "x*exp x" haccepted hproduct
  obtain ⟨-, -, -, hfault⟩ := parse_rename preset "angle" "2x" haccepted hnumber
  refine ⟨haccepted, ⟨hproduct, hrenamed, hparse, ?_⟩, hnumber, herror, ?_⟩
  · rw [← hrenamed]
    exact (htree (t "x") hparse).1
  · rw [← hrenamed']
    exact hfault _ herror

end Formula
