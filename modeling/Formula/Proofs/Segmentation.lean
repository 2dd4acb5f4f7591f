import Formula.Proofs.Lexing

/-!
# Texts in pieces

A text is a sequence of pieces, blanks at its beginning and tokens with the blanks after each. It
may be parted in several places, so tokens that touch are asked to be as long as they can be: two
names never touch, and a number touches nothing that would belong to it. Then one list of tokens is
left, and it is the one that the text is cut into.

* `Token.MayTouch`: two tokens that may stand side by side without a blank.
* `Segmentation`: characters in pieces, with what is asked of them.
* `grow?_head_eq_none_iff`: tokens may touch if the second does not begin with a character that
  makes the first longer.
* `Segmentation.written`, `Written.exists_segmentation`: the writings of tokens in pieces.
* `tokenize_segmentation`: the tokens of a text are those of all its segmentations.
-/

namespace Formula

/-! ## Definitions -/

/-- The second token may follow the first without a blank: they are not both names, and the second
    does not begin with a digit or a first point that would belong to the number before it. -/
def Token.MayTouch : Token → Token → Prop
  | identifier _, identifier _ => False
  | number text, next =>
    ∀ c ∈ next.text.toList.head?, c.isDigit = false ∧ (c = '.' → '.' ∈ text.toList)
  | _, _ => True

/-- The characters of tokens with what stands after each. -/
def joined (pieces : List (Token × List Char)) : List Char :=
  pieces.flatMap fun piece => piece.1.text.toList ++ piece.2

/-- Characters as blanks, followed by tokens with the blanks after each. Tokens between which there
    is no blank may touch. -/
structure Segmentation (cs : List Char) where
  lead : List Char
  pieces : List (Token × List Char)
  chars_eq : lead ++ joined pieces = cs
  blank_lead : ∀ c ∈ lead, Text.isBlank c = true
  blank_gap : ∀ piece ∈ pieces, ∀ c ∈ piece.2, Text.isBlank c = true
  lexeme : ∀ piece ∈ pieces, piece.1.IsLexeme
  apart : pieces.IsChain fun piece next => piece.2 = [] → piece.1.MayTouch next.1

/-- The tokens of a segmentation. -/
def Segmentation.tokens {cs : List Char} (s : Segmentation cs) : List Token :=
  s.pieces.map Prod.fst

/-! ## Characters of a token -/

namespace Token

theorem isLexeme_identifier {name : String} : (identifier name).IsLexeme ↔
    name ≠ "" ∧ ∀ c ∈ name.toList, Text.isLetter c = true :=
  Vocabulary.nameFault?_eq_none_iff

theorem IsLexeme.text_ne_nil {t : Token} (h : t.IsLexeme) : t.text.toList ≠ [] := by
  cases t with
  | number text => exact mt String.toList_eq_nil_iff.1 h.1
  | identifier name => exact mt String.toList_eq_nil_iff.1 (isLexeme_identifier.1 h).1
  | symbol char => simp [text]

/-- No blank belongs to a token. -/
theorem IsLexeme.isBlank_eq_false {t : Token} (h : t.IsLexeme) {c : Char}
    (hc : c ∈ t.text.toList) : Text.isBlank c = false := by
  cases t with
  | number text =>
    exact Text.isBlank_of_isDigit_or_point (h.2.1 c hc)
  | identifier name =>
    exact Text.isBlank_of_isLetter ((isLexeme_identifier.1 h).2 c hc)
  | symbol char =>
    rw [text, String.toList_singleton, List.mem_singleton] at hc
    rw [hc]
    exact h.1

/-- Only names begin with a letter. -/
theorem IsLexeme.isLetter_head_iff {t : Token} (h : t.IsLexeme) {c : Char}
    (hc : t.text.toList.head? = some c) :
    Text.isLetter c = true ↔ ∃ name, t = identifier name := by
  have hmem := List.mem_of_head? hc
  cases t with
  | number text =>
    exact iff_of_false (by simp [Text.isLetter_of_isDigit_or_point (h.2.1 c hmem)]) (by simp)
  | identifier name => exact iff_of_true ((isLexeme_identifier.1 h).2 c hmem) ⟨name, rfl⟩
  | symbol char =>
    rw [text, String.toList_singleton, List.mem_singleton] at hmem
    rw [hmem, h.2.2.2]
    simp

/-- Tokens may touch exactly if the second does not begin with a character that makes the first
    longer. -/
theorem grow?_head_eq_none_iff {t next : Token} (h : next.IsLexeme) {c : Char}
    (hc : next.text.toList.head? = some c) : t.grow? c = none ↔ t.MayTouch next := by
  cases t with
  | number text =>
    have hgrow : (number text).grow? c = none ↔
        c.isDigit = false ∧ (c = '.' → '.' ∈ text.toList) := by
      simp [grow?]
    rw [hgrow]
    simp [MayTouch, hc]
  | identifier name =>
    have hgrow : (identifier name).grow? c = none ↔ ¬ Text.isLetter c = true := by
      simp [grow?]
    rw [hgrow, h.isLetter_head_iff hc]
    cases next <;> simp [MayTouch]
  | symbol char => simp [grow?, MayTouch]

end Token

/-! ## Segmentations and writings -/

theorem head?_joined_cons {piece : Token × List Char} {pieces : List (Token × List Char)}
    (h : piece.1.IsLexeme) : (joined (piece :: pieces)).head? = piece.1.text.toList.head? := by
  rw [joined, List.flatMap_cons, List.append_assoc, List.head?_append_of_ne_nil _ h.text_ne_nil]

/-- Blanks before a writing leave no token. -/
theorem Written.blanks {lead cs : List Char} {tokens : List Token}
    (hlead : ∀ c ∈ lead, Text.isBlank c = true) (h : Written cs tokens) :
    Written (lead ++ cs) tokens := by
  induction lead with
  | nil => exact h
  | cons c lead ih =>
    obtain ⟨hc, hlead⟩ := List.forall_mem_cons.1 hlead
    exact .blank hc (ih hlead)

/-- Pieces are a writing of their tokens: what follows a token is a blank or a token that it may
    touch, neither of which makes it longer. -/
theorem written_joined {pieces : List (Token × List Char)}
    (hgap : ∀ piece ∈ pieces, ∀ c ∈ piece.2, Text.isBlank c = true)
    (hlexeme : ∀ piece ∈ pieces, piece.1.IsLexeme)
    (hapart : pieces.IsChain fun piece next => piece.2 = [] → piece.1.MayTouch next.1) :
    Written (joined pieces) (pieces.map Prod.fst) := by
  induction pieces with
  | nil => exact .nil
  | cons piece pieces ih =>
    obtain ⟨t, gap⟩ := piece
    obtain ⟨hblank, hgaps⟩ := List.forall_mem_cons.1 hgap
    obtain ⟨ht, hlexemes⟩ := List.forall_mem_cons.1 hlexeme
    obtain ⟨htouch, hchain⟩ := List.isChain_cons.1 hapart
    have hnext : ∀ c ∈ (gap ++ joined pieces).head?, t.grow? c = none := by
      intro c hc
      cases gap with
      | cons d gap =>
        rw [List.cons_append, List.head?_cons, Option.mem_some_iff] at hc
        subst hc
        exact Token.grow?_of_isBlank (hblank d List.mem_cons_self) t
      | nil =>
        cases pieces with
        | nil => simp [joined] at hc
        | cons next pieces =>
          have hlex := hlexemes next List.mem_cons_self
          rw [List.nil_append, head?_joined_cons hlex, Option.mem_def] at hc
          exact (Token.grow?_head_eq_none_iff hlex hc).2 (htouch next rfl rfl)
    have hrest : Written (gap ++ joined pieces) (pieces.map Prod.fst) :=
      (ih hgaps hlexemes hchain).blanks hblank
    rw [joined, List.flatMap_cons, List.append_assoc]
    exact .token ht hnext hrest

/-- A segmentation shows a writing of its tokens. -/
theorem Segmentation.written {cs : List Char} (s : Segmentation cs) : Written cs s.tokens := by
  have h := (written_joined s.blank_gap s.lexeme s.apart).blanks s.blank_lead
  rwa [s.chars_eq] at h

/-- Every writing is parted into its tokens. -/
theorem Written.exists_segmentation {cs : List Char} {tokens : List Token}
    (h : Written cs tokens) : ∃ s : Segmentation cs, s.tokens = tokens := by
  induction h with
  | nil =>
    exact ⟨⟨[], [], rfl, by simp, by simp, by simp, .nil⟩, rfl⟩
  | @blank c rest tokens hc _ ih =>
    obtain ⟨s, hs⟩ := ih
    refine ⟨{ s with
      lead := c :: s.lead
      chars_eq := ?_
      blank_lead := List.forall_mem_cons.2 ⟨hc, s.blank_lead⟩ }, hs⟩
    rw [List.cons_append, s.chars_eq]
  | @token t rest tokens ht hnext _ ih =>
    obtain ⟨s, hs⟩ := ih
    -- the blanks before the rest become those after the new token
    refine ⟨{
      lead := []
      pieces := (t, s.lead) :: s.pieces
      chars_eq := ?_
      blank_lead := by simp
      blank_gap := List.forall_mem_cons.2 ⟨s.blank_lead, s.blank_gap⟩
      lexeme := List.forall_mem_cons.2 ⟨ht, s.lexeme⟩
      apart := List.isChain_cons.2 ⟨?_, s.apart⟩ }, ?_⟩
    · rw [List.nil_append, joined, List.flatMap_cons, List.append_assoc, ← joined, s.chars_eq]
    · intro next hmem hnone
      have hlead : s.lead = [] := hnone
      have hlex := s.lexeme next (List.mem_of_mem_head? hmem)
      obtain ⟨c, hc⟩ := Option.isSome_iff_exists.1 (List.isSome_head?.2 hlex.text_ne_nil)
      apply (Token.grow?_head_eq_none_iff hlex hc).1
      apply hnext c
      cases hpieces : s.pieces with
      | nil => simp [hpieces] at hmem
      | cons first pieces =>
        rw [hpieces, List.head?_cons, Option.mem_some_iff] at hmem
        subst hmem
        rw [← s.chars_eq, hpieces, hlead, List.nil_append, head?_joined_cons hlex]
        exact hc
    · show t :: s.tokens = t :: tokens
      rw [hs]

/-- The characters of tokens are those of their writing without its blanks. -/
theorem Written.flatMap_text {cs : List Char} {tokens : List Token} (h : Written cs tokens) :
    tokens.flatMap (·.text.toList) = cs.filter (!Text.isBlank ·) := by
  induction h with
  | nil => rfl
  | blank hc _ ih => rw [ih, List.filter_cons_of_neg (by simp [hc])]
  | token ht _ _ ih =>
    rw [List.flatMap_cons, ih, List.filter_append, List.append_cancel_right_eq]
    refine (List.filter_eq_self.2 fun c hc => ?_).symm
    simp [ht.isBlank_eq_false hc]

/-! ## The tokens of a text -/

/-- Every text can be parted into tokens of which none could be longer, in one way only as far as
    tokens are concerned: they are those that it is cut into. They have all characters of the text
    but the blanks, in their order. -/
theorem tokenize_segmentation (text : String) :
    (∃ s : Segmentation text.toList, s.tokens = tokenize text) ∧
    (∀ s : Segmentation text.toList, s.tokens = tokenize text) ∧
    (tokenize text).flatMap (·.text.toList) = text.toList.filter (!Text.isBlank ·) := by
  have hwritten : Written text.toList (tokenize text) := written_iff.2 rfl
  refine ⟨hwritten.exists_segmentation, fun s => ?_, hwritten.flatMap_text⟩
  exact (written_iff.1 s.written).symm

/-- A number stops before its second point, which begins the next one. -/
example : tokenize "1.2.3 ab" = [.number "1.2", .number ".3", .identifier "ab"] := by
  decide +kernel

end Formula
