import Formula.Proofs.History
import Formula.Proofs.Literal
import Formula.Text.Apart
import Formula.Token
import Mathlib.Tactic.ByContra

/-!
# Texts and their tokens

A text is a writing of tokens if it is made of their texts and of blanks, and no token is followed
at once by a character that would make it longer. Every text is a writing of the tokens that it is
cut into, and of no others.

* `Token.IsLexeme`: what the texts of tokens are made of.
* `Written`: a text is a writing of tokens.
* `written_iff`: it is cut into exactly these.
* `tokenize_text_iff`: the text of a token is cut into that token alone if it is a lexeme.
* `tokenize_append_symbol`: a symbol parts what stands before it from what stands after it.
* `tokenize_append_blank`: so does a blank, which leaves no token.
* `tokenize_spaced`: tokens that are parted by blanks are read back.
* `isSome_ofNumeral?_of_isLexeme`: a number is a numeral unless it is a point alone.
-/

namespace Formula

/-- A number has digits and at most one point, a name is made of letters, and a symbol is a
    character that begins neither. -/
def Token.IsLexeme : Token → Prop
  | number text => text ≠ "" ∧ (∀ c ∈ text.toList, c.isDigit = true ∨ c = '.') ∧
      text.toList.count '.' ≤ 1
  | identifier name => nameFault? name = none
  | symbol c => Text.isBlank c = false ∧ c.isDigit = false ∧ c ≠ '.' ∧ Text.isLetter c = false

/-- The characters are the texts of the tokens in their order, with blanks where one likes. What
    follows a token at once does not make it longer. -/
inductive Written : List Char → List Token → Prop
  | nil : Written [] []
  | blank {c : Char} {rest : List Char} {tokens : List Token} : Text.isBlank c = true →
      Written rest tokens → Written (c :: rest) tokens
  | token {t : Token} {rest : List Char} {tokens : List Token} : t.IsLexeme →
      (∀ c ∈ rest.head?, t.grow? c = none) → Written rest tokens →
      Written (t.text.toList ++ rest) (t :: tokens)

/-! ## Characters that begin or lengthen a token -/

namespace Token

theorem start?_of_isBlank {c : Char} (h : Text.isBlank c = true) : start? c = none := by
  rw [start?, if_pos h]

theorem isBlank_of_start? {c : Char} (h : start? c = none) : Text.isBlank c = true := by
  unfold start? at h
  split at h
  · assumption
  · split at h
    · cases h
    · split at h <;> cases h

theorem grow?_of_isBlank {c : Char} (h : Text.isBlank c = true) (t : Token) :
    t.grow? c = none := by
  have hnumber : ¬ (c.isDigit = true ∨ c = '.') := by
    intro hnumber
    rw [Text.isBlank_of_isDigit_or_point hnumber] at h
    cases h
  rw [not_or] at hnumber
  cases t <;> simp [grow?, hnumber, Text.isLetter_of_isBlank h]

theorem isLexeme_start? {c : Char} {t : Token} (h : start? c = some t) : t.IsLexeme := by
  unfold start? at h
  split at h
  · cases h
  · rename_i hblank
    split at h
    · rename_i hd
      cases h
      refine ⟨String.singleton_ne_empty, ?_, ?_⟩
      · simpa using hd
      · simp [List.count_singleton]
        split <;> simp
    · rename_i hd
      split at h
      · rename_i hl
        cases h
        exact Vocabulary.nameFault?_eq_none_iff.2 ⟨String.singleton_ne_empty,
          by simpa using hl⟩
      · rename_i hl
        cases h
        simp only [Bool.or_eq_true, beq_iff_eq, not_or] at hd
        exact ⟨by simpa using hblank, by simpa using hd.1, hd.2, by simpa using hl⟩

theorem isLexeme_grow? {t longer : Token} {c : Char} (ht : t.IsLexeme)
    (h : t.grow? c = some longer) : longer.IsLexeme := by
  cases t with
  | number text =>
    obtain ⟨-, hall, hcount⟩ := ht
    simp only [grow?] at h
    split at h
    · rename_i hc
      cases h
      simp only [Bool.or_eq_true, Bool.and_eq_true, beq_iff_eq, Bool.not_eq_true'] at hc
      refine ⟨by simp, ?_, ?_⟩
      · intro d hd
        rw [String.toList_push, List.mem_append, List.mem_singleton] at hd
        rcases hd with hd | rfl
        · exact hall d hd
        · exact hc.imp_right And.left
      · rw [String.toList_push, List.count_append]
        rcases hc with hc | ⟨rfl, hc⟩
        · have hne : c ≠ '.' := by
            rintro rfl
            cases hc
          simpa [List.count_singleton, hne] using hcount
        · rw [List.count_eq_zero_of_not_mem (by simpa using hc)]
          decide
    · cases h
  | identifier name =>
    simp only [grow?] at h
    split at h
    · rename_i hc
      cases h
      obtain ⟨-, hall⟩ := Vocabulary.nameFault?_eq_none_iff.1 ht
      refine Vocabulary.nameFault?_eq_none_iff.2 ⟨by simp, ?_⟩
      intro d hd
      rw [String.toList_push, List.mem_append, List.mem_singleton] at hd
      rcases hd with hd | rfl
      · exact hall d hd
      · exact hc
    · cases h
  | symbol char => cases h

end Token

/-! ## Every text is a writing of its tokens -/

theorem written_scan (rest : List Char) :
    Written rest (Token.scan none rest) ∧
      ∀ t : Token, t.IsLexeme → Written (t.text.toList ++ rest) (Token.scan (some t) rest) := by
  induction rest with
  | nil => exact ⟨.nil, fun t ht => .token ht (by simp) .nil⟩
  | cons c rest ih =>
    have hnone : Written (c :: rest) (Token.scan none (c :: rest)) := by
      rw [Token.scan]
      simp only [Option.bind_none, Option.toList_none, List.nil_append]
      cases hc : Token.start? c with
      | none => exact .blank (Token.isBlank_of_start? hc) ih.1
      | some t =>
        have := ih.2 t (Token.isLexeme_start? hc)
        rwa [Token.text_start? hc, String.toList_singleton] at this
    refine ⟨hnone, fun t ht => ?_⟩
    rw [Token.scan]
    cases hg : t.grow? c with
    | none =>
      simp only [Option.bind_some, hg, Option.toList_some, List.singleton_append]
      exact .token ht (by simpa using hg) hnone
    | some longer =>
      simp only [Option.bind_some, hg]
      have := ih.2 longer (Token.isLexeme_grow? ht hg)
      rwa [Token.text_grow? hg, String.toList_push, List.append_assoc] at this

theorem Written.isLexeme {cs : List Char} {tokens : List Token} (h : Written cs tokens) :
    ∀ t ∈ tokens, t.IsLexeme := by
  induction h with
  | nil => simp
  | blank _ _ ih => exact ih
  | token ht _ _ ih => exact List.forall_mem_cons.2 ⟨ht, ih⟩

theorem isLexeme_of_mem_tokenize {text : String} : ∀ t ∈ tokenize text, t.IsLexeme :=
  (written_scan text.toList).1.isLexeme

/-! ## A writing is cut into its tokens -/

namespace Token

/-- What follows a token is cut on its own, unless it makes the token longer. -/
theorem scan_some {t : Token} {rest : List Char} (h : ∀ c ∈ rest.head?, t.grow? c = none) :
    scan (some t) rest = t :: scan none rest := by
  cases rest with
  | nil => rfl
  | cons c rest =>
    have hc : t.grow? c = none := h c rfl
    simp [scan, hc]

theorem scan_of_grow {cs rest : List Char} {t longer : Token}
    (h : cs.foldlM grow? t = some longer) :
    scan (some t) (cs ++ rest) = scan (some longer) rest := by
  induction cs generalizing t with
  | nil =>
    cases h
    rfl
  | cons c cs ih =>
    obtain ⟨next, hc, hcs⟩ := Option.bind_eq_some_iff.1 h
    rw [List.cons_append, scan]
    simp only [Option.bind_some, hc]
    exact ih hcs

theorem foldlM_grow?_identifier {name : String} {cs : List Char}
    (h : ∀ c ∈ cs, Text.isLetter c = true) :
    cs.foldlM grow? (identifier name) = some (identifier (name ++ String.ofList cs)) := by
  induction cs generalizing name with
  | nil => simp
  | cons c cs ih =>
    obtain ⟨hc, hcs⟩ := List.forall_mem_cons.1 h
    have hgrow : grow? (identifier name) c = some (identifier (name.push c)) := by simp [grow?, hc]
    rw [List.foldlM_cons, hgrow, Option.bind_eq_bind, Option.bind_some, ih hcs]
    congr 2
    apply String.toList_injective
    simp

theorem foldlM_grow?_number {text : String} {cs : List Char}
    (h : ∀ c ∈ cs, c.isDigit = true ∨ c = '.') (hcount : (text.toList ++ cs).count '.' ≤ 1) :
    cs.foldlM grow? (number text) = some (number (text ++ String.ofList cs)) := by
  induction cs generalizing text with
  | nil => simp
  | cons c cs ih =>
    obtain ⟨hc, hcs⟩ := List.forall_mem_cons.1 h
    have hgrow : grow? (number text) c = some (number (text.push c)) := by
      rcases hc with hc | rfl
      · simp [grow?, hc]
      · rw [List.count_append, List.count_cons_self] at hcount
        have : '.' ∉ text.toList := List.count_eq_zero.1 (by omega)
        simp [grow?, this]
    rw [List.foldlM_cons, hgrow, Option.bind_eq_bind, Option.bind_some,
      ih hcs (by simpa using hcount)]
    congr 2
    apply String.toList_injective
    simp

theorem start?_of_digit {c : Char} (h : c.isDigit = true ∨ c = '.') :
    start? c = some (number (String.singleton c)) := by
  simp [start?, Text.isBlank_of_isDigit_or_point h, h]

theorem start?_of_isLetter {c : Char} (h : Text.isLetter c = true) :
    start? c = some (identifier (String.singleton c)) := by
  simp [start?, Text.isBlank_of_isLetter h, Text.not_isDigit_or_point h, h]

theorem start?_of_symbol {c : Char} (h : (symbol c).IsLexeme) : start? c = some (symbol c) := by
  obtain ⟨hblank, hdigit, hpoint, hletter⟩ := h
  simp [start?, hblank, hdigit, hpoint, hletter]

/-- A token is read back from its text, unless what follows makes it longer. -/
theorem scan_text {t : Token} (ht : t.IsLexeme) {rest : List Char}
    (h : ∀ c ∈ rest.head?, t.grow? c = none) :
    scan none (t.text.toList ++ rest) = t :: scan none rest := by
  have scan_cons : ∀ {c : Char} {cs : List Char} {first : Token}, start? c = some first →
      cs.foldlM grow? first = some t → scan none (c :: (cs ++ rest)) = t :: scan none rest := by
    intro c cs first hc hcs
    rw [← scan_some h, ← scan_of_grow hcs, scan, hc]
    rfl
  have ofList_cons : ∀ {text : String} {c : Char} {cs : List Char}, text.toList = c :: cs →
      String.singleton c ++ String.ofList cs = text := by
    intro text c cs htext
    apply String.toList_injective
    simp [htext]
  cases t with
  | symbol c =>
    rw [Token.text, String.toList_singleton]
    exact @scan_cons c [] _ (start?_of_symbol ht) rfl
  | number text =>
    obtain ⟨hne, hall, hcount⟩ := ht
    cases htext : text.toList with
    | nil => exact absurd (String.toList_eq_nil_iff.1 htext) hne
    | cons c cs =>
      rw [htext] at hall hcount
      obtain ⟨hc, hcs⟩ := List.forall_mem_cons.1 hall
      rw [Token.text, htext, List.cons_append, scan_cons (start?_of_digit hc)]
      rw [foldlM_grow?_number hcs (by simpa using hcount), ofList_cons htext]
  | identifier name =>
    obtain ⟨hne, hall⟩ := Vocabulary.nameFault?_eq_none_iff.1 ht
    cases htext : name.toList with
    | nil => exact absurd (String.toList_eq_nil_iff.1 htext) hne
    | cons c cs =>
      rw [htext] at hall
      obtain ⟨hc, hcs⟩ := List.forall_mem_cons.1 hall
      rw [Token.text, htext, List.cons_append, scan_cons (start?_of_isLetter hc)]
      rw [foldlM_grow?_identifier hcs, ofList_cons htext]

theorem scan_blank {c : Char} (h : Text.isBlank c = true) (rest : List Char) :
    scan none (c :: rest) = scan none rest := by
  rw [scan, start?_of_isBlank h]
  rfl

end Token

/-- A text is a writing of the tokens that it is cut into, and of no others. -/
theorem written_iff {cs : List Char} {tokens : List Token} :
    Written cs tokens ↔ Token.scan none cs = tokens := by
  constructor
  · intro h
    induction h with
    | nil => rfl
    | blank hc _ ih => rw [Token.scan_blank hc, ih]
    | token ht hnext _ ih => rw [Token.scan_text ht hnext, ih]
  · rintro rfl
    exact (written_scan cs).1

/-- The text of a token is cut into that token alone exactly if it is a lexeme. -/
theorem tokenize_text_iff {t : Token} : tokenize t.text = [t] ↔ t.IsLexeme := by
  constructor
  · intro h
    exact isLexeme_of_mem_tokenize t (h ▸ List.mem_singleton_self t)
  · intro ht
    have hwritten := Written.token ht (by simp) .nil
    rw [List.append_nil] at hwritten
    exact written_iff.1 hwritten

/-! ## Symbols between texts -/

theorem isLexeme_minus : (Token.symbol '-').IsLexeme := by
  refine ⟨?_, ?_, ?_, ?_⟩ <;> decide +kernel

theorem isLexeme_opening : (Token.symbol '(').IsLexeme := by
  refine ⟨?_, ?_, ?_, ?_⟩ <;> decide +kernel

theorem isLexeme_closing : (Token.symbol ')').IsLexeme := by
  refine ⟨?_, ?_, ?_, ?_⟩ <;> decide +kernel

theorem Token.grow?_of_symbol {c : Char} (h : (symbol c).IsLexeme) (t : Token) :
    t.grow? c = none := by
  obtain ⟨-, hdigit, hpoint, hletter⟩ := h
  cases t <;> simp [grow?, hdigit, hpoint, hletter]

/-- A character that makes no token longer parts what stands before it from what it begins. -/
theorem Written.append_cons {cs rest : List Char} {tokens tokens' : List Token} {c : Char}
    (h : Written cs tokens) (hc : ∀ t : Token, t.grow? c = none)
    (hr : Written (c :: rest) tokens') :
    Written (cs ++ c :: rest) (tokens ++ tokens') := by
  induction h with
  | nil => exact hr
  | blank hb _ ih => exact .blank hb ih
  | @token t next _ ht hnext _ ih =>
    rw [List.append_assoc]
    refine .token ht ?_ ih
    cases next with
    | nil => simpa using hc t
    | cons d next => simpa using hnext

theorem Written.append_symbol {cs rest : List Char} {tokens tokens' : List Token} {c : Char}
    (h : Written cs tokens) (hc : (Token.symbol c).IsLexeme) (hr : Written rest tokens') :
    Written (cs ++ c :: rest) (tokens ++ .symbol c :: tokens') := by
  have hsymbol := Written.token hc (fun c _ => rfl) hr
  rw [Token.text, String.toList_singleton] at hsymbol
  exact h.append_cons (Token.grow?_of_symbol hc) hsymbol

/-- A symbol parts what stands before it from what stands after it. -/
theorem tokenize_append_symbol {c : Char} (hc : (Token.symbol c).IsLexeme) (before after : String) :
    tokenize (before ++ String.singleton c ++ after)
      = tokenize before ++ .symbol c :: tokenize after := by
  have h := (written_scan before.toList).1.append_symbol hc (written_scan after.toList).1
  rw [tokenize, String.toList_append, String.toList_append, String.toList_singleton,
    List.append_assoc]
  exact written_iff.1 h

/-! ## Blanks between tokens -/

theorem isBlank_space : Text.isBlank ' ' = true := by decide +kernel

theorem Written.append_blank {cs rest : List Char} {tokens tokens' : List Token} {c : Char}
    (h : Written cs tokens) (hc : Text.isBlank c = true) (hr : Written rest tokens') :
    Written (cs ++ c :: rest) (tokens ++ tokens') :=
  h.append_cons (Token.grow?_of_isBlank hc) (.blank hc hr)

/-- A blank parts what stands before it from what stands after it, and leaves no token. -/
theorem tokenize_append_blank {c : Char} (hc : Text.isBlank c = true) (before after : String) :
    tokenize (before ++ String.singleton c ++ after) = tokenize before ++ tokenize after := by
  have h := (written_scan before.toList).1.append_blank hc (written_scan after.toList).1
  rw [tokenize, String.toList_append, String.toList_append, String.toList_singleton,
    List.append_assoc]
  exact written_iff.1 h

/-- Only blanks are cut into nothing. -/
theorem tokenize_eq_nil_iff {text : String} :
    tokenize text = [] ↔ ∀ c ∈ text.toList, Text.isBlank c = true := by
  rw [tokenize, ← written_iff]
  constructor
  · intro h
    generalize text.toList = cs at h ⊢
    generalize hn : ([] : List Token) = tokens at h
    induction h with
    | nil => simp
    | blank hb _ ih => exact List.forall_mem_cons.2 ⟨hb, ih hn⟩
    | token => cases hn
  · intro h
    generalize text.toList = cs at h ⊢
    induction cs with
    | nil => exact .nil
    | cons c cs ih =>
      obtain ⟨hc, hcs⟩ := List.forall_mem_cons.1 h
      exact .blank hc (ih hcs)

/-- The texts of tokens with a blank after each. -/
def spaced (tokens : List Token) : String :=
  String.ofList (tokens.flatMap fun t => t.text.toList ++ [' '])

/-- Tokens that are parted by blanks are read back. -/
theorem tokenize_spaced {tokens : List Token} (h : ∀ t ∈ tokens, t.IsLexeme) :
    tokenize (spaced tokens) = tokens := by
  have hwritten : Written (tokens.flatMap fun t => t.text.toList ++ [' ']) tokens := by
    induction tokens with
    | nil => exact .nil
    | cons t tokens ih =>
      obtain ⟨ht, htokens⟩ := List.forall_mem_cons.1 h
      rw [List.flatMap_cons, List.append_assoc]
      refine .token ht ?_ (.blank isBlank_space (ih htokens))
      simpa using Token.grow?_of_isBlank isBlank_space t
  rw [tokenize, spaced, String.toList_ofList]
  exact written_iff.1 hwritten

/-! ## Numbers -/

open Number.Decimal (ofNumeral? isSome_ofNumeral?_iff)

/-- A number that is cut from a text is a numeral unless it is a point alone. -/
theorem isSome_ofNumeral?_of_isLexeme {text : String} (h : (Token.number text).IsLexeme) :
    (ofNumeral? text.toList).isSome ↔ text ≠ "." := by
  obtain ⟨hne, hall, hcount⟩ := h
  have hpoint : text.toList = ['.'] ↔ text = "." := by
    rw [← String.toList_inj]
    rfl
  simp only [isSome_ofNumeral?_iff, ne_eq, hpoint]
  exact ⟨fun h => h.2.1, fun h => ⟨mt String.toList_eq_nil_iff.1 hne, h, hall, hcount⟩⟩

theorem isLexeme_of_isSome_ofNumeral? {text : String} (h : (ofNumeral? text.toList).isSome) :
    (Token.number text).IsLexeme := by
  obtain ⟨hne, -, hall, hcount⟩ := isSome_ofNumeral?_iff.1 h
  exact ⟨mt String.toList_eq_nil_iff.2 hne, hall, hcount⟩

end Formula
