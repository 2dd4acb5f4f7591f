import Formula.Proofs.Lexing
import Formula.Reading.Basic

/-!
# Texts side by side

A text that is written at once after another keeps its tokens, and so does the other, unless the
two join: the first one ends in the middle of a token of both. Whether it does can be told from the
token that is not finished where the first text ends, and from the first character of the second.

* `Token.next?`, `Token.unfinished?`: the token that is not finished where characters end.
* `Token.exists_scan_append`: the tokens before it are not touched by what follows.
* `Token.scan_some_eq_iff`: it is a token of its own unless the next character belongs to it.
* `Joins`, `joins_iff`: the boundary of two texts is in the middle of a token.
* `tokenize_append_iff`: two texts have the tokens of both exactly if they do not join, and then
  blanks between them change nothing.
-/

namespace Formula

/-! ## Definitions -/

/-- The token that is not finished after one more character, if it was this one before. -/
def Token.next? (unfinished : Option Token) (c : Char) : Option Token :=
  (unfinished.bind (·.grow? c)).or (start? c)

/-- The token that is not finished where characters end; none if the last of them is a blank. -/
def Token.unfinished? (cs : List Char) : Option Token := cs.foldl next? none

/-- A token goes over the boundary of two texts: a letter stands on either side, or the first text
    ends with a number to which the first character of the second belongs, which is a digit, or a
    point if the number has none. -/
def Joins (before after : String) : Prop :=
  ∃ a ∈ before.toList.getLast?, ∃ c ∈ after.toList.head?,
    (Text.isLetter a = true ∧ Text.isLetter c = true) ∨
    ((a.isDigit = true ∨ a = '.') ∧ ∃ t ∈ (tokenize before).getLast?,
      a ∈ t.text.toList.getLast? ∧ (c.isDigit = true ∨ (c = '.' ∧ '.' ∉ t.text.toList)))

namespace Token

/-! ## What is cut where characters end -/

/-- All tokens but the unfinished one stay as they are, and that one is cut together with what
    follows. -/
theorem exists_scan_append (unfinished : Option Token) (cs : List Char) :
    ∃ finished, ∀ rest,
      scan unfinished (cs ++ rest) = finished ++ scan (cs.foldl next? unfinished) rest := by
  induction cs generalizing unfinished with
  | nil => exact ⟨[], fun rest => rfl⟩
  | cons c cs ih =>
    cases hgrow : unfinished.bind (·.grow? c) with
    | some longer =>
      obtain ⟨finished, h⟩ := ih (some longer)
      refine ⟨finished, fun rest => ?_⟩
      rw [List.cons_append, scan, hgrow, List.foldl_cons, next?, hgrow]
      exact h rest
    | none =>
      obtain ⟨finished, h⟩ := ih (start? c)
      refine ⟨unfinished.toList ++ finished, fun rest => ?_⟩
      rw [List.cons_append, scan, hgrow, List.foldl_cons, next?, hgrow, List.append_assoc]
      exact congrArg (unfinished.toList ++ ·) (h rest)

/-- The unfinished token is the beginning of the next one. -/
theorem exists_scan_some (t : Token) (rest : List Char) :
    ∃ first more, scan (some t) rest = first :: more ∧ t.text.toList <+: first.text.toList := by
  induction rest generalizing t with
  | nil => exact ⟨t, [], rfl, List.prefix_rfl⟩
  | cons c rest ih =>
    cases hgrow : t.grow? c with
    | none => exact ⟨t, _, by rw [scan, Option.bind_some, hgrow]; rfl, List.prefix_rfl⟩
    | some longer =>
      obtain ⟨first, more, hscan, hprefix⟩ := ih longer
      refine ⟨first, more, by rw [scan, Option.bind_some, hgrow]; exact hscan, ?_⟩
      rw [text_grow? hgrow, String.toList_push] at hprefix
      exact (List.prefix_append _ _).trans hprefix

/-- The unfinished token is one of its own exactly if the next character does not belong to it. -/
theorem scan_some_eq_iff {t : Token} {rest : List Char} :
    scan (some t) rest = t :: scan none rest ↔ ∀ c ∈ rest.head?, t.grow? c = none := by
  refine ⟨fun h c hc => ?_, scan_some⟩
  obtain ⟨rest, rfl⟩ := List.head?_eq_some_iff.1 hc
  cases hgrow : t.grow? c with
  | none => rfl
  | some longer =>
    -- a token that begins with the longer one would be the shorter one
    obtain ⟨first, more, hscan, hprefix⟩ := exists_scan_some longer rest
    rw [scan, Option.bind_some, hgrow] at h
    have hfirst : first = t := (List.cons.inj (hscan.symm.trans h)).1
    rw [hfirst, text_grow? hgrow, String.toList_push] at hprefix
    have hlength := hprefix.length_le
    rw [List.length_append, List.length_singleton] at hlength
    omega

/-- Characters are cut apart exactly if the first of the second part does not belong to the token
    that is not finished where the first part ends. -/
theorem scan_append_eq_iff {cs rest : List Char} :
    scan none (cs ++ rest) = scan none cs ++ scan none rest ↔
      ∀ t ∈ unfinished? cs, ∀ c ∈ rest.head?, t.grow? c = none := by
  obtain ⟨finished, h⟩ := exists_scan_append none cs
  have hcs : scan none cs = finished ++ (unfinished? cs).toList := by
    rw [← List.append_nil cs, h [], List.append_nil]
    rfl
  rw [h rest, hcs, List.append_assoc, List.append_cancel_left_eq, ← unfinished?]
  cases unfinished? cs with
  | none => simp
  | some t => simpa using scan_some_eq_iff

/-! ## The unfinished token -/

theorem unfinished?_concat (cs : List Char) (a : Char) :
    unfinished? (cs ++ [a]) = ((unfinished? cs).bind (·.grow? a)).or (start? a) := by
  rw [unfinished?, List.foldl_append]
  rfl

/-- The unfinished token ends with the last character. -/
theorem getLast?_of_unfinished? {cs : List Char} {t : Token} (h : unfinished? cs = some t) :
    t.text.toList.getLast? = cs.getLast? := by
  rcases List.eq_nil_or_concat' cs with rfl | ⟨init, a, rfl⟩
  · cases h
  rw [unfinished?_concat, Option.or_eq_some_iff] at h
  rw [List.getLast?_concat]
  rcases h with h | ⟨-, h⟩
  · obtain ⟨shorter, -, hgrow⟩ := Option.bind_eq_some_iff.1 h
    rw [text_grow? hgrow, String.toList_push, List.getLast?_concat]
  · rw [text_start? h, String.toList_singleton, List.getLast?_singleton]

/-- The unfinished token is the last one. -/
theorem getLast?_scan_of_unfinished? {cs : List Char} {t : Token} (h : unfinished? cs = some t) :
    (scan none cs).getLast? = some t := by
  obtain ⟨finished, hscan⟩ := exists_scan_append none cs
  have hcs := hscan []
  rw [List.append_nil, ← unfinished?, h] at hcs
  rw [hcs]
  exact List.getLast?_concat

/-- Only after a blank no token is unfinished. -/
theorem isBlank_of_unfinished? {cs : List Char} {a : Char} (h : unfinished? cs = none)
    (ha : a ∈ cs.getLast?) : Text.isBlank a = true := by
  obtain ⟨init, rfl⟩ := List.getLast?_eq_some_iff.1 ha
  rw [unfinished?_concat, Option.or_eq_none_iff] at h
  exact isBlank_of_start? h.2

/-- What belongs to a token can be told from its last character, and for a point from whether the
    token has one. -/
theorem isSome_grow?_iff {t : Token} (ht : t.IsLexeme) {a c : Char}
    (ha : a ∈ t.text.toList.getLast?) :
    (t.grow? c).isSome ↔ (Text.isLetter a = true ∧ Text.isLetter c = true) ∨
      ((a.isDigit = true ∨ a = '.') ∧ (c.isDigit = true ∨ (c = '.' ∧ '.' ∉ t.text.toList))) := by
  have hmem : a ∈ t.text.toList := List.mem_of_getLast? ha
  cases t with
  | number text =>
    have hdigit : a.isDigit = true ∨ a = '.' := ht.2.1 a hmem
    have hletter : Text.isLetter a = false := Text.isLetter_of_isDigit_or_point hdigit
    simp [grow?, hdigit, hletter, Token.text]
  | identifier name =>
    have hletter : Text.isLetter a = true := (Vocabulary.nameFault?_eq_none_iff.1 ht).2 a hmem
    have hdigit : ¬ (a.isDigit = true ∨ a = '.') := Text.not_isDigit_or_point hletter
    simp [grow?, hdigit, hletter]
  | symbol char =>
    rw [Token.text, String.toList_singleton, List.mem_singleton] at hmem
    subst hmem
    obtain ⟨-, hdigit, hpoint, hletter⟩ := ht
    simp [grow?, hdigit, hpoint, hletter]

end Token

/-! ## Two texts -/

/-- Two texts join exactly if the first character of the second belongs to the token that is not
    finished where the first one ends. -/
theorem joins_iff {before after : String} :
    Joins before after ↔ ∃ t ∈ Token.unfinished? before.toList, ∃ c ∈ after.toList.head?,
      (t.grow? c).isSome := by
  constructor
  · rintro ⟨a, ha, c, hc, h⟩
    have hblank : Text.isBlank a = false := by
      rcases h with ⟨hletter, -⟩ | ⟨hnumber, -⟩
      · exact Text.isBlank_of_isLetter hletter
      · exact Text.isBlank_of_isDigit_or_point hnumber
    cases ht : Token.unfinished? before.toList with
    | none =>
      rw [Token.isBlank_of_unfinished? ht ha] at hblank
      cases hblank
    | some t =>
      have hlast : (tokenize before).getLast? = some t := Token.getLast?_scan_of_unfinished? ht
      have hend : a ∈ t.text.toList.getLast? := (Token.getLast?_of_unfinished? ht).trans ha
      refine ⟨t, rfl, c, hc, ?_⟩
      rw [Token.isSome_grow?_iff (isLexeme_of_mem_tokenize t (List.mem_of_getLast? hlast)) hend]
      refine h.imp_right fun ⟨hdigit, t', ht', _, hnext⟩ => ⟨hdigit, ?_⟩
      rw [hlast, Option.mem_some_iff] at ht'
      rwa [ht']
  · rintro ⟨t, ht, c, hc, h⟩
    have hlast : (tokenize before).getLast? = some t := Token.getLast?_scan_of_unfinished? ht
    have hlex : t.IsLexeme := isLexeme_of_mem_tokenize t (List.mem_of_getLast? hlast)
    obtain ⟨a, ha⟩ : ∃ a, t.text.toList.getLast? = some a := by
      cases hend : t.text.toList.getLast? with
      | some a => exact ⟨a, rfl⟩
      | none =>
        rw [Token.getLast?_of_unfinished? ht, List.getLast?_eq_none_iff] at hend
        rw [hend] at ht
        cases ht
    rw [Token.isSome_grow?_iff hlex ha] at h
    refine ⟨a, (Token.getLast?_of_unfinished? ht).symm.trans ha, c, hc, ?_⟩
    exact h.imp_right fun ⟨hdigit, hnext⟩ => ⟨hdigit, t, hlast, ha, hnext⟩

/-- Blanks before a text leave no token. -/
theorem tokenize_blanks_append {blanks : String}
    (h : ∀ c ∈ blanks.toList, Text.isBlank c = true) (text : String) :
    tokenize (blanks ++ text) = tokenize text := by
  rw [tokenize, tokenize, String.toList_append]
  generalize blanks.toList = cs at h
  induction cs with
  | nil => rfl
  | cons c cs ih =>
    obtain ⟨hc, hcs⟩ := List.forall_mem_cons.1 h
    rw [List.cons_append, Token.scan_blank hc, ih hcs]

/-- Texts that do not join have the tokens of both, also with blanks between them. -/
theorem tokenize_append_of_not_joins {before after blanks : String} (h : ¬ Joins before after)
    (hblanks : ∀ c ∈ blanks.toList, Text.isBlank c = true) :
    tokenize (before ++ blanks ++ after) = tokenize before ++ tokenize after := by
  rw [← tokenize_blanks_append hblanks after, String.append_assoc, tokenize, String.toList_append]
  refine Token.scan_append_eq_iff.2 fun t ht c hc => ?_
  rw [String.toList_append, List.head?_append, Option.mem_def, Option.or_eq_some_iff] at hc
  rcases hc with hc | ⟨-, hc⟩
  · exact Token.grow?_of_isBlank (hblanks c (List.mem_of_head? hc)) t
  · by_contra hgrow
    exact h (joins_iff.2 ⟨t, ht, c, hc, Option.isSome_iff_ne_none.2 hgrow⟩)

/-- Two texts have the tokens of both exactly if they do not join, and then blanks may be put
    between them or left out as one likes: the tokens are the same, and so is what every vocabulary
    reads. -/
theorem tokenize_append_iff (before after : String) :
    (tokenize (before ++ after) = tokenize before ++ tokenize after ↔ ¬ Joins before after) ∧
    ∀ blanks : String, (∀ c ∈ blanks.toList, Text.isBlank c = true) → ¬ Joins before after →
      tokenize (before ++ blanks ++ after) = tokenize (before ++ after) ∧
      ∀ v : Vocabulary, v.parse (before ++ blanks ++ after) = v.parse (before ++ after) := by
  have hiff : tokenize (before ++ after) = tokenize before ++ tokenize after ↔
      ¬ Joins before after := by
    rw [tokenize, String.toList_append, tokenize, tokenize, Token.scan_append_eq_iff, joins_iff]
    simp [← Option.isNone_iff_eq_none]
  refine ⟨hiff, fun blanks hblanks hjoins => ?_⟩
  have htokens : tokenize (before ++ blanks ++ after) = tokenize (before ++ after) := by
    rw [tokenize_append_of_not_joins hjoins hblanks, hiff.2 hjoins]
  refine ⟨htokens, fun v => ?_⟩
  rw [Vocabulary.parse, htokens]
  rfl

/-- A number with a point and another point do not join, and so blanks may stand between them. With
    a digit in place of the other point they join, and it is the point behind it that begins the
    next token. -/
theorem tokenize_append_iff_point :
    let v := Vocabulary.empty.evolve preset
    (∀ c ∈ " \t".toList, Text.isBlank c = true) ∧ ¬ Joins "1.2" ".5x" ∧
      (tokenize ("1.2" ++ " \t" ++ ".5x") = tokenize ("1.2" ++ ".5x") ∧
        v.parse ("1.2" ++ " \t" ++ ".5x") = v.parse ("1.2" ++ ".5x")) ∧
      Joins "1.2" "3.4" ∧ tokenize ("1.2" ++ "3.4") = [.number "1.23", .number ".4"] := by
  intro v
  have hblanks : ∀ c ∈ " \t".toList, Text.isBlank c = true :=
    List.all_eq_true.1 (by decide +kernel)
  have hapart : ¬ Joins "1.2" ".5x" :=
    (tokenize_append_iff "1.2" ".5x").1.1 (by decide +kernel)
  have hjoins : Joins "1.2" "3.4" := by
    by_contra h
    have hcut := (tokenize_append_iff "1.2" "3.4").1.2 h
    revert hcut
    decide +kernel
  obtain ⟨htokens, hparse⟩ := (tokenize_append_iff "1.2" ".5x").2 " \t" hblanks hapart
  exact ⟨hblanks, hapart, ⟨htokens, hparse v⟩, hjoins, by decide +kernel⟩

end Formula
