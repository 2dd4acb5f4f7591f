import Formula.Expr.Printer
import Formula.Proofs.Grammar
import Formula.Proofs.LeftToRight
import Formula.Proofs.Literal

/-!
# Trees that are printed and read back

A printed tree is the text of a phrase that puts an operator with its two operands, and the operand
of a function or negation, in parentheses, but no function or negation itself. Read back, the text
always has a tree. It is the same tree unless an operator stands to the right of a function or
negation that binds less tightly, as in the power of a negation.

* `Printed`: the phrase that a tree is printed as.
* `tokenize_render`: the text of a tree is cut into the tokens of this phrase.
* `Expr.Regular`: no operator takes its left operand from a function or negation.
* `Printed.parse_render_iff`: exactly the regular trees are read back from their text.
* `parse_render_evolve`: the same of what is read, in all vocabularies that can come about; the
  leaves and operators of other trees are read back in their order.
* `parse_render_standard`: in the standard vocabulary, those without a power of a negation.
-/

namespace Formula

open Number (magnitude infinity isNegative)

/-! ## Trees and their phrases -/

/-- Every constant is a finite double. -/
def Expr.Finite : Expr → Prop
  | constant value => magnitude value < infinity
  | unary _ _ operand => operand.Finite
  | binary _ _ left right => left.Finite ∧ right.Finite
  | _ => True

/-- The phrase that a tree is printed as, if the vocabulary has all its names and symbols with their
    rules, and its constants are finite doubles without a sign. -/
inductive Printed (v : Vocabulary) : Expr → Phrase → Prop
  | constant {x : Float} : magnitude x < infinity → isNegative x = false →
      Printed v (.constant x) (.number (Number.write .plain x))
  | var : Printed v (.var v.variableName) (.var v.variableName)
  | unary {op : UnaryOperator} {rule : UnaryRule} {operand : Expr} {c : Phrase} :
      op.rule? v = some rule → Printed v operand c →
      Printed v (.unary op.name rule operand) (.unary op (.group c))
  | binary {symbol : Char} {o : Operator} {left right : Expr} {l r : Phrase} :
      v.operator? symbol = some o → Printed v left l → Printed v right r →
      Printed v (.binary symbol o.rule left right) (.group (.binary symbol l r))

variable {v : Vocabulary} {t : Expr} {c : Phrase}

/-- What a phrase means can be printed, unless a numeral is too large for a double. -/
theorem exists_printed (h : c.tree? v = some t) (hf : t.Finite) : ∃ c', Printed v t c' := by
  induction c generalizing t with
  | number text =>
    obtain ⟨d, -, rfl⟩ := Phrase.tree?_number.1 h
    exact ⟨_, .constant hf d.isNegative_toFloat⟩
  | var name =>
    obtain ⟨rfl, rfl⟩ := Phrase.tree?_var.1 h
    exact ⟨_, .var⟩
  | unary op operand ih =>
    obtain ⟨rule, u, hr, hu, rfl⟩ := Phrase.tree?_unary.1 h
    obtain ⟨c', hc'⟩ := ih hu hf
    exact ⟨_, .unary hr hc'⟩
  | binary symbol left right ihl ihr =>
    obtain ⟨o, l, r, ho, hl, hr, rfl⟩ := Phrase.tree?_binary.1 h
    obtain ⟨cl, hcl⟩ := ihl hl hf.1
    obtain ⟨cr, hcr⟩ := ihr hr hf.2
    exact ⟨_, .binary ho hcl hcr⟩
  | group inner ih => exact ih h hf

/-- The phrase of a tree means that tree. -/
theorem Printed.tree? (h : Printed v t c) : c.tree? v = some t := by
  induction h with
  | constant hfinite hsign =>
    obtain ⟨d, hd, hx⟩ := Number.ofNumeral?_write hfinite hsign
    rw [Phrase.tree?, hd, Option.map_some, hx]
  | var => exact Phrase.tree?_var.2 ⟨rfl, rfl⟩
  | unary hr _ ih => exact Phrase.tree?_unary.2 ⟨_, _, hr, ih, rfl⟩
  | binary ho _ _ ihl ihr => exact Phrase.tree?_binary.2 ⟨_, _, _, ho, ihl, ihr, rfl⟩

/-! ## The text of a tree -/

theorem Written.symbol {symbol : Char} {rest : List Char} {tokens : List Token}
    (hs : (Token.symbol symbol).IsLexeme) (h : Written rest tokens) :
    Written (symbol :: rest) (.symbol symbol :: tokens) := by
  have := Written.token hs (fun c _ => rfl) h
  rwa [Token.text, String.toList_singleton] at this

theorem isLexeme_operator (hv : v.Coherent) {symbol : Char} {o : Operator}
    (h : v.operator? symbol = some o) : (Token.symbol symbol).IsLexeme := by
  have hfit := hv.operator_fit symbol (Vocabulary.hasOperator_of_operator? h)
  obtain ⟨hblank, hdigit, hpoint, hletter, -, -⟩ := Vocabulary.symbolFault?_eq_none_iff.1 hfit
  exact ⟨hblank, hdigit, hpoint, hletter⟩

namespace UnaryOperator

theorem isLexeme_token (hv : v.Coherent) {op : UnaryOperator} {rule : UnaryRule}
    (h : op.rule? v = some rule) : op.token.IsLexeme := by
  cases op with
  | minus => exact isLexeme_minus
  | function name => exact hv.function_fit name (Vocabulary.hasFunction_of_function? h)

theorem text_token (op : UnaryOperator) : op.token.text = op.name := by
  cases op <;> rfl

end UnaryOperator

/-- The text of a tree is a writing of the tokens of its phrase, also where a symbol follows. -/
theorem Printed.written (hv : v.Coherent) (h : Printed v t c) :
    ∀ {rest : List Char} {tokens : List Token}, Written rest tokens →
      (∀ s ∈ rest.head?, (Token.symbol s).IsLexeme) →
      Written (t.render.toList ++ rest) (c.tokens ++ tokens) := by
  induction h with
  | constant hfinite hsign =>
    intro rest tokens hrest hhead
    obtain ⟨d, hd, -⟩ := Number.ofNumeral?_write hfinite hsign
    have hlex := isLexeme_of_isSome_ofNumeral? (Option.isSome_iff_exists.2 ⟨d, hd⟩)
    have htoken := Written.token hlex (fun s hs => Token.grow?_of_symbol (hhead s hs) _) hrest
    exact htoken
  | var =>
    intro rest tokens hrest hhead
    have hlex : (Token.identifier v.variableName).IsLexeme := hv.variable_fit
    have htoken := Written.token hlex (fun s hs => Token.grow?_of_symbol (hhead s hs) _) hrest
    exact htoken
  | @unary op rule operand c hr _ ih =>
    intro rest tokens hrest hhead
    have hopen := ih (.symbol isLexeme_closing hrest) (by simpa using isLexeme_closing)
    have := Written.token (op.isLexeme_token hv hr)
      (by simpa using Token.grow?_of_symbol isLexeme_opening op.token)
      (.symbol isLexeme_opening hopen)
    simpa [Expr.render, Phrase.tokens, op.text_token] using this
  | @binary symbol o left right l r ho _ _ ihl ihr =>
    intro rest tokens hrest hhead
    have hsymbol := isLexeme_operator hv ho
    have hright := ihr (.symbol isLexeme_closing hrest) (by simpa using isLexeme_closing)
    have hleft := ihl (.symbol hsymbol hright) (by simpa using hsymbol)
    simpa [Expr.render, Phrase.tokens] using Written.symbol isLexeme_opening hleft

/-- The text of a tree is cut into the tokens of its phrase. -/
theorem tokenize_render (hv : v.Coherent) (h : Printed v t c) : tokenize t.render = c.tokens := by
  have := h.written hv .nil (by simp)
  rw [List.append_nil, List.append_nil] at this
  exact written_iff.1 this

/-! ## Which trees are read back -/

/-- The level of the function or negation that a tree consists of. -/
def Expr.unaryLevel? : Expr → Option Level
  | unary name _ _ => some (if name = "-" then .multiplication else .application)
  | _ => none

/-- Every operator binds at most as tightly as a function or negation that is its left operand. -/
def Expr.Regular (v : Vocabulary) : Expr → Prop
  | unary _ _ operand => operand.Regular v
  | binary symbol _ left right =>
    left.Regular v ∧ right.Regular v ∧ ∀ p ∈ v.level? symbol, ∀ l ∈ left.unaryLevel?, p ≤ l
  | _ => True

theorem UnaryOperator.unaryLevel?_unary (hv : v.Coherent) {op : UnaryOperator} {rule : UnaryRule}
    (h : op.rule? v = some rule) (operand : Expr) :
    (Expr.unary op.name rule operand).unaryLevel? = some op.level := by
  cases op with
  | minus => rfl
  | function name =>
    have hfit := hv.function_fit name (Vocabulary.hasFunction_of_function? h)
    have hne : name ≠ "-" := Vocabulary.ne_minus_of_nameFault? hfit
    simp [Expr.unaryLevel?, UnaryOperator.name, UnaryOperator.level, hne]

/-- No printed phrase begins with an operator's left operand. -/
theorem Printed.leading (h : Printed v t c) : c.leading v = [] := by
  cases h <;> rfl

theorem Printed.trailing (hv : v.Coherent) (h : Printed v t c) :
    c.trailing v = t.unaryLevel?.toList := by
  cases h with
  | unary hr _ =>
    rw [UnaryOperator.unaryLevel?_unary hv hr]
    rfl
  | _ => rfl

/-- The phrase of a tree is grouped by levels exactly if the tree is regular. -/
theorem Printed.ordered_iff (hv : v.Coherent) (h : Printed v t c) :
    c.Ordered v ↔ t.Regular v := by
  induction h with
  | constant _ _ => exact Iff.rfl
  | var => exact Iff.rfl
  | @unary op rule operand c _ _ ih =>
    have hgroup : (Phrase.group c).leading v = [] := rfl
    rw [Phrase.Ordered, hgroup, Expr.Regular, ← ih]
    simp [Phrase.Ordered]
  | @binary symbol o left right l r ho hl hr ihl ihr =>
    have hlevel : v.level? symbol = some o.level := Vocabulary.level?_of_operator? ho
    rw [Phrase.Ordered, Phrase.ordered_binary ho, ihl, ihr, hl.trailing hv, hr.leading,
      Expr.Regular, hlevel]
    simp

/-- What is printed can be read. -/
theorem Printed.isOk_parse (hv : v.Coherent) (h : Printed v t c) :
    ∃ u, v.parse t.render = .ok u := by
  rw [isOk_parse_iff hv, tokenize_render hv h]
  exact derives_tokens (Phrase.admitted_of_tree? h.tree?)

/-- Exactly the regular trees are read back from their text. -/
theorem Printed.parse_render_iff (hv : v.Coherent) (h : Printed v t c) :
    v.parse t.render = .ok t ↔ t.Regular v := by
  rw [Vocabulary.parse, tokenize_render hv h, parseTokens_eq_ok_iff hv, ← h.ordered_iff hv]
  constructor
  · rintro ⟨c', htok, ht, ho⟩
    rwa [← Phrase.eq_of_tokens hv ht h.tree? htok]
  · intro ho
    exact ⟨c, rfl, h.tree?, ho⟩

/-- What is printed is read back as the same leaves and operators from left to right. -/
theorem Printed.items_eq (hv : v.Coherent) (h : Printed v t c) {u : Expr}
    (hu : v.parse t.render = .ok u) : u.items = t.items := by
  have hitems := Phrase.itemsOf_tokens hv h.tree? []
  rw [List.append_nil, itemsOf, List.append_nil] at hitems
  rw [items_of_parse hv hu, tokenize_render hv h, hitems]

/-! ## Trees of a text -/

/-- What is read can be printed, unless a numeral is too large for a double. -/
theorem exists_printed_of_parse {text : String} (h : v.parse text = .ok t) (hf : t.Finite) :
    ∃ c, Printed v t c := by
  obtain ⟨c, -, htree, -⟩ := exists_phrase_of_parseTokens h
  exact exists_printed htree hf

/-- Whatever changes made the vocabulary, what it reads can be read again from its printed text, as
    the same leaves and operators in the same order. It is the same tree exactly if no operator
    takes its left operand from a function or negation that binds less tightly. -/
theorem parse_render_evolve (history : List Change) {text : String} {t : Expr} :
    let v := Vocabulary.empty.evolve history
    v.parse text = .ok t → t.Finite →
      ∃ u, v.parse t.render = .ok u ∧ u.items = t.items ∧ (u = t ↔ t.Regular v) := by
  intro v h hf
  have hv : v.Coherent := Vocabulary.coherent_evolve history
  obtain ⟨c, hc⟩ := exists_printed_of_parse h hf
  obtain ⟨u, hu⟩ := hc.isOk_parse hv
  refine ⟨u, hu, hc.items_eq hv hu, ?_⟩
  rw [← hc.parse_render_iff hv, hu, Except.ok.injEq]

/-- An operator above all functions, whose left operand is one: `(sqrt x)#x` is printed as
    `(sqrt(x)#x)`, which is the root of what the operator makes. -/
theorem parse_render_evolve_root :
    let v := Vocabulary.empty.evolve (preset ++ [.addOperator '#' ⟨.grouping, (· + ·)⟩])
    let t := Expr.binary '#' (· + ·) (.unary "sqrt" Float.sqrt (.var "x")) (.var "x")
    v.parse "(sqrt x)#x" = .ok t ∧ t.Finite ∧ t.render = "(sqrt(x)#x)" ∧
      ∃ u, v.parse t.render = .ok u ∧ u.items = t.items ∧ u ≠ t := by
  intro v t
  have hparse : v.parse "(sqrt x)#x" = .ok t := rfl
  have hfinite : t.Finite := ⟨trivial, trivial⟩
  have hlevel : v.level? '#' = some .grouping := rfl
  have hregular : ¬ t.Regular v := by
    simp [t, Expr.Regular, Expr.unaryLevel?, hlevel, Level.le_def, Level.rank]
  obtain ⟨u, hu, hitems, hiff⟩ := parse_render_evolve _ hparse hfinite
  exact ⟨hparse, hfinite, by decide +kernel, u, hu, hitems, mt hiff.1 hregular⟩

/-! ## The standard vocabulary -/

namespace Vocabulary

/-- The levels of the usual operators. -/
theorem level_standard {symbol : Char} {o : Operator}
    (h : (empty.evolve preset).operator? symbol = some o) :
    o.level ≤ .application ∧ (o.level ≤ .multiplication ↔ symbol ≠ '^') := by
  have hall : (empty.evolve preset).operators
      = (((((∅ : Std.TreeMap Char Operator).insert '+' ⟨.addition, (· + ·)⟩).insert
        '-' ⟨.addition, (· - ·)⟩).insert '*' ⟨.multiplication, (· * ·)⟩).insert
        '/' ⟨.multiplication, (· / ·)⟩).insert '^' ⟨.exponentiation, Float.pow⟩ := rfl
  rw [operator?, hall] at h
  simp only [Std.TreeMap.getElem?_insert, Std.LawfulEqCmp.compare_eq_iff_eq] at h
  split_ifs at h with hpow hdiv hmul hsub hadd
  · cases h
    subst hpow
    decide
  · cases h
    subst hdiv
    decide
  · cases h
    subst hmul
    decide
  · cases h
    subst hsub
    decide
  · cases h
    subst hadd
    decide
  · simp at h

end Vocabulary

/-- Whether a tree is a negation. -/
def Expr.isNegation : Expr → Bool
  | unary name _ _ => name == "-"
  | _ => false

/-- Whether a tree has a power of a negation. -/
def Expr.hasNegatedBase : Expr → Bool
  | unary _ _ operand => operand.hasNegatedBase
  | binary symbol _ left right =>
    (symbol == '^' && left.isNegation) || left.hasNegatedBase || right.hasNegatedBase
  | _ => false

theorem Printed.regular_iff_standard (h : Printed (Vocabulary.empty.evolve preset) t c) :
    t.Regular (Vocabulary.empty.evolve preset) ↔ t.hasNegatedBase = false := by
  induction h with
  | constant _ _ => exact iff_of_true trivial rfl
  | var => exact iff_of_true trivial rfl
  | unary _ _ ih => exact ih
  | @binary symbol o left right l r ho hl _ ihl ihr =>
    obtain ⟨happlication, hpower⟩ := Vocabulary.level_standard ho
    have hlevel : (Vocabulary.empty.evolve preset).level? symbol = some o.level :=
      Vocabulary.level?_of_operator? ho
    have hbase : (∀ l ∈ left.unaryLevel?, o.level ≤ l) ↔
        (symbol == '^' && left.isNegation) = false := by
      cases left with
      | unary name rule operand =>
        by_cases hn : name = "-"
        · simp [Expr.unaryLevel?, Expr.isNegation, hn, hpower]
        · simp [Expr.unaryLevel?, Expr.isNegation, hn, happlication]
      | _ => simp [Expr.unaryLevel?, Expr.isNegation]
    rw [Expr.Regular, Expr.hasNegatedBase, hlevel, ihl, ihr]
    simp only [Option.mem_some_iff, forall_eq', hbase, Bool.or_eq_false_iff]
    constructor
    · rintro ⟨hleft, hright, hthis⟩
      exact ⟨⟨hthis, hleft⟩, hright⟩
    · rintro ⟨⟨hthis, hleft⟩, hright⟩
      exact ⟨hleft, hright, hthis⟩

/-- What the standard vocabulary reads can be read again from its printed text. The tree is the same
    one unless it has a power of a negation. -/
theorem parse_render_standard {v : Vocabulary} (hv : Vocabulary.standard = .ok v) {text : String}
    {t : Expr} (h : v.parse text = .ok t) (hf : t.Finite) :
    ∃ u, v.parse t.render = .ok u ∧ (u = t ↔ t.hasNegatedBase = false) := by
  rw [Vocabulary.standard_eq, Except.ok.injEq] at hv
  subst hv
  have hv := Vocabulary.coherent_evolve preset
  obtain ⟨c, -, htree, -⟩ := exists_phrase_of_parseTokens h
  obtain ⟨c', hc'⟩ := exists_printed htree hf
  obtain ⟨u, hu⟩ := hc'.isOk_parse hv
  have hiff := (hc'.parse_render_iff hv).trans hc'.regular_iff_standard
  rw [hu, Except.ok.injEq] at hiff
  exact ⟨u, hu, hiff⟩

/-- The text of `2*-x` is `(2*-(x))`, and reads as the same tree. -/
theorem parse_render_standard_product :
    let t := Expr.binary '*' (· * ·) (.constant (⟨2, 0⟩ : Number.Decimal).toFloat)
      (.unary "-" (fun x => -x) (.var "x"))
    t.hasNegatedBase = false ∧ ∃ u, (Vocabulary.empty.evolve preset).parse t.render = .ok u ∧
      (u = t ↔ t.hasNegatedBase = false) := by
  have hparse : (Vocabulary.empty.evolve preset).parse "2*-x" = .ok
      (.binary '*' (· * ·) (.constant (⟨2, 0⟩ : Number.Decimal).toFloat)
        (.unary "-" (fun x => -x) (.var "x"))) := rfl
  have htwo : magnitude (⟨2, 0⟩ : Number.Decimal).toFloat < infinity := by decide +kernel
  exact ⟨rfl, parse_render_standard Vocabulary.standard_eq hparse ⟨htwo, trivial⟩⟩

/-- The text of `(-x)^2` is `(-(x)^2)`, and reads as the negation of a power. -/
theorem parse_render_negatedBase :
    ∃ v t u, Vocabulary.standard = .ok v ∧ v.parse "(-x)^2" = .ok t ∧ t.Finite ∧
      t.render = "(-(x)^2)" ∧ v.parse t.render = .ok u ∧ u.render = "-((x^2))" ∧ u ≠ t := by
  have htwo : magnitude (⟨2, 0⟩ : Number.Decimal).toFloat < infinity := by decide +kernel
  refine ⟨Vocabulary.empty.evolve preset,
    .binary '^' Float.pow (.unary "-" (fun x => -x) (.var "x"))
      (.constant (⟨2, 0⟩ : Number.Decimal).toFloat),
    .unary "-" (fun x => -x)
      (.binary '^' Float.pow (.var "x") (.constant (⟨2, 0⟩ : Number.Decimal).toFloat)),
    Vocabulary.standard_eq, rfl, ⟨trivial, htwo⟩, by decide +kernel, ?_, by decide +kernel, nofun⟩
  have hrender : (Expr.binary '^' Float.pow (.unary "-" (fun x => -x) (.var "x"))
      (.constant (⟨2, 0⟩ : Number.Decimal).toFloat)).render = "(-(x)^2)" := by decide +kernel
  rw [hrender]
  rfl

end Formula
