import Formula.Text.Blank
import Formula.Text.Letter
import Formula.Text.Quoted

/-!
# Tokens

A formula is cut into numbers, names and single symbols. Blanks part tokens and are dropped;
nothing else is, and no text fails to be cut. Digits are those of ASCII, and which symbols mean
something is not decided here.

* `Token.start?`: the token that a character begins, none for a blank.
* `Token.grow?`: the longer token, if the character belongs to the token before it.
* `Token.scan`: each token grows as far as it can.
* `tokenize`: the tokens of a text.
* `text_start?`, `text_grow?`: what is taken into a token is kept.
-/

namespace Formula

/-- A piece of a formula. -/
inductive Token where
  /-- Digits with at most one decimal point. -/
  | number (text : String)
  /-- Letters. -/
  | identifier (name : String)
  /-- Any other character that is not a blank. -/
  | symbol (char : Char)
deriving DecidableEq

namespace Token

/-- A token as it stands in the formula. -/
def text : Token → String
  | number text => text
  | identifier name => name
  | symbol char => String.singleton char

/-- A token with its kind, its text in quotes. -/
def inspect : Token → String
  | number text => "Number(" ++ Text.quoteString text ++ ")"
  | identifier name => "Identifier(" ++ Text.quoteString name ++ ")"
  | symbol char => "Symbol(" ++ Text.quoteChar char ++ ")"

/-- The token that a character begins. -/
def start? (c : Char) : Option Token :=
  if Text.isBlank c then none
  else if c.isDigit || c == '.' then some (number (String.singleton c))
  else if Text.isLetter c then some (identifier (String.singleton c))
  else some (symbol c)

/-- The token with one more character, if that belongs to it: a digit or a first point to a
    number, a letter to a name. -/
def grow? : Token → Char → Option Token
  | number text, c =>
    if c.isDigit || (c == '.' && !text.toList.contains '.') then some (number (text.push c))
    else none
  | identifier name, c => if Text.isLetter c then some (identifier (name.push c)) else none
  | symbol _, _ => none

theorem text_start? {c : Char} {t : Token} (started : start? c = some t) :
    t.text = String.singleton c := by
  simp only [start?] at started
  repeat' split at started
  all_goals cases started
  all_goals rfl

theorem text_grow? {t longer : Token} {c : Char} (grown : t.grow? c = some longer) :
    longer.text = t.text.push c := by
  cases t <;> simp only [grow?] at grown
  case symbol => cases grown
  all_goals
    split at grown
    · cases grown
      rfl
    · cases grown

/-- The tokens of the characters that follow an unfinished token, if there is one. -/
def scan : Option Token → List Char → List Token
  | unfinished, [] => unfinished.toList
  | unfinished, c :: rest =>
    match unfinished.bind (·.grow? c) with
    | some longer => scan (some longer) rest
    | none => unfinished.toList ++ scan (start? c) rest

end Token

/-- The tokens of a formula, from left to right. -/
def tokenize (formula : String) : List Token := Token.scan none formula.toList

end Formula
