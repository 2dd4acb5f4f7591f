import Formula.Text.Quoted

/-!
# Errors

What can go wrong when a vocabulary is changed, a formula is read or a tree is evaluated, as
causes; and for each cause its text.

* `ConfigError`, `ParseError`, `EvalError`: the causes, by what was being done.
* `Error`: any of them, for those who go from a text straight to a value.
-/

namespace Formula

/-- Why a character cannot be an operator. -/
inductive SymbolFault where
  | blank
  | digit
  | point
  | letter
  | parenthesis
deriving DecidableEq

/-- The fault as it ends a sentence on operators. -/
def SymbolFault.phrase : SymbolFault → String
  | blank => "whitespace"
  | digit => "a digit"
  | point => "a decimal point"
  | letter => "a letter"
  | parenthesis => "a parenthesis"

/-- Why a change of a vocabulary is refused. -/
inductive ConfigError where
  | emptyName
  | nonAlphabeticName (name : String)
  /-- The variable was to have the name of a function. -/
  | functionNameTaken (name : String)
  /-- A function was to have the name of the variable. -/
  | variableNameTaken (name : String)
  | invalidSymbol (symbol : Char) (fault : SymbolFault)
deriving DecidableEq

/-- The text of a refusal. -/
def ConfigError.message : ConfigError → String
  | emptyName => "invalid name: empty string"
  | nonAlphabeticName name =>
    String.join ["invalid name '", name, "': contains non-alphabetic character"]
  | functionNameTaken name =>
    String.join ["invalid variable name '", name, "': a function already exists with that name"]
  | variableNameTaken name =>
    String.join ["invalid function name '", name, "': same as the variable name"]
  | invalidSymbol symbol fault =>
    String.join ["invalid operator symbol ", Text.quoteChar symbol, ": an operator cannot be ",
      fault.phrase]

/-- What may stand at the next place of a formula. -/
inductive Expectation where
  | value
  | operator
deriving DecidableEq

/-- The expectation as a noun. -/
def Expectation.phrase : Expectation → String
  | value => "number or function"
  | operator => "operator"

/-- Why a text is not a formula. -/
inductive ParseError where
  | emptyExpression
  | unexpectedToken (expected : Expectation) (found : String)
  | invalidNumber (text : String)
  | unknownOperator (symbol : Char)
  | unknownFunction (name : String)
  | unmatchedOpen
  | unmatchedClosed
  /-- An operator is left without an operand. -/
  | operandsExhausted
  /-- The number of values that no operator connects. -/
  | excessValues (count : Nat)
deriving DecidableEq

/-- The text of a parse error. -/
def ParseError.message : ParseError → String
  | emptyExpression => "empty expression"
  | unexpectedToken expected found =>
    String.join ["expected ", expected.phrase, ", but got '", found, "'"]
  | invalidNumber text => String.join ["invalid number literal '", text, "'"]
  | unknownOperator symbol => String.join ["unrecognized operation: ", String.singleton symbol]
  | unknownFunction name => String.join ["unrecognized function: ", name]
  | unmatchedOpen => "unmatched open parentheses"
  | unmatchedClosed => "unmatched closed parentheses"
  | operandsExhausted => "too many operators (exhausted result stack)"
  | excessValues count =>
    String.join ["too many values (", toString count, " left on the result stack)"]

/-- Why a tree has no value. -/
inductive EvalError where
  /-- The tree has a hole. -/
  | uninitializedNode
deriving DecidableEq

/-- The text of an evaluation error. -/
def EvalError.message : EvalError → String
  | uninitializedNode => "evaluation failed: uninitialized child node"

/-- Why a text has no value. -/
inductive Error where
  | config (cause : ConfigError)
  | parse (cause : ParseError)
  | eval (cause : EvalError)
deriving DecidableEq

/-- The text of an error is that of its cause. -/
def Error.message : Error → String
  | config cause => cause.message
  | parse cause => cause.message
  | eval cause => cause.message

end Formula
