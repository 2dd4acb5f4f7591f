import Formula.Level
import Formula.Expr.Basic
import Formula.Text.Blank
import Formula.Text.Letter
import Std.Data.TreeMap

/-!
# Vocabularies

What a formula may speak of besides numbers: one variable, operators with their levels, and
functions. Names are made of letters, and the variable and a function never share one; a symbol
is a character that can stand for nothing else in a formula. Whatever would break these rules is
refused, and what is already there is replaced. A refusal leaves what was done before it, so that
all checks stand in front of the change.

* `nameFault?`, `symbolFault?`: what is wrong with a name or a symbol.
* `Vocabulary.rename`, `addOperator`, `addFunction`: changes that can be refused.
* `Vocabulary.removeOperator`, `removeFunction`: changes that cannot.
* `Vocabulary.hasOperator_eq_isSome`, `hasFunction_eq_isSome`: what there is can be looked up.
-/

namespace Formula

/-- What an operator symbol stands for. -/
structure Operator where
  level : Level
  rule : BinaryRule

/-- The variable, the operators and the functions that formulas may use. -/
structure Vocabulary where
  variableName : String
  operators : Std.TreeMap Char Operator
  functions : Std.TreeMap String UnaryRule

/-- What makes a text unfit as a name. -/
def nameFault? (name : String) : Option ConfigError :=
  if name = "" then some .emptyName
  else if name.toList.all Text.isLetter then none
  else some (.nonAlphabeticName name)

/-- What makes a character unfit as an operator. -/
def symbolFault? (symbol : Char) : Option SymbolFault :=
  if Text.isBlank symbol then some .blank
  else if symbol.isDigit then some .digit
  else if symbol = '.' then some .point
  else if Text.isLetter symbol then some .letter
  else if symbol = '(' ∨ symbol = ')' then some .parenthesis
  else none

namespace Vocabulary

/-- The variable `x` alone. -/
def empty : Vocabulary := ⟨"x", ∅, ∅⟩

/-- What an operator symbol stands for. -/
def operator? (v : Vocabulary) (symbol : Char) : Option Operator := v.operators[symbol]?

/-- What a function name stands for. -/
def function? (v : Vocabulary) (name : String) : Option UnaryRule := v.functions[name]?

/-- Whether a character is an operator. -/
def hasOperator (v : Vocabulary) (symbol : Char) : Bool := v.operators.contains symbol

/-- Whether a name is that of a function. -/
def hasFunction (v : Vocabulary) (name : String) : Bool := v.functions.contains name

/-- The operators by their symbols, in the order of code points. -/
def operatorSymbols (v : Vocabulary) : List Char := v.operators.keys

/-- The names of the functions, in the order of code points. -/
def functionNames (v : Vocabulary) : List String := v.functions.keys

/-- Refuses whatever has a fault. -/
def check (fault? : Option ConfigError) : EStateM ConfigError Vocabulary Unit :=
  match fault? with
  | some fault => throw fault
  | none => pure ()

/-- Renames the variable, to no name that a function has. -/
def rename (name : String) : EStateM ConfigError Vocabulary Unit := do
  check (nameFault? name)
  if (← get).hasFunction name then throw (.functionNameTaken name)
  modify fun v => { v with variableName := name }

/-- Adds an operator, in place of the one with the same symbol. -/
def addOperator (symbol : Char) (operator : Operator) : EStateM ConfigError Vocabulary Unit := do
  check ((symbolFault? symbol).map (.invalidSymbol symbol))
  modify fun v => { v with operators := v.operators.insert symbol operator }

/-- Adds a function, in place of the one with the same name; the variable keeps its name. -/
def addFunction (name : String) (rule : UnaryRule) : EStateM ConfigError Vocabulary Unit := do
  check (nameFault? name)
  if name = (← get).variableName then throw (.variableNameTaken name)
  modify fun v => { v with functions := v.functions.insert name rule }

/-- Removes an operator, if there is one. -/
def removeOperator (v : Vocabulary) (symbol : Char) : Vocabulary :=
  { v with operators := v.operators.erase symbol }

/-- Removes a function, if there is one. -/
def removeFunction (v : Vocabulary) (name : String) : Vocabulary :=
  { v with functions := v.functions.erase name }

/-! ## Look-ups -/

theorem hasOperator_eq_isSome (v : Vocabulary) (symbol : Char) :
    v.hasOperator symbol = (v.operator? symbol).isSome :=
  Std.TreeMap.contains_eq_isSome_getElem?

theorem hasFunction_eq_isSome (v : Vocabulary) (name : String) :
    v.hasFunction name = (v.function? name).isSome :=
  Std.TreeMap.contains_eq_isSome_getElem?

theorem operator?_removeOperator (v : Vocabulary) (removed symbol : Char) :
    (v.removeOperator removed).operator? symbol
      = if removed = symbol then none else v.operator? symbol := by
  simp [removeOperator, operator?, Std.TreeMap.getElem?_erase]

theorem function?_removeFunction (v : Vocabulary) (removed name : String) :
    (v.removeFunction removed).function? name
      = if removed = name then none else v.function? name := by
  simp [removeFunction, function?, Std.TreeMap.getElem?_erase]

end Vocabulary

end Formula
