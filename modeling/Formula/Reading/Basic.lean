import Formula.Number.Decimal
import Formula.Reading.Pending
import Formula.Token
import Formula.Vocabulary.Basic

/-!
# Formulas that are being read

A formula is read token by token from the left. Between two tokens either a value or an operator
is expected; an operator first completes the waiting operations that bind at least as tightly as
it does, so that operators of one level group from the left.

* `Reading.step`, `Reading.ofTokens`: what a token, and what many tokens do to a reading.
* `Reading.finish`: the tree of a reading that has come to its end.
* `Vocabulary.parse`: the tree of a formula.
-/

namespace Formula

/-- The state of a formula that is read up to some token. -/
structure Reading where
  /-- The operations and groups that wait, newest first. -/
  pending : List Pending
  /-- The values that no operation has taken yet, newest first. -/
  operands : List Expr
  /-- What the next token has to be. -/
  expected : Expectation

/-- The operation of a minus sign where a value is expected. -/
def negation : Operation := .unary "-" fun x => -x

namespace Reading

/-- Nothing is read, and a value is expected. -/
def start : Reading := ⟨[], [], .value⟩

/-- A value of its own has been read, so that an operator must follow. -/
def pushOperand (r : Reading) (operand : Expr) : Reading :=
  { r with operands := operand :: r.operands, expected := .operator }

/-- Something has been read that still needs a value after it. -/
def pushPending (r : Reading) (waiting : Pending) : Reading :=
  { r with pending := waiting :: r.pending, expected := .value }

/-- Completes the newest operations that bind, down to the innermost group, and keeps the rest. -/
def complete (r : Reading) (binds : Level → Bool) : Except ParseError Reading :=
  match settle (Pending.release binds r.pending).1 r.operands with
  | some operands => .ok { r with pending := (Pending.release binds r.pending).2, operands }
  | none => .error .operandsExhausted

/-- Closes the innermost group, once all operations in it are complete. -/
def closeGroup (r : Reading) : Except ParseError Reading := do
  let completed ← r.complete fun _ => true
  match completed.pending with
  | _ :: outer => return { completed with pending := outer, expected := .operator }
  | [] => throw .unmatchedClosed

/-- Takes a token where a value is expected. -/
def onValue (v : Vocabulary) (r : Reading) : Token → Except ParseError Reading
  | .number text =>
    match Number.Decimal.ofNumeral? text.toList with
    | some decimal => .ok (r.pushOperand (.constant decimal.toFloat))
    | none => .error (.invalidNumber text)
  | .identifier name =>
    if name = v.variableName then .ok (r.pushOperand (.var name))
    else
      match v.function? name with
      | some rule => .ok (r.pushPending (.operation (.unary name rule) .application))
      | none => .error (.unknownFunction name)
  | .symbol char =>
    if char = '-' then .ok (r.pushPending (.operation negation .multiplication))
    else if char = '(' then .ok (r.pushPending .group)
    else .error (.unexpectedToken .value (String.singleton char))

/-- Takes an operator that is in the vocabulary. -/
def onBinary (r : Reading) (symbol : Char) (operator : Operator) : Except ParseError Reading := do
  let completed ← r.complete fun level => decide (operator.level ≤ level)
  return completed.pushPending (.operation (.binary symbol operator.rule) operator.level)

/-- Takes a token where an operator is expected. -/
def onOperator (v : Vocabulary) (r : Reading) : Token → Except ParseError Reading
  | .symbol char =>
    if char = '(' then .error (.unexpectedToken .operator (String.singleton char))
    else if char = ')' then r.closeGroup
    else
      match v.operator? char with
      | some operator => r.onBinary char operator
      | none => .error (.unknownOperator char)
  | token => .error (.unexpectedToken .operator token.text)

/-- Takes a token. -/
def step (v : Vocabulary) (r : Reading) (token : Token) : Except ParseError Reading :=
  match r.expected with
  | .value => r.onValue v token
  | .operator => r.onOperator v token

/-- The tree of a reading whose tokens are all taken: every operation gets its operands, and one
    value is left. -/
def finish (r : Reading) : Except ParseError Expr := do
  let completed ← r.complete fun _ => true
  match completed.pending, completed.operands with
  | _ :: _, _ => throw .unmatchedOpen
  | [], [tree] => return tree
  | [], [] => throw .operandsExhausted
  | [], operands => throw (.excessValues operands.length)

/-- The reading of tokens from the left. -/
def ofTokens (v : Vocabulary) (tokens : List Token) : Except ParseError Reading :=
  tokens.foldlM (step v) start

end Reading

namespace Vocabulary

/-- The tree of a list of tokens. -/
def parseTokens (v : Vocabulary) (tokens : List Token) : Except ParseError Expr :=
  if tokens = [] then .error .emptyExpression
  else Reading.ofTokens v tokens >>= Reading.finish

/-- The tree of a formula. -/
def parse (v : Vocabulary) (formula : String) : Except ParseError Expr :=
  v.parseTokens (tokenize formula)

end Vocabulary

end Formula
