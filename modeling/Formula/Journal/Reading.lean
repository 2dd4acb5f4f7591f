import Formula.Journal.Event
import Formula.Reading.Basic

/-!
# Events of reading

Each token is told before it is taken, each node when it is complete, also if the reading fails
after that; the tree of a formula is told last.

* `Vocabulary.parseEvents`: the events of `Vocabulary.parse`.
-/

namespace Formula

namespace Reading

/-- The nodes that are completed when the operations that bind get their operands. -/
def completedNodes (r : Reading) (binds : Level → Bool) : List Expr :=
  settledNodes (Pending.release binds r.pending).1 r.operands

/-- The nodes that a token completes. Only operators and closed parentheses complete any. -/
def stepNodes (v : Vocabulary) (r : Reading) (token : Token) : List Expr :=
  match r.expected, token with
  | .operator, .symbol char =>
    if char = '(' then []
    else if char = ')' then r.completedNodes fun _ => true
    else
      match v.operator? char with
      | some operator => r.completedNodes fun level => decide (operator.level ≤ level)
      | none => []
  | _, _ => []

/-- The events from a reading to its end, or to the token that cannot be taken. -/
def events (v : Vocabulary) : Reading → List Token → List Event
  | r, [] =>
    (r.completedNodes fun _ => true).map .resolved ++ (r.finish.toOption.map .parsed).toList
  | r, token :: rest =>
    .taking token r.expected :: (r.stepNodes v token).map .resolved
      ++ match r.step v token with
        | .ok next => next.events v rest
        | .error _ => []

end Reading

/-- The events of reading a formula. -/
def Vocabulary.parseEvents (v : Vocabulary) (formula : String) : List Event :=
  let tokens := tokenize formula
  .parsing formula :: if tokens = [] then [] else Reading.start.events v tokens

end Formula
