import Formula.Expr.Printer
import Formula.Level
import Formula.Token

/-!
# Events

What vocabularies, readings and memos have to tell of their work.

* `Event.severity`: who wants to know of an event.
* `Event.message`: its text.
-/

namespace Formula

/-- Something worth a record. -/
inductive Event where
  | parsing (formula : String)
  | taking (token : Token) (expected : Expectation)
  | resolved (node : Expr)
  | parsed (tree : Expr)
  | hit (formula : String)
  | miss (formula : String)
  | dropping (count : Nat)
  | renamed (before after : String)
  | addingOperator (symbol : Char) (level : Level)
  | addingFunction (name : String)

/-- Whether a record is about the course of the work or about its single steps. -/
inductive Severity where
  | debug
  | trace
deriving DecidableEq

/-- The name of a severity. -/
def Severity.name : Severity → String
  | debug => "DEBUG"
  | trace => "TRACE"

namespace Event

/-- Tokens and the nodes they complete are single steps. -/
def severity : Event → Severity
  | taking .. | resolved .. => .trace
  | _ => .debug

/-- The text of an event. -/
def message : Event → String
  | parsing formula => String.join ["Parsing expression: ", formula]
  | taking token expected =>
    String.join ["token ", token.inspect, " (expect_operator: ",
      if expected = .operator then "true" else "false", ")"]
  | resolved node => String.join ["resolved ", node.render]
  | parsed tree => String.join ["Parse result: ", tree.render]
  | hit formula => String.join ["Cache hit: ", formula]
  | miss formula => String.join ["Cache miss: ", formula]
  | dropping count => String.join ["Dropping ", toString count, " cached trees"]
  | renamed before after => String.join ["Variable renamed: ", before, " -> ", after]
  | addingOperator symbol level =>
    String.join ["Registering operator ", Text.quoteChar symbol, " at ", level.name]
  | addingFunction name => String.join ["Registering function ", name]

/-- The record of an event. -/
def line (event : Event) : String := event.severity.name ++ " " ++ event.message

end Event

end Formula
