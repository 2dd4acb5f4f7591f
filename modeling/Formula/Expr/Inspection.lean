import Formula.Expr.Basic
import Formula.Number.Printer
import Formula.Text.Quoted

/-!
# Expression trees node by node

A report on a tree that names each node and its parts, for a reader who looks for a mistake in it.
The rules of operators cannot be shown; two points stand for them.

* `Expr.inspect`: the report on one line.
* `Expr.inspectIndented`: the report with each part on a line of its own.
-/

namespace Formula.Expr

/-- The nodes of a tree on one line. -/
def inspect : Expr → String
  | constant value => String.join ["Constant(", Number.write .inspected value, ")"]
  | var name => String.join ["Variable(", Text.quoteString name, ")"]
  | unary name _ operand =>
    String.join ["Unary \x7b name: ", Text.quoteString name, ", inner: ", operand.inspect,
      ", .. \x7d"]
  | binary symbol _ left right =>
    String.join ["Binary \x7b symbol: ", Text.quoteChar symbol, ", left: ", left.inspect,
      ", right: ", right.inspect, ", .. \x7d"]
  | hole => "Placeholder"

/-- The start of a line one step further to the right than one that starts with `margin`. -/
def deeper (margin : String) : String := margin ++ "    "

/-- The parts of a node, each on a line of its own between the brackets of the node. -/
def indented (margin opening closing : String) (parts : List String) : String :=
  String.join [opening, "\n", String.join (parts.map fun part => deeper margin ++ part ++ "\n"),
    margin, closing]

/-- The nodes of a tree with one part to a line, after lines that start with `margin`. -/
def inspectFrom (margin : String) : Expr → String
  | constant value => indented margin "Constant(" ")" [Number.write .inspected value ++ ","]
  | var name => indented margin "Variable(" ")" [Text.quoteString name ++ ","]
  | unary name _ operand =>
    indented margin "Unary \x7b" "\x7d"
      [String.join ["name: ", Text.quoteString name, ","],
        String.join ["inner: ", operand.inspectFrom (deeper margin), ","], ".."]
  | binary symbol _ left right =>
    indented margin "Binary \x7b" "\x7d"
      [String.join ["symbol: ", Text.quoteChar symbol, ","],
        String.join ["left: ", left.inspectFrom (deeper margin), ","],
        String.join ["right: ", right.inspectFrom (deeper margin), ","], ".."]
  | hole => "Placeholder"

/-- The nodes of a tree with one part to a line. -/
def inspectIndented (e : Expr) : String := e.inspectFrom ""

end Formula.Expr
