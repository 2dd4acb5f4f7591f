import Formula.Level
import Formula.Expr.Basic

/-!
# Operations that wait for their operands

While a formula is read, an operator waits until it is known where its last operand ends. What
waits is kept newest first, together with the groups that are still open.

* `Pending.release`: the operations that a later one must not overtake, and what stays.
* `Operation.build?`: the node of an operation over the newest operands.
* `settle`: the operands after some operations got theirs.
-/

namespace Formula

/-- An operator or function whose operands are not all known. -/
inductive Operation where
  | unary (name : String) (rule : UnaryRule)
  | binary (symbol : Char) (rule : BinaryRule)

/-- What a formula that is not read to its end still has open. -/
inductive Pending where
  | operation (op : Operation) (level : Level)
  /-- An open parenthesis. -/
  | group

/-- The newest operations down to the first that does not bind or to an open group, and the rest.
    Whether an operation binds is a question of its level. -/
def Pending.release (binds : Level → Bool) : List Pending → List Operation × List Pending
  | .operation op level :: rest =>
    if binds level then
      let (released, kept) := release binds rest
      (op :: released, kept)
    else ([], .operation op level :: rest)
  | kept => ([], kept)

/-- The node of an operation over the newest operands, and the operands below; none if there are
    too few. -/
def Operation.build? : Operation → List Expr → Option (Expr × List Expr)
  | unary name rule, operand :: below => some (.unary name rule operand, below)
  | binary symbol rule, right :: left :: below => some (.binary symbol rule left right, below)
  | _, _ => none

/-- The operands after each operation took its own and left its node; none if they run out. -/
def settle : List Operation → List Expr → Option (List Expr)
  | [], operands => some operands
  | op :: later, operands =>
    match op.build? operands with
    | some (node, below) => settle later (node :: below)
    | none => none

/-- The nodes that operations leave, one after the other, until operands run out. -/
def settledNodes : List Operation → List Expr → List Expr
  | [], _ => []
  | op :: later, operands =>
    match op.build? operands with
    | some (node, below) => node :: settledNodes later (node :: below)
    | none => []

end Formula
