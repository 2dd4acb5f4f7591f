import Formula.Reading.Basic
import Formula.Recent
import Formula.Vocabulary.Change

/-!
# Vocabularies that remember trees

A vocabulary together with the trees of the formulas it read last. A change of the vocabulary
drops them all, as does a removal of something that is not there; a refused change drops nothing.

* `Memo.parse`: the tree of a formula, found or read, with the memo after it.
* `Memo.update`: the answer to a change, with the memo after it.
-/

namespace Formula

/-- A vocabulary and the trees of recent formulas. -/
structure Memo where
  vocabulary : Vocabulary
  trees : Recent String Expr

namespace Memo

/-- A memo with room for that many trees, at least one, which has read nothing yet. -/
def ofCapacity (vocabulary : Vocabulary) (capacity : Nat) : Memo :=
  ⟨vocabulary, .ofCapacity capacity⟩

/-- Whether the tree of a formula is remembered. -/
def remembers (m : Memo) (formula : String) : Bool := m.trees.contains formula

/-- The tree of a formula with the memo after it. The tree becomes the most recent one, when it is
    found as well as when it had to be read. -/
def parse (m : Memo) (formula : String) : Except ParseError Expr × Memo :=
  match m.trees.get formula with
  | (some tree, trees) => (.ok tree, { m with trees })
  | (none, trees) =>
    match m.vocabulary.parse formula with
    | .error cause => (.error cause, { m with trees })
    | .ok tree => (.ok tree, { m with trees := trees.put formula tree })

/-- Drops all trees, if there are any. -/
def forget (m : Memo) : Memo :=
  if m.trees.size = 0 then m else { m with trees := m.trees.clear }

/-- The answer to a change of the vocabulary, and the memo with the vocabulary that it leaves. -/
def revise (m : Memo) (change : Change) : Reply × Memo :=
  let (reply, left) := m.vocabulary.update change
  (reply, { m with vocabulary := left })

/-- The answer to a change, with the memo after it. A removal comes after the trees are dropped.
    Any other change comes before, since it may be refused. -/
def update (m : Memo) (change : Change) : Reply × Memo :=
  if change.removes then m.forget.revise change
  else
    match m.revise change with
    | (.refused cause, left) => (.refused cause, left)
    | (reply, revised) => (reply, revised.forget)

end Memo

end Formula
