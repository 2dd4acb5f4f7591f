import Formula.Journal.Reading
import Formula.Memo

/-!
# Events of changes and of memos

Accepted changes are told, removals and refused changes are not. A memo tells whether it remembers
a formula, and how many trees it drops if it drops any: after the change is told, or before
something is removed, which comes to the same.

* `Vocabulary.updateEvents`, `Vocabulary.installEvents`: the events of changes.
* `Memo.parseEvents`, `Memo.updateEvents`: the events of a memo.
-/

namespace Formula

namespace Vocabulary

/-- The events of one change. -/
def updateEvents (v : Vocabulary) (change : Change) : List Event :=
  match change, (v.update change).1 with
  | .rename name, .accepted => [.renamed v.variableName name]
  | .addOperator symbol operator, .accepted => [.addingOperator symbol operator.level]
  | .addFunction name _, .accepted => [.addingFunction name]
  | _, _ => []

/-- The events of several changes, up to the first that is refused. -/
def installEvents (v : Vocabulary) : List Change → List Event
  | [] => []
  | change :: rest =>
    match v.update change with
    | (.refused _, _) => []
    | (_, changed) => v.updateEvents change ++ changed.installEvents rest

end Vocabulary

namespace Memo

/-- The events of reading a formula or remembering it. -/
def parseEvents (m : Memo) (formula : String) : List Event :=
  if m.remembers formula then [.hit formula]
  else .miss formula :: m.vocabulary.parseEvents formula

/-- The events of one change. -/
def updateEvents (m : Memo) (change : Change) : List Event :=
  match m.vocabulary.update change with
  | (.refused _, _) => []
  | _ =>
    m.vocabulary.updateEvents change
      ++ if m.trees.size = 0 then [] else [.dropping m.trees.size]

end Memo

end Formula
