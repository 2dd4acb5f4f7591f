import Formula.Vocabulary.Basic

/-!
# Changes of a vocabulary

The five changes as data, so that a history of them is a list, and what a vocabulary answers to
each of them.

* `Vocabulary.update`: the answer to a change, with the vocabulary after it.
* `Vocabulary.install`: several changes, up to the first that is refused.
-/

namespace Formula

/-- A change of a vocabulary. -/
inductive Change where
  | rename (name : String)
  | addOperator (symbol : Char) (operator : Operator)
  | removeOperator (symbol : Char)
  | addFunction (name : String) (rule : UnaryRule)
  | removeFunction (name : String)

/-- Whether a change takes something away. -/
def Change.removes : Change → Bool
  | removeOperator _ | removeFunction _ => true
  | _ => false

/-- The answer to a change. -/
inductive Reply where
  | accepted
  | refused (cause : ConfigError)
  /-- A removal, with whether there was something to remove. -/
  | removed (present : Bool)
deriving DecidableEq

namespace Vocabulary

/-- The answer to a change that may be refused, and the vocabulary that it leaves. -/
def outcome : EStateM.Result ConfigError Vocabulary Unit → Reply × Vocabulary
  | .ok _ changed => (.accepted, changed)
  | .error cause left => (.refused cause, left)

/-- The answer to a change, and the vocabulary after it. -/
def update (v : Vocabulary) : Change → Reply × Vocabulary
  | .rename name => outcome ((rename name).run v)
  | .addOperator symbol operator => outcome ((addOperator symbol operator).run v)
  | .removeOperator symbol => (.removed (v.hasOperator symbol), v.removeOperator symbol)
  | .addFunction name rule => outcome ((addFunction name rule).run v)
  | .removeFunction name => (.removed (v.hasFunction name), v.removeFunction name)

/-- Makes several changes. The first refusal is the answer; the changes before it stay. -/
def install (v : Vocabulary) : List Change → Reply × Vocabulary
  | [] => (.accepted, v)
  | change :: rest =>
    match v.update change with
    | (.refused cause, left) => (.refused cause, left)
    | (_, changed) => changed.install rest

end Vocabulary

end Formula
