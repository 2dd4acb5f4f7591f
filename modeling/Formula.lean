import Formula.Text.CodePoints
import Formula.Text.Blank
import Formula.Text.Letter
import Formula.Text.Apart
import Formula.Text.Extending
import Formula.Text.Invisible
import Formula.Text.Quoted
import Formula.Number.Binary64
import Formula.Number.Decimal
import Formula.Number.Shortest
import Formula.Number.Printer
import Formula.Number.Packing
import Formula.Number.ReadBack
import Formula.Level
import Formula.Token
import Formula.Error
import Formula.Expr.Basic
import Formula.Expr.Printer
import Formula.Expr.Inspection
import Formula.Expr.Sampling
import Formula.Vocabulary.Basic
import Formula.Vocabulary.Change
import Formula.Vocabulary.Standard
import Formula.Reading.Pending
import Formula.Reading.Basic
import Formula.Evaluate
import Formula.Recent
import Formula.Memo
import Formula.Journal.Event
import Formula.Journal.Reading
import Formula.Journal.Change
import Formula.Proofs.History
import Formula.Proofs.Names
import Formula.Proofs.Phrase
import Formula.Proofs.Completion
import Formula.Proofs.Stacks
import Formula.Proofs.Precedence
import Formula.Proofs.Unfinished
import Formula.Proofs.Parentheses
import Formula.Proofs.Grammar
import Formula.Proofs.Origin
import Formula.Proofs.LeftToRight
import Formula.Proofs.RoundTrip
import Formula.Proofs.Recognition
import Formula.Proofs.Substitution
import Formula.Proofs.Session
import Formula.Proofs.Recency
import Formula.Proofs.Rejection
import Formula.Proofs.ClosedGroups
import Formula.Proofs.Verdict
import Formula.Proofs.LevelOrder
import Formula.Proofs.Segmentation
import Formula.Proofs.Unambiguous
import Formula.Proofs.Revision
import Formula.Proofs.Boundary
import Formula.Proofs.Renaming
import Formula.Proofs.Record
import Formula.Proofs.Refusal
import Formula.Proofs.Values
