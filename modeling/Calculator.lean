import Calculator.Operator
import Calculator.Stack
import Calculator.Store
import Calculator.Ratio
import Calculator.Binary64
import Calculator.Decimal.Basic
import Calculator.Decimal.Shortest
import Calculator.Decimal.Style
import Calculator.Numeral
import Calculator.Text.Ranges
import Calculator.Text.Blank
import Calculator.Text.Bytes
import Calculator.Text.Lines
import Calculator.Text.Quoted
import Calculator.Text.Cluster.Properties
import Calculator.Text.Cluster.BreakClass
import Calculator.Text.Cluster.Basic
import Calculator.Text.Backspace
import Calculator.Failure
import Calculator.Token.Basic
import Calculator.Token.Scan
import Calculator.Arithmetic
import Calculator.Evaluator.Traced
import Calculator.Evaluator.Workspace
import Calculator.Evaluator.Statement
import Calculator.Evaluator.Basic
import Calculator.Session.Command
import Calculator.Session.Response
import Calculator.Session.Event
import Calculator.Session.Basic
import Calculator.CommandLine.Toolkit
import Calculator.CommandLine.Prompt
import Calculator.CommandLine.History
import Calculator.CommandLine.LineEditor
import Calculator.CommandLine.Options
import Calculator.CommandLine.Program
import Calculator.Main
import Calculator.Proofs.Pass.Unwinding
import Calculator.Proofs.Pass.Reading
import Calculator.Proofs.Infix.Phrase
import Calculator.Proofs.Infix.Value
import Calculator.Proofs.Pass.Group
import Calculator.Proofs.Postfix.Agreement
import Calculator.Proofs.Acceptance.Count
import Calculator.Proofs.Acceptance.Due
import Calculator.Proofs.Acceptance.Exact
import Calculator.Proofs.Statement.Form
import Calculator.Proofs.Infix.Alternation
import Calculator.Proofs.Pass.Related
import Calculator.Proofs.Variables.Independence
import Calculator.Proofs.InPlace.Atomic
import Calculator.Proofs.Statement.Equals
import Calculator.Proofs.Statement.Assignment
import Calculator.Proofs.Variables.Exchange
import Calculator.Proofs.Scan.Word
import Calculator.Proofs.Scan.Written
import Calculator.Proofs.Scan.Pieces
import Calculator.Proofs.Scan.Append
import Calculator.Proofs.Scan.Unknown
import Calculator.Proofs.Scan.Gap
import Calculator.Proofs.Store.Recorded
import Calculator.Proofs.Session.Runs
import Calculator.Proofs.Session.Names
import Calculator.Proofs.Session.Omission
import Calculator.Proofs.Session.Recall
import Calculator.Proofs.Pass.Accounts
import Calculator.Proofs.Failure.Grounds
import Calculator.Proofs.Failure.Suffix
import Calculator.Proofs.Scan.Numeral
import Calculator.Proofs.Infix.PostOrder
import Calculator.Proofs.Session.Log
import Calculator.Proofs.Session.Alone
import Calculator.Proofs.CommandLine.Feeds
import Calculator.Proofs.Pass.Layers
import Calculator.Proofs.Pass.Moves
import Calculator.Proofs.Pass.Ledger
import Calculator.Proofs.Statement.Ignored
import Calculator.Proofs.Scan.Munch
