import BilingualScript.CommandLine.Basic
import BilingualScript.CommandLine.Options
import BilingualScript.Evaluation.Expression
import BilingualScript.Evaluation.Fault
import BilingualScript.Evaluation.Operators
import BilingualScript.Evaluation.Statement
import BilingualScript.Main
import BilingualScript.Number.Basic
import BilingualScript.Number.Decimal
import BilingualScript.Program.Basic
import BilingualScript.Program.Dump
import BilingualScript.Program.Same
import BilingualScript.Prompt
import BilingualScript.Proofs.CommandLine.Statuses
import BilingualScript.Proofs.Evaluation.Arrival
import BilingualScript.Proofs.Evaluation.Blame
import BilingualScript.Proofs.Evaluation.Checked
import BilingualScript.Proofs.Evaluation.Frames
import BilingualScript.Proofs.Evaluation.Grouping
import BilingualScript.Proofs.Evaluation.Moved
import BilingualScript.Proofs.Evaluation.Pairing
import BilingualScript.Proofs.Evaluation.Renaming
import BilingualScript.Proofs.Evaluation.Room
import BilingualScript.Proofs.Evaluation.Scoping
import BilingualScript.Proofs.Evaluation.Sequence
import BilingualScript.Proofs.Evaluation.Similarity
import BilingualScript.Proofs.Evaluation.Stopping
import BilingualScript.Proofs.Evaluation.Visits
import BilingualScript.Proofs.Number.Guards
import BilingualScript.Proofs.Number.Nearest
import BilingualScript.Proofs.Number.Positional
import BilingualScript.Proofs.Number.Texts
import BilingualScript.Proofs.Program.Dump
import BilingualScript.Proofs.Program.Layout
import BilingualScript.Proofs.Program.Moved
import BilingualScript.Proofs.Program.Outline
import BilingualScript.Proofs.Program.Parts
import BilingualScript.Proofs.Program.Renaming
import BilingualScript.Proofs.Program.Same
import BilingualScript.Proofs.Program.Tokens
import BilingualScript.Proofs.Prompt.Continuation
import BilingualScript.Proofs.Prompt.Entries
import BilingualScript.Proofs.Prompt.Feeding
import BilingualScript.Proofs.Prompt.Pending
import BilingualScript.Proofs.Prompt.Refusals
import BilingualScript.Proofs.Reading.Abruptness
import BilingualScript.Proofs.Reading.Advance
import BilingualScript.Proofs.Reading.Balance
import BilingualScript.Proofs.Reading.Completeness
import BilingualScript.Proofs.Reading.Conditions
import BilingualScript.Proofs.Reading.Confinement
import BilingualScript.Proofs.Reading.Extent
import BilingualScript.Proofs.Reading.FirstFault
import BilingualScript.Proofs.Reading.Grammar
import BilingualScript.Proofs.Reading.Inheritance
import BilingualScript.Proofs.Reading.Lookahead
import BilingualScript.Proofs.Reading.Nesting
import BilingualScript.Proofs.Reading.Operators
import BilingualScript.Proofs.Reading.Outcome
import BilingualScript.Proofs.Reading.Placement
import BilingualScript.Proofs.Reading.Progress
import BilingualScript.Proofs.Reading.Relabelling
import BilingualScript.Proofs.Reading.Sentences
import BilingualScript.Proofs.Reading.Separation
import BilingualScript.Proofs.Reading.Soundness
import BilingualScript.Proofs.Reading.Unbounded
import BilingualScript.Proofs.Reading.Viability
import BilingualScript.Proofs.Reading.Widening
import BilingualScript.Proofs.Reading.Writing
import BilingualScript.Proofs.Report.Clamping
import BilingualScript.Proofs.Report.Excerpt
import BilingualScript.Proofs.Report.Guard
import BilingualScript.Proofs.Scope.Histories
import BilingualScript.Proofs.Scope.Levels
import BilingualScript.Proofs.Scope.Renaming
import BilingualScript.Proofs.Segment.Break
import BilingualScript.Proofs.Segment.Lexeme
import BilingualScript.Proofs.Segment.Place
import BilingualScript.Proofs.Segment.Segmentation
import BilingualScript.Proofs.Session.Depth
import BilingualScript.Proofs.Session.Dumps
import BilingualScript.Proofs.Session.Echo
import BilingualScript.Proofs.Session.Failures
import BilingualScript.Proofs.Session.Joining
import BilingualScript.Proofs.Session.Lexing
import BilingualScript.Proofs.Session.Loading
import BilingualScript.Proofs.Session.Locality
import BilingualScript.Proofs.Session.Pointing
import BilingualScript.Proofs.Session.Running
import BilingualScript.Proofs.Text.Lines
import BilingualScript.Proofs.Token.Break
import BilingualScript.Proofs.Token.Lexing
import BilingualScript.Proofs.Token.Order
import BilingualScript.Proofs.Token.Standing
import BilingualScript.Reading.Basic
import BilingualScript.Reading.Expression
import BilingualScript.Reading.Statement
import BilingualScript.Report.Basic
import BilingualScript.Report.Excerpt
import BilingualScript.Report.Host
import BilingualScript.Scope.Basic
import BilingualScript.Scope.Forest
import BilingualScript.Session
import BilingualScript.Source
import BilingualScript.Text.Blank
import BilingualScript.Text.Digit
import BilingualScript.Text.Item.Access
import BilingualScript.Text.Item.Basic
import BilingualScript.Text.Item.Field
import BilingualScript.Text.Item.Kind
import BilingualScript.Text.Item.Lineage
import BilingualScript.Text.Item.Member
import BilingualScript.Text.Item.Members.Collections
import BilingualScript.Text.Item.Members.Kinds
import BilingualScript.Text.Item.Members.Methods
import BilingualScript.Text.Item.Members.Numbers
import BilingualScript.Text.Item.Members.Texts
import BilingualScript.Text.Layout.Basic
import BilingualScript.Text.Layout.Count
import BilingualScript.Text.Layout.Words
import BilingualScript.Text.Lines
import BilingualScript.Text.Quoted
import BilingualScript.Text.Style
import BilingualScript.Text.Template
import BilingualScript.Text.Unprintable
import BilingualScript.Text.Utf8
import BilingualScript.Token.Basic
import BilingualScript.Token.Lexing
import BilingualScript.Token.Segment
import BilingualScript.Value
