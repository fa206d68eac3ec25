import Storyweave.Text.Numeric
import Storyweave.Text.Blank
import Storyweave.Text.Lowercase
import Storyweave.Text.Uppercase
import Storyweave.Number.Decimal
import Storyweave.Language.Parser
import Storyweave.Language.Printer
import Storyweave.English.Inflection
import Storyweave.English.Phrases
import Storyweave.Story.Diagnostic
import Storyweave.Story.Value
import Storyweave.Template.Table
import Storyweave.Story.Narrative
import Storyweave.Story.Render
import Storyweave.Evaluation.Evaluate
import Storyweave.Engine
import Storyweave.Starter.Pack
import Storyweave.Proofs.Language.Grammar
import Storyweave.Proofs.Language.Reading
import Storyweave.Proofs.Language.Acceptance
import Storyweave.Proofs.Number.Double
import Storyweave.Proofs.Number.Numeral
import Storyweave.Proofs.Language.Lexemes
import Storyweave.Proofs.Language.Contents
import Storyweave.Proofs.Language.Spelling
import Storyweave.Proofs.Language.Nesting
import Storyweave.Proofs.Language.RoundTrip
import Storyweave.Proofs.Language.Height
import Storyweave.Proofs.Language.Lines
import Storyweave.Proofs.Language.Seams
import Storyweave.Proofs.Language.Places
import Storyweave.Proofs.Language.Viable
import Storyweave.Proofs.Language.Offence
import Storyweave.Proofs.Language.Progress
import Storyweave.Proofs.Language.Offsets
import Storyweave.Proofs.Chance.Search
import Storyweave.Proofs.Template.Weights
import Storyweave.Proofs.Template.Loading
import Storyweave.Proofs.Template.Filling
import Storyweave.Proofs.Evaluation.Moment
import Storyweave.Proofs.Evaluation.History
import Storyweave.Proofs.Evaluation.Crossing
import Storyweave.Proofs.Evaluation.Ledger
import Storyweave.Proofs.Evaluation.Wider
import Storyweave.Proofs.Kernel.CallFree
import Storyweave.Proofs.Evaluation.Accounting
import Storyweave.Proofs.Story.Effects
import Storyweave.Proofs.Evaluation.Balance
import Storyweave.Proofs.Evaluation.Bounds
import Storyweave.Proofs.Evaluation.Snapshot
import Storyweave.Proofs.Evaluation.Replay
import Storyweave.Proofs.Evaluation.Focus
import Storyweave.Proofs.Story.Identity
import Storyweave.Proofs.Evaluation.Identity
import Storyweave.Proofs.Story.Operands
import Storyweave.Proofs.Text.Lowercase
import Storyweave.Proofs.Text.Uppercase
import Storyweave.Proofs.Text.Spacing
import Storyweave.Proofs.Story.Tidying
import Storyweave.Proofs.Story.Sentences
import Storyweave.Proofs.Story.Rendering
import Storyweave.Proofs.Story.Wording
import Storyweave.Proofs.Kernel.Wording
import Storyweave.Proofs.Starter.Wording
import Storyweave.Proofs.Evaluation.Wording
import Storyweave.Proofs.Evaluation.Splitting
import Storyweave.Proofs.Evaluation.Operators
import Storyweave.Proofs.Kernel.Answers
import Storyweave.Proofs.Starter.Answers
import Storyweave.Proofs.Evaluation.Faults
import Storyweave.Proofs.Starter.Agreement
import Storyweave.Proofs.Starter.StandIn
import Storyweave.Proofs.Starter.Subjects
import Storyweave.Proofs.Evaluation.Unknown
import Storyweave.Proofs.Evaluation.Usage
import Storyweave.Proofs.Story.Joining
import Storyweave.Proofs.Template.RoundTrip
import Storyweave.Proofs.Template.Shares
import Storyweave.Proofs.Number.Order
import Storyweave.Proofs.Story.Salience
