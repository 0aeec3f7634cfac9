import BemLint.Main
import BemLint.Proofs.ClassAttr.Grammar
import BemLint.Proofs.ClassAttr.LeftToRight
import BemLint.Proofs.ClassName.Kebab
import BemLint.Proofs.ClassToken.Places
import BemLint.Proofs.Decimal.Digits
import BemLint.Proofs.Json.Numbers
import BemLint.Proofs.Json.Limits
import BemLint.Proofs.Json.RoundTrip
import BemLint.Proofs.Json.Strings
import BemLint.Proofs.Lint.Places
import BemLint.Proofs.Report.RoundTrip
import BemLint.Proofs.Report.Writing
import BemLint.Proofs.Report.Shape
import BemLint.Proofs.Report.SourceLine
import BemLint.Proofs.Report.WorkflowCommand
import BemLint.Proofs.Results
import BemLint.Proofs.Rule.Clean
import BemLint.Proofs.Rule.Conforming
import BemLint.Proofs.Settings.Fallback
import BemLint.Proofs.Text.Lines
import BemLint.Proofs.Text.Pair
import BemLint.Proofs.Text.Pieces
import BemLint.Proofs.Text.Position
import BemLint.Proofs.Text.Utf8
import BemLint.Proofs.Text.Words
import BemLint.Proofs.Workspace.LookUp
import BemLint.Proofs.Workspace.Writing
import BemLint.Proofs.Audit.Accounting
import BemLint.Proofs.ClassAttr.Concatenation
import BemLint.Proofs.Lint.Concatenation
import BemLint.Proofs.ClassAttr.LineEnds
import BemLint.Proofs.Lint.LineEnds
import BemLint.Proofs.Workspace.NullCharacters
import BemLint.Proofs.Report.Saving
import BemLint.Proofs.Pattern.Translation
import BemLint.Proofs.Pattern.Refusals
import BemLint.Proofs.Lint.Patterns
import BemLint.Proofs.Workspace.Listing
import BemLint.Proofs.Path.Order
import BemLint.Proofs.Path.Names
import BemLint.Proofs.Discovery.Eligible
import BemLint.Proofs.Settings.Schema
import BemLint.Proofs.Settings.Formats
import BemLint.Proofs.Path.Written
import BemLint.Proofs.Workspace.Rooted
import BemLint.Proofs.Workspace.Growth
import BemLint.Proofs.Json.Visible
import BemLint.Proofs.Report.Files
import BemLint.Proofs.Workspace.Straight
import BemLint.Proofs.Workspace.Leads
import BemLint.Proofs.Workspace.Resolving
import BemLint.Proofs.Audit.ShownPaths
import BemLint.Proofs.Command.Outcome
import BemLint.Proofs.Command.Check
import BemLint.Proofs.Pattern.Wildcards
import BemLint.Proofs.Rule.LowLines
import BemLint.Proofs.Rule.Advice
import BemLint.Proofs.Text.Replacing
import BemLint.Proofs.Rule.Findings
import BemLint.Proofs.Rule.Nesting
import BemLint.Proofs.ClassName.Rewriting
import BemLint.Proofs.Rule.ModifierFormat
import BemLint.Proofs.Rule.Proposals
import BemLint.Proofs.Rule.Overlap
import BemLint.Proofs.Rule.Repairs
import BemLint.Proofs.ClassName.Gaps
import BemLint.Proofs.Text.Case
import BemLint.Proofs.Report.FileName
import BemLint.Proofs.Report.Escapes
import BemLint.Proofs.Terminal.Emoji
import BemLint.Proofs.Terminal.Layout
import BemLint.Proofs.Report.Page
import BemLint.Proofs.Text.FinalSigma
import BemLint.Proofs.Settings.Extensions
import BemLint.Proofs.Discovery.Extensions
import BemLint.Proofs.Text.Offsets
