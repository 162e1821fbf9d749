import Remedy.Text.Blank
import Remedy.Text.Lines
import Remedy.Text.Word
import Remedy.Text.Digit
import Remedy.Text.Casing
import Remedy.Text.Quoted
import Remedy.Text.Utf8
import Remedy.Number.Shortest
import Remedy.Number.Numeral
import Remedy.Value
import Remedy.Json.Printer
import Remedy.Json.Reader
import Remedy.Verdict
import Remedy.Prompt
import Remedy.Completion
import Remedy.ChangeSet
import Remedy.Fault
import Remedy.Remediation
import Remedy.Report.Format
import Remedy.Diff.Unified
import Remedy.FileTree.Replace
import Remedy.SourceWalk
import Remedy.Generator.Service
import Remedy.Pipeline
import Remedy.Settings.Check
import Remedy.Settings.File
import Remedy.Settings.Template
import Remedy.Yaml.Cursor
import Remedy.Yaml.Scalar
import Remedy.Yaml.Token
import Remedy.Yaml.Node
import Remedy.Yaml.Plain
import Remedy.Yaml.Reader
import Remedy.Generator.Body
import Remedy.Generator.Retry
import Remedy.Command.Program
import Remedy.Main
import Remedy.Proofs.Text.Utf8
import Remedy.Proofs.FileTree.Shape
import Remedy.Proofs.FileTree.Replacement
import Remedy.Proofs.Remediation
import Remedy.Proofs.Pipeline.File
import Remedy.Proofs.Pipeline.Run
import Remedy.Proofs.Command.FixStatus
import Remedy.Proofs.Completion.Echo
import Remedy.Proofs.Pipeline.Echo
import Remedy.Proofs.Completion.Cleaning
import Remedy.Proofs.Completion.Blocks
import Remedy.Proofs.Text.Newlines
import Remedy.Proofs.Command.ScanAgreement
import Remedy.Proofs.FileTree.Spelling
import Remedy.Proofs.PathFilter.Exclusion
import Remedy.Proofs.FileTree.Nesting
import Remedy.Proofs.FileTree.Outlook
import Remedy.Proofs.Pipeline.Lockstep
import Remedy.Proofs.Pipeline.Isolation
import Remedy.Proofs.Pattern.Matching
import Remedy.Proofs.Rule.Findings
import Remedy.Proofs.Pattern.Language
import Remedy.Proofs.Text.Joining
import Remedy.Proofs.Text.Parts
import Remedy.Proofs.Detector.Concatenation
import Remedy.Proofs.Diff.Script
import Remedy.Proofs.Diff.Patch
import Remedy.Proofs.Diff.Hunks
import Remedy.Proofs.Diff.Context
import Remedy.Proofs.Diff.Reading
import Remedy.Proofs.Diff.Faithful
import Remedy.Proofs.Generator.Traffic
import Remedy.Proofs.Pipeline.Traffic
import Remedy.Proofs.Generator.Backoff
import Remedy.Proofs.Pipeline.Rehearsal
import Remedy.Proofs.Generator.Substitution
import Remedy.Proofs.Command.KeySecrecy
import Remedy.Proofs.Settings.Sections
import Remedy.Proofs.Command.Layering
import Remedy.Proofs.PathFilter.Order
import Remedy.Proofs.Generator.Statuses
import Remedy.Proofs.Generator.Candidates
import Remedy.Proofs.Remediation.Encoding
import Remedy.Proofs.SourceWalk
import Remedy.Proofs.Detector.Restriction
import Remedy.Proofs.Detector.Secrets
import Remedy.Proofs.Detector.Statements
import Remedy.Proofs.Remediation.Written
import Remedy.Proofs.Prompt
import Remedy.Proofs.Text.LastLine
import Remedy.Proofs.Diff.Alternation
import Remedy.Proofs.Diff.Pieces
import Remedy.Proofs.Diff.Legibility
import Remedy.Proofs.Json.Strings
import Remedy.Proofs.Json.Numbers
import Remedy.Proofs.Json.RoundTrip
import Remedy.Proofs.Json.Ascii
import Remedy.Proofs.Report.Data
import Remedy.Proofs.Pipeline.Records
import Remedy.Proofs.Generator.Outgrowth
import Remedy.Proofs.Report.Colors
import Remedy.Proofs.Report.DiffColors
import Remedy.Proofs.FileTree.Presence
import Remedy.Proofs.Settings.Nearest
import Remedy.Proofs.Number.Sign
import Remedy.Proofs.Settings.Validity
import Remedy.Proofs.Command.Start
import Remedy.Proofs.Command.Timeout
