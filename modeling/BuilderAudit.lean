import BuilderAudit.Main
import BuilderAudit.Proofs.FileTree.WellFormed
import BuilderAudit.Proofs.FileTree.Following
import BuilderAudit.Proofs.FileTree.Alike
import BuilderAudit.Proofs.Discovery.Walk
import BuilderAudit.Proofs.Discovery.Candidates
import BuilderAudit.Proofs.Scan.Execution
import BuilderAudit.Proofs.Scan.History
import BuilderAudit.Proofs.Scan.StillTree
import BuilderAudit.Proofs.Scan.Mirror
import BuilderAudit.Proofs.Scan.Recording
import BuilderAudit.Proofs.Scan.Session
import BuilderAudit.Proofs.Scan.Accounting
import BuilderAudit.Proofs.Scan.RootErrors
import BuilderAudit.Proofs.Scan.Policy
import BuilderAudit.Proofs.FileTree.Changes
import BuilderAudit.Proofs.Text.Utf8
import BuilderAudit.Proofs.Json.Words
import BuilderAudit.Proofs.Json.Value
import BuilderAudit.Proofs.Json.Grammar
import BuilderAudit.Proofs.Config.Field
import BuilderAudit.Proofs.Report
import BuilderAudit.Proofs.Unicode.CodeSet
import BuilderAudit.Proofs.Pattern.Span
import BuilderAudit.Proofs.Pattern.Marks
import BuilderAudit.Proofs.Pattern.Meaning
import BuilderAudit.Proofs.Pattern.Closed
import BuilderAudit.Proofs.Pattern.ClosedClass
import BuilderAudit.Proofs.Pattern.Enclosed
import BuilderAudit.Proofs.Pattern.Counts
import BuilderAudit.Proofs.Pattern.Anchored
import BuilderAudit.Proofs.Config.FromJson
import BuilderAudit.Proofs.FileTree.Written
import BuilderAudit.Proofs.Config.File
import BuilderAudit.Proofs.CommandLine.Merge
import BuilderAudit.Proofs.CommandLine.Occurrence
import BuilderAudit.Proofs.CommandLine.Spelling
import BuilderAudit.Proofs.FileTree.Frame
import BuilderAudit.Proofs.Scan.Unseen
import BuilderAudit.Proofs.Program.Course
import BuilderAudit.Proofs.Program.Endings
import BuilderAudit.Proofs.CommandLine.Settling
import BuilderAudit.Proofs.CommandLine.Reading
import BuilderAudit.Proofs.CommandLine.Addition
import BuilderAudit.Proofs.Program.OutputFile
import BuilderAudit.Proofs.Yaml.Quoted
import BuilderAudit.Proofs.Yaml.Lexeme
import BuilderAudit.Proofs.Yaml.Lexing
import BuilderAudit.Proofs.Yaml.Reading
import BuilderAudit.Proofs.Config.FromYaml
import BuilderAudit.Proofs.Text.Lines
import BuilderAudit.Proofs.Detector
import BuilderAudit.Proofs.Discovery.Listing
import BuilderAudit.Proofs.Scan.FirstFailure
import BuilderAudit.Proofs.Program.Verbosity
import BuilderAudit.Proofs.Source.Package
import BuilderAudit.Proofs.Source.Concatenation
import BuilderAudit.Proofs.Source.LineEnds
import BuilderAudit.Proofs.Pattern.Acceptance
import BuilderAudit.Proofs.Discovery.Links
import BuilderAudit.Proofs.Report.Lines
import BuilderAudit.Proofs.Scan.Loading
import BuilderAudit.Proofs.Source.Division
import BuilderAudit.Proofs.Scan.Logged
import BuilderAudit.Proofs.Program.Logged
import BuilderAudit.Proofs.Path.Absolute
import BuilderAudit.Proofs.FileTree.AbsoluteForm
import BuilderAudit.Proofs.Discovery.AbsoluteRoot
