import PackageAudit.Artifact.Kind
import PackageAudit.Artifact.Name
import PackageAudit.Audit.ChangeRequest
import PackageAudit.Audit.Index
import PackageAudit.Audit.ObjectCounts
import PackageAudit.Audit.Run
import PackageAudit.Audit.Selection
import PackageAudit.Catalog.Action
import PackageAudit.Catalog.Basic
import PackageAudit.Catalog.Condition
import PackageAudit.Catalog.Document
import PackageAudit.Catalog.Load
import PackageAudit.Catalog.Token
import PackageAudit.CommandLine.Arguments
import PackageAudit.CommandLine.Check
import PackageAudit.CommandLine.Init
import PackageAudit.CommandLine.Outcome
import PackageAudit.CommandLine.Run
import PackageAudit.Corpus.Basic
import PackageAudit.Corpus.Memory
import PackageAudit.Decimal.Binary64
import PackageAudit.Decimal.Shortest
import PackageAudit.FileTree.Access
import PackageAudit.FileTree.Basic
import PackageAudit.FileTree.Path
import PackageAudit.Findings.Basic
import PackageAudit.Findings.Entry
import PackageAudit.Glob.Basic
import PackageAudit.Json.Numeral
import PackageAudit.Json.Quoted
import PackageAudit.Json.Scan
import PackageAudit.Json.Value
import PackageAudit.Main
import PackageAudit.Markup.Attribute
import PackageAudit.Markup.Entity
import PackageAudit.Markup.Fault
import PackageAudit.Markup.Token
import PackageAudit.Markup.Writer
import PackageAudit.Ordered.NameSet
import PackageAudit.Ordered.Register
import PackageAudit.Ordered.Roster
import PackageAudit.Package.Basic
import PackageAudit.Package.Derive
import PackageAudit.Regex.Basic
import PackageAudit.Regex.CharClass
import PackageAudit.Regex.Match
import PackageAudit.Regex.Notation
import PackageAudit.Regex.Pattern
import PackageAudit.Regex.Program
import PackageAudit.Regex.Search
import PackageAudit.Report.Basic
import PackageAudit.Report.Console
import PackageAudit.Report.File
import PackageAudit.Report.Format
import PackageAudit.Report.JUnit
import PackageAudit.Report.Structured
import PackageAudit.Settings.Basic
import PackageAudit.Settings.Decode
import PackageAudit.Settings.Load
import PackageAudit.Text.Blank
import PackageAudit.Text.Lines
import PackageAudit.Text.Search
import PackageAudit.Text.Shown
import PackageAudit.Text.Utf8
import PackageAudit.Unicode.Binary
import PackageAudit.Unicode.CaseFold
import PackageAudit.Unicode.Category
import PackageAudit.Unicode.Intervals
import PackageAudit.Unicode.Property
import PackageAudit.Unicode.Script
import PackageAudit.Proofs.Audit.Index
import PackageAudit.Proofs.Audit.Run
import PackageAudit.Proofs.Markup.Forest
import PackageAudit.Proofs.Markup.Tag
import PackageAudit.Proofs.Markup.Stable
import PackageAudit.Proofs.Markup.Layout
import PackageAudit.Proofs.Catalog.Built
import PackageAudit.Proofs.Catalog.Document
import PackageAudit.Proofs.Catalog.Truncated
import PackageAudit.Proofs.Catalog.RoundTrip
import PackageAudit.Proofs.Catalog.Outcome
import PackageAudit.Proofs.Markup.Nodes
import PackageAudit.Proofs.Report.JUnit
import PackageAudit.Proofs.Json.Written
import PackageAudit.Proofs.Settings.Any
import PackageAudit.Proofs.Settings.Document
import PackageAudit.Proofs.Report.Structured
import PackageAudit.Proofs.Json.Skip
import PackageAudit.Proofs.Ordered.Ascending
import PackageAudit.Proofs.Text.ByteOrder
import PackageAudit.Proofs.Audit.Precedence
import PackageAudit.Proofs.Audit.Blocking
import PackageAudit.Proofs.CommandLine.Check
import PackageAudit.Proofs.Ordered.Arena
import PackageAudit.Proofs.Catalog.History
import PackageAudit.Proofs.Catalog.Arenas
import PackageAudit.Proofs.Audit.Numbers
import PackageAudit.Proofs.FileTree.Path
import PackageAudit.Proofs.FileTree.Access
import PackageAudit.Proofs.Package.Paths
import PackageAudit.Proofs.FileTree.Changes
import PackageAudit.Proofs.Audit.Bound
import PackageAudit.Proofs.Audit.Local
import PackageAudit.Proofs.Catalog.Definitions
import PackageAudit.Proofs.Audit.Order
import PackageAudit.Proofs.FileTree.Grown
import PackageAudit.Proofs.Text.Utf8
import PackageAudit.Proofs.Report.File
import PackageAudit.Proofs.Report.Tally
import PackageAudit.Proofs.CommandLine.Agreement
import PackageAudit.Proofs.Package.Again
import PackageAudit.Proofs.CommandLine.Again
import PackageAudit.Proofs.FileTree.Footprint
import PackageAudit.Proofs.CommandLine.Effects
import PackageAudit.Proofs.FileTree.Dropped
import PackageAudit.Proofs.Package.Ignored
import PackageAudit.Proofs.Package.Session
import PackageAudit.Proofs.Package.Skipped
import PackageAudit.Proofs.Audit.Counts
import PackageAudit.Proofs.Text.Search
import PackageAudit.Proofs.Regex.Search
import PackageAudit.Proofs.Package.Scripts
import PackageAudit.Proofs.Text.Lines
import PackageAudit.Proofs.Artifact.Name
import PackageAudit.Proofs.Package.Convention
import PackageAudit.Proofs.Markup.Legal
import PackageAudit.Proofs.Report.Legal
import PackageAudit.Proofs.Package.ChangeRequest
import PackageAudit.Proofs.Findings.History
import PackageAudit.Proofs.Markup.Read
import PackageAudit.Proofs.Catalog.Lookup
import PackageAudit.Proofs.Catalog.Edited
import PackageAudit.Proofs.Json.Spelling
import PackageAudit.Proofs.Json.Grammar
import PackageAudit.Proofs.Settings.Layout
import PackageAudit.Proofs.FileTree.Ancestor
import PackageAudit.Proofs.Settings.Find
import PackageAudit.Proofs.Text.Boundary
import PackageAudit.Proofs.Text.LineCuts
import PackageAudit.Proofs.Artifact.Identity
import PackageAudit.Proofs.Settings.Valid
import PackageAudit.Proofs.CommandLine.Prepare
import PackageAudit.Proofs.Audit.Partition
import PackageAudit.Proofs.Regex.Match
import PackageAudit.Proofs.Audit.ChangeRequest
import PackageAudit.Proofs.Package.Names
import PackageAudit.Proofs.Package.Keywords
import PackageAudit.Proofs.Markup.Reader
import PackageAudit.Proofs.Catalog.Reading
import PackageAudit.Proofs.Corpus.Memory
import PackageAudit.Proofs.Artifact.ObjectName
