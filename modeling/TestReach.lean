import TestReach.Command.Arguments
import TestReach.Command.Failure
import TestReach.Command.Run
import TestReach.Coverage.Pairing
import TestReach.Coverage.Row
import TestReach.Coverage.Summary
import TestReach.Coverage.Table
import TestReach.Coverage.Total
import TestReach.Dataset
import TestReach.Decimal.Binary
import TestReach.Decimal.Fixed
import TestReach.Decimal.Reading
import TestReach.Decimal.Shortest
import TestReach.Dependency
import TestReach.Disk
import TestReach.Engine
import TestReach.Extraction
import TestReach.Failure
import TestReach.FileIndex
import TestReach.Function
import TestReach.Go.Host
import TestReach.Go.Listing
import TestReach.Go.Tests
import TestReach.Graph.Basic
import TestReach.Graph.Calls
import TestReach.Graph.Indexed
import TestReach.Graph.Purge
import TestReach.Graph.Resolution
import TestReach.Json.Printing
import TestReach.Json.Reading
import TestReach.Json.Value
import TestReach.Listing
import TestReach.Loader
import TestReach.Loader.Assembly
import TestReach.Loader.Memory
import TestReach.Loader.Record
import TestReach.Locator
import TestReach.Main
import TestReach.ModuleCache
import TestReach.Package
import TestReach.PackageName
import TestReach.Pattern.Basic
import TestReach.Pattern.Chars
import TestReach.Pattern.Compiler
import TestReach.Pattern.Reading
import TestReach.Proofs.Analysis.Answers
import TestReach.Proofs.Analysis.Datasets
import TestReach.Proofs.Analysis.Extractions
import TestReach.Proofs.Analysis.Histories
import TestReach.Proofs.Analysis.Identity
import TestReach.Proofs.Analysis.Independence
import TestReach.Proofs.Analysis.Memory
import TestReach.Proofs.Analysis.Notes
import TestReach.Proofs.Analysis.Provenance
import TestReach.Proofs.Analysis.Relations
import TestReach.Proofs.Analysis.Selection
import TestReach.Proofs.Analysis.Sharing
import TestReach.Proofs.Analysis.Stages
import TestReach.Proofs.Analysis.Steps
import TestReach.Proofs.Analysis.Verdicts
import TestReach.Proofs.Analysis.Walk
import TestReach.Proofs.Coverage.Collapsing
import TestReach.Proofs.Coverage.Effects
import TestReach.Proofs.Coverage.Instrumenting
import TestReach.Proofs.Coverage.Ownership
import TestReach.Proofs.Coverage.Padding
import TestReach.Proofs.Coverage.Partners
import TestReach.Proofs.Coverage.Places
import TestReach.Proofs.Coverage.Reports
import TestReach.Proofs.Coverage.Summaries
import TestReach.Proofs.Coverage.Totals
import TestReach.Proofs.Graph.Building
import TestReach.Proofs.Graph.Declaring
import TestReach.Proofs.Graph.Dispatch
import TestReach.Proofs.Graph.Elimination
import TestReach.Proofs.Graph.Expansion
import TestReach.Proofs.Graph.Growth
import TestReach.Proofs.Graph.Indexing
import TestReach.Proofs.Graph.Journal
import TestReach.Proofs.Graph.Lasting
import TestReach.Proofs.Graph.Nodes
import TestReach.Proofs.Graph.Reordering
import TestReach.Proofs.Graph.Targets
import TestReach.Proofs.Json.Settings
import TestReach.Proofs.Json.Texts
import TestReach.Proofs.Json.Values
import TestReach.Proofs.Loader.Accounting
import TestReach.Proofs.Loader.Assembly
import TestReach.Proofs.Loader.Names
import TestReach.Proofs.Loader.Records
import TestReach.Proofs.Source.Comments
import TestReach.Proofs.Source.Estimates
import TestReach.Proofs.Source.Files
import TestReach.Proofs.Source.Gaps
import TestReach.Proofs.Source.Instantiated
import TestReach.Proofs.Source.Lines
import TestReach.Proofs.Source.Naming
import TestReach.Proofs.Source.Numbering
import TestReach.Proofs.Source.Occurrences
import TestReach.Proofs.Source.Positions
import TestReach.Proofs.Source.Receivers
import TestReach.Proofs.Source.Searching
import TestReach.Proofs.Source.Traversal
import TestReach.Settings
import TestReach.SettingsFile
import TestReach.Source.Blocks
import TestReach.Source.Calls
import TestReach.Source.File
import TestReach.Source.Grammar
import TestReach.Source.Parsed
import TestReach.Source.Parser
import TestReach.Source.Position
import TestReach.Source.Reading
import TestReach.Source.Rule
import TestReach.Source.Token
import TestReach.Source.Tree
import TestReach.Table
import TestReach.Text.Blank
import TestReach.Text.Category
import TestReach.Text.Cut
import TestReach.Text.Folding
import TestReach.Text.Identifier
import TestReach.Text.Octets
import TestReach.Text.Path
import TestReach.Text.Quoted
import TestReach.Text.Range
import TestReach.Text.Script
import TestReach.Toolchain
import TestReach.Yaml.Node
import TestReach.Yaml.Reading
import TestReach.Yaml.Scalar
