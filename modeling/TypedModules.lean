import TypedModules.Attempt
import TypedModules.CommandLine.Argument
import TypedModules.CommandLine.Execute
import TypedModules.CommandLine.Fault
import TypedModules.CommandLine.Help
import TypedModules.CommandLine.OptionKey
import TypedModules.CommandLine.Parse
import TypedModules.Decimal.Binary64
import TypedModules.Decimal.Notation
import TypedModules.Decimal.Shortest
import TypedModules.Declaration.Callable
import TypedModules.Declaration.Enumeration
import TypedModules.Declaration.MemberName
import TypedModules.Directory
import TypedModules.Emission.Options
import TypedModules.Emission.Report
import TypedModules.Emission.Run
import TypedModules.Emission.Source
import TypedModules.Emission.Write
import TypedModules.FileTree.Basic
import TypedModules.FileTree.Fault
import TypedModules.FileTree.Path
import TypedModules.FileTree.Write
import TypedModules.Layout.Call
import TypedModules.Layout.Fault
import TypedModules.Layout.LineBuffer
import TypedModules.Layout.NamespaceBlock
import TypedModules.Library.Basic
import TypedModules.Library.ClassHeader
import TypedModules.Library.Comment
import TypedModules.Library.Load
import TypedModules.Library.Search
import TypedModules.Literal
import TypedModules.Main
import TypedModules.Namespace
import TypedModules.Pattern.CharacterSet
import TypedModules.Pattern.Expansion
import TypedModules.Pattern.Wildcard
import TypedModules.Registry
import TypedModules.SourceModule.BaseDefinitions
import TypedModules.SourceModule.Basic
import TypedModules.SourceModule.Call
import TypedModules.SourceModule.Contribution
import TypedModules.SourceModule.RuntimeStub
import TypedModules.SourceModule.Section
import TypedModules.SourceModule.TypeDefinitions
import TypedModules.Text.Blank
import TypedModules.Text.CodePoints
import TypedModules.Text.DecimalDigit
import TypedModules.Text.Distinct
import TypedModules.Text.Hexadecimal
import TypedModules.Text.LineBreak
import TypedModules.Text.Pieces
import TypedModules.Text.Printable
import TypedModules.Text.Quoted
import TypedModules.Text.WordCharacter
import TypedModules.Proofs.Library.Scanning
import TypedModules.Proofs.Directory.Resolution
import TypedModules.Proofs.Directory.Route
import TypedModules.Proofs.Namespace.Placement
import TypedModules.Proofs.Namespace.Specifier
import TypedModules.Proofs.SourceModule.Category
import TypedModules.Proofs.SourceModule.Rearrangement
import TypedModules.Proofs.Layout.Enumeration
import TypedModules.Proofs.SourceModule.Records
import TypedModules.Proofs.FileTree.Lookup
import TypedModules.Proofs.Emission.Plan
import TypedModules.Proofs.Emission.Isolation
import TypedModules.Proofs.Emission.Outcome
import TypedModules.Proofs.Layout.Growth
import TypedModules.Proofs.Registry.Comparison
import TypedModules.Proofs.SourceModule.Closing
import TypedModules.Proofs.SourceModule.Growth
import TypedModules.Proofs.SourceModule.Repetition
import TypedModules.Proofs.Layout.Refusal
import TypedModules.Proofs.SourceModule.Resumption
import TypedModules.Proofs.Layout.Unit
import TypedModules.Proofs.SourceModule.Unit
import TypedModules.Proofs.SourceModule.Refusal
import TypedModules.Proofs.Literal.PlainAscii
import TypedModules.Proofs.RuntimeStub.Export
import TypedModules.Proofs.RuntimeStub.Loading
import TypedModules.Proofs.RuntimeStub.Registered
import TypedModules.Proofs.SourceModule.Importing
import TypedModules.Proofs.RuntimeStub.Parents
import TypedModules.Proofs.Layout.Content
import TypedModules.Proofs.SourceModule.Written
import TypedModules.Proofs.SourceModule.Uptake
import TypedModules.Proofs.Text.Lines
import TypedModules.Proofs.Text.Nesting
import TypedModules.Proofs.Layout.Spacing
import TypedModules.Proofs.SourceModule.Spacing
import TypedModules.Proofs.Layout.Nesting
import TypedModules.Proofs.SourceModule.Balance
import TypedModules.Proofs.SourceModule.Binding
import TypedModules.Proofs.Directory.Containment
import TypedModules.Proofs.Namespace.Confinement
import TypedModules.Proofs.FileTree.Following
import TypedModules.Proofs.Pattern.Finding
import TypedModules.Proofs.Library.Finding
import TypedModules.Proofs.Library.Spelling
import TypedModules.Proofs.Emission.Running
import TypedModules.Proofs.Emission.Sharing
import TypedModules.Proofs.CommandLine.Execution
import TypedModules.Proofs.Pattern.Agreement
import TypedModules.Proofs.Library.Collecting
import TypedModules.Proofs.FileTree.Spelling
import TypedModules.Proofs.Pattern.Spelling
import TypedModules.Proofs.Library.Reading
import TypedModules.Proofs.Emission.Beside
import TypedModules.Proofs.Emission.Copying
import TypedModules.Proofs.Library.Naming
import TypedModules.Proofs.Library.Offering
import TypedModules.Proofs.Text.Trimming
import TypedModules.Proofs.Library.Header
import TypedModules.Proofs.Library.Quoting
import TypedModules.Proofs.Layout.History
import TypedModules.Proofs.Layout.Completeness
import TypedModules.Proofs.Layout.Finality
import TypedModules.Proofs.SourceModule.Finality
import TypedModules.Proofs.RuntimeStub.Ordering
import TypedModules.Proofs.SourceModule.SelfImport
import TypedModules.Proofs.Declaration.Denotation
import TypedModules.Proofs.Declaration.Form
import TypedModules.Proofs.SourceModule.InlineNames
import TypedModules.Proofs.Library.LibraryFiles
import TypedModules.Proofs.Library.LiteralPaths
import TypedModules.Proofs.Library.Recursion
import TypedModules.Proofs.CommandLine.Spelling
import TypedModules.Proofs.Namespace.Dotted
