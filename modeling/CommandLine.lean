import CommandLine.Args
import CommandLine.Capability
import CommandLine.Catalog.Check
import CommandLine.Catalog.Descriptor
import CommandLine.Catalog.Reference
import CommandLine.Config.Disk
import CommandLine.Config.Load
import CommandLine.Config.Settings
import CommandLine.Decimal.Shortest
import CommandLine.Fault
import CommandLine.Handler
import CommandLine.Help.Layout
import CommandLine.Help.Wrap
import CommandLine.Json.Read
import CommandLine.Json.Write
import CommandLine.Main
import CommandLine.Matching.Engine
import CommandLine.Matching.Grammar
import CommandLine.Matching.Similar
import CommandLine.Objects.Basic
import CommandLine.Objects.Data.Entries1
import CommandLine.Objects.Data.Entries2
import CommandLine.Objects.Data.Modules
import CommandLine.Objects.Data.Strings
import CommandLine.Objects.Decode
import CommandLine.Objects.Import
import CommandLine.Objects.Lookup
import CommandLine.Objects.Table
import CommandLine.Plugin.Discovery
import CommandLine.Plugin.EntryPoint
import CommandLine.Plugin.Registry
import CommandLine.Presentation
import CommandLine.Run
import CommandLine.Schema.Build
import CommandLine.Schema.Invoke
import CommandLine.Session
import CommandLine.Terminal.Palette
import CommandLine.Terminal.Render
import CommandLine.Terminal.Style
import CommandLine.Terminal.Styled
import CommandLine.Terminal.Theme
import CommandLine.Text.Blank
import CommandLine.Text.Case
import CommandLine.Text.Digit
import CommandLine.Text.Printable
import CommandLine.Text.Quote
import CommandLine.Text.Ranges
import CommandLine.Text.Template
import CommandLine.Text.Utf8
import CommandLine.Text.Width
import CommandLine.Text.Word
import CommandLine.Toml.Nest
import CommandLine.Toml.Read
import CommandLine.Toml.Scalar
import CommandLine.Toml.Stack
import CommandLine.Value.Basic
import CommandLine.Value.Show
import CommandLine.Proofs.Keys
import CommandLine.Proofs.Registration
import CommandLine.Proofs.EnabledCommands
import CommandLine.Proofs.DisabledCommands
import CommandLine.Proofs.Scan
import CommandLine.Proofs.CommandFrame
import CommandLine.Proofs.TopLevel
import CommandLine.Proofs.Routing
import CommandLine.Proofs.Similarity
import CommandLine.Proofs.UnknownCommand
import CommandLine.Proofs.Outcome
import CommandLine.Proofs.ColorScope
import CommandLine.Proofs.MatchAlike
import CommandLine.Proofs.Restyling
import CommandLine.Proofs.NameGrammar
import CommandLine.Proofs.Consistency
import CommandLine.Proofs.ConfigLayers
import CommandLine.Proofs.ConfigErrors
import CommandLine.Proofs.RepoSearch
import CommandLine.Proofs.Listing
import CommandLine.Proofs.HelpPage
import CommandLine.Proofs.HelpRendering
import CommandLine.Proofs.HelpCommand
import CommandLine.Proofs.PrintedText
import CommandLine.Proofs.ErrorReports
import CommandLine.Proofs.HandlerDiscovery
import CommandLine.Proofs.Appending
import CommandLine.Proofs.RenamedCommand
import CommandLine.Proofs.FeatureNames
