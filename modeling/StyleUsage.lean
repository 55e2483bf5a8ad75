import StyleUsage.Analysis.Basic
import StyleUsage.Analysis.Record
import StyleUsage.Analysis.Rendering
import StyleUsage.Analysis.Scope
import StyleUsage.Analysis.StoredScope
import StyleUsage.Analysis.Summary
import StyleUsage.Block.Dependencies
import StyleUsage.Block.Store
import StyleUsage.Calendar.Moment
import StyleUsage.Collection.Entries
import StyleUsage.Collection.NamedSets
import StyleUsage.Collection.OrderedSet
import StyleUsage.Collection.SetMemory
import StyleUsage.Collection.Sorting
import StyleUsage.Command.Options
import StyleUsage.Command.Run
import StyleUsage.Command.Usage
import StyleUsage.Datum.Arrangement
import StyleUsage.Datum.Basic
import StyleUsage.Datum.Display
import StyleUsage.Datum.Key
import StyleUsage.Datum.Writing
import StyleUsage.Decimal.Double
import StyleUsage.Decimal.Number
import StyleUsage.Decimal.Reader
import StyleUsage.Decimal.Shortest
import StyleUsage.Digest.Sha256
import StyleUsage.File.Path
import StyleUsage.File.Tree
import StyleUsage.Json.Compact
import StyleUsage.Json.Indented
import StyleUsage.Json.Reader
import StyleUsage.Json.Value
import StyleUsage.Main
import StyleUsage.Proofs.Analysis.Coherence
import StyleUsage.Proofs.Analysis.Lookup
import StyleUsage.Proofs.Analysis.Places
import StyleUsage.Proofs.Analysis.Refinement
import StyleUsage.Proofs.Analysis.Step
import StyleUsage.Proofs.Analysis.Trace
import StyleUsage.Proofs.Collection.Entries
import StyleUsage.Proofs.Collection.OrderedSet
import StyleUsage.Proofs.Collection.Traversal
import StyleUsage.Proofs.Datum.Canonical
import StyleUsage.Proofs.Json.Layout
import StyleUsage.Proofs.Json.Same
import StyleUsage.Proofs.Json.Scalar
import StyleUsage.Proofs.Record.Reload
import StyleUsage.Proofs.Summary.Canonical
import StyleUsage.Proofs.Summary.Order
import StyleUsage.Proofs.Walk.Reordered
import StyleUsage.Proofs.Walk.Replay
import StyleUsage.Report.Console
import StyleUsage.Report.Line
import StyleUsage.Report.Literal
import StyleUsage.Report.Manner
import StyleUsage.Report.Markup
import StyleUsage.Report.Table
import StyleUsage.Settings.Basic
import StyleUsage.Settings.Discovery
import StyleUsage.Settings.Registry
import StyleUsage.Template.Info
import StyleUsage.Template.Registry
import StyleUsage.Text.Basic
import StyleUsage.Text.Digits
import StyleUsage.Text.Emoji
import StyleUsage.Text.EmojiNames
import StyleUsage.Text.Lowercase
import StyleUsage.Text.Printable
import StyleUsage.Text.Quoted
import StyleUsage.Text.Similar
import StyleUsage.Text.Width
import StyleUsage.Toml.Reader
import StyleUsage.Toml.Scalar
import StyleUsage.Toml.Tree
import StyleUsage.Toml.Value
import StyleUsage.Walk.Error
import StyleUsage.Walk.File
import StyleUsage.Walk.Reader
import StyleUsage.Walk.Replay
import StyleUsage.Walk.Script
import StyleUsage.Yaml.Binary
import StyleUsage.Yaml.Cursor
import StyleUsage.Yaml.Error
import StyleUsage.Yaml.Merge
import StyleUsage.Yaml.Moment
import StyleUsage.Yaml.Node
import StyleUsage.Yaml.Number
import StyleUsage.Yaml.Outline
import StyleUsage.Yaml.Page
import StyleUsage.Yaml.Resolve
import StyleUsage.Yaml.Scalar
import StyleUsage.Yaml.Style
import StyleUsage.Yaml.Tag
import StyleUsage.Yaml.Token
import StyleUsage.Yaml.Tokenize
import StyleUsage.Yaml.Value
import StyleUsage.Yaml.Writer
import StyleUsage.Yaml.Written
import StyleUsage.Proofs.Record.Queries
import StyleUsage.Proofs.Walk.Reading
import StyleUsage.Proofs.Analysis.Handles
import StyleUsage.Proofs.Block.Store
import StyleUsage.Proofs.Walk.Accepted
import StyleUsage.Proofs.Walk.Stored
import StyleUsage.Proofs.Walk.Outcome
import StyleUsage.Proofs.Walk.Meaning
import StyleUsage.Proofs.Collection.Related
import StyleUsage.Proofs.Walk.Rearranged
import StyleUsage.Proofs.Walk.Equivariance
import StyleUsage.Proofs.Block.Reachable
import StyleUsage.Proofs.Analysis.Dependencies
import StyleUsage.Proofs.Summary.Decoded
import StyleUsage.Proofs.Json.LineEnds
import StyleUsage.Proofs.Datum.Rendered
import StyleUsage.Proofs.Record.Rendered
import StyleUsage.Proofs.Walk.References
import StyleUsage.Proofs.Walk.Names
import StyleUsage.Proofs.Datum.Uses
import StyleUsage.Proofs.Record.Shape
import StyleUsage.Proofs.Record.Accepted
import StyleUsage.Proofs.Walk.Grammar
import StyleUsage.Proofs.Walk.Respelled
import StyleUsage.Proofs.Walk.Guarded
import StyleUsage.Proofs.Summary.Growth
import StyleUsage.Proofs.Template.Rebuilt
import StyleUsage.Proofs.Text.Pattern
import StyleUsage.Proofs.Walk.Resolution
import StyleUsage.Proofs.Walk.Declared
import StyleUsage.Proofs.Settings.Table
import StyleUsage.Proofs.Settings.Loading
import StyleUsage.Proofs.Settings.Registration
import StyleUsage.Proofs.Digest.Sha256
import StyleUsage.Proofs.Report.Manner
import StyleUsage.Proofs.Report.Markup
import StyleUsage.Proofs.Report.Line
import StyleUsage.Proofs.Report.Table
import StyleUsage.Proofs.Report.Console
import StyleUsage.Proofs.Command.Run
import StyleUsage.Proofs.Command.Analyze
import StyleUsage.Proofs.Command.Inspect
import StyleUsage.Proofs.File.Tree
import StyleUsage.Proofs.Settings.Discovery
import StyleUsage.Proofs.Collection.SetMemory
import StyleUsage.Proofs.Collection.NamedSets
import StyleUsage.Proofs.Analysis.Scope
