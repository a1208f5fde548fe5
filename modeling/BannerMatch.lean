import BannerMatch.Analysis
import BannerMatch.Base64
import BannerMatch.Breakdown
import BannerMatch.Cache.Basic
import BannerMatch.Cache.Sweeper
import BannerMatch.CommandLine.Arguments
import BannerMatch.CommandLine.Directory
import BannerMatch.CommandLine.Report
import BannerMatch.CommandLine.Run
import BannerMatch.CommandLine.Session
import BannerMatch.Cpe
import BannerMatch.Engine.Basic
import BannerMatch.Engine.Batch
import BannerMatch.Engine.Config
import BannerMatch.Engine.Operation
import BannerMatch.Failure
import BannerMatch.Fingerprint
import BannerMatch.Json.Fault
import BannerMatch.Json.Numbers
import BannerMatch.Json.Reader
import BannerMatch.Json.Records
import BannerMatch.Json.Scan
import BannerMatch.Json.Skip
import BannerMatch.Json.Strings
import BannerMatch.Json.Value
import BannerMatch.Main
import BannerMatch.MessagePack.Reader
import BannerMatch.MessagePack.Writer
import BannerMatch.Number.Binary
import BannerMatch.Number.Decimal
import BannerMatch.Pattern.Basic
import BannerMatch.Pattern.Bracket
import BannerMatch.Pattern.ByteRange
import BannerMatch.Pattern.Escape
import BannerMatch.Pattern.Expr
import BannerMatch.Pattern.Flags
import BannerMatch.Pattern.Footprint
import BannerMatch.Pattern.Look
import BannerMatch.Pattern.Program
import BannerMatch.Pattern.Reader
import BannerMatch.Pattern.Search
import BannerMatch.Pattern.Syntax
import BannerMatch.Payload
import BannerMatch.Probe.Fault
import BannerMatch.Probe.Import
import BannerMatch.Probe.Line
import BannerMatch.Probe.Options
import BannerMatch.Probe.Unescape
import BannerMatch.Probe.VersionInfo
import BannerMatch.Proofs.Analysis
import BannerMatch.Proofs.Analysis.Findings
import BannerMatch.Proofs.Base64
import BannerMatch.Proofs.Cache.Contents
import BannerMatch.Proofs.Cache.Invariant
import BannerMatch.Proofs.Cache.Log
import BannerMatch.Proofs.Cache.Records
import BannerMatch.Proofs.Cache.Sweeper
import BannerMatch.Proofs.Cache.Upkeep
import BannerMatch.Proofs.CommandLine.Directory
import BannerMatch.Proofs.CommandLine.Export
import BannerMatch.Proofs.CommandLine.Session
import BannerMatch.Proofs.Cpe
import BannerMatch.Proofs.Engine.Additions
import BannerMatch.Proofs.Engine.Assigned
import BannerMatch.Proofs.Engine.Batches
import BannerMatch.Proofs.Engine.Confidence
import BannerMatch.Proofs.Engine.Consistency
import BannerMatch.Proofs.Engine.Counting
import BannerMatch.Proofs.Engine.Evidence
import BannerMatch.Proofs.Engine.History
import BannerMatch.Proofs.Engine.Identifiers
import BannerMatch.Proofs.Engine.Insertion
import BannerMatch.Proofs.Engine.Matched
import BannerMatch.Proofs.Engine.Matching
import BannerMatch.Proofs.Engine.Orders
import BannerMatch.Proofs.Engine.ProbeFiles
import BannerMatch.Proofs.Engine.Refusals
import BannerMatch.Proofs.Engine.Reload
import BannerMatch.Proofs.Engine.SoftMatches
import BannerMatch.Proofs.Engine.Transfer
import BannerMatch.Proofs.Engine.Transparency
import BannerMatch.Proofs.Engine.Truncation
import BannerMatch.Proofs.Json.Decoding
import BannerMatch.Proofs.Json.Exact
import BannerMatch.Proofs.Json.Grammar
import BannerMatch.Proofs.Json.Layout
import BannerMatch.Proofs.Json.Members
import BannerMatch.Proofs.Json.PartialRecords
import BannerMatch.Proofs.Json.Records
import BannerMatch.Proofs.Json.Services
import BannerMatch.Proofs.Json.Spelling
import BannerMatch.Proofs.Json.Strings
import BannerMatch.Proofs.Json.Truncation
import BannerMatch.Proofs.Json.Values
import BannerMatch.Proofs.MessagePack.Heads
import BannerMatch.Proofs.MessagePack.Prefixes
import BannerMatch.Proofs.MessagePack.Records
import BannerMatch.Proofs.Pattern.Mentions
import BannerMatch.Proofs.Pattern.Plain
import BannerMatch.Proofs.Pattern.Spans
import BannerMatch.Proofs.Pattern.Texts
import BannerMatch.Proofs.Pattern.Threads
import BannerMatch.Proofs.Payload
import BannerMatch.Proofs.Probe.Accounting
import BannerMatch.Proofs.Probe.Delimiters
import BannerMatch.Proofs.Probe.FaultyLines
import BannerMatch.Proofs.Probe.Grammar
import BannerMatch.Proofs.Probe.MatchLine
import BannerMatch.Proofs.Probe.Rules
import BannerMatch.Proofs.Probe.Source
import BannerMatch.Proofs.Ranking
import BannerMatch.Proofs.Ranking.Exchanges
import BannerMatch.Proofs.Record.Fields
import BannerMatch.Proofs.Record.Layouts
import BannerMatch.Proofs.Registry.Changes
import BannerMatch.Proofs.Registry.Loads
import BannerMatch.Proofs.Registry.Numbers
import BannerMatch.Proofs.Registry.Verdicts
import BannerMatch.Proofs.Rule.Assigned
import BannerMatch.Proofs.Rule.Batches
import BannerMatch.Proofs.Rule.Identifiers
import BannerMatch.Proofs.Rule.Settled
import BannerMatch.Proofs.Rule.Unused
import BannerMatch.Proofs.Template.Placeholders
import BannerMatch.Proofs.Template.Reading
import BannerMatch.Proofs.Text.Lines
import BannerMatch.Proofs.Text.Utf8
import BannerMatch.Proofs.Text.WordLists
import BannerMatch.Proofs.Text.Words
import BannerMatch.Proofs.Unescape.Basic
import BannerMatch.Proofs.Unescape.Brackets
import BannerMatch.Proofs.Unescape.Escapes
import BannerMatch.Proofs.Unescape.Groups
import BannerMatch.Proofs.Unescape.Patterns
import BannerMatch.Proofs.Unescape.Texts
import BannerMatch.Proofs.Unicode.Names
import BannerMatch.Ranking
import BannerMatch.Record.Basic
import BannerMatch.Record.Layouts
import BannerMatch.Registry.Basic
import BannerMatch.Registry.Tally
import BannerMatch.Rule.Basic
import BannerMatch.Rule.Builtin
import BannerMatch.Rule.Compiled
import BannerMatch.Rule.IdSource
import BannerMatch.Service
import BannerMatch.Template
import BannerMatch.Text.Ascii
import BannerMatch.Text.Blank
import BannerMatch.Text.Lines
import BannerMatch.Text.Quoted
import BannerMatch.Text.Utf8
import BannerMatch.Unicode.Additions
import BannerMatch.Unicode.Age
import BannerMatch.Unicode.CaseFolding
import BannerMatch.Unicode.CodeSet
import BannerMatch.Unicode.GeneralCategory
import BannerMatch.Unicode.Property
import BannerMatch.Unicode.PropertyList
import BannerMatch.Unicode.Script
import BannerMatch.Unicode.ScriptExtension
import BannerMatch.Unicode.Segmentation
