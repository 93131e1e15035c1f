import WebLint.Act
import WebLint.Adapter
import WebLint.Arguments
import WebLint.Chain
import WebLint.Command
import WebLint.Diagnostics
import WebLint.Dialect
import WebLint.Display.Emoji
import WebLint.Display.EmojiNames
import WebLint.Display.Fit
import WebLint.Display.Markup
import WebLint.Display.Notice
import WebLint.Display.Stream
import WebLint.Display.Style
import WebLint.Display.Table
import WebLint.Display.Width
import WebLint.Display.Wrap
import WebLint.Document
import WebLint.Fault
import WebLint.Files
import WebLint.Json.Reader
import WebLint.Json.Writer
import WebLint.Log
import WebLint.Main
import WebLint.Number.Binary64
import WebLint.Number.Decimal
import WebLint.Number.Power
import WebLint.Path
import WebLint.Pattern.Complaint
import WebLint.Pattern.Matcher
import WebLint.Pattern.Reader
import WebLint.Pattern.Replacement
import WebLint.Pattern.Tree
import WebLint.Payload
import WebLint.Proofs.Act
import WebLint.Proofs.Adapter
import WebLint.Proofs.Adapter.Canonical
import WebLint.Proofs.Adapter.Course
import WebLint.Proofs.Adapter.Fields
import WebLint.Proofs.Adapter.Integers
import WebLint.Proofs.Adapter.Mapping
import WebLint.Proofs.Chain.Course
import WebLint.Proofs.Chain.Named
import WebLint.Proofs.Chain.Nested
import WebLint.Proofs.Chain.Reuse
import WebLint.Proofs.Chain.Watched
import WebLint.Proofs.Chain.WhiteSpace
import WebLint.Proofs.Command.Options
import WebLint.Proofs.Command.Process
import WebLint.Proofs.Command.Refusal
import WebLint.Proofs.Command.Report
import WebLint.Proofs.Comments.Concatenation
import WebLint.Proofs.Comments.Pattern
import WebLint.Proofs.Comments.Replacing
import WebLint.Proofs.Comments.Rescan
import WebLint.Proofs.Comments.ScriptEnd
import WebLint.Proofs.Comments.Segmentation
import WebLint.Proofs.Comments.Shape
import WebLint.Proofs.Comments.Words
import WebLint.Proofs.Display.Emoji
import WebLint.Proofs.Display.Markup
import WebLint.Proofs.Display.Stream
import WebLint.Proofs.Display.Summary
import WebLint.Proofs.Display.Table
import WebLint.Proofs.Display.Wrap
import WebLint.Proofs.Document.Characters
import WebLint.Proofs.Document.Controls
import WebLint.Proofs.Document.Counts
import WebLint.Proofs.Document.Elements
import WebLint.Proofs.Document.Payload
import WebLint.Proofs.Document.Renaming
import WebLint.Proofs.Document.RoundTrip
import WebLint.Proofs.Files
import WebLint.Proofs.Files.Writes
import WebLint.Proofs.Json.Limit
import WebLint.Proofs.Json.Places
import WebLint.Proofs.Json.Prefix
import WebLint.Proofs.Json.RoundTrip
import WebLint.Proofs.Json.Scalars
import WebLint.Proofs.Json.Step
import WebLint.Proofs.Json.Strings
import WebLint.Proofs.Json.Surrogates
import WebLint.Proofs.Numeral
import WebLint.Proofs.Path
import WebLint.Proofs.Path.NormalForm
import WebLint.Proofs.Pattern.Matcher
import WebLint.Proofs.Payload
import WebLint.Proofs.Payload.Containment
import WebLint.Proofs.Payload.Places
import WebLint.Proofs.Payload.Precedence
import WebLint.Proofs.Payload.RoundTrip
import WebLint.Proofs.Payload.Shapes
import WebLint.Proofs.Record
import WebLint.Proofs.Record.Attributes
import WebLint.Proofs.Record.Containment
import WebLint.Proofs.Record.Dump
import WebLint.Proofs.Record.Resource
import WebLint.Proofs.Record.Session
import WebLint.Proofs.Settings.Containment
import WebLint.Proofs.Settings.Sources
import WebLint.Proofs.Settings.Tables
import WebLint.Proofs.Text.Lines
import WebLint.Proofs.Text.Pieces
import WebLint.Proofs.Text.Separators
import WebLint.Proofs.Text.Trim
import WebLint.Proofs.Text.Words
import WebLint.Proofs.Toml.Integers
import WebLint.Proofs.Traversal
import WebLint.Proofs.Unforeseen
import WebLint.Proofs.Utf8
import WebLint.Proofs.Xml.Characters
import WebLint.Proofs.Xml.Reader
import WebLint.Proofs.Xml.RoundTrip
import WebLint.Proofs.Xml.Writing
import WebLint.Record.Check
import WebLint.Record.Diagnostics
import WebLint.Record.Instance
import WebLint.Record.Problem
import WebLint.Record.Resource
import WebLint.Record.Session
import WebLint.Record.Tool
import WebLint.Record.Wording
import WebLint.Resource
import WebLint.Settings.Basic
import WebLint.Settings.Load
import WebLint.Settings.Record
import WebLint.Severity
import WebLint.Stage.Basic
import WebLint.Stage.Builtin
import WebLint.Stage.Comments
import WebLint.Stage.Memory
import WebLint.Stage.Replacing
import WebLint.Stage.Simple
import WebLint.Summary
import WebLint.Text
import WebLint.Text.Blank
import WebLint.Text.Fold
import WebLint.Text.Letter
import WebLint.Text.Lines
import WebLint.Text.Lower
import WebLint.Text.Numeral
import WebLint.Text.Printable
import WebLint.Text.Quoted
import WebLint.Text.Ranges
import WebLint.Text.Utf8
import WebLint.Toml.Reader
import WebLint.Toml.Scalar
import WebLint.Value
import WebLint.Xml.Element
