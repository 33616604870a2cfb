import LogPipeline.Config.Basic
import LogPipeline.Config.Document
import LogPipeline.Config.Environment
import LogPipeline.Duration
import LogPipeline.Encoding
import LogPipeline.Event.Basic
import LogPipeline.File.Error
import LogPipeline.File.Path
import LogPipeline.File.System
import LogPipeline.Handler.Basic
import LogPipeline.Handler.Stage
import LogPipeline.Json.Basic
import LogPipeline.Json.Number
import LogPipeline.Json.Parser
import LogPipeline.Json.Printer
import LogPipeline.Level
import LogPipeline.Logger.Basic
import LogPipeline.Number.Binary64
import LogPipeline.Number.Notation
import LogPipeline.Number.Shortest
import LogPipeline.Proofs.Event.Fields
import LogPipeline.Proofs.File.Changes
import LogPipeline.Proofs.File.Listing
import LogPipeline.Proofs.File.Operations
import LogPipeline.Proofs.File.Parent
import LogPipeline.Proofs.File.Path
import LogPipeline.Proofs.File.Shown
import LogPipeline.Proofs.File.Sound
import LogPipeline.Proofs.Handler.Binding
import LogPipeline.Proofs.Handler.Effects
import LogPipeline.Proofs.Handler.Fanout
import LogPipeline.Proofs.Handler.Gate
import LogPipeline.Proofs.Handler.Stack
import LogPipeline.Proofs.Handler.Writes
import LogPipeline.Proofs.Json.Controls
import LogPipeline.Proofs.Json.Members
import LogPipeline.Proofs.Json.Printer
import LogPipeline.Proofs.Json.RoundTrip
import LogPipeline.Proofs.Record.Decoding
import LogPipeline.Proofs.Record.Grouping
import LogPipeline.Proofs.Record.JsonDecoding
import LogPipeline.Proofs.Record.Lines
import LogPipeline.Proofs.Record.Merge
import LogPipeline.Proofs.Record.Nesting
import LogPipeline.Proofs.Record.Tree
import LogPipeline.Proofs.Redaction.Composition
import LogPipeline.Proofs.Redaction.Exact
import LogPipeline.Proofs.Redaction.Secrecy
import LogPipeline.Proofs.Redaction.Stage
import LogPipeline.Proofs.Redaction.Transparent
import LogPipeline.Proofs.Redaction.Url
import LogPipeline.Proofs.Rotation.Alike
import LogPipeline.Proofs.Rotation.Backups
import LogPipeline.Proofs.Rotation.Chronology
import LogPipeline.Proofs.Rotation.Confinement
import LogPipeline.Proofs.Rotation.Conservation
import LogPipeline.Proofs.Rotation.Family
import LogPipeline.Proofs.Rotation.FreeName
import LogPipeline.Proofs.Rotation.History
import LogPipeline.Proofs.Rotation.Limit
import LogPipeline.Proofs.Rotation.Neighbours
import LogPipeline.Proofs.Rotation.Opening
import LogPipeline.Proofs.Rotation.Order
import LogPipeline.Proofs.Rotation.Pruning
import LogPipeline.Proofs.Rotation.Recovery
import LogPipeline.Proofs.Rotation.Restarts
import LogPipeline.Proofs.Rotation.Retention
import LogPipeline.Proofs.Rotation.Sizes
import LogPipeline.Proofs.Rotation.Step
import LogPipeline.Proofs.Rotation.Tags
import LogPipeline.Proofs.Service.Chain
import LogPipeline.Proofs.Service.Installation
import LogPipeline.Proofs.Service.Ownership
import LogPipeline.Proofs.Service.Register
import LogPipeline.Proofs.Service.Routing
import LogPipeline.Proofs.Service.Session
import LogPipeline.Proofs.Service.Threshold
import LogPipeline.Proofs.Service.Usable
import LogPipeline.Proofs.Sink.Color
import LogPipeline.Proofs.Sink.ColoredJson
import LogPipeline.Proofs.Text.Boundary
import LogPipeline.Proofs.Text.Order
import LogPipeline.Proofs.Text.Pieces
import LogPipeline.Proofs.Text.Quoted
import LogPipeline.Proofs.Text.Utf8
import LogPipeline.Proofs.Time.Digits
import LogPipeline.Proofs.Time.Stamp
import LogPipeline.Proofs.Url.Ending
import LogPipeline.Proofs.Url.Form
import LogPipeline.Proofs.Url.Front
import LogPipeline.Proofs.Url.Host
import LogPipeline.Proofs.Url.Parts
import LogPipeline.Record.Basic
import LogPipeline.Record.Scope
import LogPipeline.Record.Value
import LogPipeline.Redaction.Keys
import LogPipeline.Redaction.Url
import LogPipeline.Service.Basic
import LogPipeline.Sink.Basic
import LogPipeline.Sink.Color
import LogPipeline.Sink.Rotator
import LogPipeline.Sink.SetupError
import LogPipeline.Table
import LogPipeline.Text.Blank
import LogPipeline.Text.Composition
import LogPipeline.Text.Lowercase
import LogPipeline.Text.Numbers
import LogPipeline.Text.Printable
import LogPipeline.Text.Quoted
import LogPipeline.Text.Ranges
import LogPipeline.Text.Utf8
import LogPipeline.Time
import LogPipeline.Url.Basic
import LogPipeline.Url.Domain.Basic
import LogPipeline.Url.Domain.Direction
import LogPipeline.Url.Domain.Joining
import LogPipeline.Url.Domain.Mapping
import LogPipeline.Url.Domain.Punycode
import LogPipeline.Url.Form
import LogPipeline.Url.Host
import LogPipeline.Url.Parser
import LogPipeline.Url.Percent
import LogPipeline.World
