import Snippet.Capture
import Snippet.Chat.Client
import Snippet.Chat.Endpoint
import Snippet.Chat.Message
import Snippet.Chat.Stream
import Snippet.CommandLine.Arguments
import Snippet.CommandLine.Form
import Snippet.CommandLine.Report
import Snippet.Decimal.Layout
import Snippet.Decimal.Reading
import Snippet.Decimal.Shortest
import Snippet.Dispatch
import Snippet.Failure
import Snippet.Files.Path
import Snippet.Files.Tree
import Snippet.Guest.Ast
import Snippet.Guest.Attributes
import Snippet.Guest.Evaluate
import Snippet.Guest.Format
import Snippet.Guest.Grammar
import Snippet.Guest.Inbox
import Snippet.Guest.Interpret
import Snippet.Guest.Methods
import Snippet.Guest.Natives
import Snippet.Guest.Notice
import Snippet.Guest.Operators
import Snippet.Guest.Play
import Snippet.Guest.Process
import Snippet.Guest.Program
import Snippet.Guest.Show
import Snippet.Guest.Token
import Snippet.Guest.Value
import Snippet.Guest.Worker
import Snippet.Interpreter.Lifecycle
import Snippet.Interpreter.Rehearsal
import Snippet.Interpreter.Session
import Snippet.Interpreter.Timeline
import Snippet.Json.Basic
import Snippet.Json.Read
import Snippet.Json.Write
import Snippet.Language
import Snippet.Main
import Snippet.Markup
import Snippet.Metrics
import Snippet.Outcome
import Snippet.Presentation
import Snippet.Preview.Document
import Snippet.Preview.FileSurface
import Snippet.Preview.Renderer
import Snippet.Request
import Snippet.Review.Bundle
import Snippet.Review.Finding
import Snippet.Script.Ast
import Snippet.Script.Backend
import Snippet.Script.Builtins
import Snippet.Script.Complaint
import Snippet.Script.Convert
import Snippet.Script.Evaluate
import Snippet.Script.Grammar
import Snippet.Script.Machine
import Snippet.Script.Operators
import Snippet.Script.Play
import Snippet.Script.Realm
import Snippet.Script.Show
import Snippet.Script.Stringify
import Snippet.Script.Token
import Snippet.Script.Value
import Snippet.Settings
import Snippet.Source
import Snippet.Text.Blank
import Snippet.Text.Case
import Snippet.Text.Lines
import Snippet.Text.Points
import Snippet.Text.Printable
import Snippet.Text.Search
import Snippet.Text.Units
import Snippet.Text.UpperTable
import Snippet.Text.Utf8
import Snippet.Time
import Snippet.Wire.Exchange
import Snippet.Wire.Frame
import Snippet.Wire.Installed
import Snippet.Wire.StandIn
import Snippet.Proofs.Interpreter.Invariant
import Snippet.Proofs.Interpreter.Recovery
import Snippet.Proofs.Interpreter.SingleFlight
import Snippet.Proofs.Json.Spelling
import Snippet.Proofs.Text.Cuts
import Snippet.Proofs.Json.RoundTrip
import Snippet.Proofs.Wire.Frames
import Snippet.Proofs.Request.Cursor
import Snippet.Proofs.Guest.Conduct
import Snippet.Proofs.Guest.Link
import Snippet.Proofs.Guest.Isolation
import Snippet.Proofs.Guest.Conversation
import Snippet.Proofs.Text.Decoding
import Snippet.Proofs.Chat.Chunks
import Snippet.Proofs.Interpreter.Broken
import Snippet.Proofs.Interpreter.Handover
import Snippet.Proofs.Preview.Debounce
import Snippet.Proofs.Wire.Understood
import Snippet.Proofs.Wire.Recorded
import Snippet.Proofs.Script.Deeds
import Snippet.Proofs.Dispatch.Coherence
import Snippet.Proofs.Chat.Payload
import Snippet.Proofs.Chat.Reference
import Snippet.Proofs.Preview.FileContents
import Snippet.Proofs.Preview.Mirror
import Snippet.Proofs.Script.Reentry
import Snippet.Proofs.Review.Usable
import Snippet.Proofs.Language.Written
import Snippet.Proofs.Settings.Precedence
import Snippet.Proofs.Guest.Inbox
import Snippet.Proofs.Json.Grammar
import Snippet.Proofs.Chat.Encoding
import Snippet.Proofs.Preview.Order
import Snippet.Proofs.Preview.Replacement
import Snippet.Proofs.CommandLine.Preview
import Snippet.Proofs.Guest.Handling
import Snippet.Proofs.Guest.Reading
import Snippet.Proofs.Guest.Relay
import Snippet.Proofs.Guest.Answering
import Snippet.Proofs.Settings.Lines
import Snippet.Proofs.Dispatch.Shown
import Snippet.Proofs.Files.Changes
import Snippet.Proofs.Preview.Atomic
import Snippet.Proofs.Preview.Staging
import Snippet.Proofs.Metrics.Scan
import Snippet.Proofs.Metrics.Report
import Snippet.Proofs.Review.Agreement
import Snippet.Proofs.Presentation.Body
import Snippet.Proofs.Wire.Noise
import Snippet.Proofs.Request.Lines
import Snippet.Proofs.Chat.Address
import Snippet.Proofs.Chat.Canonical
import Snippet.Proofs.Settings.Written
import Snippet.Proofs.Settings.Environment
