import Playground.Text.Basic
import Playground.Language.Starter
import Playground.Fault
import Playground.Json.Printer
import Playground.Json.Reader
import Playground.Report.Transcript
import Playground.Preview
import Playground.Path
import Playground.InputUse
import Playground.Check
import Playground.Sql.Analysis
import Playground.Engine.Session
import Playground.Url
import Playground.Net.SocketAddress
import Playground.Toml.Document
import Playground.Config.Load
import Playground.Server.Settings
import Playground.Interpreter.Settings
import Playground.Digest
import Playground.Remote.Client
import Playground.Wasm.Notation
import Playground.Interpreter.Loader
import Playground.Script.Host
import Playground.Engine.Assembly
import Playground.Terminal.Session
import Playground.Script.Document
import Playground.Config.Document
import Playground.Wasm.Document
import Playground.Server.Router
import Playground.CommandLine.Arguments
import Playground.CommandLine.Program
import Playground.Main
import Playground.Proofs.Lifecycle.Callers
import Playground.Proofs.Lifecycle.LoadOnce
import Playground.Proofs.Lifecycle.Waiters
import Playground.Proofs.Lifecycle.FailedLoad
import Playground.Proofs.Engine.Recording
import Playground.Proofs.Engine.Submissions
import Playground.Proofs.Lookup
import Playground.Proofs.Json.Members
import Playground.Proofs.Remote.Replies
import Playground.Proofs.Engine.Origins
import Playground.Proofs.Engine.ErrorClasses
import Playground.Proofs.InputUse
import Playground.Proofs.Engine.ControlKeys
import Playground.Proofs.Script.Redirection
import Playground.Proofs.Files.Replacement
import Playground.Proofs.Report.Messages
import Playground.Proofs.Bundle.Fetches
import Playground.Proofs.Files.Names
import Playground.Proofs.Lifecycle.SingleCaller
import Playground.Proofs.Bundle.Artifacts
import Playground.Proofs.Bundle.Rejections
import Playground.Proofs.Config.Sections
import Playground.Proofs.Config.Headers
import Playground.Proofs.Config.Fallbacks
import Playground.Proofs.Bundle.Reuse
import Playground.Proofs.Engine.Previews
import Playground.Proofs.Server.Requests
import Playground.Proofs.Text.ByteOrder
import Playground.Proofs.Json.Trees
import Playground.Proofs.Json.Written
import Playground.Proofs.Json.Numerals
import Playground.Proofs.Json.Survivors
import Playground.Proofs.Json.Strings
import Playground.Proofs.Json.RoundTrip
import Playground.Proofs.Engine.JsonReports
import Playground.Proofs.Sql.Pieces
import Playground.Proofs.Sql.Composition
import Playground.Proofs.Text.Trimming
import Playground.Proofs.Sql.Keywords
import Playground.Proofs.Sql.Literals
import Playground.Proofs.Drift
import Playground.Proofs.Engine.Drifts
import Playground.Proofs.Engine.Assembled
import Playground.Proofs.Terminal.Inputs
import Playground.Proofs.Terminal.Conversations
import Playground.Proofs.Text.Lines
import Playground.Proofs.Text.Patterns
import Playground.Proofs.Check.Balance
import Playground.Proofs.Engine.Findings
import Playground.Proofs.Check.Semicolons
import Playground.Proofs.Check.Comments
import Playground.Proofs.Check.Terminators
import Playground.Proofs.Check.Words
import Playground.Proofs.Check.Includes
import Playground.Proofs.Check.Advice
import Playground.Proofs.Json.Compact
import Playground.Proofs.Remote.Failures
import Playground.Proofs.Remote.Rejections
import Playground.Proofs.Remote.Fields
import Playground.Proofs.Remote.Attempts
import Playground.Proofs.Engine.Fallbacks
import Playground.Proofs.Engine.Refusals
import Playground.Proofs.Terminal.TypedLines
import Playground.Proofs.Report.Blocks
import Playground.Proofs.Text.Tokens
import Playground.Proofs.InputUse.Phrases
import Playground.Proofs.Text.Bytes
import Playground.Proofs.Preview.Styling
import Playground.Proofs.Interpreter.Fuel
import Playground.Proofs.Check.Identifiers
import Playground.Proofs.Config.Addresses
import Playground.Proofs.Text.Decoding
import Playground.Proofs.Json.Spellings
import Playground.Proofs.Server.Sizes
import Playground.Proofs.Script.Reads
