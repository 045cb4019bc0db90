import ActionTree.Text.Blank
import ActionTree.Fields
import ActionTree.Binary.Shortest
import ActionTree.Json.Printer
import ActionTree.Json.Reader
import ActionTree.Document.Decode
import ActionTree.Instant.Reader
import ActionTree.Toml.Reader
import ActionTree.Space.Basic
import ActionTree.Line.Parser
import ActionTree.Template.Basic
import ActionTree.Session.Basic
import ActionTree.Session.Codec
import ActionTree.Completion.Basic
import ActionTree.Completion.Codec
import ActionTree.Completion.Service
import ActionTree.Tool.Basic
import ActionTree.Tool.Command
import ActionTree.Handler.Builtin
import ActionTree.Engine.Shell
import ActionTree.Settings.Catalog
import ActionTree.Settings.Load
import ActionTree.Settings.Display
import ActionTree.Testing.Sh.Host
import ActionTree.Program.Engine
import ActionTree.Program.Listing
import ActionTree.Program.Conversation
import ActionTree.Program.Arguments
import ActionTree.Program.Basic
import ActionTree.Main
import ActionTree.Proofs.Engine.Transcript
import ActionTree.Proofs.Engine.Account
import ActionTree.Proofs.Line.Accepted
import ActionTree.Proofs.Engine.Composition
import ActionTree.Proofs.Address.Text
import ActionTree.Proofs.Line.Pieces
import ActionTree.Proofs.Json.Tokens
import ActionTree.Proofs.Json.Extent
import ActionTree.Proofs.Line.Grammar
import ActionTree.Proofs.Engine.Outcome
import ActionTree.Proofs.Space.Nodes
import ActionTree.Proofs.Space.Catalog
import ActionTree.Proofs.Engine.Navigation
import ActionTree.Proofs.Engine.Menus
import ActionTree.Proofs.Handler.Builtin
import ActionTree.Proofs.Engine.Atomicity
import ActionTree.Proofs.Engine.Cancellation
import ActionTree.Proofs.Handler.Completion
import ActionTree.Proofs.Agent.Conversation
import ActionTree.Proofs.Template.References
import ActionTree.Proofs.Json.Ordered
import ActionTree.Proofs.Engine.References
import ActionTree.Proofs.Engine.Leniency
import ActionTree.Proofs.Template.Occurrences
import ActionTree.Proofs.Template.Strings
import ActionTree.Proofs.Text.Utf8
import ActionTree.Proofs.Program.Conversation
import ActionTree.Proofs.Document.Records
import ActionTree.Proofs.Instant.Text
import ActionTree.Proofs.Session.Codec
import ActionTree.Proofs.Session.Export
import ActionTree.Proofs.Json.Places
import ActionTree.Proofs.Template.Escape
import ActionTree.Proofs.Template.Numerals
import ActionTree.Proofs.Tool.Allowlist
import ActionTree.Proofs.Address.Canonical
import ActionTree.Proofs.Line.Balance
import ActionTree.Proofs.Line.Keyword
import ActionTree.Proofs.Line.Spelling
import ActionTree.Proofs.Line.Rejection
import ActionTree.Proofs.Template.Passes
import ActionTree.Proofs.Template.Stability
import ActionTree.Proofs.Handler.Variables
import ActionTree.Proofs.Engine.Variables
import ActionTree.Proofs.Space.Acceptance
import ActionTree.Proofs.Program.ExitStatus
import ActionTree.Proofs.Engine.Unbound
import ActionTree.Proofs.Line.Nesting
import ActionTree.Proofs.Settings.Environment
import ActionTree.Proofs.Completion.Service
import ActionTree.Proofs.Engine.Exchange
import ActionTree.Proofs.Engine.Transport
import ActionTree.Proofs.Program.Secrecy
