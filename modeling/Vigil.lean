import Vigil.Address.Basic
import Vigil.Address.Reserved
import Vigil.Address.Text
import Vigil.Batch.Basic
import Vigil.Batch.Launch
import Vigil.Batch.Record
import Vigil.Check.Basic
import Vigil.Check.Live
import Vigil.Check.Target
import Vigil.Check.Tcp
import Vigil.Check.Url
import Vigil.Client.Contention
import Vigil.Client.Slot
import Vigil.Client.Use
import Vigil.CommandLine
import Vigil.Config.Basic
import Vigil.Config.Probes
import Vigil.Config.Problem
import Vigil.Config.Reader
import Vigil.Config.Source
import Vigil.Config.Validation
import Vigil.Double.Basic
import Vigil.Double.Shortest
import Vigil.Dsn
import Vigil.Duration.Basic
import Vigil.Duration.Text
import Vigil.Endpoint
import Vigil.Fault
import Vigil.Guard
import Vigil.Http.Credentials
import Vigil.Http.Exchange
import Vigil.Http.Status
import Vigil.Json.Basic
import Vigil.Json.Printer
import Vigil.Json.Reader
import Vigil.Logging
import Vigil.Main
import Vigil.Probe
import Vigil.Proofs.Address.Reserved
import Vigil.Proofs.Address.Text
import Vigil.Proofs.Batch.Budget
import Vigil.Proofs.Batch.Execution
import Vigil.Proofs.Batch.Output
import Vigil.Proofs.Batch.Record
import Vigil.Proofs.Check.Admission
import Vigil.Proofs.Check.Client
import Vigil.Proofs.Check.Course
import Vigil.Proofs.Check.Credentials
import Vigil.Proofs.Check.Description
import Vigil.Proofs.Check.Redirects
import Vigil.Proofs.Check.Tcp
import Vigil.Proofs.Check.Url
import Vigil.Proofs.Client.Conservation
import Vigil.Proofs.Client.Contention
import Vigil.Proofs.Client.Sharing
import Vigil.Proofs.Config.Probes
import Vigil.Proofs.Config.Validation
import Vigil.Proofs.Double.Rounding
import Vigil.Proofs.Dsn
import Vigil.Proofs.Duration.Message
import Vigil.Proofs.Duration.Text
import Vigil.Proofs.Endpoint
import Vigil.Proofs.Guard.Literal
import Vigil.Proofs.Guard.Phases
import Vigil.Proofs.Http.Journey
import Vigil.Proofs.Json.Number
import Vigil.Proofs.Json.Text
import Vigil.Proofs.Redaction.Places
import Vigil.Proofs.Run.Collection
import Vigil.Proofs.Run.Course
import Vigil.Proofs.Run.Deadline
import Vigil.Proofs.Run.Dispatch
import Vigil.Proofs.Run.Elapsed
import Vigil.Proofs.Run.HookFailures
import Vigil.Proofs.Run.Isolation
import Vigil.Proofs.Run.Modes
import Vigil.Proofs.Run.Order
import Vigil.Proofs.Run.Secrecy
import Vigil.Proofs.Run.Turns
import Vigil.Proofs.Session.Calls
import Vigil.Proofs.Session.Releases
import Vigil.Proofs.Settings.Target
import Vigil.Proofs.Url.Canonical
import Vigil.Proofs.Url.Punycode
import Vigil.Proofs.Url.Spelling
import Vigil.Redaction
import Vigil.Report
import Vigil.Run.Collect
import Vigil.Run.Dispatch
import Vigil.Run.Events
import Vigil.Run.Executor
import Vigil.Run.Hooks
import Vigil.Run.Runner
import Vigil.Session
import Vigil.Settings.Reading
import Vigil.Settings.Target
import Vigil.Text.Blank
import Vigil.Text.Fields
import Vigil.Text.Numeral
import Vigil.Text.Quoted
import Vigil.Unicode.Composed
import Vigil.Unicode.Hidden
import Vigil.Unicode.HostMapping
import Vigil.Unicode.Ranges
import Vigil.Unicode.Script
import Vigil.Unicode.Table
import Vigil.Url.Basic
import Vigil.Url.Domain
import Vigil.Url.Host
import Vigil.Url.Parser
import Vigil.Url.Percent
import Vigil.Url.Punycode
import Vigil.Yaml.Access
import Vigil.Yaml.Block
import Vigil.Yaml.Chars
import Vigil.Yaml.Node
import Vigil.Yaml.Plain
import Vigil.Yaml.Quoted
import Vigil.Yaml.Scalar
import Vigil.Yaml.Token
import Vigil.Yaml.Token.Lexer
