import EdgeSession.Attach.Executor
import EdgeSession.Attach.Fault
import EdgeSession.Attach.Name
import EdgeSession.Attach.Opening
import EdgeSession.Attach.Session
import EdgeSession.Attach.Target
import EdgeSession.Bytes
import EdgeSession.CommandLine.Grammar
import EdgeSession.CommandLine.Invocation
import EdgeSession.CommandLine.Run
import EdgeSession.CommandLine.Word
import EdgeSession.Config.Flush
import EdgeSession.Config.Namespace
import EdgeSession.Config.Password
import EdgeSession.Config.Path
import EdgeSession.Config.Store
import EdgeSession.ControlPlane.Actor
import EdgeSession.ControlPlane.BaseUrl
import EdgeSession.ControlPlane.Caches
import EdgeSession.ControlPlane.Client
import EdgeSession.ControlPlane.Fault
import EdgeSession.ControlPlane.Http
import EdgeSession.ControlPlane.Reconcile
import EdgeSession.ControlPlane.Url
import EdgeSession.Decimal.Binary64
import EdgeSession.Decimal.Shortest
import EdgeSession.Json.Printer
import EdgeSession.Json.Reader
import EdgeSession.Json.Value
import EdgeSession.LogTail.Options
import EdgeSession.LogTail.Stream
import EdgeSession.LogTail.Timestamp
import EdgeSession.Main
import EdgeSession.Pack.Reader
import EdgeSession.Pack.Value
import EdgeSession.Pack.Writer
import EdgeSession.Proofs.BigEndian
import EdgeSession.Proofs.Pack.Headers
import EdgeSession.Proofs.Pack.Written
import EdgeSession.Proofs.Utf8
import EdgeSession.Script.Member
import EdgeSession.Script.Play
import EdgeSession.Script.Scene
import EdgeSession.Script.World
import EdgeSession.Session.Address
import EdgeSession.Session.Diagnosis
import EdgeSession.Session.Failure
import EdgeSession.Session.Frame
import EdgeSession.Session.Message
import EdgeSession.Session.Network
import EdgeSession.Session.Registry
import EdgeSession.Session.Transport
import EdgeSession.Terminal.Calls
import EdgeSession.Terminal.Line
import EdgeSession.Terminal.RawMode
import EdgeSession.Terminal.Shell
import EdgeSession.Terminal.Size
import EdgeSession.Text.Base64
import EdgeSession.Text.Blank
import EdgeSession.Text.Digit
import EdgeSession.Text.Form
import EdgeSession.Text.Hex
import EdgeSession.Text.Integer
import EdgeSession.Text.Printable
import EdgeSession.Text.Quoted
import EdgeSession.Text.Search
import EdgeSession.Text.Utf8
import EdgeSession.Proofs.Pack.Forms
import EdgeSession.Proofs.Pack.Maps
import EdgeSession.Proofs.Session.Fields
import EdgeSession.Proofs.Session.Codec
import EdgeSession.Proofs.Session.Acceptance
import EdgeSession.Proofs.Session.RawTarget
import EdgeSession.Proofs.Session.Transport
import EdgeSession.Proofs.Session.Lifecycle
import EdgeSession.Proofs.Session.Reading
import EdgeSession.Proofs.Session.ReadingLoop
import EdgeSession.Proofs.Terminal.Turns
import EdgeSession.Proofs.Terminal.Keys
import EdgeSession.Proofs.LogTail.Turns
import EdgeSession.Proofs.Terminal.Closure
import EdgeSession.Proofs.Terminal.Transcript
import EdgeSession.Proofs.Threads
import EdgeSession.Proofs.LogTail.Transcript
import EdgeSession.Proofs.ControlPlane.Tokens
import EdgeSession.Proofs.ControlPlane.Requests
import EdgeSession.Proofs.ControlPlane.Queue
import EdgeSession.Proofs.ControlPlane.Progress
import EdgeSession.Proofs.ControlPlane.SharedLogin
import EdgeSession.Proofs.ControlPlane.Stranded
import EdgeSession.Proofs.Session.Identity
import EdgeSession.Proofs.Session.Closing
import EdgeSession.Proofs.Terminal.Cleanup
import EdgeSession.Proofs.Terminal.Desk
import EdgeSession.Proofs.Terminal.Lifecycle
import EdgeSession.Proofs.Terminal.Operations
import EdgeSession.Proofs.Session.Tidy
import EdgeSession.Proofs.Config.RoundTrip
import EdgeSession.Proofs.CommandLine.Endings
import EdgeSession.Proofs.ControlPlane.Reconciled
import EdgeSession.Proofs.Terminal.Race
import EdgeSession.Proofs.Attach.Concluded
import EdgeSession.Proofs.Attach.Executors
import EdgeSession.Proofs.ControlPlane.LinedUp
import EdgeSession.Proofs.ControlPlane.Unfinished
import EdgeSession.Proofs.Session.Refusals
import EdgeSession.Proofs.ControlPlane.BaseUrl
import EdgeSession.Proofs.Config.Password
import EdgeSession.Proofs.LogTail.Timestamp
import EdgeSession.Proofs.LogTail.Options
import EdgeSession.Proofs.LogTail.Query
import EdgeSession.Proofs.Session.Address
import EdgeSession.Proofs.Terminal.Exits
import EdgeSession.Proofs.Terminal.Escapes
import EdgeSession.Proofs.ControlPlane.Listings
import EdgeSession.Proofs.Attach.Opening
import EdgeSession.Proofs.Terminal.Blame
import EdgeSession.Proofs.Session.Delimited
import EdgeSession.Proofs.Attach.Names
import EdgeSession.Proofs.ControlPlane.TokenPair
import EdgeSession.Proofs.Session.Idle
import EdgeSession.Proofs.Config.Flush
import EdgeSession.Proofs.Session.Sizes
import EdgeSession.Proofs.Terminal.Tracking
