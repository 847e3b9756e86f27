import DevfilePush.Api.Client
import DevfilePush.Api.Exec
import DevfilePush.Api.Playback
import DevfilePush.Api.Reply
import DevfilePush.Api.Request
import DevfilePush.Api.Watch
import DevfilePush.Cli.Arguments
import DevfilePush.Cli.Option
import DevfilePush.Cli.Run
import DevfilePush.Cluster.Client
import DevfilePush.Cluster.InMemory
import DevfilePush.Cluster.LineCapture
import DevfilePush.Cluster.Scripted
import DevfilePush.Cluster.Selector
import DevfilePush.Collection.OrderedMap
import DevfilePush.Collection.TextMap
import DevfilePush.Command.Expansion
import DevfilePush.Command.Index
import DevfilePush.Command.PushSet
import DevfilePush.Command.Selection
import DevfilePush.Command.Validation
import DevfilePush.Devfile.Basic
import DevfilePush.Devfile.Json
import DevfilePush.Devfile.Reader
import DevfilePush.Digest.Blake3
import DevfilePush.Duration
import DevfilePush.Failure
import DevfilePush.Files
import DevfilePush.Json.Basic
import DevfilePush.Json.Reader
import DevfilePush.Json.Writer
import DevfilePush.Kubernetes.Container
import DevfilePush.Kubernetes.Metadata
import DevfilePush.Kubernetes.Object
import DevfilePush.Kubernetes.Reader
import DevfilePush.Main
import DevfilePush.Naming.Allocator
import DevfilePush.Naming.Label
import DevfilePush.Proofs.Checked
import DevfilePush.Proofs.Cli.ComponentName
import DevfilePush.Proofs.Cli.Loading
import DevfilePush.Proofs.Cluster.Action
import DevfilePush.Proofs.Cluster.Address
import DevfilePush.Proofs.Cluster.Atomicity
import DevfilePush.Proofs.Cluster.Calm
import DevfilePush.Proofs.Cluster.Delivery
import DevfilePush.Proofs.Cluster.Event
import DevfilePush.Proofs.Cluster.LineCapture
import DevfilePush.Proofs.Cluster.Objects
import DevfilePush.Proofs.Cluster.Operations
import DevfilePush.Proofs.Cluster.Reachable
import DevfilePush.Proofs.Cluster.Removal
import DevfilePush.Proofs.Cluster.Request
import DevfilePush.Proofs.Cluster.Requirement
import DevfilePush.Proofs.Cluster.Selector
import DevfilePush.Proofs.Cluster.Transaction
import DevfilePush.Proofs.Cluster.Trials
import DevfilePush.Proofs.Cluster.Versions
import DevfilePush.Proofs.Collection.OrderedMap
import DevfilePush.Proofs.Collection.TextMap
import DevfilePush.Proofs.Command.Check
import DevfilePush.Proofs.Command.Choice
import DevfilePush.Proofs.Command.Expansion
import DevfilePush.Proofs.Command.Nesting
import DevfilePush.Proofs.Command.Reordering
import DevfilePush.Proofs.Command.Report
import DevfilePush.Proofs.Command.Selection
import DevfilePush.Proofs.Command.Trail
import DevfilePush.Proofs.Command.Unfolding
import DevfilePush.Proofs.Command.Validity
import DevfilePush.Proofs.Devfile.Reading
import DevfilePush.Proofs.Devfile.RoundTrip
import DevfilePush.Proofs.Naming.Allocator
import DevfilePush.Proofs.Naming.History
import DevfilePush.Proofs.Naming.Label
import DevfilePush.Proofs.Naming.Shape
import DevfilePush.Proofs.Push.Convergence
import DevfilePush.Proofs.Push.Creation
import DevfilePush.Proofs.Push.Decision
import DevfilePush.Proofs.Push.Deletion
import DevfilePush.Proofs.Push.DeletionRetry
import DevfilePush.Proofs.Push.DeletionTranscript
import DevfilePush.Proofs.Push.Execution
import DevfilePush.Proofs.Push.Faults
import DevfilePush.Proofs.Push.Idempotence
import DevfilePush.Proofs.Push.Initialisation
import DevfilePush.Proofs.Push.Isolation
import DevfilePush.Proofs.Push.Itinerary
import DevfilePush.Proofs.Push.LateFault
import DevfilePush.Proofs.Push.Progress
import DevfilePush.Proofs.Push.Readiness
import DevfilePush.Proofs.Push.Reconcile
import DevfilePush.Proofs.Push.ReconcileTranscript
import DevfilePush.Proofs.Push.Recording
import DevfilePush.Proofs.Push.Schedule
import DevfilePush.Proofs.Push.ServiceAgreement
import DevfilePush.Proofs.Push.SoleComponent
import DevfilePush.Proofs.Push.Supervision
import DevfilePush.Proofs.Push.Targets
import DevfilePush.Proofs.Push.Transcript
import DevfilePush.Proofs.Session
import DevfilePush.Proofs.Settings.Sources
import DevfilePush.Proofs.Synthesis.Acceptance
import DevfilePush.Proofs.Synthesis.Consistency
import DevfilePush.Proofs.Synthesis.Containers
import DevfilePush.Proofs.Synthesis.DebugPort
import DevfilePush.Proofs.Synthesis.Event
import DevfilePush.Proofs.Synthesis.Hosting
import DevfilePush.Proofs.Synthesis.InitContainers
import DevfilePush.Proofs.Synthesis.Mounts
import DevfilePush.Proofs.Synthesis.Names
import DevfilePush.Proofs.Synthesis.OwnClaims
import DevfilePush.Proofs.Synthesis.Ports
import DevfilePush.Proofs.Synthesis.PreStart
import DevfilePush.Proofs.Synthesis.Quantity
import DevfilePush.Proofs.Synthesis.Rendering
import DevfilePush.Proofs.Synthesis.Resolution
import DevfilePush.Proofs.Synthesis.SharedClaims
import DevfilePush.Proofs.Synthesis.Splicing
import DevfilePush.Proofs.Synthesis.Supervisor
import DevfilePush.Proofs.Text.Blank
import DevfilePush.Proofs.Text.Decimal
import DevfilePush.Proofs.Text.Lowercase
import DevfilePush.Proofs.Text.Utf8
import DevfilePush.Proofs.Yaml.Decoder
import DevfilePush.Push.Delete
import DevfilePush.Push.Execution
import DevfilePush.Push.Push
import DevfilePush.Push.Readiness
import DevfilePush.Push.Reconcile
import DevfilePush.Settings.Basic
import DevfilePush.Settings.Load
import DevfilePush.Settings.Reader
import DevfilePush.Synthesis.Claims
import DevfilePush.Synthesis.Containers
import DevfilePush.Synthesis.Desired
import DevfilePush.Synthesis.Event
import DevfilePush.Synthesis.Identity
import DevfilePush.Synthesis.Ports
import DevfilePush.Synthesis.PreStart
import DevfilePush.Synthesis.Quantity
import DevfilePush.Synthesis.Supervisor
import DevfilePush.Text.Blank
import DevfilePush.Text.CaseTable
import DevfilePush.Text.CodePoint
import DevfilePush.Text.DecimalDigit
import DevfilePush.Text.Integer
import DevfilePush.Text.Lowercase
import DevfilePush.Text.Printable
import DevfilePush.Text.Quoted
import DevfilePush.Text.Utf8
import DevfilePush.Toml.Document
import DevfilePush.Toml.Quoted
import DevfilePush.Version
import DevfilePush.Yaml.Ambiguity
import DevfilePush.Yaml.Character
import DevfilePush.Yaml.Decoder
import DevfilePush.Yaml.Node
import DevfilePush.Yaml.Node.Composer
import DevfilePush.Yaml.Plain
import DevfilePush.Yaml.Token
import DevfilePush.Yaml.Token.Cursor
import DevfilePush.Yaml.Token.Lexer
import DevfilePush.Yaml.Token.Scalar
import DevfilePush.Yaml.Token.Tag
import DevfilePush.Yaml.Writer
import DevfilePush.Yaml.Writer.Scalar
