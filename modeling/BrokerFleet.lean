import BrokerFleet.Address.Finalizer
import BrokerFleet.Address.Lifecycle
import BrokerFleet.Address.Record
import BrokerFleet.Address.Sync
import BrokerFleet.ApiServer.Answer
import BrokerFleet.ApiServer.Client
import BrokerFleet.ApiServer.Provision
import BrokerFleet.ApiServer.Request
import BrokerFleet.Cluster.Names
import BrokerFleet.Cluster.Pass
import BrokerFleet.Cluster.Projection
import BrokerFleet.Cluster.Status
import BrokerFleet.Cluster.Validity
import BrokerFleet.Cluster.Version
import BrokerFleet.Condition
import BrokerFleet.Config
import BrokerFleet.Declaration.Address
import BrokerFleet.Declaration.Cluster
import BrokerFleet.Declaration.Constraint
import BrokerFleet.Declaration.Queue
import BrokerFleet.Declaration.Schema
import BrokerFleet.Dict
import BrokerFleet.Failure
import BrokerFleet.Handler.Basic
import BrokerFleet.Handler.Registry
import BrokerFleet.Http.Status
import BrokerFleet.Http.Target
import BrokerFleet.Json.Decoder
import BrokerFleet.Json.Order
import BrokerFleet.Json.Reader
import BrokerFleet.Json.Sound
import BrokerFleet.Json.Value
import BrokerFleet.Json.Writer
import BrokerFleet.Management.Call
import BrokerFleet.Management.Exec
import BrokerFleet.Management.Queue
import BrokerFleet.Object.Core
import BrokerFleet.Object.Key
import BrokerFleet.Object.Metadata
import BrokerFleet.Object.Shape
import BrokerFleet.Object.Shape.Container
import BrokerFleet.Object.Shape.Metadata
import BrokerFleet.Object.Shape.Pod
import BrokerFleet.Object.Shape.Volume
import BrokerFleet.Object.Shape.Workload
import BrokerFleet.Object.Time
import BrokerFleet.Object.Workload
import BrokerFleet.Pattern.Basic
import BrokerFleet.Pattern.Bracket
import BrokerFleet.Pattern.Escape
import BrokerFleet.Pattern.Reader
import BrokerFleet.Pattern.Weight
import BrokerFleet.Program
import BrokerFleet.Proofs.Address.Convergence
import BrokerFleet.Proofs.Address.Coverage
import BrokerFleet.Proofs.Address.Deletion
import BrokerFleet.Proofs.Address.Failures
import BrokerFleet.Proofs.Address.FanOut
import BrokerFleet.Proofs.Address.Forms
import BrokerFleet.Proofs.Address.History
import BrokerFleet.Proofs.Address.Incarnations
import BrokerFleet.Proofs.Address.Isolation
import BrokerFleet.Proofs.Address.Leftover
import BrokerFleet.Proofs.Address.Namespace
import BrokerFleet.Proofs.Address.Outcome
import BrokerFleet.Proofs.Address.Passages
import BrokerFleet.Proofs.Address.Records
import BrokerFleet.Proofs.Address.Requests
import BrokerFleet.Proofs.Address.Restart
import BrokerFleet.Proofs.Address.Rounds
import BrokerFleet.Proofs.Address.Sightings
import BrokerFleet.Proofs.Address.Startup
import BrokerFleet.Proofs.Address.Window
import BrokerFleet.Proofs.Address.Withdrawal
import BrokerFleet.Proofs.ApiServer.Footprint
import BrokerFleet.Proofs.ApiServer.Provisioning
import BrokerFleet.Proofs.ApiServer.StatusPatch
import BrokerFleet.Proofs.Cluster.Agreement
import BrokerFleet.Proofs.Cluster.Checking
import BrokerFleet.Proofs.Cluster.Conditions
import BrokerFleet.Proofs.Cluster.Derived
import BrokerFleet.Proofs.Cluster.Generations
import BrokerFleet.Proofs.Cluster.Images
import BrokerFleet.Proofs.Cluster.Inheritance
import BrokerFleet.Proofs.Cluster.Inspection
import BrokerFleet.Proofs.Cluster.Listing
import BrokerFleet.Proofs.Cluster.Mounts
import BrokerFleet.Proofs.Cluster.Names
import BrokerFleet.Proofs.Cluster.Overtaken
import BrokerFleet.Proofs.Cluster.PodSummary
import BrokerFleet.Proofs.Cluster.Projection
import BrokerFleet.Proofs.Cluster.Readiness
import BrokerFleet.Proofs.Cluster.Retry
import BrokerFleet.Proofs.Cluster.Settling
import BrokerFleet.Proofs.Cluster.Survey
import BrokerFleet.Proofs.Cluster.Transitions
import BrokerFleet.Proofs.Cluster.Verdict
import BrokerFleet.Proofs.Cluster.Versions
import BrokerFleet.Proofs.Declaration.Fields
import BrokerFleet.Proofs.Declaration.ReadBack
import BrokerFleet.Proofs.Dict.Lookup
import BrokerFleet.Proofs.Failure.Account
import BrokerFleet.Proofs.Failure.Batch
import BrokerFleet.Proofs.Handler.Announcement
import BrokerFleet.Proofs.Handler.Registrations
import BrokerFleet.Proofs.Json.Merge
import BrokerFleet.Proofs.Json.ReadBack
import BrokerFleet.Proofs.Json.Records
import BrokerFleet.Proofs.Management.Broker
import BrokerFleet.Proofs.Management.Codes
import BrokerFleet.Proofs.Management.Queue
import BrokerFleet.Proofs.Program.Confinement
import BrokerFleet.Proofs.Program.Keeping
import BrokerFleet.Proofs.Program.Task
import BrokerFleet.Proofs.Program.Transcript
import BrokerFleet.Proofs.Replica.Addressing
import BrokerFleet.Proofs.Replica.Credentials
import BrokerFleet.Proofs.Replica.Inventory
import BrokerFleet.Proofs.Replica.Namespace
import BrokerFleet.Proofs.Replica.Resolution
import BrokerFleet.Proofs.Store.Reading
import BrokerFleet.Proofs.Store.World
import BrokerFleet.Proofs.Text.ReadBack
import BrokerFleet.Proofs.Text.Sorting
import BrokerFleet.Proofs.Workload.Separation
import BrokerFleet.Proofs.Workload.Template
import BrokerFleet.Proofs.Workload.Thresholds
import BrokerFleet.Proofs.Workload.VolumeNames
import BrokerFleet.Proofs.Workload.Volumes
import BrokerFleet.Replica.Resolve
import BrokerFleet.Replica.Selector
import BrokerFleet.Replica.Target
import BrokerFleet.Simulation.Brokers
import BrokerFleet.Simulation.Files
import BrokerFleet.Simulation.Handler
import BrokerFleet.Simulation.Objects
import BrokerFleet.Simulation.Replies
import BrokerFleet.Simulation.Session
import BrokerFleet.Simulation.Timeline
import BrokerFleet.Simulation.World
import BrokerFleet.Surroundings
import BrokerFleet.Text.Base64
import BrokerFleet.Text.Blank
import BrokerFleet.Text.Cut
import BrokerFleet.Text.FormUrl
import BrokerFleet.Text.Number
import BrokerFleet.Text.Place
import BrokerFleet.Text.Quoted
import BrokerFleet.Text.Sorted
import BrokerFleet.Text.Span
import BrokerFleet.Text.Unseen
import BrokerFleet.Text.Utf8
import BrokerFleet.Unicode.Category
import BrokerFleet.Unicode.CategoryTable
import BrokerFleet.Unicode.CharSet
import BrokerFleet.Unicode.Folding
import BrokerFleet.Unicode.Property
import BrokerFleet.Unicode.PropertyTable
import BrokerFleet.Unicode.Script
import BrokerFleet.Unicode.ScriptTable
import BrokerFleet.Workload.Build
