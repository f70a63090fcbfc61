import CouchbaseSdk.Agent.Agreement
import CouchbaseSdk.Agent.FirstConfig
import CouchbaseSdk.Agent.Model
import CouchbaseSdk.Agent.Order
import CouchbaseSdk.AgentManager.AgentInner
import CouchbaseSdk.AgentManager.Credentials
import CouchbaseSdk.AgentManager.Model
import CouchbaseSdk.AgentManager.OneAgent
import CouchbaseSdk.AgentManager.Steps
import CouchbaseSdk.AgentManager.Waiters
import CouchbaseSdk.Babysitter.Clients
import CouchbaseSdk.Babysitter.Copies
import CouchbaseSdk.Babysitter.DeadClients
import CouchbaseSdk.Babysitter.Model
import CouchbaseSdk.Babysitter.Shutdown
import CouchbaseSdk.Babysitter.SingleBuilder
import CouchbaseSdk.Babysitter.Stuck
import CouchbaseSdk.Babysitter.Tasks
import CouchbaseSdk.CollectionDs.Collection
import CouchbaseSdk.CollectionDs.Map
import CouchbaseSdk.CollectionDs.Paths
import CouchbaseSdk.CollectionDs.Queue
import CouchbaseSdk.CollectionDs.Server
import CouchbaseSdk.CollectionDs.Set
import CouchbaseSdk.CollectionResolver.FastCache
import CouchbaseSdk.CollectionResolver.Freshness
import CouchbaseSdk.CollectionResolver.Model
import CouchbaseSdk.CollectionResolver.Panics
import CouchbaseSdk.CollectionResolver.Steps
import CouchbaseSdk.CollectionResolver.Waiters
import CouchbaseSdk.Config.ComponentConfigs
import CouchbaseSdk.Config.ConfigParser
import CouchbaseSdk.Config.Hostname
import CouchbaseSdk.Config.NetworkTypeHeuristic
import CouchbaseSdk.Config.Refetch
import CouchbaseSdk.Config.Sources
import CouchbaseSdk.Config.Topology
import CouchbaseSdk.Config.VbucketMap
import CouchbaseSdk.ConfigManager.Fetch
import CouchbaseSdk.ConfigManager.Model
import CouchbaseSdk.ConfigManager.ParsedConfig
import CouchbaseSdk.ConfigManager.Steps
import CouchbaseSdk.ConfigManager.Versions
import CouchbaseSdk.ConfigWatcher.Fairness
import CouchbaseSdk.ConfigWatcher.Model
import CouchbaseSdk.Connstr.ConnSpec
import CouchbaseSdk.Connstr.Hosts
import CouchbaseSdk.Connstr.Resolve
import CouchbaseSdk.Connstr.RoundTrip
import CouchbaseSdk.Crud.CrudComponent
import CouchbaseSdk.Crud.Invocations
import CouchbaseSdk.Crud.Orchestration
import CouchbaseSdk.Diagnostics.WaitUntilReady
import CouchbaseSdk.EndpointManager.Model
import CouchbaseSdk.EndpointManager.NoCrash
import CouchbaseSdk.EndpointManager.Updates
import CouchbaseSdk.Ensure.Confirmed
import CouchbaseSdk.Ensure.Helpers
import CouchbaseSdk.Ensure.Runs
import CouchbaseSdk.Ensure.Waiting
import CouchbaseSdk.ErrMapComponent.Convergence
import CouchbaseSdk.ErrMapComponent.Model
import CouchbaseSdk.Foundation.Base64
import CouchbaseSdk.Foundation.Bytes
import CouchbaseSdk.Foundation.Calls
import CouchbaseSdk.Foundation.Decimal
import CouchbaseSdk.Foundation.Duration
import CouchbaseSdk.Foundation.Exec
import CouchbaseSdk.Foundation.FiniteMap
import CouchbaseSdk.Foundation.Floating
import CouchbaseSdk.Foundation.Forms
import CouchbaseSdk.Foundation.Framing
import CouchbaseSdk.Foundation.Gather
import CouchbaseSdk.Foundation.GoNotation
import CouchbaseSdk.Foundation.JsonFields
import CouchbaseSdk.Foundation.JsonObject
import CouchbaseSdk.Foundation.JsonRoundTrip
import CouchbaseSdk.Foundation.JsonText
import CouchbaseSdk.Foundation.JsonValue
import CouchbaseSdk.Foundation.Largest
import CouchbaseSdk.Foundation.Lexing
import CouchbaseSdk.Foundation.Linearizable
import CouchbaseSdk.Foundation.MapOrder
import CouchbaseSdk.Foundation.Method
import CouchbaseSdk.Foundation.Ordered
import CouchbaseSdk.Foundation.Pattern
import CouchbaseSdk.Foundation.PercentEncoding
import CouchbaseSdk.Foundation.Places
import CouchbaseSdk.Foundation.QuotedNames
import CouchbaseSdk.Foundation.Records
import CouchbaseSdk.Foundation.ResourcePath
import CouchbaseSdk.Foundation.Spelling
import CouchbaseSdk.Foundation.Transition
import CouchbaseSdk.Foundation.Utf8
import CouchbaseSdk.Helpers.DurationBuffer
import CouchbaseSdk.Helpers.DurationLimits
import CouchbaseSdk.Helpers.DurationParser
import CouchbaseSdk.Helpers.DurationRoundTrip
import CouchbaseSdk.Helpers.Durations
import CouchbaseSdk.Httpx.Alike
import CouchbaseSdk.Httpx.Blocked
import CouchbaseSdk.Httpx.CutOff
import CouchbaseSdk.Httpx.CutRows
import CouchbaseSdk.Httpx.CutTokens
import CouchbaseSdk.Httpx.Decoder
import CouchbaseSdk.Httpx.Faithful
import CouchbaseSdk.Httpx.FirstValue
import CouchbaseSdk.Httpx.Members
import CouchbaseSdk.Httpx.Reading
import CouchbaseSdk.Httpx.Returns
import CouchbaseSdk.Httpx.RowStreamer
import CouchbaseSdk.Httpx.Scanner
import CouchbaseSdk.Httpx.ScannerCut
import CouchbaseSdk.Httpx.ScannerGrammar
import CouchbaseSdk.Httpx.ScannerSound
import CouchbaseSdk.Httpx.ScannerSteps
import CouchbaseSdk.Httpx.StreamEnds
import CouchbaseSdk.Httpx.Unread
import CouchbaseSdk.Kv.CoreKvClient
import CouchbaseSdk.Kv.GetOptions
import CouchbaseSdk.Kv.LookupIn
import CouchbaseSdk.Kv.MutateIn
import CouchbaseSdk.Kv.MutateInSpecs
import CouchbaseSdk.Kv.OptionsReach
import CouchbaseSdk.Kv.Projection
import CouchbaseSdk.Kv.ProjectionPaths
import CouchbaseSdk.Kv.ProjectionsAgree
import CouchbaseSdk.Kv.ProjectionsKept
import CouchbaseSdk.Kv.ReadBack
import CouchbaseSdk.Kv.Results
import CouchbaseSdk.KvClient.Bootstrap
import CouchbaseSdk.Management.BucketsKept
import CouchbaseSdk.Management.RolesGranted
import CouchbaseSdk.Management.Submitted
import CouchbaseSdk.Memdx.CasMismatch
import CouchbaseSdk.Memdx.Client.Correlation
import CouchbaseSdk.Memdx.Client.Isolation
import CouchbaseSdk.Memdx.Client.Keys
import CouchbaseSdk.Memdx.Client.Ledger
import CouchbaseSdk.Memdx.Client.Model
import CouchbaseSdk.Memdx.Client.OpaqueReuse
import CouchbaseSdk.Memdx.Client.Registration
import CouchbaseSdk.Memdx.Client.Registry
import CouchbaseSdk.Memdx.Client.Simulation
import CouchbaseSdk.Memdx.Client.Steps
import CouchbaseSdk.Memdx.Codec
import CouchbaseSdk.Memdx.CodecDecode
import CouchbaseSdk.Memdx.CodecEncode
import CouchbaseSdk.Memdx.CodecRoundTrip
import CouchbaseSdk.Memdx.CodecStream
import CouchbaseSdk.Memdx.CollectionKey
import CouchbaseSdk.Memdx.CrudRequests
import CouchbaseSdk.Memdx.ExtFrame
import CouchbaseSdk.Memdx.FramesFollowOptions
import CouchbaseSdk.Memdx.ReqExtFrames
import CouchbaseSdk.Memdx.ResExtFrames
import CouchbaseSdk.Memdx.Subdoc
import CouchbaseSdk.Memdx.SubdocRecords
import CouchbaseSdk.Memdx.SubdocRequest
import CouchbaseSdk.Memdx.SubdocResponse
import CouchbaseSdk.Memdx.Wire
import CouchbaseSdk.Memdx.WritePackets
import CouchbaseSdk.Mgmtx.Buckets
import CouchbaseSdk.Mgmtx.Users
import CouchbaseSdk.OrphanReporter.Model
import CouchbaseSdk.Pool.Copies
import CouchbaseSdk.Pool.Model
import CouchbaseSdk.Pool.Shutdown
import CouchbaseSdk.Query.MutationTokens
import CouchbaseSdk.Query.OptionsReach
import CouchbaseSdk.Query.QueryClient
import CouchbaseSdk.Queryx.Indexes
import CouchbaseSdk.Queryx.PreparedQuery
import CouchbaseSdk.Queryx.QueryContexts
import CouchbaseSdk.Queryx.QuotedStatements
import CouchbaseSdk.Queryx.RowStream
import CouchbaseSdk.Queryx.Transparency
import CouchbaseSdk.Reauth.Coverage
import CouchbaseSdk.Reauth.Model
import CouchbaseSdk.Reauth.Rotation
import CouchbaseSdk.Rest.Requests
import CouchbaseSdk.Rest.Resources
import CouchbaseSdk.Retry.Backoff
import CouchbaseSdk.Retry.Model
import CouchbaseSdk.Retry.Safety
import CouchbaseSdk.Routing.UpdateState
import CouchbaseSdk.Routing.VbucketRouter
import CouchbaseSdk.Sasl.SaslAuto
import CouchbaseSdk.Scram.Agreement
import CouchbaseSdk.Scram.Client
import CouchbaseSdk.Scram.SaslAuth
import CouchbaseSdk.Scram.ServerMessages
import CouchbaseSdk.Search.Queries
import CouchbaseSdk.Search.QueryEncoding
import CouchbaseSdk.Search.QueryReading
import CouchbaseSdk.Search.Results
import CouchbaseSdk.Search.ResultsFaithful
import CouchbaseSdk.Searchx.Queries
