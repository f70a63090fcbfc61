import CouchbaseSdk.Foundation.FiniteMap
import CouchbaseSdk.Foundation.JsonValue
import CouchbaseSdk.Foundation.JsonRoundTrip
import CouchbaseSdk.Helpers.Durations
import CouchbaseSdk.Kv.MutateInSpecs

/-!
# Options of the query service

What a request to the query service may say, and the JSON object that says it.
-/

namespace CouchbaseSdk
namespace Query

open Foundation
open Helpers (durationToGolangString)

namespace Service

/-!
# The options
-/

inductive ScanConsistency where
  | notBounded | requestPlus | atPlus
deriving DecidableEq

inductive ProfileMode where
  | off | phases | timings
deriving DecidableEq

inductive Compression where
  | zip | rle | lzma | lzo | none
deriving DecidableEq

inductive DurabilityLevel where
  | none | majority | majorityAndPersistActive | persistToMajority
deriving DecidableEq

inductive Encoding where
  | utf8
deriving DecidableEq

inductive Format where
  | json | xml | csv | tsv
deriving DecidableEq

inductive ReplicaLevel where
  | off | on
deriving DecidableEq

structure CredsJson where
  user : String
  pass : String

structure ScanVectorEntry where
  seqNo : UInt64
  vbUuid : String
deriving DecidableEq

abbrev FullScanVectors := List ScanVectorEntry
abbrev SparseScanVectors := FiniteMap String ScanVectorEntry

structure QueryOptions where
  args : Option (List JsonValue) := none
  atrCollection : Option String := none
  autoExecute : Option Bool := none
  clientContextId : Option String := none
  compression : Option Compression := none
  controls : Option Bool := none
  creds : Option (List CredsJson) := none
  durabilityLevel : Option DurabilityLevel := none
  encodedPlan : Option String := none
  encoding : Option Encoding := none
  format : Option Format := none
  kvTimeout : Option Duration := none
  maxParallelism : Option UInt32 := none
  memoryQuota : Option UInt32 := none
  metrics : Option Bool := none
  namespace_ : Option String := none
  numAtrs : Option UInt32 := none
  pipelineBatch : Option UInt32 := none
  pipelineCap : Option UInt32 := none
  prepared : Option String := none
  preserveExpiry : Option Bool := none
  pretty : Option Bool := none
  profile : Option ProfileMode := none
  queryContext : Option String := none
  readOnly : Option Bool := none
  scanCap : Option UInt32 := none
  scanConsistency : Option ScanConsistency := none
  sparseScanVector : Option SparseScanVectors := none
  fullScanVector : Option FullScanVectors := none
  sparseScanVectors : Option (FiniteMap String SparseScanVectors) := none
  fullScanVectors : Option (FiniteMap String FullScanVectors) := none
  scanWait : Option Duration := none
  signature : Option Bool := none
  statement : Option String := none
  timeout : Option Duration := none
  txData : Option (List UInt8) := none
  txId : Option String := none
  txImplicit : Option Bool := none
  txStmtNum : Option UInt32 := none
  txTimeout : Option Duration := none
  useCbo : Option Bool := none
  useFts : Option Bool := none
  useReplica : Option ReplicaLevel := none
  namedArgs : Option (FiniteMap String JsonValue) := none
  raw : Option (FiniteMap String JsonValue) := none

/-!
# Values as JSON
-/

def ScanConsistency.toValue : ScanConsistency -> JsonValue
  | .notBounded => .string "not_bounded"
  | .requestPlus => .string "request_plus"
  | .atPlus => .string "at_plus"

def ProfileMode.toValue : ProfileMode -> JsonValue
  | .off => .string "off"
  | .phases => .string "phases"
  | .timings => .string "timings"

def Compression.toValue : Compression -> JsonValue
  | .zip => .string "ZIP"
  | .rle => .string "RLE"
  | .lzma => .string "LZMA"
  | .lzo => .string "LZO"
  | .none => .string "NONE"

def DurabilityLevel.toValue : DurabilityLevel -> JsonValue
  | .none => .string "none"
  | .majority => .string "majority"
  | .majorityAndPersistActive => .string "majorityAndPersistActive"
  | .persistToMajority => .string "persistToMajority"

def Encoding.toValue : Encoding -> JsonValue
  | .utf8 => .string "UTF-8"

def Format.toValue : Format -> JsonValue
  | .json => .string "JSON"
  | .xml => .string "XML"
  | .csv => .string "CSV"
  | .tsv => .string "TSV"

def ReplicaLevel.toValue : ReplicaLevel -> JsonValue
  | .off => .string "off"
  | .on => .string "on"

/-- Without the fields that are empty. -/
def CredsJson.toValue (creds : CredsJson) : JsonValue :=
  .object ([("user", creds.user), ("pass", creds.pass)].filterMap fun field =>
    if field.2.isEmpty then none else some (field.1, .string field.2))

def ScanVectorEntry.toValue (entry : ScanVectorEntry) : JsonValue :=
  .array [.ofNat entry.seqNo.toNat, .string entry.vbUuid]

def ofUInt32 (n : UInt32) : JsonValue :=
  .ofNat n.toNat

def ofDuration (d : Duration) : JsonValue :=
  .string (durationToGolangString d)

def ofList {alpha : Type} (toValue : alpha -> JsonValue) (items : List alpha) : JsonValue :=
  .array (items.map toValue)

def ofMap {alpha : Type} (toValue : alpha -> JsonValue) (m : FiniteMap String alpha) : JsonValue :=
  .object (m.pairs.map fun e => (e.1, toValue e.2))

def SparseScanVectors.toValue : SparseScanVectors -> JsonValue :=
  ofMap ScanVectorEntry.toValue

def FullScanVectors.toValue : FullScanVectors -> JsonValue :=
  ofList ScanVectorEntry.toValue

namespace QueryOptions

/-- The parameters in the order in which they are written, of which those without a value are left
out and a later one of the same name takes the place of an earlier one. -/
def parameters (opts : QueryOptions) : List (String × Option JsonValue) :=
  [("args", opts.args.map .array),
    ("atr_collection", opts.atrCollection.map .string),
    ("auto_execute", opts.autoExecute.map .bool),
    ("client_context_id", opts.clientContextId.map .string),
    ("compression", opts.compression.map Compression.toValue),
    ("controls", opts.controls.map .bool),
    ("creds", opts.creds.map (ofList CredsJson.toValue)),
    ("durability_level", opts.durabilityLevel.map DurabilityLevel.toValue),
    ("encoded_plan", opts.encodedPlan.map .string),
    ("encoding", opts.encoding.map Encoding.toValue),
    ("format", opts.format.map Format.toValue),
    ("kvtimeout", opts.kvTimeout.map ofDuration),
    ("max_parallelism", opts.maxParallelism.map ofUInt32),
    ("memory_quota", opts.memoryQuota.map ofUInt32),
    ("metrics", opts.metrics.map .bool),
    ("namespace", opts.namespace_.map .string),
    ("num_atrs", opts.numAtrs.map ofUInt32),
    ("pipeline_batch", opts.pipelineBatch.map ofUInt32),
    ("pipeline_cap", opts.pipelineCap.map ofUInt32),
    ("prepared", opts.prepared.map .string),
    ("preserve_expiry", opts.preserveExpiry.map .bool),
    ("pretty", opts.pretty.map .bool),
    ("profile", opts.profile.map ProfileMode.toValue),
    ("query_context", opts.queryContext.map .string),
    ("readonly", opts.readOnly.map .bool),
    ("scan_cap", opts.scanCap.map ofUInt32),
    ("scan_consistency", opts.scanConsistency.map ScanConsistency.toValue),
    ("scan_vector", opts.sparseScanVector.map SparseScanVectors.toValue),
    ("scan_vector", opts.fullScanVector.map FullScanVectors.toValue),
    ("scan_vectors", opts.sparseScanVectors.map (ofMap SparseScanVectors.toValue)),
    ("scan_vectors", opts.fullScanVectors.map (ofMap FullScanVectors.toValue)),
    ("scan_wait", opts.scanWait.map ofDuration),
    ("signature", opts.signature.map .bool),
    ("statement", opts.statement.map .string),
    ("timeout", opts.timeout.map ofDuration),
    ("txdata", opts.txData.map (ofList fun byte => .ofNat byte.toNat)),
    ("txid", opts.txId.map .string),
    ("tximplicit", opts.txImplicit.map .bool),
    ("txstmtnum", opts.txStmtNum.map ofUInt32),
    ("txtimeout", opts.txTimeout.map ofDuration),
    ("use_cbo", opts.useCbo.map .bool),
    ("use_fts", opts.useFts.map .bool),
    ("use_replica", opts.useReplica.map ReplicaLevel.toValue)]

/-- With a dollar sign in front, if there is none. -/
def prefixed (key : String) : String :=
  if key.toList.head? = some '$' then key else "$" ++ key

def namedEntries (opts : QueryOptions) : List (String × JsonValue) :=
  match opts.namedArgs with
  | none => []
  | some args => args.pairs.map fun e => (prefixed e.1, e.2)

def rawEntries (opts : QueryOptions) : List (String × JsonValue) :=
  match opts.raw with
  | none => []
  | some raw => raw.pairs

def addParameter (obj : FiniteMap String JsonValue) (p : String × Option JsonValue) :
    FiniteMap String JsonValue :=
  match p.2 with
  | none => obj
  | some value => obj.insert p.1 value

def addExtras (opts : QueryOptions) (obj : FiniteMap String JsonValue) :
    FiniteMap String JsonValue :=
  FiniteMap.insertAll (FiniteMap.insertAll obj opts.namedEntries) opts.rawEntries

def serialize (opts : QueryOptions) : FiniteMap String JsonValue :=
  opts.addExtras (opts.parameters.foldl addParameter ∅)

def ensureContextId (opts : QueryOptions) (newUuid : String) (obj : FiniteMap String JsonValue) :
    FiniteMap String JsonValue :=
  match obj.lookup "client_context_id" with
  | none => obj.insert "client_context_id" (JsonValue.string (opts.clientContextId.getD newUuid))
  | some _ => obj

/-- The object that is sent, to which named arguments and raw entries are added once more. -/
def query (opts : QueryOptions) (newUuid : String) : FiniteMap String JsonValue :=
  opts.addExtras (opts.ensureContextId newUuid opts.serialize)

end QueryOptions

end Service

/-!
# The client for queries

The options of a caller are copied into those of the agent, and these into those of the service.  A
client of a scope adds the names of its bucket and its scope.
-/

/-!
# Mutation states
-/

structure MutationToken where
  vbid : UInt16
  vbuuid : UInt64
  seqno : UInt64
deriving DecidableEq

structure MutationStateKey where
  bucketName : String
  vbid : UInt16
deriving DecidableEq

structure MutationState where
  tokens : FiniteMap MutationStateKey MutationToken

namespace MutationState

def vectorEntry (token : MutationToken) : Service.ScanVectorEntry :=
  { seqNo := token.seqno, vbUuid := token.vbuuid.toNat.repr }

def addVector (buckets : FiniteMap String Service.SparseScanVectors)
    (key : MutationStateKey) (token : MutationToken) : FiniteMap String Service.SparseScanVectors :=
  let bucket : Service.SparseScanVectors := (buckets.lookup key.bucketName).getD ∅
  buckets.insert key.bucketName (bucket.insert key.vbid.toNat.repr (vectorEntry token))

/-- The tokens by their buckets. -/
def into (state : MutationState) : FiniteMap String Service.SparseScanVectors :=
  state.tokens.pairs.foldl (fun buckets e => addVector buckets e.1 e.2) ∅

end MutationState

/-!
# The options of a caller
-/

inductive ScanConsistency where
  | notBounded
  | requestPlus
  | atPlus (state : MutationState)

inductive ReplicaLevel where
  | on | off
deriving DecidableEq

def ReplicaLevel.into : ReplicaLevel -> Service.ReplicaLevel
  | .on => .on
  | .off => .off

inductive ProfileMode where
  | off | phases | timings
deriving DecidableEq

def ProfileMode.into : ProfileMode -> Service.ProfileMode
  | .off => .off
  | .phases => .phases
  | .timings => .timings

structure QueryOptions (strategy : Type) where
  adHoc : Option Bool := none
  clientContextId : Option String := none
  flexIndex : Option Bool := none
  maxParallelism : Option UInt32 := none
  metrics : Option Bool := none
  namedParameters : Option (FiniteMap String JsonValue) := none
  pipelineBatch : Option UInt32 := none
  pipelineCap : Option UInt32 := none
  positionalParameters : Option (List JsonValue) := none
  preserveExpiry : Option Bool := none
  profile : Option ProfileMode := none
  raw : Option (FiniteMap String JsonValue) := none
  readOnly : Option Bool := none
  scanCap : Option UInt32 := none
  scanConsistency : Option ScanConsistency := none
  scanWait : Option Duration := none
  serverTimeout : Option Duration := none
  useReplica : Option ReplicaLevel := none
  retryStrategy : Option strategy := none

/-- The options of the agent: those of the service, and how a request is tried again. -/
structure AgentOptions (strategy : Type) extends Service.QueryOptions where
  retryStrategy : strategy

def AgentOptions.into {strategy : Type} (opts : AgentOptions strategy) : Service.QueryOptions :=
  opts.toQueryOptions

/-!
# Queries
-/

structure QueryKeyspace where
  bucketName : String
  scopeName : String

/-- The agent is gone once its cluster has been closed. -/
structure CouchbaseQueryClient (strategy : Type) where
  agentAlive : Bool
  keyspace : Option QueryKeyspace
  defaultRetryStrategy : strategy

/-- How the agent is called. -/
inductive AgentCall (strategy : Type) where
  | query (opts : AgentOptions strategy)
  | preparedQuery (opts : AgentOptions strategy)

def queryContext (keyspace : QueryKeyspace) : String :=
  "\x60" ++ keyspace.bucketName ++ "\x60.\x60" ++ keyspace.scopeName ++ "\x60"

def scanOptions : Option ScanConsistency ->
    Option (FiniteMap String Service.SparseScanVectors) × Option Service.ScanConsistency
  | some (.atPlus state) => (some state.into, some .atPlus)
  | some .notBounded => (none, some .notBounded)
  | some .requestPlus => (none, some .requestPlus)
  | none => (none, none)

section Client

variable {strategy : Type} (client : CouchbaseQueryClient strategy) (newUuid : String)

def agentOptions (statement : String) (opts : QueryOptions strategy) : AgentOptions strategy :=
  let scan := scanOptions opts.scanConsistency
  { args := opts.positionalParameters
    clientContextId := some (opts.clientContextId.getD newUuid)
    maxParallelism := opts.maxParallelism
    metrics := some (opts.metrics.getD false)
    pipelineBatch := opts.pipelineBatch
    pipelineCap := opts.pipelineCap
    preserveExpiry := opts.preserveExpiry
    profile := opts.profile.map ProfileMode.into
    readOnly := opts.readOnly
    scanCap := opts.scanCap
    scanConsistency := scan.2
    scanWait := opts.scanWait
    sparseScanVectors := scan.1
    timeout := opts.serverTimeout
    useReplica := opts.useReplica.map ReplicaLevel.into
    namedArgs := opts.namedParameters
    raw := opts.raw
    statement := some statement
    retryStrategy := opts.retryStrategy.getD client.defaultRetryStrategy
    queryContext := client.keyspace.map queryContext }

def query (statement : String) (opts : Option (QueryOptions strategy)) :
    Except Kv.Error (AgentCall strategy) :=
  let opts := opts.getD {}
  let queryOpts := agentOptions client newUuid statement opts
  if client.agentAlive then
    .ok (if opts.adHoc.getD true then .query queryOpts else .preparedQuery queryOpts)
  else .error .disconnected

/-- The body of the request that the agent makes of a query. -/
def body (serviceUuid : String) (opts : AgentOptions strategy) : FiniteMap String JsonValue :=
  opts.into.query serviceUuid

end Client

end Query
end CouchbaseSdk
