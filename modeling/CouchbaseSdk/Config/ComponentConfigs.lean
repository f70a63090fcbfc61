import CouchbaseSdk.Config.Hostname
import CouchbaseSdk.Config.ConfigParser
import CouchbaseSdk.Foundation.FiniteMap

/-!
# From a config to the components

A config is turned into the targets of the KV connections, the endpoints of the other
services and the list of servers that the vbucket map points into.  A node is known by its
hostname and its management port, whatever network is used to reach it.
-/

namespace CouchbaseSdk
namespace Config

open Foundation

/-!
# Nodes in a network
-/

structure NetworkConfigNode where
  nodeId : String
  hostname : String
  hasData : Bool
  nonSslPorts : ParsedConfigNodePorts
  sslPorts : ParsedConfigNodePorts
deriving DecidableEq, Repr

/-- The management port of the node is unwrapped; `none` says that this panics. -/
def ParsedConfigNode.nodeId (node : ParsedConfigNode) : Option String :=
  node.addresses.nonSslPorts.mgmt.map fun port =>
    "ep-" ++ node.addresses.hostname ++ "-" ++ toString port

/-- The addresses of a node in a network; it has none in a network that it does not name. -/
def ParsedConfigNode.networkAddresses (node : ParsedConfigNode) (networkType : String) :
    ParsedConfigNodeAddresses :=
  if networkType = "default" then node.addresses
  else
    match node.altAddresses.lookup networkType with
    | some altInfo => altInfo
    | none => { hostname := "", nonSslPorts := .default, sslPorts := .default }

def networkNode (networkType : String) (node : ParsedConfigNode) (nodeId : String) :
    NetworkConfigNode :=
  let addresses := node.networkAddresses networkType
  { nodeId := nodeId
    hostname := addresses.hostname
    hasData := node.hasData
    nonSslPorts := addresses.nonSslPorts
    sslPorts := addresses.sslPorts }

def ParsedConfig.addressesGroupForNetworkType (config : ParsedConfig) (networkType : String) :
    Option (List NetworkConfigNode) :=
  config.nodes.mapM fun node => node.nodeId.map (networkNode networkType node)

/-!
# The components
-/

structure VbucketRoutingInfo where
  vbucketInfo : Option VbucketMap
  serverList : List String
  bucketSelected : Bool
deriving DecidableEq, Repr

inductive ServiceType where
  | memd
  | query
  | search
deriving DecidableEq, Repr

structure AgentComponentConfigs where
  kvTargets : FiniteMap String KvTarget
  auth : Authenticator
  selectedBucket : Option String
  /-- `config_manager_memd_config.endpoints` -/
  gcccpNodeIds : List String
  vbucketRoutingInfo : VbucketRoutingInfo
  analyticsEndpoints : FiniteMap String String
  queryEndpoints : FiniteMap String String
  searchEndpoints : FiniteMap String String
  mgmtEndpoints : FiniteMap String String
  vectorSearchEnabled : Bool
  availableServices : List ServiceType
  revId : Int

/-- What the loop over the nodes has collected. -/
structure Collected where
  gcccpNodeIds : List String
  kvDataNodeIds : List String
  kvDataHosts : FiniteMap String Address
  mgmtEndpoints : FiniteMap String String
  analyticsEndpoints : FiniteMap String String
  queryEndpoints : FiniteMap String String
  searchEndpoints : FiniteMap String String

def Collected.empty : Collected :=
  { gcccpNodeIds := []
    kvDataNodeIds := []
    kvDataHosts := ∅
    mgmtEndpoints := ∅
    analyticsEndpoints := ∅
    queryEndpoints := ∅
    searchEndpoints := ∅ }

/-- The ports of a node in the chosen mode. -/
def NetworkConfigNode.ports (node : NetworkConfigNode) (tlsConfig : Option TlsConfig) :
    ParsedConfigNodePorts :=
  if tlsConfig.isSome then node.sslPorts else node.nonSslPorts

def NetworkConfigNode.kvAddress (tlsConfig : Option TlsConfig) (node : NetworkConfigNode) :
    Option Address :=
  (node.ports tlsConfig).kv.map fun port => { host := node.hostname, port := port }

/-- The URL of a service of the node. -/
def NetworkConfigNode.url (tlsConfig : Option TlsConfig)
    (service : ParsedConfigNodePorts -> Option UInt16) (node : NetworkConfigNode) :
    Option String :=
  (service (node.ports tlsConfig)).map fun port =>
    (if tlsConfig.isSome then "https://" else "http://") ++ node.hostname ++ ":" ++ toString port

def collectNode (tlsConfig : Option TlsConfig) (c : Collected) (node : NetworkConfigNode) :
    Collected :=
  { gcccpNodeIds := c.gcccpNodeIds ++ ["kv" ++ node.nodeId]
    kvDataNodeIds :=
      if node.hasData then c.kvDataNodeIds ++ ["kv" ++ node.nodeId] else c.kvDataNodeIds
    kvDataHosts := FiniteMap.insertSome c.kvDataHosts ("kv" ++ node.nodeId)
      (node.kvAddress tlsConfig)
    mgmtEndpoints := FiniteMap.insertSome c.mgmtEndpoints ("mgmt" ++ node.nodeId)
      (node.url tlsConfig ParsedConfigNodePorts.mgmt)
    analyticsEndpoints := FiniteMap.insertSome c.analyticsEndpoints ("analytics" ++ node.nodeId)
      (node.url tlsConfig ParsedConfigNodePorts.analytics)
    queryEndpoints := FiniteMap.insertSome c.queryEndpoints ("query" ++ node.nodeId)
      (node.url tlsConfig ParsedConfigNodePorts.query)
    searchEndpoints := FiniteMap.insertSome c.searchEndpoints ("search" ++ node.nodeId)
      (node.url tlsConfig ParsedConfigNodePorts.search) }

def kvTargetsOf (tlsConfig : Option TlsConfig) (kvDataHosts : FiniteMap String Address) :
    FiniteMap String KvTarget :=
  kvDataHosts.entries.foldl
    (fun m item => m.insert item.1 { address := item.2, tlsConfig := tlsConfig }) ∅

def routingInfoOf (bucket : Option ParsedConfigBucket) (kvDataNodeIds : List String) :
    VbucketRoutingInfo :=
  match bucket with
  | some info =>
      { vbucketInfo := info.vbucketMap, serverList := kvDataNodeIds, bucketSelected := true }
  | none =>
      { vbucketInfo := none, serverList := kvDataNodeIds, bucketSelected := false }

def componentsOf (config : ParsedConfig) (tlsConfig : Option TlsConfig)
    (bucketName : Option String) (authenticator : Authenticator) (c : Collected) :
    AgentComponentConfigs :=
  { kvTargets := kvTargetsOf tlsConfig c.kvDataHosts
    auth := authenticator
    selectedBucket := bucketName
    gcccpNodeIds := c.gcccpNodeIds
    vbucketRoutingInfo := routingInfoOf config.bucket c.kvDataNodeIds
    analyticsEndpoints := c.analyticsEndpoints
    queryEndpoints := c.queryEndpoints
    searchEndpoints := c.searchEndpoints
    mgmtEndpoints := c.mgmtEndpoints
    vectorSearchEnabled := ParsedConfigFeature.ftsVectorSearch ∈ config.features
    availableServices :=
      [.memd] ++ (if c.queryEndpoints.entries.isEmpty then [] else [.query]) ++
        (if c.searchEndpoints.entries.isEmpty then [] else [.search])
    revId := config.revId }

/-- `none` says that the call panics. -/
def genFromConfig (config : ParsedConfig) (networkType : String)
    (tlsConfig : Option TlsConfig) (bucketName : Option String)
    (authenticator : Authenticator) : Option AgentComponentConfigs :=
  (config.addressesGroupForNetworkType networkType).map fun nodes =>
    componentsOf config tlsConfig bucketName authenticator
      (nodes.foldl (collectNode tlsConfig) Collected.empty)

end Config
end CouchbaseSdk
