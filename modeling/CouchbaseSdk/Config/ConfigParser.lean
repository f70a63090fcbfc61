import CouchbaseSdk.Config.Hostname
import CouchbaseSdk.Config.VbucketMap
import CouchbaseSdk.ConfigManager.ParsedConfig
import CouchbaseSdk.Foundation.FiniteMap

/-!
# Configs and their parser

A terse config is what a server sends, after its text was read as JSON.  The parser makes
the topology of it: the nodes with their hostnames and ports, and the bucket with its
vbucket map.  The fields of a terse config that the parser does not read are left out.
-/

namespace CouchbaseSdk
namespace Config

open Foundation
open ConfigManager (BucketType)

/-!
# Terse configs
-/

structure TerseExtNodePorts where
  kv : Option UInt16
  mgmt : Option UInt16
  n1ql : Option UInt16
  fts : Option UInt16
  cbas : Option UInt16
  kvSsl : Option UInt16
  mgmtSsl : Option UInt16
  n1qlSsl : Option UInt16
  ftsSsl : Option UInt16
  cbasSsl : Option UInt16
deriving DecidableEq, Repr

/-- No service has a port. -/
def TerseExtNodePorts.default : TerseExtNodePorts :=
  { kv := none, mgmt := none, n1ql := none, fts := none, cbas := none
    kvSsl := none, mgmtSsl := none, n1qlSsl := none, ftsSsl := none, cbasSsl := none }

structure TerseExtNodeAltAddresses where
  ports : TerseExtNodePorts
  hostname : Option String

structure TerseNodeExtConfig where
  services : Option TerseExtNodePorts
  hostname : Option String
  alternateAddresses : FiniteMap String TerseExtNodeAltAddresses

structure TerseNodeConfig where
  hostname : Option String

structure VBucketServerMap where
  numReplicas : Nat
  vbucketMap : List (List Int16)

structure TerseConfig where
  rev : Int
  revEpoch : Option Int
  name : Option String
  nodeLocator : Option String
  uuid : Option String
  bucketCapabilities : Option (List String)
  vbucketServerMap : Option VBucketServerMap
  nodes : Option (List TerseNodeConfig)
  nodesExt : List TerseNodeExtConfig
  clusterCapabilities : FiniteMap String (List String)

/-!
# Parsed configs
-/

structure ParsedConfigNodePorts where
  kv : Option UInt16
  mgmt : Option UInt16
  analytics : Option UInt16
  query : Option UInt16
  search : Option UInt16
deriving DecidableEq, Repr

def ParsedConfigNodePorts.default : ParsedConfigNodePorts :=
  { kv := none, mgmt := none, analytics := none, query := none, search := none }

structure ParsedConfigNodeAddresses where
  hostname : String
  nonSslPorts : ParsedConfigNodePorts
  sslPorts : ParsedConfigNodePorts
deriving DecidableEq, Repr

structure ParsedConfigNode where
  hasData : Bool
  addresses : ParsedConfigNodeAddresses
  altAddresses : FiniteMap String ParsedConfigNodeAddresses

inductive ParsedConfigFeature where
  | ftsVectorSearch
  | unknown
deriving DecidableEq, Repr

inductive ParsedConfigBucketFeature where
  | createAsDeleted
  | replaceBodyWithXattr
  | rangeScan
  | replicaRead
  | nonDedupedHistory
  | reviveDocument
  | unknown
deriving DecidableEq, Repr

def ParsedConfigBucketFeature.ofString (s : String) : ParsedConfigBucketFeature :=
  if s = "tombstonedUserXAttrs" then .createAsDeleted
  else if s = "subdoc.ReplaceBodyWithXattr" then .replaceBodyWithXattr
  else if s = "rangeScan" then .rangeScan
  else if s = "subdoc.ReplicaRead" then .replicaRead
  else if s = "nonDedupedHistory" then .nonDedupedHistory
  else if s = "subdoc.ReviveDocument" then .reviveDocument
  else .unknown

structure ParsedConfigBucket where
  bucketUuid : String
  bucketName : String
  bucketType : BucketType
  vbucketMap : Option VbucketMap
  features : List ParsedConfigBucketFeature

structure ParsedConfig where
  revId : Int
  revEpoch : Int
  sourceHostname : String
  bucket : Option ParsedConfigBucket
  nodes : List ParsedConfigNode
  features : List ParsedConfigFeature

/-- What the config manager reads of a config. -/
def ParsedConfig.forManager (config : ParsedConfig) : ConfigManager.ParsedConfig :=
  { revId := config.revId
    revEpoch := config.revEpoch
    bucket := config.bucket.map fun bucket =>
      { bucketUuid := bucket.bucketUuid, bucketType := bucket.bucketType } }

/-!
# The parser
-/

namespace ConfigParser

def parseConfigHostsInto (hostname : String) (ports : TerseExtNodePorts) :
    ParsedConfigNodeAddresses :=
  { hostname := hostname
    nonSslPorts :=
      { kv := ports.kv
        mgmt := ports.mgmt
        analytics := ports.cbas
        query := ports.n1ql
        search := ports.fts }
    sslPorts :=
      { kv := ports.kvSsl
        mgmt := ports.mgmtSsl
        analytics := ports.cbasSsl
        query := ports.n1qlSsl
        search := ports.ftsSsl } }

def parseAltAddresses (nodeHostname : String) (alt : TerseExtNodeAltAddresses) :
    ParsedConfigNodeAddresses :=
  parseConfigHostsInto (parseConfigHostname alt.hostname nodeHostname) alt.ports

def parseNode (sourceHostname : String) (lenNodes nodeIdx : Nat) (node : TerseNodeExtConfig) :
    ParsedConfigNode :=
  let nodeHostname := parseConfigHostname node.hostname sourceHostname
  { hasData := nodeIdx < lenNodes
    addresses := parseConfigHostsInto nodeHostname (node.services.getD .default)
    altAddresses := node.alternateAddresses.entries.foldl
      (fun m item => m.insert item.1 (parseAltAddresses nodeHostname item.2)) ∅ }

def parseVbucketServerMap (vbucketServerMap : Option VBucketServerMap) :
    Except ErrorKind (Option VbucketMap) :=
  match vbucketServerMap with
  | some vbucketServerMap =>
      if vbucketServerMap.vbucketMap.isEmpty then .error .noVbucketMap
      else (VbucketMap.new vbucketServerMap.vbucketMap vbucketServerMap.numReplicas).map some
  | none => .ok none

def parseLocator (config : TerseConfig) : Except ErrorKind (BucketType × Option VbucketMap) :=
  match config.nodeLocator with
  | some locator =>
      if locator = "vbucket" then
        (parseVbucketServerMap config.vbucketServerMap).map (fun m => (.couchbase, m))
      else .ok (.invalid, none)
  | none => .ok (.invalid, none)

def parseBucketFeatures (capabilities : Option (List String)) :
    List ParsedConfigBucketFeature :=
  ((capabilities.getD []).map ParsedConfigBucketFeature.ofString).filter (fun f => f ≠ .unknown)

def parseBucket (config : TerseConfig) : Except ErrorKind (Option ParsedConfigBucket) :=
  match config.name with
  | some bucketName =>
      (parseLocator config).map fun located => some
        { bucketUuid := config.uuid.getD ""
          bucketName := bucketName
          bucketType := located.1
          vbucketMap := located.2
          features := parseBucketFeatures config.bucketCapabilities }
  | none => .ok none

def parseFeatures (clusterCapabilities : FiniteMap String (List String)) :
    List ParsedConfigFeature :=
  match clusterCapabilities.lookup "search" with
  | some caps => if "vectorSearch" ∈ caps then [.ftsVectorSearch] else []
  | none => []

def parseTerseConfig (config : TerseConfig) (sourceHostname : String) :
    Except ErrorKind ParsedConfig :=
  let lenNodes := (config.nodes.getD []).length
  (parseBucket config).map fun bucket =>
    { revId := config.rev
      revEpoch := config.revEpoch.getD 0
      sourceHostname := sourceHostname
      bucket := bucket
      nodes := config.nodesExt.mapIdx (parseNode sourceHostname lenNodes)
      features := parseFeatures config.clusterCapabilities }

end ConfigParser

/-!
# What the parser accepts
-/

namespace ConfigParser

variable {config : TerseConfig} {sourceHostname : String} {parsed : ParsedConfig}

/-- The bucket alone decides whether a config is accepted. -/
theorem parseTerseConfig_ok (h : parseTerseConfig config sourceHostname = .ok parsed) :
    parseBucket config = .ok parsed.bucket ∧ parsed.sourceHostname = sourceHostname ∧
      parsed.nodes = config.nodesExt.mapIdx
        (parseNode sourceHostname (config.nodes.getD []).length) := by
  unfold parseTerseConfig at h
  cases hbucket : parseBucket config with
  | error e =>
      rw [hbucket] at h
      cases h
  | ok bucket =>
      rw [hbucket] at h
      cases h
      exact ⟨rfl, rfl, rfl⟩

/-- The config manager cannot tell from which host a config has come. -/
theorem forManager_eq {otherHostname : String} {other : ParsedConfig}
    (h : parseTerseConfig config sourceHostname = .ok parsed)
    (hother : parseTerseConfig config otherHostname = .ok other) :
    other.forManager = parsed.forManager := by
  unfold parseTerseConfig at h hother
  cases hbucket : parseBucket config with
  | error e =>
      rw [hbucket] at h
      cases h
  | ok bucket =>
      rw [hbucket] at h hother
      cases h
      cases hother
      rfl

/-- A config that comes once more, from whichever host, is not taken again. -/
theorem not_canUpdate_again {otherHostname : String} {other : ParsedConfig}
    (h : parseTerseConfig config sourceHostname = .ok parsed)
    (hother : parseTerseConfig config otherHostname = .ok other) :
    ConfigManager.canUpdateConfig other.forManager parsed.forManager = false := by
  rw [forManager_eq h hother]
  exact ConfigManager.canUpdateConfig_self _

end ConfigParser

end Config
end CouchbaseSdk
