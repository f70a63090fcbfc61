import CouchbaseSdk.Foundation.Duration
import CouchbaseSdk.Foundation.Exec
import CouchbaseSdk.Foundation.JsonObject
import CouchbaseSdk.Foundation.Spelling

/-!
# Buckets of the management service

A bucket is read from what the server answers, and its settings are written as a form.
-/

namespace CouchbaseSdk
namespace Mgmtx

open Foundation
open Foundation.JsonRecord

/-!
# Enumerated fields

The texts that are written, and those that are read.
-/

inductive BucketType where
  | couchbase
  | ephemeral
deriving DecidableEq, Repr

namespace BucketType

def fmt : BucketType -> String
  | couchbase => "membase"
  | ephemeral => "ephemeral"

def table : List (String × BucketType) :=
  [("membase", couchbase), ("ephemeral", ephemeral)]

theorem spells : forall e, e ∈ table -> e.2.fmt = e.1 := by
  decide

def spelling : Spelling BucketType where
  text := fmt
  table := table
  spells := spells

end BucketType

inductive EvictionPolicyType where
  | valueOnly
  | full
  | notRecentlyUsed
  | noEviction
deriving DecidableEq, Repr

namespace EvictionPolicyType

def fmt : EvictionPolicyType -> String
  | valueOnly => "valueOnly"
  | full => "fullEviction"
  | notRecentlyUsed => "nruEviction"
  | noEviction => "noEviction"

def table : List (String × EvictionPolicyType) :=
  [("valueOnly", valueOnly), ("fullEviction", full), ("nruEviction", notRecentlyUsed),
    ("noEviction", noEviction)]

theorem spells : forall e, e ∈ table -> e.2.fmt = e.1 := by
  decide

def spelling : Spelling EvictionPolicyType where
  text := fmt
  table := table
  spells := spells

end EvictionPolicyType

inductive CompressionMode where
  | off
  | passive
  | active
deriving DecidableEq, Repr

namespace CompressionMode

def fmt : CompressionMode -> String
  | off => "off"
  | passive => "passive"
  | active => "active"

def table : List (String × CompressionMode) :=
  [("off", off), ("passive", passive), ("active", active)]

theorem spells : forall e, e ∈ table -> e.2.fmt = e.1 := by
  decide

def spelling : Spelling CompressionMode where
  text := fmt
  table := table
  spells := spells

end CompressionMode

inductive DurabilityLevel where
  | none
  | majority
  | majorityAndPersistActive
  | persistToMajority
deriving DecidableEq, Repr

namespace DurabilityLevel

def fmt : DurabilityLevel -> String
  | none => "none"
  | majority => "majority"
  | majorityAndPersistActive => "majorityAndPersistActive"
  | persistToMajority => "persistToMajority"

def table : List (String × DurabilityLevel) :=
  [("none", none), ("majority", majority),
    ("majorityAndPersistActive", majorityAndPersistActive),
    ("persistToMajority", persistToMajority)]

theorem spells : forall e, e ∈ table -> e.2.fmt = e.1 := by
  decide

def spelling : Spelling DurabilityLevel where
  text := fmt
  table := table
  spells := spells

end DurabilityLevel

inductive ConflictResolutionType where
  | sequenceNumber
  | timestamp
  | custom
deriving DecidableEq, Repr

namespace ConflictResolutionType

def fmt : ConflictResolutionType -> String
  | sequenceNumber => "seqno"
  | timestamp => "lww"
  | custom => "custom"

def table : List (String × ConflictResolutionType) :=
  [("seqno", sequenceNumber), ("lww", timestamp), ("custom", custom)]

theorem spells : forall e, e ∈ table -> e.2.fmt = e.1 := by
  decide

def spelling : Spelling ConflictResolutionType where
  text := fmt
  table := table
  spells := spells

end ConflictResolutionType

inductive StorageBackend where
  | couchstore
  | magma
deriving DecidableEq, Repr

namespace StorageBackend

def fmt : StorageBackend -> String
  | couchstore => "couchstore"
  | magma => "magma"

def table : List (String × StorageBackend) :=
  [("couchstore", couchstore), ("magma", magma)]

theorem spells : forall e, e ∈ table -> e.2.fmt = e.1 := by
  decide

def spelling : Spelling StorageBackend where
  text := fmt
  table := table
  spells := spells

end StorageBackend

/-- `Display` of an enumerated field. -/
def display (spelling : Spelling constant) : Enumerated constant -> String
  | .known k => spelling.text k
  | .other val => "unknown(" ++ val ++ ")"

/-!
# What the server answers
-/

structure Controllers where
  flush : Option String

structure Quota where
  ram : UInt64
  rawRam : UInt64

structure BucketSettingsJson where
  name : String
  controllers : Option Controllers
  replicaIndex : Option Bool
  quota : Quota
  replicaNumber : Option UInt32
  bucketType : Option (Enumerated BucketType)
  conflictResolutionType : Option (Enumerated ConflictResolutionType)
  evictionPolicy : Option (Enumerated EvictionPolicyType)
  maxTtl : Option UInt32
  compressionMode : Option (Enumerated CompressionMode)
  durabilityMinLevel : Option (Enumerated DurabilityLevel)
  storageBackend : Option (Enumerated StorageBackend)
  historyRetentionCollectionDefault : Option Bool
  historyRetentionBytes : Option UInt64
  historyRetentionSeconds : Option UInt32
  numVbuckets : Option UInt16

def readU16 : JsonValue -> Option UInt16 := readUnsigned UInt16.size UInt16.ofNat

def readU32 : JsonValue -> Option UInt32 := readUnsigned UInt32.size UInt32.ofNat

def readU64 : JsonValue -> Option UInt64 := readUnsigned UInt64.size UInt64.ofNat

/-- The `deserialize_...` functions of the enumerated fields. -/
def readEnumerated (spelling : Spelling constant) (v : JsonValue) : Option (Enumerated constant) :=
  (readString v).map spelling.read

namespace Controllers

def shape : RecordShape := { fields := ["flush"], needed := 1 }

def deserialize (v : JsonValue) : Option Controllers := do
  let ms <- members shape v
  let flush <- optional readString "flush" ms
  some { flush := flush }

end Controllers

namespace Quota

def shape : RecordShape := { fields := ["ram", "rawRAM"], needed := 2 }

def deserialize (v : JsonValue) : Option Quota := do
  let ms <- members shape v
  let ram <- required readU64 "ram" ms
  let rawRam <- required readU64 "rawRAM" ms
  some { ram := ram, rawRam := rawRam }

end Quota

namespace BucketSettingsJson

/-- The last field that has to be there is the quota. -/
def shape : RecordShape where
  fields := ["name", "controllers", "replicaIndex", "quota", "replicaNumber", "bucketType",
    "conflictResolutionType", "evictionPolicy", "maxTTL", "compressionMode",
    "durabilityMinLevel", "storageBackend", "historyRetentionCollectionDefault",
    "historyRetentionBytes", "historyRetentionSeconds", "numVBuckets"]
  needed := 4

def deserialize (v : JsonValue) : Option BucketSettingsJson := do
  let ms <- members shape v
  let name <- required readString "name" ms
  let controllers <- optional Controllers.deserialize "controllers" ms
  let replicaIndex <- optional readBool "replicaIndex" ms
  let quota <- required Quota.deserialize "quota" ms
  let replicaNumber <- optional readU32 "replicaNumber" ms
  let bucketType <- optional (readEnumerated BucketType.spelling) "bucketType" ms
  let conflictResolutionType <-
    optional (readEnumerated ConflictResolutionType.spelling) "conflictResolutionType" ms
  let evictionPolicy <- optional (readEnumerated EvictionPolicyType.spelling) "evictionPolicy" ms
  let maxTtl <- optional readU32 "maxTTL" ms
  let compressionMode <- optional (readEnumerated CompressionMode.spelling) "compressionMode" ms
  let durabilityMinLevel <-
    optional (readEnumerated DurabilityLevel.spelling) "durabilityMinLevel" ms
  let storageBackend <- optional (readEnumerated StorageBackend.spelling) "storageBackend" ms
  let historyRetentionCollectionDefault <-
    optional readBool "historyRetentionCollectionDefault" ms
  let historyRetentionBytes <- optional readU64 "historyRetentionBytes" ms
  let historyRetentionSeconds <- optional readU32 "historyRetentionSeconds" ms
  let numVbuckets <- optional readU16 "numVBuckets" ms
  some
    { name, controllers, replicaIndex, quota, replicaNumber, bucketType, conflictResolutionType,
      evictionPolicy, maxTtl, compressionMode, durabilityMinLevel, storageBackend,
      historyRetentionCollectionDefault, historyRetentionBytes, historyRetentionSeconds,
      numVbuckets }

end BucketSettingsJson

/-!
# Settings
-/

structure BucketSettings where
  flushEnabled : Option Bool
  ramQuotaMb : Option UInt64
  replicaNumber : Option UInt32
  evictionPolicy : Option (Enumerated EvictionPolicyType)
  maxTtl : Option Duration
  compressionMode : Option (Enumerated CompressionMode)
  durabilityMinLevel : Option (Enumerated DurabilityLevel)
  historyRetentionCollectionDefault : Option Bool
  historyRetentionBytes : Option UInt64
  historyRetentionSeconds : Option UInt32
  conflictResolutionType : Option (Enumerated ConflictResolutionType)
  replicaIndex : Option Bool
  bucketType : Option (Enumerated BucketType)
  storageBackend : Option (Enumerated StorageBackend)
  numVbuckets : Option UInt16

structure BucketDef where
  name : String
  bucketSettings : BucketSettings

namespace BucketDef

/-- `From<BucketSettingsJson>`. -/
def ofJson (settings : BucketSettingsJson) : BucketDef where
  name := settings.name
  bucketSettings :=
    { flushEnabled := settings.controllers.map fun c =>
        match c.flush with
        | some f => !f.isEmpty
        | none => false
      ramQuotaMb := some (settings.quota.rawRam / 1024 / 1024)
      replicaNumber := settings.replicaNumber
      evictionPolicy := settings.evictionPolicy
      maxTtl := settings.maxTtl.map fun d => Duration.fromSecs d.toUInt64
      compressionMode := settings.compressionMode
      durabilityMinLevel := settings.durabilityMinLevel
      historyRetentionCollectionDefault := settings.historyRetentionCollectionDefault
      historyRetentionBytes := settings.historyRetentionBytes
      historyRetentionSeconds := settings.historyRetentionSeconds
      conflictResolutionType := settings.conflictResolutionType
      replicaIndex := settings.replicaIndex
      bucketType := settings.bucketType
      storageBackend := settings.storageBackend
      numVbuckets := settings.numVbuckets }

end BucketDef

/-!
# Forms
-/

/-- The pairs that are appended to a form serializer. -/
abbrev Form := List (String × String)

def oneOrZero (b : Bool) : String := if b then "1" else "0"

/-- `append_pair`, for a field that is set. -/
def appendSet (serializer : Form) (field : String × Option String) : Form :=
  match field.2 with
  | some value => serializer ++ [(field.1, value)]
  | none => serializer

/-- The fields of the settings in the order in which they are written. -/
def formFields (opts : BucketSettings) : List (String × Option String) :=
  [("flushEnabled", opts.flushEnabled.map oneOrZero),
    ("ramQuotaMB", opts.ramQuotaMb.map fun quota => quota.toNat.repr),
    ("replicaNumber", opts.replicaNumber.map fun num => num.toNat.repr),
    ("evictionPolicy", opts.evictionPolicy.map (display EvictionPolicyType.spelling)),
    ("maxTTL", opts.maxTtl.map fun maxTtl => maxTtl.asSecs.repr),
    ("compressionMode", opts.compressionMode.map (display CompressionMode.spelling)),
    ("durabilityMinLevel", opts.durabilityMinLevel.map (display DurabilityLevel.spelling)),
    ("historyRetentionBytes", opts.historyRetentionBytes.map fun n => n.toNat.repr),
    ("historyRetentionSeconds", opts.historyRetentionSeconds.map fun n => n.toNat.repr),
    ("historyRetentionCollectionDefault",
      opts.historyRetentionCollectionDefault.map fun b => toString b),
    ("conflictResolutionType",
      opts.conflictResolutionType.map (display ConflictResolutionType.spelling)),
    ("replicaIndex", opts.replicaIndex.map oneOrZero),
    ("bucketType", opts.bucketType.map (display BucketType.spelling)),
    ("storageBackend", opts.storageBackend.map (display StorageBackend.spelling)),
    ("numVBuckets", opts.numVbuckets.map fun n => n.toNat.repr)]

def encodeBucketSettings (serializer : Form) (opts : BucketSettings) : Form :=
  (formFields opts).foldl appendSet serializer

theorem mem_foldl_appendSet (fields : List (String × Option String)) (serializer : Form)
    (name value : String) :
    (name, value) ∈ fields.foldl appendSet serializer <->
      (name, value) ∈ serializer ∨ (name, some value) ∈ fields := by
  induction fields generalizing serializer with
  | nil => simp
  | cons field rest ih =>
      rw [List.foldl_cons, ih, List.mem_cons]
      rcases field with ⟨fieldName, fieldValue⟩
      cases fieldValue with
      | none => simp [appendSet]
      | some v => simp [appendSet, or_assoc]

/-!
# Errors of the management service
-/

inductive ServerErrorKind where
  | accessDenied
  | unsupportedFeature (feature : String)
  | scopeExists
  | scopeNotFound
  | collectionExists
  | collectionNotFound
  | bucketExists
  | bucketNotFound
  | flushDisabled
  | serverInvalidArg (arg reason : String)
  | sampleAlreadyLoaded
  | invalidSampleBucket
  | bucketUuidMismatch
  | userNotFound
  | groupNotFound
  | operationDelayed
  | unknown
deriving DecidableEq, Repr

/-- What a server or a resource error says about its request is left out. -/
inductive Error where
  | server (kind : ServerErrorKind)
  | resource (cause : ServerErrorKind)
  | invalidArgument (msg : String) (arg : Option String)
  | message (msg : String)
  | http (error : String)
deriving DecidableEq, Repr

/-!
# Requests about buckets
-/

open Foundation

inductive HttpMethod where
  | get
  | post
  | put
  | patch
  | delete
deriving DecidableEq, Repr

structure Request where
  method : HttpMethod
  path : String
  contentType : String
  body : Form
deriving DecidableEq, Repr

structure Response where
  status : Nat
  body : Buffer

/-- What carries requests to the server, and names the errors it answers. -/
structure Server where
  execute : Request -> Exec Error Response
  decodeCommonError : Response -> Error

def parseResponseJson (deserialize : JsonValue -> Option alpha) (resp : Response) :
    Exec Error alpha :=
  match (JsonValue.fromSlice resp.body).bind deserialize with
  | some a => .ok a
  | none => .err (.message "could not parse response")

def bucketPath (bucketName : String) : String :=
  "pools/default/buckets/" ++ bucketName

def getRequest (bucketName : String) : Request where
  method := .get
  path := bucketPath bucketName
  contentType := ""
  body := []

def getBucket (server : Server) (bucketName : String) : Exec Error BucketDef := do
  let resp <- server.execute (getRequest bucketName)
  if resp.status ≠ 200 then .err (server.decodeCommonError resp)
  else do
    let bucket <- parseResponseJson BucketSettingsJson.deserialize resp
    pure (BucketDef.ofJson bucket)

def formType : String := "application/x-www-form-urlencoded"

def createRequest (bucketName : String) (bucketSettings : BucketSettings) : Request where
  method := .post
  path := "pools/default/buckets"
  contentType := formType
  body := encodeBucketSettings [("name", bucketName)] bucketSettings

def updateRequest (bucketName : String) (bucketSettings : BucketSettings) : Request where
  method := .post
  path := bucketPath bucketName
  contentType := formType
  body := encodeBucketSettings [] bucketSettings

/-- A response of another status is an error. -/
def expectStatus (server : Server) (status : Nat) (resp : Response) : Exec Error Unit :=
  if resp.status ≠ status then .err (server.decodeCommonError resp) else .ok ()

def createBucket (server : Server) (bucketName : String) (bucketSettings : BucketSettings) :
    Exec Error Unit := do
  let resp <- server.execute (createRequest bucketName bucketSettings)
  expectStatus server 202 resp

def updateBucket (server : Server) (bucketName : String) (bucketSettings : BucketSettings) :
    Exec Error Unit := do
  let resp <- server.execute (updateRequest bucketName bucketSettings)
  expectStatus server 200 resp

theorem returns_expectStatus (server : Server) (status : Nat) (resp : Response) :
    (expectStatus server status resp).Returns := by
  unfold expectStatus
  split
  · exact Exec.returns_err _
  · exact Exec.returns_ok _

end Mgmtx
end CouchbaseSdk
