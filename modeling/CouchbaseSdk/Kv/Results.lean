import CouchbaseSdk.Kv.MutateInSpecs
import CouchbaseSdk.Memdx.Subdoc
import CouchbaseSdk.Foundation.JsonValue

/-!
# Errors that callers see
-/

namespace CouchbaseSdk
namespace Kv

open Memdx (ServerErrorKind SubdocErrorKind SubdocFailure)

/-- Other failures of the server or of the decoder have its text. -/
inductive ErrorKind where
  | otherFailure (msg : String)
  | otherSerdeFailure
  | otherServerFailure (kind : ServerErrorKind)
  | otherSubdocFailure (kind : SubdocErrorKind)
  | disconnected
  | invalidArgument (msg : String) (arg : Option String)
  | encodingFailure (msg : String)
  | decodingFailure
  | internalServerFailure | authenticationFailure | temporaryFailure | casMismatch
  | bucketNotFound | collectionNotFound | scopeNotFound | unsupportedOperation
  | rateLimitedFailure | quotaLimitedFailure
  | documentNotFound | documentLocked | documentNotLocked | valueTooLarge | documentExists
  | durabilityLevelNotAvailable | durabilityImpossible | durabilityAmbiguous
  | durabilityWriteInProgress | durableWriteRecommitInProgress
  | pathNotFound | pathMismatch | pathInvalid | pathTooBig | pathTooDeep | valueTooDeep
  | valueInvalid | documentNotJson | numberTooBig | deltaInvalid | pathExists
  | xattrUnknownMacro | xattrInvalidKeyCombo | xattrUnknownVirtualAttribute
  | xattrCannotModifyVirtualAttribute | xattrInvalidOrder | xattrInvalidFlagCombo
deriving DecidableEq

namespace ErrorKind

def ofError : Error -> ErrorKind
  | .disconnected => disconnected
  | .invalidArgument arg msg => invalidArgument msg (some arg)
  | .encodingFailure msg => encodingFailure msg

def ofServer : ServerErrorKind -> ErrorKind
  | .keyExists => documentExists
  | .notStored => documentNotFound
  | .keyNotFound => documentNotFound
  | .tmpFail => temporaryFailure
  | .casMismatch => casMismatch
  | .locked => documentLocked
  | .notLocked => documentNotLocked
  | .tooBig => valueTooLarge
  | .unknownCollectionID => collectionNotFound
  | .unknownBucketName => bucketNotFound
  | .access => authenticationFailure
  | .auth _ => authenticationFailure
  | .unknownScopeName => scopeNotFound
  | .unknownCollectionName => collectionNotFound
  | .rateLimitedScopeSizeLimitExceeded => quotaLimitedFailure
  | .rateLimitedNetworkEgress => rateLimitedFailure
  | .rateLimitedNetworkIngress => rateLimitedFailure
  | .rateLimitedMaxCommands => rateLimitedFailure
  | .rateLimitedMaxConnections => rateLimitedFailure
  | .durabilityImpossible => durabilityImpossible
  | .syncWriteRecommitInProgress => durableWriteRecommitInProgress
  | .syncWriteInProgress => durabilityWriteInProgress
  | .syncWriteAmbiguous => durabilityAmbiguous
  | .durabilityInvalid => durabilityLevelNotAvailable
  | .badDelta => deltaInvalid
  | .rangeError => numberTooBig
  | .internalError => internalServerFailure
  | .busy => temporaryFailure
  | .unknownCommand => unsupportedOperation
  | .notSupported => unsupportedOperation
  | kind => otherServerFailure kind

def ofSubdoc : SubdocErrorKind -> ErrorKind
  | .pathNotFound => pathNotFound
  | .pathMismatch => pathMismatch
  | .pathInvalid => pathInvalid
  | .pathTooBig => pathTooBig
  | .docTooDeep => pathTooDeep
  | .cantInsert => valueInvalid
  | .notJson => documentNotJson
  | .badRange => numberTooBig
  | .badDelta => deltaInvalid
  | .pathExists => pathExists
  | .valueTooDeep => valueTooDeep
  | .invalidCombo => invalidArgument "Subdoc error: subdoc invalid combo" none
  | .xattrInvalidFlagCombo => xattrInvalidFlagCombo
  | .xattrInvalidKeyCombo => xattrInvalidKeyCombo
  | .xattrUnknownMacro => xattrUnknownMacro
  | .xattrUnknownVAttr => xattrUnknownVirtualAttribute
  | .xattrCannotModifyVAttr => xattrCannotModifyVirtualAttribute
  | .invalidXattrOrder => xattrInvalidOrder
  | .xattrUnknownVattrMacro => xattrUnknownVirtualAttribute
  | kind => otherSubdocFailure kind

def ofFailure : SubdocFailure -> ErrorKind
  | .server kind => ofServer kind
  | .subdoc kind => ofSubdoc kind
  | .invalidArgument msg => invalidArgument msg none

end ErrorKind

/-!
# Lookups and results

What a caller looks up in a document, and how a result is read as a value.
-/

open Foundation
open Memdx (LookupInOp SubdocOpFlag)

/-!
# Specs of lookups
-/

inductive LookupInOpType where
  | get | exists | count
deriving DecidableEq

structure LookupInSpec where
  op : LookupInOpType
  path : String
  isXattr : Bool
deriving DecidableEq

namespace LookupInSpec

def get (path : String) (isXattr : Option Bool) : LookupInSpec :=
  { op := .get, path := path, isXattr := isXattr.getD false }

def exists_ (path : String) (isXattr : Option Bool) : LookupInSpec :=
  { op := .exists, path := path, isXattr := isXattr.getD false }

def count (path : String) (isXattr : Option Bool) : LookupInSpec :=
  { op := .count, path := path, isXattr := isXattr.getD false }

def toOp (spec : LookupInSpec) : LookupInOp :=
  { op :=
      match spec.op with
      | .get => if spec.path.isEmpty then .getDoc else .get
      | .exists => .exist
      | .count => .getCount
    flags := if spec.isXattr then SubdocOpFlag.XATTR_PATH else 0
    path := asBytes spec.path }

end LookupInSpec

/-!
# Flags of a document
-/

inductive DataType where
  | unknown | json | binary | string
deriving DecidableEq

def CF_MASK : UInt32 := 0xFF000000
def CF_FMT_MASK : UInt32 := 0x0F000000
def CF_FMT_JSON : UInt32 := 0x02000000
def CF_FMT_BINARY : UInt32 := 0x03000000
def CF_FMT_STRING : UInt32 := 0x04000000
def LF_JSON : UInt32 := 0

def formatOf (flags : UInt32) : DataType :=
  if flags &&& CF_FMT_MASK = CF_FMT_BINARY then .binary
  else if flags &&& CF_FMT_MASK = CF_FMT_STRING then .string
  else if flags &&& CF_FMT_MASK = CF_FMT_JSON then .json
  else .unknown

/-- Without a format the flags are those of an old client, who has only zero for JSON. -/
def decodeCommonFlags (flags : UInt32) : DataType :=
  if flags &&& CF_MASK = 0 then
    if flags = LF_JSON then formatOf CF_FMT_JSON else .unknown
  else formatOf flags

@[simp] theorem decodeCommonFlags_zero : decodeCommonFlags 0 = .json := by
  decide

/-!
# Results
-/

/-- How a value of a type is read from a JSON value. -/
abbrev Deserialize (alpha : Type) := JsonValue -> Option alpha

/-- A list is read item by item. -/
def deserializeList {alpha : Type} (readAs : Deserialize alpha) : Deserialize (List alpha)
  | .array items => items.mapM readAs
  | _ => none

structure GetResult where
  content : Buffer
  flags : UInt32
  cas : UInt64

def GetResult.contentAs {alpha : Type} (readAs : Deserialize alpha) (res : GetResult) :
    Except ErrorKind alpha :=
  if decodeCommonFlags res.flags ≠ .json then .error (.otherFailure "datatype not supported")
  else
    match (JsonValue.fromSlice res.content).bind readAs with
    | some value => .ok value
    | none => .error .otherSerdeFailure

structure LookupInResultEntry where
  value : Option Buffer
  error : Option ErrorKind
  op : LookupInOpType

structure LookupInResult where
  cas : UInt64
  entries : List LookupInResultEntry

namespace LookupInResult

def entry (res : LookupInResult) (lookupIndex : Nat) : Except ErrorKind LookupInResultEntry :=
  match res.entries[lookupIndex]? with
  | some entry => .ok entry
  | none => .error (.invalidArgument "index cannot be >= number of lookups" (some "index"))

/-- Only a path that is not there is no error. -/
def exists_ (res : LookupInResult) (lookupIndex : Nat) : Except ErrorKind Bool :=
  match res.entry lookupIndex with
  | .error e => .error e
  | .ok entry =>
      match entry.error with
      | some .pathNotFound => .ok false
      | some e => .error e
      | none => .ok true

def contentAsRaw (res : LookupInResult) (lookupIndex : Nat) : Except ErrorKind Buffer :=
  match res.entry lookupIndex with
  | .error e => .error e
  | .ok entry =>
      if entry.op = .exists then
        (res.exists_ lookupIndex).map fun found => (JsonValue.bool found).toVec
      else
        match entry.error with
        | some e => .error e
        | none => .ok (entry.value.getD [])

def contentAs {alpha : Type} (readAs : Deserialize alpha) (res : LookupInResult)
    (lookupIndex : Nat) : Except ErrorKind alpha :=
  match res.contentAsRaw lookupIndex with
  | .error e => .error e
  | .ok content =>
      match (JsonValue.fromSlice content).bind readAs with
      | some value => .ok value
      | none => .error .decodingFailure

end LookupInResult

end Kv
end CouchbaseSdk
