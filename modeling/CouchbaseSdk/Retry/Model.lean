import CouchbaseSdk.ErrMapComponent.Model
import CouchbaseSdk.Foundation.Exec
import CouchbaseSdk.Memdx.Wire
import Mathlib.Data.Finset.Insert
import Mathlib.Data.UInt

/-!
# Errors of an operation

An operation fails with an error of the key-value protocol, of one of the HTTP services, or
of the client itself.
-/

namespace CouchbaseSdk

/-!
# Key-value errors
-/

namespace Memdx

/-- A status by its number. -/
def Status.toU16 : Status -> UInt16
  | .success => 0x00
  | .keyNotFound => 0x01
  | .keyExists => 0x02
  | .tooBig => 0x03
  | .invalidArgs => 0x04
  | .notStored => 0x05
  | .badDelta => 0x06
  | .notMyVbucket => 0x07
  | .noBucket => 0x08
  | .locked => 0x09
  | .opaqueNoMatch => 0x0b
  | .wouldThrottle => 0x0c
  | .configOnly => 0x0d
  | .notLocked => 0x0e
  | .authStale => 0x1f
  | .authError => 0x20
  | .authContinue => 0x21
  | .rangeError => 0x22
  | .accessError => 0x24
  | .notInitialized => 0x25
  | .rateLimitedNetworkIngress => 0x30
  | .rateLimitedNetworkEgress => 0x31
  | .rateLimitedMaxConnections => 0x32
  | .rateLimitedMaxCommands => 0x33
  | .rateLimitedScopeSizeLimitExceeded => 0x34
  | .commandUnknown => 0x81
  | .outOfMemory => 0x82
  | .notSupported => 0x83
  | .internalError => 0x84
  | .busy => 0x85
  | .tmpFail => 0x86
  | .collectionUnknown => 0x88
  | .scopeUnknown => 0x8c
  | .durabilityInvalidLevel => 0xa0
  | .durabilityImpossible => 0xa1
  | .syncWriteInProgress => 0xa2
  | .syncWriteAmbiguous => 0xa3
  | .syncWriteRecommitInProgress => 0xa4
  | .rangeScanCancelled => 0xa5
  | .rangeScanMore => 0xa6
  | .rangeScanComplete => 0xa7
  | .rangeScanVbuuidNotEqual => 0xa8
  | .subDocPathNotFound => 0xc0
  | .subDocPathMismatch => 0xc1
  | .subDocPathInvalid => 0xc2
  | .subDocPathTooBig => 0xc3
  | .subDocDocTooDeep => 0xc4
  | .subDocCantInsert => 0xc5
  | .subDocNotJson => 0xc6
  | .subDocBadRange => 0xc7
  | .subDocBadDelta => 0xc8
  | .subDocPathExists => 0xc9
  | .subDocValueTooDeep => 0xca
  | .subDocInvalidCombo => 0xcb
  | .subDocMultiPathFailure => 0xcc
  | .subDocSuccessDeleted => 0xcd
  | .subDocXattrInvalidFlagCombo => 0xce
  | .subDocXattrInvalidKeyCombo => 0xcf
  | .subDocXattrUnknownMacro => 0xd0
  | .subDocXattrUnknownVAttr => 0xd1
  | .subDocXattrCannotModifyVAttr => 0xd2
  | .subDocMultiPathFailureDeleted => 0xd3
  | .subDocInvalidXattrOrder => 0xd4
  | .subDocXattrUnknownVattrMacro => 0xd5
  | .subDocCanOnlyReviveDeletedDocuments => 0xd6
  | .subDocDeletedDocumentCantHaveValue => 0xd7
  | .unknown value => value

inductive ServerErrorKind where
  | keyNotFound | keyExists | tooBig | notStored | badDelta | notMyVbucket | noBucket
  | locked | notLocked
  | auth (msg : String)
  | rangeError | access
  | rateLimitedNetworkIngress | rateLimitedNetworkEgress | rateLimitedMaxConnections
  | rateLimitedMaxCommands | rateLimitedScopeSizeLimitExceeded
  | unknownCommand | notSupported | internalError | busy | tmpFail
  | unknownCollectionID | unknownScopeName | unknownCollectionName
  | durabilityInvalid | durabilityImpossible
  | syncWriteInProgress | syncWriteAmbiguous | syncWriteRecommitInProgress
  | rangeScanCancelled | rangeScanVBUUIDNotEqual
  | invalidArgs | authStale | configNotSet | unknownBucketName | casMismatch
  | subdoc
  | unknownStatus (status : Status)
deriving DecidableEq

structure ServerError where
  kind : ServerErrorKind
  opaqueId : UInt32
deriving DecidableEq

structure ResourceError where
  cause : ServerError
  scopeName : String
  collectionName : String
deriving DecidableEq

inductive ErrorKind where
  | server (e : ServerError)
  | resource (e : ResourceError)
  | dispatch (opaqueId : UInt32) (opCode : OpCode)
  | close (msg : String)
  | protocol (msg : String)
  | cancelled (kind : CancellationErrorKind)
  | connectionFailed (msg : String)
  | io
  | invalidArgument (msg : String) (arg : Option String)
  | decompression
  | message (msg : String)
deriving DecidableEq

def ErrorKind.hasOpaque : ErrorKind -> Option UInt32
  | .server e => some e.opaqueId
  | .resource e => some e.cause.opaqueId
  | .dispatch opaqueId _ => some opaqueId
  | _ => none

end Memdx

/-!
# HTTP errors
-/

namespace Httpx

inductive ErrorKind where
  | connection (msg : String)
  | decoding (msg : String)
  | message (msg : String)
  | sendRequest (msg : String)
deriving DecidableEq

/-- What `ReqwestClient::execute` asks an error of `reqwest`. -/
structure ReqwestError where
  isConnect : Bool
  isRequest : Bool
  text : String

def ErrorKind.ofReqwest (err : ReqwestError) : ErrorKind :=
  if err.isConnect then .connection err.text
  else if err.isRequest then .sendRequest err.text
  else .message err.text

end Httpx

/-!
# Errors of the services
-/

namespace Queryx

inductive ServerErrorKind where
  | parsingFailure | internal | authenticationFailure | casMismatch | docNotFound
  | docExists | planningFailure | indexFailure | preparedStatementFailure | dmlFailure
  | timeout | indexExists | indexNotFound | writeInReadOnlyMode | scopeNotFound
  | collectionNotFound
  | invalidArgument (argument : String) (reason : String)
  | buildAlreadyInProgress | unknown
deriving DecidableEq

structure ServerError where
  kind : ServerErrorKind
  code : UInt32
  msg : String
deriving DecidableEq

inductive ErrorKind where
  | server (e : ServerError)
  | http (error : Httpx.ErrorKind) (endpoint : String) (statement : Option String)
      (clientContextId : Option String)
  | resource (cause : ServerError)
  | message (msg : String) (endpoint : Option String) (statement : Option String)
      (clientContextId : Option String)
  | invalidArgument (msg : String) (arg : Option String)
  | encoding (msg : String)
deriving DecidableEq

end Queryx

namespace Searchx

structure ServerError where
  statusCode : Nat
deriving DecidableEq

inductive ErrorKind where
  | server (e : ServerError)
  | http (error : Httpx.ErrorKind) (endpoint : String)
  | message (msg : String) (endpoint : Option String)
  | invalidArgument (msg : String) (arg : Option String)
  | encoding (msg : String)
  | unsupportedFeature (feature : String)
deriving DecidableEq

end Searchx

namespace Analyticsx

inductive ErrorKind where
  | server
  | http (error : Httpx.ErrorKind) (endpoint : String) (statement : Option String)
      (clientContextId : Option String)
  | message (msg : String) (endpoint : Option String) (statement : Option String)
      (clientContextId : Option String)
  | invalidArgument (msg : String) (arg : Option String)
  | encoding (msg : String)
deriving DecidableEq

end Analyticsx

namespace Mgmtx

inductive ErrorKind where
  | server
  | resource
  | invalidArgument (msg : String) (arg : Option String)
  | message (msg : String)
  | http (error : Httpx.ErrorKind)
deriving DecidableEq

end Mgmtx

/-!
# Errors of the client
-/

namespace Retry

inductive ErrorKind where
  | memdx (e : Memdx.ErrorKind)
  | analytics (e : Analyticsx.ErrorKind)
  | query (e : Queryx.ErrorKind)
  | search (e : Searchx.ErrorKind)
  | http (e : Httpx.ErrorKind)
  | mgmt (e : Mgmtx.ErrorKind)
  | vbucketMapOutdated
  | invalidArgument (msg : String) (arg : Option String)
  | endpointNotKnown (endpoint : String)
  | invalidVbucket (requestedVbId : UInt16) (numVbuckets : Nat)
  | invalidReplica (requestedReplica : UInt32) (numServers : Nat)
  | noEndpointsAvailable
  | shutdown
  | noBucket
  | illegalState (msg : String)
  | noVbucketMap
  | noServerAssigned (requestedVbId : UInt16)
  | collectionManifestOutdated (manifestUid : UInt64) (serverManifestUid : UInt64)
  | message (msg : String)
  | serviceNotAvailable (service : String)
  | featureNotAvailable (feature : String) (msg : String)
  | compression (msg : String)
  | internal (msg : String)
deriving DecidableEq

end Retry
end CouchbaseSdk

/-!
# Retries

An operation that fails is invoked again where the reason of the failure allows it: some
reasons always do, for the others a strategy is asked, and the one of best effort looks at
whether the operation is idempotent.
-/

namespace CouchbaseSdk
namespace Retry

open Foundation

inductive RetryReason where
  | kvNotMyVbucket | kvInvalidVbucketMap | kvTemporaryFailure | kvCollectionOutdated
  | kvErrorMapRetryIndicated | kvLocked | kvSyncWriteInProgress
  | kvSyncWriteRecommitInProgress | serviceNotAvailable | socketClosedWhileInFlight
  | socketNotAvailable | queryPreparedStatementFailure | queryIndexNotFound
  | searchTooManyRequests | httpSendRequestFailed | notReady
deriving DecidableEq

namespace RetryReason

def allowsNonIdempotentRetry : RetryReason -> Bool
  | .kvInvalidVbucketMap | .kvNotMyVbucket | .kvTemporaryFailure | .kvCollectionOutdated
  | .kvErrorMapRetryIndicated | .kvLocked | .serviceNotAvailable | .socketNotAvailable
  | .kvSyncWriteInProgress | .kvSyncWriteRecommitInProgress
  | .queryPreparedStatementFailure | .queryIndexNotFound | .searchTooManyRequests
  | .httpSendRequestFailed | .notReady => true
  | .socketClosedWhileInFlight => false

def alwaysRetry : RetryReason -> Bool
  | .kvInvalidVbucketMap | .kvNotMyVbucket | .kvCollectionOutdated => true
  | _ => false

end RetryReason

structure RetryRequest where
  operation : String
  isIdempotent : Bool
  retryAttempts : UInt32
  retryReasons : Finset RetryReason
  uniqueId : Option String
deriving DecidableEq

namespace RetryRequest

def new (operation : String) (isIdempotent : Bool) : RetryRequest :=
  { operation := operation
    isIdempotent := isIdempotent
    retryAttempts := 0
    retryReasons := ∅
    uniqueId := none }

/-- The count is checked or wraps, depending on the build. -/
def addRetryAttempt (overflowChecks : Bool) (request : RetryRequest) (reason : RetryReason) :
    Exec Empty RetryRequest :=
  if overflowChecks && request.retryAttempts.toNat + 1 = UInt32.size then .panic
  else .ok { request with
    retryAttempts := request.retryAttempts + 1
    retryReasons := insert reason request.retryReasons }

end RetryRequest

structure Error where
  kind : ErrorKind
  retryInfo : Option RetryRequest
deriving DecidableEq

/-!
# Strategies

Durations are in milliseconds.
-/

structure RetryAction where
  duration : Nat

abbrev RetryStrategy := RetryRequest -> RetryReason -> Option RetryAction

def bestEffort (backoff : UInt32 -> Nat) : RetryStrategy := fun request reason =>
  if request.isIdempotent || reason.allowsNonIdempotentRetry then
    some { duration := backoff request.retryAttempts }
  else none

def failFast : RetryStrategy := fun _ _ => none

def controlledBackoff (retryAttempts : UInt32) : Nat :=
  match retryAttempts.toNat with
  | 0 => 1
  | 1 => 10
  | 2 => 50
  | 3 => 100
  | 4 => 500
  | _ => 1000

def maybeRetry (overflowChecks : Bool) (strategy : RetryStrategy) (request : RetryRequest)
    (reason : RetryReason) : Exec Empty (Option Nat × RetryRequest) :=
  if reason.alwaysRetry then
    (request.addRetryAttempt overflowChecks reason).map fun request =>
      (some (controlledBackoff request.retryAttempts), request)
  else
    match strategy request reason with
    | some a =>
        (request.addRetryAttempt overflowChecks reason).map fun request =>
          (some a.duration, request)
    | none => .ok (none, request)

/-!
# Reasons
-/

/-- A failed invocation, with the error map there is when the error is looked at. -/
structure Failure where
  err : Error
  errMap : ErrMapComponent.State

def serverErrorToRetryReason (errMap : ErrMapComponent.State) :
    Memdx.ServerErrorKind -> Option RetryReason
  | .notMyVbucket => some .kvNotMyVbucket
  | .tmpFail => some .kvTemporaryFailure
  | .unknownCollectionID => some .kvCollectionOutdated
  | .unknownCollectionName => some .kvCollectionOutdated
  | .locked => some .kvLocked
  | .syncWriteInProgress => some .kvSyncWriteInProgress
  | .syncWriteRecommitInProgress => some .kvSyncWriteRecommitInProgress
  | .unknownStatus status =>
      if errMap.shouldRetry status.toU16 then some .kvErrorMapRetryIndicated else none
  | _ => none

def memdxErrorToRetryReason (errMap : ErrMapComponent.State) :
    Memdx.ErrorKind -> Option RetryReason
  | .server e => serverErrorToRetryReason errMap e.kind
  | .resource e => serverErrorToRetryReason errMap e.cause.kind
  | .cancelled kind => if kind = .closedInFlight then some .socketClosedWhileInFlight else none
  | .dispatch _ _ => some .socketNotAvailable
  | _ => none

def httpErrorToRetryReason : Httpx.ErrorKind -> Option RetryReason
  | .sendRequest _ => some .httpSendRequestFailed
  | _ => none

def queryErrorToRetryReason : Queryx.ErrorKind -> Option RetryReason
  | .server e =>
      match e.kind with
      | .preparedStatementFailure => some .queryPreparedStatementFailure
      | .indexNotFound => some .queryIndexNotFound
      | _ => none
  | .http error _ _ _ => httpErrorToRetryReason error
  | _ => none

def searchErrorToRetryReason : Searchx.ErrorKind -> Option RetryReason
  | .server e => if e.statusCode = 429 then some .searchTooManyRequests else none
  | .http error _ => httpErrorToRetryReason error
  | _ => none

def analyticsErrorToRetryReason : Analyticsx.ErrorKind -> Option RetryReason
  | .http error _ _ _ => httpErrorToRetryReason error
  | _ => none

def mgmtErrorToRetryReason : Mgmtx.ErrorKind -> Option RetryReason
  | .http error => httpErrorToRetryReason error
  | _ => none

def retryReason (errMap : ErrMapComponent.State) : ErrorKind -> Option RetryReason
  | .memdx e => memdxErrorToRetryReason errMap e
  | .noVbucketMap => some .kvInvalidVbucketMap
  | .serviceNotAvailable _ => some .serviceNotAvailable
  | .query e => queryErrorToRetryReason e
  | .search e => searchErrorToRetryReason e
  | .analytics e => analyticsErrorToRetryReason e
  | .mgmt e => mgmtErrorToRetryReason e
  | _ => none

/-- A key-value error also names the request it is about. -/
def errorToRetryReason (errMap : ErrMapComponent.State) (retryInfo : RetryRequest)
    (err : Error) : Option RetryReason × RetryRequest :=
  match err.kind with
  | .memdx e =>
      (retryReason errMap err.kind,
        { retryInfo with uniqueId := e.hasOpaque.map fun o => o.toNat.repr })
  | _ => (retryReason errMap err.kind, retryInfo)

/-!
# The loop
-/

abbrev Outcome (resp : Type) := Except Failure resp

/-- A failure after which the operation was invoked again. -/
structure Retried where
  failure : Failure
  reason : RetryReason
  duration : Nat

inductive Ending (resp : Type) where
  | invoked
  | returned (result : Except Error resp)
  | panicked

structure Orchestration (resp : Type) where
  retried : List Retried
  retryInfo : RetryRequest
  ending : Ending resp

def giveUp (retryInfo : RetryRequest) (err : Error) : Error :=
  if 0 < retryInfo.retryAttempts then { err with retryInfo := some retryInfo } else err

/-- The invocations end as `outcomes` says.  Where there are no more of them the last
invocation has not ended yet. -/
def orchestrateRetries {resp : Type} (overflowChecks : Bool) (strategy : RetryStrategy) :
    RetryRequest -> List (Outcome resp) -> Orchestration resp
  | retryInfo, [] => { retried := [], retryInfo := retryInfo, ending := .invoked }
  | retryInfo, .ok r :: _ =>
      { retried := [], retryInfo := retryInfo, ending := .returned (.ok r) }
  | retryInfo, .error failure :: outcomes =>
      match errorToRetryReason failure.errMap retryInfo failure.err with
      | (none, retryInfo) =>
          { retried := []
            retryInfo := retryInfo
            ending := .returned (.error (giveUp retryInfo failure.err)) }
      | (some reason, retryInfo) =>
          match maybeRetry overflowChecks strategy retryInfo reason with
          | .ok (some duration, retryInfo) =>
              let next := orchestrateRetries overflowChecks strategy retryInfo outcomes
              { next with
                retried :=
                  { failure := failure, reason := reason, duration := duration } ::
                    next.retried }
          | .ok (none, retryInfo) =>
              { retried := []
                retryInfo := retryInfo
                ending := .returned (.error (giveUp retryInfo failure.err)) }
          | .err e => nomatch e
          | .panic => { retried := [], retryInfo := retryInfo, ending := .panicked }

end Retry
end CouchbaseSdk
