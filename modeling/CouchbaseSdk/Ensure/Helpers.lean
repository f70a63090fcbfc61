import CouchbaseSdk.Ensure.Confirmed
import CouchbaseSdk.Foundation.JsonValue
import CouchbaseSdk.Mgmtx.Buckets

/-!
# The helpers of the components

The query service, the search service and the management service each answer in their own
way.  All helpers but that of the search service ask every target of a poll.
-/

namespace CouchbaseSdk
namespace Ensure

/-- `DesiredState` of an index. -/
inductive DesiredState where
  | created
  | deleted
deriving DecidableEq, Repr

namespace DesiredState

/-- The state of an index that is there or not. -/
def isShown : DesiredState -> Bool -> Bool
  | created, present => present
  | deleted, present => !present

end DesiredState

/-- A turn that asks once and keeps nothing. -/
def askOnce {reply error : Type} (answer : reply -> Except error Bool) (call : Call reply)
    (_ : Unit) (endpoint : String) : Turn Unit error where
  events := [.asked endpoint (answer (call.reply endpoint))]
  answer := answer (call.reply endpoint)
  state := ()

/-- The poll of the helpers that ask all the targets. -/
def pollAll {reply error : Type} (answer : reply -> Except error Bool) (helper : Helper Unit)
    (call : Call reply) : Polled error × Helper Unit :=
  pollListed (askOnce answer call) call.targets helper call.targets

/-!
# Query indexes
-/

namespace QueryIndex

structure Index where
  name : String

/-- Another error than that of the answer passes. -/
def pollOne {error : Type} (indexName : String) (resp : Except error (List Index)) :
    Except error Bool := do
  let indexes <- resp
  pure (indexes.any fun index => index.name == indexName)

def answer {error : Type} (indexName : String) (desiredState : DesiredState)
    (resp : Except error (List Index)) : Except error Bool := do
  let present <- pollOne indexName resp
  pure (desiredState.isShown present)

def poll {error : Type} (indexName : String) (desiredState : DesiredState) :
    Helper Unit -> Call (Except error (List Index)) -> Polled error × Helper Unit :=
  pollAll (answer indexName desiredState)

end QueryIndex

/-!
# Search indexes
-/

namespace SearchIndex

inductive ServerErrorKind where
  | internal
  | authenticationFailure
  | indexExists
  | indexNotFound
  | unknownIndexType
  | sourceTypeIncorrect
  | sourceNotFound
  | noIndexPartitionsPlanned
  | noIndexPartitionsFound
  | unsupportedFeature
  | rateLimitedFailure
  | unknown
deriving DecidableEq, Repr

/-- What a server error says about its request is left out. -/
inductive Error where
  | server (kind : ServerErrorKind)
  | http (error endpoint : String)
  | message (msg : String) (endpoint : Option String)
  | invalidArgument (msg : String) (arg : Option String)
  | encoding (msg : String)
  | unsupportedFeature (feature : String)
deriving DecidableEq, Repr

/-- What a node replies in a poll: to the first question, and to a second one, with the time
in between. -/
structure Reply where
  first : Except Error Unit
  now : Nat
  again : Except Error Unit

/-- What is kept of the misses. -/
structure State where
  firstRefreshPoll : Option Nat
  refreshedEndpoints : List String

def State.new : State where
  firstRefreshPoll := none
  refreshedEndpoints := []

def fiveSeconds : Nat := 5 * 1000000000

def pollOne : Except Error Unit -> Except Error Bool
  | .ok _ => .ok true
  | .error (.server .indexNotFound) => .ok false
  | .error e => .error e

def maybeRefreshOne (s : State) (endpoint : String) (now : Nat) : State × List (Event Error) :=
  match s.firstRefreshPoll with
  | some firstRefreshPoll =>
      if now < firstRefreshPoll + fiveSeconds then (s, [])
      else if s.refreshedEndpoints.contains endpoint then (s, [])
      else
        ({ s with refreshedEndpoints := s.refreshedEndpoints ++ [endpoint] },
          [.refreshed endpoint])
  | none => ({ s with firstRefreshPoll := some now }, [])

/-- The turn of a poll for an index that is to be created. -/
def askCreated (call : Call Reply) (s : State) (endpoint : String) : Turn State Error :=
  let reply := call.reply endpoint
  match pollOne reply.first with
  | .ok false =>
      let again := pollOne reply.again
      let refresh := maybeRefreshOne s endpoint reply.now
      { events := .asked endpoint (.ok false) :: .missed endpoint reply.now ::
          (refresh.2 ++ [.asked endpoint again])
        answer := again
        state := refresh.1 }
  | other => { events := [.asked endpoint other], answer := other, state := s }

def askDeleted (call : Call Reply) (s : State) (endpoint : String) : Turn State Error :=
  let shown := (pollOne (call.reply endpoint).first).map (!·)
  { events := [.asked endpoint shown], answer := shown, state := s }

def ask (desiredState : DesiredState) : Call Reply -> State -> String -> Turn State Error :=
  match desiredState with
  | .created => askCreated
  | .deleted => askDeleted

def poll (desiredState : DesiredState) (helper : Helper State) (call : Call Reply) :
    Polled Error × Helper State :=
  pollListed (ask desiredState call) (helper.filteredTargets call.targets) helper call.targets

/-- What a node shows in a poll, whatever has been missed before. -/
def answer (desiredState : DesiredState) (reply : Reply) : Except Error Bool :=
  match desiredState with
  | .created =>
      match pollOne reply.first with
      | .ok false => pollOne reply.again
      | other => other
  | .deleted => (pollOne reply.first).map (!·)

end SearchIndex

/-!
# Buckets, manifests, users and groups
-/

open Mgmtx (Error ServerErrorKind)

/-- An answer for a resource that is there, or an error that may say that it is not. -/
def shownUnless {alpha : Type} (notFound : ServerErrorKind) (wantMissing : Bool) :
    Except Error alpha -> Except Error Bool
  | .ok _ => .ok (!wantMissing)
  | .error (.server kind) =>
      if kind = notFound then .ok wantMissing else .error (.server kind)
  | .error e => .error e

namespace Bucket

structure TerseConfig where
  uuid : Option String

def pollOne (bucketUuid : Option String) (wantMissing : Bool) :
    Except Error TerseConfig -> Except Error Bool
  | .ok config =>
      match bucketUuid, config.uuid with
      | some bucketUuid, some configUuid =>
          if configUuid = bucketUuid then .ok (!wantMissing) else .ok (!wantMissing)
      | _, _ => .ok (!wantMissing)
  | .error e => @shownUnless Unit .bucketNotFound wantMissing (.error e)

def poll (bucketUuid : Option String) (wantMissing : Bool) :
    Helper Unit -> Call (Except Error TerseConfig) -> Polled Error × Helper Unit :=
  pollAll (pollOne bucketUuid wantMissing)

end Bucket

namespace Manifest

structure CollectionManifest where
  uid : String

def invalidDigit : String := "invalid digit found in string"

/-- The hexadecimal digits behind the value `result` of 64 bits. -/
def hexDigits : List Char -> Nat -> Except String Nat
  | [], result => .ok result
  | c :: rest, result =>
      match Foundation.JsonValue.hexValue c with
      | some digit =>
          if result * 16 + digit < 2 ^ 64 then hexDigits rest (result * 16 + digit)
          else .error "number too large to fit in target type"
      | none => .error invalidDigit

/-- `u64::from_str_radix` with the radix 16. -/
def fromStrRadix16 (text : String) : Except String Nat :=
  match text.toList with
  | [] => .error "cannot parse integer from empty string"
  | ['+'] => .error invalidDigit
  | '+' :: digits => hexDigits digits 0
  | digits => hexDigits digits 0

def pollOne (wantedUid : UInt64) (resp : Except Error CollectionManifest) :
    Except Error Bool := do
  let manifest <- resp
  match fromStrRadix16 manifest.uid with
  | .ok manifestUid => pure (decide (wantedUid.toNat ≤ manifestUid))
  | .error e => .error (.message ("failed to parse manifest uid: " ++ e))

def poll (manifestUid : UInt64) :
    Helper Unit -> Call (Except Error CollectionManifest) -> Polled Error × Helper Unit :=
  pollAll (pollOne manifestUid)

end Manifest

namespace User

def pollOne (wantMissing : Bool) : Except Error Unit -> Except Error Bool :=
  shownUnless .userNotFound wantMissing

def poll (wantMissing : Bool) :
    Helper Unit -> Call (Except Error Unit) -> Polled Error × Helper Unit :=
  pollAll (pollOne wantMissing)

end User

namespace Group

def pollOne (wantMissing : Bool) : Except Error Unit -> Except Error Bool :=
  shownUnless .groupNotFound wantMissing

def poll (wantMissing : Bool) :
    Helper Unit -> Call (Except Error Unit) -> Polled Error × Helper Unit :=
  pollAll (pollOne wantMissing)

end Group

/-!
# All resources
-/

/-- What is waited for, with the parameters of its helper.  The errors of the query service
are those of the type. -/
inductive Resource (error : Type) where
  | queryIndex (indexName : String) (desiredState : DesiredState)
  | searchIndex (desiredState : DesiredState)
  | bucket (bucketUuid : Option String) (wantMissing : Bool)
  | manifest (manifestUid : UInt64)
  | user (wantMissing : Bool)
  | group (wantMissing : Bool)

namespace Resource

variable {error : Type}

def Failure : Resource error -> Type
  | queryIndex _ _ => error
  | searchIndex _ => SearchIndex.Error
  | bucket _ _ => Error
  | manifest _ => Error
  | user _ => Error
  | group _ => Error

/-- What a node replies in a poll. -/
def Reply : Resource error -> Type
  | queryIndex _ _ => Except error (List QueryIndex.Index)
  | searchIndex _ => SearchIndex.Reply
  | bucket _ _ => Except Error Bucket.TerseConfig
  | manifest _ => Except Error Manifest.CollectionManifest
  | user _ => Except Error Unit
  | group _ => Except Error Unit

def State : Resource error -> Type
  | searchIndex _ => SearchIndex.State
  | queryIndex _ _ => Unit
  | bucket _ _ => Unit
  | manifest _ => Unit
  | user _ => Unit
  | group _ => Unit

def newHelper : (r : Resource error) -> Helper r.State
  | searchIndex _ => Helper.new SearchIndex.State.new
  | queryIndex _ _ => Helper.new ()
  | bucket _ _ => Helper.new ()
  | manifest _ => Helper.new ()
  | user _ => Helper.new ()
  | group _ => Helper.new ()

def poll : (r : Resource error) ->
    Helper r.State -> Call r.Reply -> Polled r.Failure × Helper r.State
  | queryIndex indexName desiredState => QueryIndex.poll indexName desiredState
  | searchIndex desiredState => SearchIndex.poll desiredState
  | bucket bucketUuid wantMissing => Bucket.poll bucketUuid wantMissing
  | manifest manifestUid => Manifest.poll manifestUid
  | user wantMissing => User.poll wantMissing
  | group wantMissing => Group.poll wantMissing

/-- Whether the node is in the desired state, by its reply. -/
def answer : (r : Resource error) -> r.Reply -> Except r.Failure Bool
  | queryIndex indexName desiredState => QueryIndex.answer indexName desiredState
  | searchIndex desiredState => SearchIndex.answer desiredState
  | bucket bucketUuid wantMissing => Bucket.pollOne bucketUuid wantMissing
  | manifest manifestUid => Manifest.pollOne manifestUid
  | user wantMissing => User.pollOne wantMissing
  | group wantMissing => Group.pollOne wantMissing

/-- The polls of one helper. -/
def helperPolls (r : Resource error) (calls : List (Call r.Reply)) : List (Polled r.Failure) :=
  polls r.poll r.newHelper calls

/-- The `ensure_...` of the component: the polls it makes, and what it returns. -/
def ensure (r : Resource error) (attempts : List (Except r.Failure (Call r.Reply))) :
    List (Polled r.Failure) × Option (Except r.Failure Unit) :=
  ensureWith r.poll r.newHelper attempts

end Resource

end Ensure
end CouchbaseSdk
