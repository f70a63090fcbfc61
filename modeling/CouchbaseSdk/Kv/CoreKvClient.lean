import CouchbaseSdk.Crud.CrudComponent
import CouchbaseSdk.Foundation.Duration
import CouchbaseSdk.Kv.MutateInSpecs
import CouchbaseSdk.Memdx.ReqExtFrames

/-!
# Options for writing documents
-/

namespace CouchbaseSdk
namespace Kv

open Foundation

/-- A level that the SDK has no name for keeps the one it was given. -/
inductive DurabilityLevel where
  | none | majority | majorityAndPersistActive | persistToMajority
  | other (name : String)
deriving DecidableEq

def parseOptionalDurabilityLevelToMemdx :
    Option DurabilityLevel -> Option Memdx.DurabilityLevel
  | some .majority => some .majority
  | some .majorityAndPersistActive => some .majorityAndPersistActive
  | some .persistToMajority => some .persistToMajority
  | _ => none

inductive StoreSemantics where
  | replace | upsert | insert
deriving DecidableEq

section

variable (strategy : Type)

structure UpsertOptions where
  expiry : Option Duration
  durabilityLevel : Option DurabilityLevel
  preserveExpiry : Option Bool
  retryStrategy : Option strategy

structure InsertOptions where
  expiry : Option Duration
  durabilityLevel : Option DurabilityLevel
  retryStrategy : Option strategy

structure ReplaceOptions where
  expiry : Option Duration
  durabilityLevel : Option DurabilityLevel
  preserveExpiry : Option Bool
  cas : Option UInt64
  retryStrategy : Option strategy

structure RemoveOptions where
  durabilityLevel : Option DurabilityLevel
  cas : Option UInt64
  retryStrategy : Option strategy

structure AppendOptions where
  durabilityLevel : Option DurabilityLevel
  cas : Option UInt64
  retryStrategy : Option strategy

abbrev PrependOptions := AppendOptions strategy

structure IncrementOptions where
  expiry : Option Duration
  initial : Option UInt64
  delta : Option UInt64
  durabilityLevel : Option DurabilityLevel
  retryStrategy : Option strategy

abbrev DecrementOptions := IncrementOptions strategy

structure MutateInOptions where
  expiry : Option Duration := none
  preserveExpiry : Option Bool := none
  cas : Option UInt64 := none
  durabilityLevel : Option DurabilityLevel := none
  storeSemantics : Option StoreSemantics := none
  accessDeleted : Option Bool := none
  retryStrategy : Option strategy := none

end

/-!
# The client for documents

Each operation copies its options into the ones of the component.
-/

open Crud (Compress SimpleCrud)
open Memdx (SubdocDocFlag)

def SECS_IN_DAY : Nat := 24 * 60 * 60

/-- `now` is the time in seconds. -/
def expiryToSeconds (now : UInt64) (expiry : Duration) : Except Error UInt32 :=
  if expiry.asMillis < 1000 then .ok 1
  else
    let expirySecs := expiry.asSecs
    if expirySecs < SECS_IN_DAY * 30 then
      if expirySecs < UInt32.size then .ok (UInt32.ofNat expirySecs)
      else .error (.invalidArgument "expiry"
        "expiry duration is too large for u32: out of range integral type conversion attempted")
    else
      let secs := min (now.toNat + expirySecs) (UInt64.size - 1)
      if secs < UInt32.size then .ok (UInt32.ofNat secs)
      else .error (.invalidArgument "expiry"
        "expiry as timestamp is too large for u32: out of range integral type conversion attempted")

def optionalExpiry (now : UInt64) : Option Duration -> Except Error (Option UInt32)
  | none => .ok none
  | some expiry => (expiryToSeconds now expiry).map some

/-- The agent is gone once its bucket has been dropped. -/
structure CoreKvClient (strategy : Type) where
  agentAlive : Bool
  scopeName : String
  collectionName : String
  defaultRetryStrategy : strategy

section Operations

variable {strategy error : Type} (client : CoreKvClient strategy) (now : UInt64)
  (compress : Compress error) (libraryRetryStrategy : strategy)

def upgradeAgent : Except Error Unit :=
  if client.agentAlive then .ok () else .error .disconnected

def upsert (id : String) (value : Buffer) (flags : UInt32) (options : UpsertOptions strategy) :
    Except Error (SimpleCrud strategy error) := do
  let retry := options.retryStrategy.getD client.defaultRetryStrategy
  upgradeAgent client
  let expiry <- optionalExpiry now options.expiry
  pure (Crud.upsert compress
    { Crud.UpsertOptions.new libraryRetryStrategy (asBytes id) client.scopeName
        client.collectionName value with
      flags := flags
      expiry := expiry
      durabilityLevel := parseOptionalDurabilityLevelToMemdx options.durabilityLevel
      retryStrategy := retry
      preserveExpiry := options.preserveExpiry })

def insert (id : String) (value : Buffer) (flags : UInt32) (options : InsertOptions strategy) :
    Except Error (SimpleCrud strategy error) := do
  let retry := options.retryStrategy.getD client.defaultRetryStrategy
  upgradeAgent client
  let expiry <- optionalExpiry now options.expiry
  pure (Crud.add compress
    { Crud.AddOptions.new libraryRetryStrategy (asBytes id) client.scopeName
        client.collectionName value with
      flags := flags
      expiry := expiry
      durabilityLevel := parseOptionalDurabilityLevelToMemdx options.durabilityLevel
      retryStrategy := retry })

def replace (id : String) (value : Buffer) (flags : UInt32) (options : ReplaceOptions strategy) :
    Except Error (SimpleCrud strategy error) := do
  let retry := options.retryStrategy.getD client.defaultRetryStrategy
  upgradeAgent client
  let expiry <- optionalExpiry now options.expiry
  pure (Crud.replace compress
    { Crud.ReplaceOptions.new libraryRetryStrategy (asBytes id) client.scopeName
        client.collectionName value with
      flags := flags
      expiry := expiry
      durabilityLevel := parseOptionalDurabilityLevelToMemdx options.durabilityLevel
      retryStrategy := retry
      preserveExpiry := options.preserveExpiry
      cas := options.cas })

def remove (id : String) (options : RemoveOptions strategy) :
    Except Error (SimpleCrud strategy error) := do
  let retry := options.retryStrategy.getD client.defaultRetryStrategy
  upgradeAgent client
  pure (Crud.delete
    { Crud.DeleteOptions.new libraryRetryStrategy (asBytes id) client.scopeName
        client.collectionName with
      durabilityLevel := parseOptionalDurabilityLevelToMemdx options.durabilityLevel
      retryStrategy := retry
      cas := options.cas })

def append (id : String) (value : Buffer) (options : AppendOptions strategy) :
    Except Error (SimpleCrud strategy error) := do
  let retry := options.retryStrategy.getD client.defaultRetryStrategy
  upgradeAgent client
  pure (Crud.append compress
    { Crud.AppendOptions.new libraryRetryStrategy (asBytes id) client.scopeName
        client.collectionName value with
      cas := options.cas
      durabilityLevel := parseOptionalDurabilityLevelToMemdx options.durabilityLevel
      retryStrategy := retry })

def prepend (id : String) (value : Buffer) (options : PrependOptions strategy) :
    Except Error (SimpleCrud strategy error) := do
  let retry := options.retryStrategy.getD client.defaultRetryStrategy
  upgradeAgent client
  pure (Crud.prepend compress
    { Crud.PrependOptions.new libraryRetryStrategy (asBytes id) client.scopeName
        client.collectionName value with
      durabilityLevel := parseOptionalDurabilityLevelToMemdx options.durabilityLevel
      cas := options.cas
      retryStrategy := retry })

def increment (id : String) (options : IncrementOptions strategy) :
    Except Error (SimpleCrud strategy error) := do
  let retry := options.retryStrategy.getD client.defaultRetryStrategy
  upgradeAgent client
  let expiry <- optionalExpiry now options.expiry
  pure (Crud.increment
    { Crud.IncrementOptions.new libraryRetryStrategy (asBytes id) client.scopeName
        client.collectionName (options.delta.getD 1) with
      durabilityLevel := parseOptionalDurabilityLevelToMemdx options.durabilityLevel
      retryStrategy := retry
      expiry := expiry
      initial := options.initial })

def decrement (id : String) (options : DecrementOptions strategy) :
    Except Error (SimpleCrud strategy error) := do
  let retry := options.retryStrategy.getD client.defaultRetryStrategy
  upgradeAgent client
  let expiry <- optionalExpiry now options.expiry
  pure (Crud.decrement
    { Crud.DecrementOptions.new libraryRetryStrategy (asBytes id) client.scopeName
        client.collectionName (options.delta.getD 1) with
      durabilityLevel := parseOptionalDurabilityLevelToMemdx options.durabilityLevel
      retryStrategy := retry
      expiry := expiry
      initial := options.initial })

def mutateInFlags (accessDeleted : Option Bool) (storeSemantics : Option StoreSemantics) :
    SubdocDocFlag :=
  (if accessDeleted.getD false then SubdocDocFlag.AccessDeleted else 0) |||
    match storeSemantics with
    | some .insert => SubdocDocFlag.AddDoc
    | some .upsert => SubdocDocFlag.MkDoc
    | _ => 0

/-- The durability level is the one option that is not set. -/
def mutateIn (id : String) (specs : List MutateInSpec) (options : MutateInOptions strategy) :
    Except Error (SimpleCrud strategy error) := do
  let retry := options.retryStrategy.getD client.defaultRetryStrategy
  upgradeAgent client
  let ops <- MutateInSpec.toOps (MutateInSpec.reorder specs)
  let expiry <- optionalExpiry now options.expiry
  pure (Crud.mutateIn
    { Crud.MutateInOptions.new libraryRetryStrategy (asBytes id) client.scopeName
        client.collectionName ops with
      flags := mutateInFlags options.accessDeleted options.storeSemantics
      preserveExpiry := options.preserveExpiry
      expiry := expiry
      cas := options.cas
      retryStrategy := retry })

end Operations

end Kv
end CouchbaseSdk
