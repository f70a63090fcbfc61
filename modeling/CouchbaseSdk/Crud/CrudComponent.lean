import CouchbaseSdk.Memdx.CrudRequests
import CouchbaseSdk.Retry.Model

/-!
# The component for documents

The options of each operation that writes a document, and the request that is made of them once
the collection and the vbucket are known.
-/

namespace CouchbaseSdk
namespace Crud

open Foundation
open Memdx (DurabilityLevel MutateInOp SubdocDocFlag WriteRequest)
open Retry (RetryRequest)

section Options

variable (strategy : Type)

structure UpsertOptions where
  key : Buffer
  scopeName : String
  collectionName : String
  value : Buffer
  flags : UInt32
  datatype : UInt8
  expiry : Option UInt32
  preserveExpiry : Option Bool
  cas : Option UInt64
  durabilityLevel : Option DurabilityLevel
  retryStrategy : strategy

abbrev ReplaceOptions := UpsertOptions strategy

structure AddOptions where
  key : Buffer
  scopeName : String
  collectionName : String
  value : Buffer
  flags : UInt32
  datatype : UInt8
  expiry : Option UInt32
  durabilityLevel : Option DurabilityLevel
  retryStrategy : strategy

structure DeleteOptions where
  key : Buffer
  scopeName : String
  collectionName : String
  cas : Option UInt64
  durabilityLevel : Option DurabilityLevel
  retryStrategy : strategy

structure AppendOptions where
  key : Buffer
  scopeName : String
  collectionName : String
  value : Buffer
  cas : Option UInt64
  durabilityLevel : Option DurabilityLevel
  retryStrategy : strategy

abbrev PrependOptions := AppendOptions strategy

structure IncrementOptions where
  key : Buffer
  scopeName : String
  collectionName : String
  initial : Option UInt64
  delta : UInt64
  expiry : Option UInt32
  durabilityLevel : Option DurabilityLevel
  retryStrategy : strategy

abbrev DecrementOptions := IncrementOptions strategy

structure MutateInOptions where
  key : Buffer
  scopeName : String
  collectionName : String
  ops : List MutateInOp
  flags : SubdocDocFlag
  expiry : Option UInt32
  preserveExpiry : Option Bool
  cas : Option UInt64
  durabilityLevel : Option DurabilityLevel
  retryStrategy : strategy

end Options

/-!
# What is set before the options are
-/

section New

variable {strategy : Type} (defaultRetryStrategy : strategy) (key : Buffer)
  (scopeName collectionName : String)

def UpsertOptions.new (value : Buffer) : UpsertOptions strategy :=
  { key := key, scopeName := scopeName, collectionName := collectionName, value := value
    flags := 0, datatype := 0, expiry := none, preserveExpiry := none, cas := none
    durabilityLevel := none, retryStrategy := defaultRetryStrategy }

abbrev ReplaceOptions.new (value : Buffer) : ReplaceOptions strategy :=
  UpsertOptions.new defaultRetryStrategy key scopeName collectionName value

def AddOptions.new (value : Buffer) : AddOptions strategy :=
  { key := key, scopeName := scopeName, collectionName := collectionName, value := value
    flags := 0, datatype := 0, expiry := none, durabilityLevel := none
    retryStrategy := defaultRetryStrategy }

def DeleteOptions.new : DeleteOptions strategy :=
  { key := key, scopeName := scopeName, collectionName := collectionName, cas := none
    durabilityLevel := none, retryStrategy := defaultRetryStrategy }

def AppendOptions.new (value : Buffer) : AppendOptions strategy :=
  { key := key, scopeName := scopeName, collectionName := collectionName, value := value
    cas := none, durabilityLevel := none, retryStrategy := defaultRetryStrategy }

abbrev PrependOptions.new (value : Buffer) : PrependOptions strategy :=
  AppendOptions.new defaultRetryStrategy key scopeName collectionName value

def IncrementOptions.new (delta : UInt64) : IncrementOptions strategy :=
  { key := key, scopeName := scopeName, collectionName := collectionName, initial := none
    delta := delta, expiry := none, durabilityLevel := none
    retryStrategy := defaultRetryStrategy }

abbrev DecrementOptions.new (delta : UInt64) : DecrementOptions strategy :=
  IncrementOptions.new defaultRetryStrategy key scopeName collectionName delta

def MutateInOptions.new (ops : List MutateInOp) : MutateInOptions strategy :=
  { key := key, scopeName := scopeName, collectionName := collectionName, ops := ops
    flags := 0, expiry := none, preserveExpiry := none, cas := none, durabilityLevel := none
    retryStrategy := defaultRetryStrategy }

end New

/-!
# The requests
-/

section Component

variable {strategy error : Type}

/-- The datatype and the value before compression, and after it. -/
abbrev Compress (error : Type) := UInt8 -> Buffer -> Except error (Buffer × UInt8)

/-- An operation, as it is handed over to be tried: each time, the collection and the vbucket are
given. -/
structure SimpleCrud (strategy error : Type) where
  key : Buffer
  retryStrategy : strategy
  retryInfo : RetryRequest
  scopeName : String
  collectionName : String
  operation : UInt32 -> UInt16 -> Except error WriteRequest

variable (compress : Compress error)

def upsert (opts : UpsertOptions strategy) : SimpleCrud strategy error :=
  { key := opts.key
    retryStrategy := opts.retryStrategy
    retryInfo := RetryRequest.new "upsert" false
    scopeName := opts.scopeName
    collectionName := opts.collectionName
    operation := fun collectionId vbucketId =>
      (compress opts.datatype opts.value).map fun (value, datatype) => .set
        { collectionId := collectionId, key := opts.key, vbucketId := vbucketId
          flags := opts.flags, value := value, datatype := datatype, expiry := opts.expiry
          preserveExpiry := opts.preserveExpiry, cas := opts.cas, onBehalfOf := none
          durabilityLevel := opts.durabilityLevel, durabilityLevelTimeout := none } }

def add (opts : AddOptions strategy) : SimpleCrud strategy error :=
  { key := opts.key
    retryStrategy := opts.retryStrategy
    retryInfo := RetryRequest.new "add" false
    scopeName := opts.scopeName
    collectionName := opts.collectionName
    operation := fun collectionId vbucketId =>
      (compress opts.datatype opts.value).map fun (value, datatype) => .add
        { collectionId := collectionId, key := opts.key, vbucketId := vbucketId
          flags := opts.flags, value := value, datatype := datatype, expiry := opts.expiry
          onBehalfOf := none, durabilityLevel := opts.durabilityLevel
          durabilityLevelTimeout := none } }

def replace (opts : ReplaceOptions strategy) : SimpleCrud strategy error :=
  { key := opts.key
    retryStrategy := opts.retryStrategy
    retryInfo := RetryRequest.new "replace" false
    scopeName := opts.scopeName
    collectionName := opts.collectionName
    operation := fun collectionId vbucketId =>
      (compress opts.datatype opts.value).map fun (value, datatype) => .replace
        { collectionId := collectionId, key := opts.key, vbucketId := vbucketId
          flags := opts.flags, value := value, datatype := datatype, expiry := opts.expiry
          preserveExpiry := opts.preserveExpiry, cas := opts.cas, onBehalfOf := none
          durabilityLevel := opts.durabilityLevel, durabilityLevelTimeout := none } }

def delete (opts : DeleteOptions strategy) : SimpleCrud strategy error :=
  { key := opts.key
    retryStrategy := opts.retryStrategy
    retryInfo := RetryRequest.new "delete" false
    scopeName := opts.scopeName
    collectionName := opts.collectionName
    operation := fun collectionId vbucketId => .ok (.delete
      { collectionId := collectionId, key := opts.key, vbucketId := vbucketId, cas := opts.cas
        onBehalfOf := none, durabilityLevel := opts.durabilityLevel
        durabilityLevelTimeout := none }) }

def append (opts : AppendOptions strategy) : SimpleCrud strategy error :=
  { key := opts.key
    retryStrategy := opts.retryStrategy
    retryInfo := RetryRequest.new "append" false
    scopeName := opts.scopeName
    collectionName := opts.collectionName
    operation := fun collectionId vbucketId =>
      (compress 0 opts.value).map fun (value, datatype) => .append
        { collectionId := collectionId, key := opts.key, vbucketId := vbucketId, value := value
          datatype := datatype, cas := opts.cas, onBehalfOf := none
          durabilityLevel := opts.durabilityLevel, durabilityLevelTimeout := none } }

def prepend (opts : PrependOptions strategy) : SimpleCrud strategy error :=
  { key := opts.key
    retryStrategy := opts.retryStrategy
    retryInfo := RetryRequest.new "prepend" false
    scopeName := opts.scopeName
    collectionName := opts.collectionName
    operation := fun collectionId vbucketId =>
      (compress 0 opts.value).map fun (value, datatype) => .prepend
        { collectionId := collectionId, key := opts.key, vbucketId := vbucketId, value := value
          datatype := datatype, cas := opts.cas, onBehalfOf := none
          durabilityLevel := opts.durabilityLevel, durabilityLevelTimeout := none } }

def increment (opts : IncrementOptions strategy) : SimpleCrud strategy error :=
  { key := opts.key
    retryStrategy := opts.retryStrategy
    retryInfo := RetryRequest.new "increment" false
    scopeName := opts.scopeName
    collectionName := opts.collectionName
    operation := fun collectionId vbucketId => .ok (.increment
      { collectionId := collectionId, key := opts.key, vbucketId := vbucketId
        initial := opts.initial, delta := opts.delta, expiry := opts.expiry, onBehalfOf := none
        durabilityLevel := opts.durabilityLevel, durabilityLevelTimeout := none }) }

def decrement (opts : DecrementOptions strategy) : SimpleCrud strategy error :=
  { key := opts.key
    retryStrategy := opts.retryStrategy
    retryInfo := RetryRequest.new "decrement" false
    scopeName := opts.scopeName
    collectionName := opts.collectionName
    operation := fun collectionId vbucketId => .ok (.decrement
      { collectionId := collectionId, key := opts.key, vbucketId := vbucketId
        initial := opts.initial, delta := opts.delta, expiry := opts.expiry, onBehalfOf := none
        durabilityLevel := opts.durabilityLevel, durabilityLevelTimeout := none }) }

def mutateIn (opts : MutateInOptions strategy) : SimpleCrud strategy error :=
  { key := opts.key
    retryStrategy := opts.retryStrategy
    retryInfo := RetryRequest.new "mutate_in" false
    scopeName := opts.scopeName
    collectionName := opts.collectionName
    operation := fun collectionId vbucketId => .ok (.mutateIn
      { collectionId := collectionId, key := opts.key, vbucketId := vbucketId
        flags := opts.flags, ops := opts.ops, expiry := opts.expiry
        preserveExpiry := opts.preserveExpiry, cas := opts.cas, onBehalfOf := none
        durabilityLevel := opts.durabilityLevel, durabilityLevelTimeout := none }) }

end Component

end Crud
end CouchbaseSdk
