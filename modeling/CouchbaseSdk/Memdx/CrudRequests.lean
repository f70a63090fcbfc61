import CouchbaseSdk.Memdx.SubdocRequest

/-!
# Requests that write

What a connection is handed for an operation that writes a document.
-/

namespace CouchbaseSdk
namespace Memdx

open Foundation

structure SetRequest where
  collectionId : UInt32
  key : Buffer
  vbucketId : UInt16
  flags : UInt32
  value : Buffer
  datatype : UInt8
  expiry : Option UInt32
  preserveExpiry : Option Bool
  cas : Option UInt64
  onBehalfOf : Option Buffer
  durabilityLevel : Option DurabilityLevel
  durabilityLevelTimeout : Option Duration
deriving DecidableEq

abbrev ReplaceRequest := SetRequest

structure AddRequest where
  collectionId : UInt32
  key : Buffer
  vbucketId : UInt16
  flags : UInt32
  value : Buffer
  datatype : UInt8
  expiry : Option UInt32
  onBehalfOf : Option Buffer
  durabilityLevel : Option DurabilityLevel
  durabilityLevelTimeout : Option Duration
deriving DecidableEq

structure DeleteRequest where
  collectionId : UInt32
  key : Buffer
  vbucketId : UInt16
  cas : Option UInt64
  onBehalfOf : Option Buffer
  durabilityLevel : Option DurabilityLevel
  durabilityLevelTimeout : Option Duration
deriving DecidableEq

structure AppendRequest where
  collectionId : UInt32
  key : Buffer
  vbucketId : UInt16
  value : Buffer
  datatype : UInt8
  cas : Option UInt64
  onBehalfOf : Option Buffer
  durabilityLevel : Option DurabilityLevel
  durabilityLevelTimeout : Option Duration
deriving DecidableEq

abbrev PrependRequest := AppendRequest

structure IncrementRequest where
  collectionId : UInt32
  key : Buffer
  vbucketId : UInt16
  initial : Option UInt64
  delta : UInt64
  expiry : Option UInt32
  onBehalfOf : Option Buffer
  durabilityLevel : Option DurabilityLevel
  durabilityLevelTimeout : Option Duration
deriving DecidableEq

abbrev DecrementRequest := IncrementRequest

inductive WriteRequest where
  | set (r : SetRequest)
  | add (r : AddRequest)
  | replace (r : ReplaceRequest)
  | delete (r : DeleteRequest)
  | append (r : AppendRequest)
  | prepend (r : PrependRequest)
  | increment (r : IncrementRequest)
  | decrement (r : DecrementRequest)
  | mutateIn (r : MutateInRequest)
deriving DecidableEq

namespace WriteRequest

def durabilityLevel : WriteRequest -> Option DurabilityLevel
  | set r => r.durabilityLevel
  | add r => r.durabilityLevel
  | replace r => r.durabilityLevel
  | delete r => r.durabilityLevel
  | append r => r.durabilityLevel
  | prepend r => r.durabilityLevel
  | increment r => r.durabilityLevel
  | decrement r => r.durabilityLevel
  | mutateIn r => r.durabilityLevel

def cas : WriteRequest -> Option UInt64
  | set r => r.cas
  | add _ => none
  | replace r => r.cas
  | delete r => r.cas
  | append r => r.cas
  | prepend r => r.cas
  | increment _ => none
  | decrement _ => none
  | mutateIn r => r.cas

def expiry : WriteRequest -> Option UInt32
  | set r => r.expiry
  | add r => r.expiry
  | replace r => r.expiry
  | delete _ => none
  | append _ => none
  | prepend _ => none
  | increment r => r.expiry
  | decrement r => r.expiry
  | mutateIn r => r.expiry

def preserveExpiry : WriteRequest -> Option Bool
  | set r => r.preserveExpiry
  | replace r => r.preserveExpiry
  | mutateIn r => r.preserveExpiry
  | _ => none

end WriteRequest

end Memdx
end CouchbaseSdk
