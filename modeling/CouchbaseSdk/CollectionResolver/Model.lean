import CouchbaseSdk.Foundation.FiniteMap
import CouchbaseSdk.Foundation.Transition
import Mathlib.Logic.Function.Basic

/-!
# The cached collection resolver

Many callers share one cache of collection ids in front of an underlying resolver.
The first caller that misses inserts a pending entry and leads the resolution; later
callers wait on the `Notify` of that entry.

A step is what one caller does between two points where another task can run: a
critical section of the slow map, the creation of a `notified` future, or an `await`.
The underlying resolver may answer anything, at any time and in any order.
-/

namespace CouchbaseSdk
namespace CollectionResolver

open Foundation

/-!
# State
-/

/-- A call is named by its place in the order in which the calls started. -/
abbrev CallId := Nat

/-- A `Notify`, named by its place in the order of creation. -/
abbrev NotifyId := Nat

structure CollectionsFastCacheEntry where
  collectionId : UInt32
  manifestRev : UInt64
deriving DecidableEq

abbrev CollectionsFastManifest := FiniteMap String CollectionsFastCacheEntry

structure CollectionCacheEntry where
  collectionId : UInt32
  manifestRev : UInt64
  pending : Option NotifyId
deriving DecidableEq

/-- An entry has a lock of its own, which is only taken with the lock of the map held. -/
abbrev CollectionResolverSlowMap := FiniteMap String CollectionCacheEntry

/-- An error of the underlying resolver, handed through, or a message error. -/
inductive Error (cause : Type) where
  | resolver (e : cause)
  | message (msg : String)
deriving DecidableEq

/-- What a resolution returns: a collection id and a manifest revision. -/
abbrev Outcome (cause : Type) := Except (Error cause) (UInt32 × UInt64)

/-- Where a call stands. -/
inductive Phase (cause : Type) where
  /-- No such call yet. -/
  | unborn
  /-- `resolve_collection_id_slow` is at the head of its loop. -/
  | checking
  /-- The `Notify` of a pending entry was found; `notified` was not called yet. -/
  | found (n : NotifyId)
  /-- The `notified` future exists and was not woken. -/
  | waiting (n : NotifyId)
  /-- The `notified` future was woken. -/
  | woken
  /-- The call inserted the entry and awaits the task of the underlying resolver. -/
  | leading
  | returned (outcome : Outcome cause)
  /-- `invalidate_collection_id` awaits the underlying resolver. -/
  | invalidating
  | invalidated
  | panicked
  /-- The future was dropped. -/
  | cancelled
deriving DecidableEq

structure Call (cause : Type) where
  scopeName : String
  collectionName : String
  phase : Phase cause

def fullKeyPath (scopeName collectionName : String) : String :=
  scopeName ++ "." ++ collectionName

def Call.key {cause : Type} (call : Call cause) : String :=
  fullKeyPath call.scopeName call.collectionName

structure State (cause : Type) where
  fastCache : CollectionsFastManifest
  slowMap : CollectionResolverSlowMap
  /-- A task panicked while it held the lock of the slow map. -/
  poisoned : Bool
  notifies : Nat
  calls : CallId -> Call cause
  started : Nat

variable {cause : Type}

def Call.unborn : Call cause :=
  { scopeName := "", collectionName := "", phase := .unborn }

def initial : State cause :=
  { fastCache := ∅
    slowMap := ∅
    poisoned := false
    notifies := 0
    calls := fun _ => Call.unborn
    started := 0 }

def State.phase (s : State cause) (c : CallId) : Phase cause :=
  (s.calls c).phase

def State.key (s : State cause) (c : CallId) : String :=
  (s.calls c).key

def State.entry (s : State cause) (c : CallId) : Option CollectionCacheEntry :=
  s.slowMap.lookup (s.key c)

def State.setPhase (s : State cause) (c : CallId) (phase : Phase cause) : State cause :=
  { s with calls := Function.update s.calls c { s.calls c with phase := phase } }

def State.start (s : State cause) (scopeName collectionName : String)
    (phase : Phase cause) : State cause :=
  { s with
    calls := Function.update s.calls s.started
      { scopeName := scopeName, collectionName := collectionName, phase := phase }
    started := s.started + 1 }

/-!
# The caches
-/

/-- Every entry with a collection id goes into the fast cache. -/
def rebuildFastCacheLocked (slowMap : CollectionResolverSlowMap) :
    CollectionsFastManifest :=
  slowMap.entries.foldl
    (fun collections item =>
      if item.2.collectionId > 0 then
        collections.insert item.1
          { collectionId := item.2.collectionId, manifestRev := item.2.manifestRev }
      else collections)
    ∅

def CollectionCacheEntry.opened (n : NotifyId) : CollectionCacheEntry :=
  { collectionId := 0, manifestRev := 0, pending := some n }

def CollectionCacheEntry.resolved (collectionId : UInt32) (manifestRev : UInt64) :
    CollectionCacheEntry :=
  { collectionId := collectionId, manifestRev := manifestRev, pending := none }

/-!
# Notifying
-/

def Phase.notified (n : NotifyId) : Phase cause -> Phase cause
  | .waiting m => if m = n then .woken else .waiting m
  | phase => phase

/-- `notify_waiters` wakes the futures that `notified` has created by now, no others. -/
def State.notifyWaiters (s : State cause) : Option NotifyId -> State cause
  | none => s
  | some n =>
      { s with calls := fun c => { s.calls c with phase := (s.calls c).phase.notified n } }

/-!
# Resolving
-/

/-- The first poll of `resolve_collection_id`: the fast cache answers, or the slow path
is taken. -/
def resolveCollectionId (s : State cause) (scopeName collectionName : String) :
    State cause :=
  match s.fastCache.lookup (fullKeyPath scopeName collectionName) with
  | some entry =>
      s.start scopeName collectionName
        (.returned (.ok (entry.collectionId, entry.manifestRev)))
  | none => s.start scopeName collectionName .checking

def Phase.atLoopHead : Phase cause -> Bool
  | .checking | .woken => true
  | _ => false

/-- The call becomes the leader of its key. -/
def insertPending (s : State cause) (c : CallId) : State cause :=
  { s.setPhase c .leading with
    slowMap := s.slowMap.insert (s.key c) (.opened s.notifies)
    notifies := s.notifies + 1 }

/-- The critical section at the head of the loop. -/
def checkSlowMap (s : State cause) (c : CallId) : Option (State cause) :=
  if (s.phase c).atLoopHead then
    if s.poisoned then some (s.setPhase c .panicked)
    else
      match s.entry c with
      | some entry =>
          match entry.pending with
          | some n => some (s.setPhase c (.found n))
          | none =>
              some (s.setPhase c (.returned (.ok (entry.collectionId, entry.manifestRev))))
      | none => some (insertPending s c)
  else none

/-- The call of `notified`, after the lock was released. -/
def listen (s : State cause) (c : CallId) : Option (State cause) :=
  match s.phase c with
  | .found n => some (s.setPhase c (.waiting n))
  | _ => none

/-- The `expect` fails with the lock of the slow map held. -/
def missingEntry (s : State cause) (c : CallId) : State cause :=
  { s.setPhase c .panicked with poisoned := true }

def completeOk (s : State cause) (c : CallId) (entry : CollectionCacheEntry)
    (collectionId : UInt32) (manifestRev : UInt64) : State cause :=
  let slowMap := s.slowMap.insert (s.key c) (.resolved collectionId manifestRev)
  let s' := { s with slowMap := slowMap, fastCache := rebuildFastCacheLocked slowMap }
  (s'.notifyWaiters entry.pending).setPhase c (.returned (.ok (collectionId, manifestRev)))

/-- The fast cache is not rebuilt when a resolution fails. -/
def completeErr (s : State cause) (c : CallId) (entry : CollectionCacheEntry)
    (e : cause) : State cause :=
  let s' := { s with slowMap := s.slowMap.erase (s.key c) }
  (s'.notifyWaiters entry.pending).setPhase c (.returned (.error (.resolver e)))

/-- The underlying resolver answered, and the leader goes on with the answer. -/
def complete (s : State cause) (c : CallId) (resp : Except cause (UInt32 × UInt64)) :
    Option (State cause) :=
  match s.phase c with
  | .leading =>
      if s.poisoned then some (s.setPhase c .panicked)
      else
        match s.entry c with
        | none => some (missingEntry s c)
        | some entry =>
            match resp with
            | .ok (collectionId, manifestRev) =>
                some (completeOk s c entry collectionId manifestRev)
            | .error e => some (completeErr s c entry e)
  | _ => none

/-- The task of the underlying resolver panicked or was aborted; `text` is the display
of the join error. -/
def joinError (s : State cause) (c : CallId) (text : String) : Option (State cause) :=
  match s.phase c with
  | .leading =>
      some (s.setPhase c (.returned (.error
        (.message ("failed to join resolve collection id task: " ++ text)))))
  | _ => none

/-!
# Invalidating
-/

def invalidateCollectionId (s : State cause) (scopeName collectionName : String) :
    State cause :=
  s.start scopeName collectionName .invalidating

def invalidateEntry (s : State cause) (c : CallId) : State cause :=
  let slowMap := s.slowMap.erase (s.key c)
  { s.setPhase c .invalidated with
    slowMap := slowMap
    fastCache := rebuildFastCacheLocked slowMap }

/-- The critical section of `invalidate_collection_id`. -/
def removeEntry (s : State cause) (c : CallId) : Option (State cause) :=
  match s.phase c with
  | .invalidating =>
      if s.poisoned then some (s.setPhase c .panicked)
      else some (invalidateEntry s c)
  | _ => none

/-!
# Steps
-/

/-- The future of the call is at an `await`. -/
def Phase.awaits : Phase cause -> Bool
  | .waiting _ | .woken | .leading | .invalidating => true
  | _ => false

def cancel (s : State cause) (c : CallId) : Option (State cause) :=
  if (s.phase c).awaits then some (s.setPhase c .cancelled) else none

inductive Action (cause : Type) where
  | resolveCollectionId (scopeName collectionName : String)
  | checkSlowMap (c : CallId)
  | listen (c : CallId)
  | complete (c : CallId) (resp : Except cause (UInt32 × UInt64))
  | joinError (c : CallId) (text : String)
  | invalidateCollectionId (scopeName collectionName : String)
  | removeEntry (c : CallId)
  | cancel (c : CallId)

def step : StepFn (State cause) (Action cause)
  | s, .resolveCollectionId scopeName collectionName =>
      some (resolveCollectionId s scopeName collectionName)
  | s, .checkSlowMap c => checkSlowMap s c
  | s, .listen c => listen s c
  | s, .complete c resp => complete s c resp
  | s, .joinError c text => joinError s c text
  | s, .invalidateCollectionId scopeName collectionName =>
      some (invalidateCollectionId s scopeName collectionName)
  | s, .removeEntry c => removeEntry s c
  | s, .cancel c => cancel s c

end CollectionResolver
end CouchbaseSdk
