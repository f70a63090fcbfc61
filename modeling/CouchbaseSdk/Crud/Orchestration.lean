import CouchbaseSdk.Config.Sources
import CouchbaseSdk.Crud.CrudComponent
import CouchbaseSdk.Foundation.Calls
import CouchbaseSdk.Retry.Safety

/-!
# One operation on a document

The id of the collection is asked for, then the server of the key, then a client of that server,
and at last the operation is invoked with all of them.  Each of the four has its own way of dealing
with an error, and around them is the loop that retries.
-/

namespace CouchbaseSdk
namespace Crud

open Config (SerdeJson TerseConfig replaceHost)
open Foundation (Asked Buffer Calls Monitor)
open Retry (RetryStrategy orchestrateRetries)

/-!
# Errors
-/

/-- An error, with the config that came with it where a server sent one. -/
structure Error where
  err : Retry.Error
  config : Option ByteArray

/-- What an operation fails with. -/
inductive OperationError where
  | memdx (e : Memdx.ErrorKind) (config : Option ByteArray)
  | compression (msg : String)

namespace Error

def ofKind (kind : Retry.ErrorKind) : Error :=
  { err := { kind := kind, retryInfo := none }, config := none }

def isDispatchError (e : Error) : Bool :=
  match e.err.kind with
  | .memdx (.dispatch _ _) => true
  | _ => false

def isServerErrorKind (e : Error) (kind : Memdx.ServerErrorKind) : Bool :=
  match e.err.kind with
  | .memdx (.server s) => s.kind = kind
  | .memdx (.resource r) => r.cause.kind = kind
  | _ => false

def hasServerConfig (e : Error) : Option ByteArray :=
  match e.err.kind with
  | .memdx (.server _) => e.config
  | _ => none

def unknownCollection (e : Error) : Bool :=
  e.isServerErrorKind .unknownCollectionID || e.isServerErrorKind .unknownCollectionName

/-- The config of a not-my-vbucket response, with the endpoint for `$HOST`.  Bytes that are not
UTF-8 are taken for an empty text. -/
def newConfig (json : SerdeJson) (endpoint : String) (e : Error) : Option TerseConfig :=
  if e.isServerErrorKind .notMyVbucket then
    match e.hasServerConfig with
    | some config =>
        if config = ByteArray.empty then none
        else json.fromStr (replaceHost ((String.fromUTF8? config).getD "") endpoint)
    | none => none
  else none

end Error

def OperationError.into : OperationError -> Error
  | .memdx e config => { err := { kind := .memdx e, retryInfo := none }, config := config }
  | .compression msg => .ofKind (.compression msg)

/-!
# What is asked
-/

inductive Ask (kvClient : Type) where
  | resolveCollectionId (scopeName collectionName : String)
  | invalidateCollectionId (scopeName collectionName : String)
  | dispatchByKey (key : Buffer) (vbServerIdx : UInt32)
  | notMyVbucketConfig (config : TerseConfig) (sourceHostname : String)
  | getEndpointClient (endpoint : String)
  | operation (collectionId : UInt32) (vbId : UInt16) (client : kvClient)

def Answer (kvClient resp : Type) : Ask kvClient -> Type
  | .resolveCollectionId _ _ => Except Error (UInt32 × UInt64)
  | .invalidateCollectionId _ _ => Unit
  | .dispatchByKey _ _ => Except Error (String × UInt16)
  | .notMyVbucketConfig _ _ => Unit
  | .getEndpointClient _ => Except Error kvClient
  | .operation _ _ _ => Except OperationError resp

section Orchestrations

variable {kvClient resp : Type}

abbrev Orchestrated (kvClient resp : Type) :=
  Calls (Ask kvClient) (Answer kvClient resp) (Except Error resp)

def ask (q : Ask kvClient) : Calls (Ask kvClient) (Answer kvClient resp) (Answer kvClient resp q) :=
  Calls.request q

def invalidateCollectionId (err : Error) (scopeName collectionName : String) :
    Orchestrated kvClient resp :=
  if err.unknownCollection then
    (ask (.invalidateCollectionId scopeName collectionName)).bind fun _ => .give (.error err)
  else .give (.error err)

def isDefaultCollection (scopeName collectionName : String) : Bool :=
  (scopeName = "_default" && collectionName = "_default") ||
    (scopeName.isEmpty && collectionName.isEmpty)

/-- The id of the default collection is neither asked for nor invalidated. -/
def orchestrateMemdCollectionId (scopeName collectionName : String)
    (operation : UInt32 -> Orchestrated kvClient resp) : Orchestrated kvClient resp :=
  if isDefaultCollection scopeName collectionName then operation 0
  else
    (ask (.resolveCollectionId scopeName collectionName)).bind fun
      | .error e => invalidateCollectionId e scopeName collectionName
      | .ok (collectionId, _) => (operation collectionId).bind fun
          | .ok r => .give (.ok r)
          | .error e => invalidateCollectionId e scopeName collectionName

def orchestrateMemdRouting (json : SerdeJson) (key : Buffer) (vbServerIdx : UInt32)
    (operation : String -> UInt16 -> Orchestrated kvClient resp) : Orchestrated kvClient resp :=
  (ask (.dispatchByKey key vbServerIdx)).bind fun
    | .error e => .give (.error e)
    | .ok (endpoint, vbId) => (operation endpoint vbId).bind fun
        | .ok r => .give (.ok r)
        | .error e =>
            match e.newConfig json endpoint with
            | none => .give (.error e)
            | some config =>
                (ask (.notMyVbucketConfig config endpoint)).bind fun _ => .give (.error e)

/-- An error of dispatch is tried again with another client. -/
def orchestrateEndpointKvClient (endpoint : String)
    (operation : kvClient -> Orchestrated kvClient resp) (rounds : Nat) :
    Orchestrated kvClient resp :=
  .loop
    ((ask (.getEndpointClient endpoint)).bind fun
      | .error e => .give (some (.error e))
      | .ok client => (operation client).bind fun
          | .ok r => .give (some (.ok r))
          | .error e => .give (if e.isDispatchError then none else some (.error e)))
    rounds

/-- The operation itself. -/
def invoke (collectionId : UInt32) (vbId : UInt16) (client : kvClient) :
    Orchestrated kvClient resp :=
  (ask (.operation collectionId vbId client)).bind fun
    | .ok r => .give (.ok r)
    | .error e => .give (.error e.into)

variable {strategy error : Type}

/-- What `orchestrate_simple_crud` retries. -/
def SimpleCrud.once (crud : SimpleCrud strategy error) (json : SerdeJson) (rounds : Nat) :
    Orchestrated kvClient resp :=
  orchestrateMemdCollectionId crud.scopeName crud.collectionName fun collectionId =>
    orchestrateMemdRouting json crud.key 0 fun endpoint vbId =>
      orchestrateEndpointKvClient endpoint (invoke collectionId vbId) rounds

end Orchestrations

/-- A config of a not-my-vbucket response is the one that is handed over. -/
theorem notMyVbucketConfig_newConfig (json : SerdeJson) (endpoint : String)
    (e : Memdx.ServerError) (config : ByteArray) (he : e.kind = .notMyVbucket) :
    Config.notMyVbucketConfig json config endpoint =
      ((OperationError.memdx (.server e) (some config)).into.newConfig json endpoint).bind
        (Config.accept endpoint) := by
  have hkind : (OperationError.memdx (.server e) (some config)).into.isServerErrorKind
      .notMyVbucket = true := decide_eq_true he
  unfold Config.notMyVbucketConfig Error.newConfig
  rw [if_pos hkind]
  show _ = Option.bind (if config = ByteArray.empty then none else _) _
  split
  · rfl
  · rfl

/-!
# What each of them keeps
-/

section Rules

variable {kvClient resp state strategy error : Type}
  {m : Monitor (Ask kvClient) (Answer kvClient resp) state}
  {post : Except Error resp -> state -> Prop}

def unknownResult (result : Except Error resp) : Bool :=
  match result with
  | .ok _ => false
  | .error e => e.unknownCollection

def dispatchResult (result : Except Error resp) : Bool :=
  match result with
  | .ok _ => false
  | .error e => e.isDispatchError

theorem keeps_invoke {collectionId : UInt32} {vbId : UInt16} {client : kvClient} {s : state}
    (hallows : m.allows s (.operation collectionId vbId client))
    (hok : forall r, post (.ok r) (m.after s (.operation collectionId vbId client) (.ok r)))
    (herror : forall e,
      post (.error e.into) (m.after s (.operation collectionId vbId client) (.error e))) :
    m.Keeps post (invoke collectionId vbId client) s := by
  refine ⟨hallows, ?_⟩
  intro a
  cases a with
  | ok r => exact hok r
  | error e => exact herror e

/-- The loop keeps what holds whenever it asks for a client. -/
theorem keeps_endpoint {endpoint : String} {operation : kvClient -> Orchestrated kvClient resp}
    (inv : state -> Prop) (hallows : forall s, inv s -> m.allows s (.getEndpointClient endpoint))
    (herror : forall s, inv s -> forall e,
      post (.error e) (m.after s (.getEndpointClient endpoint) (.error e)))
    (hoperation : forall s, inv s -> forall client,
      m.Keeps (fun result t => (dispatchResult result = true -> inv t) ∧
          (dispatchResult result = false -> post result t))
        (operation client) (m.after s (.getEndpointClient endpoint) (.ok client)))
    (rounds : Nat) {s : state} (hs : inv s) :
    m.Keeps post (orchestrateEndpointKvClient endpoint operation rounds) s := by
  apply Monitor.Keeps.loop inv _ rounds hs
  intro t ht
  refine ⟨hallows t ht, ?_⟩
  intro a
  cases a with
  | error e => exact herror t ht e
  | ok client =>
      apply (hoperation t ht client).bind
      intro result u hu
      cases result with
      | ok r => exact hu.2 rfl
      | error e =>
          show m.Keeps _ (Calls.give (if e.isDispatchError then none else some (Except.error e))) u
          cases hdispatch : e.isDispatchError with
          | true => exact hu.1 hdispatch
          | false => exact hu.2 hdispatch

/-- An error that leaves the routing may have a config, which is handed over first. -/
def Handed (m : Monitor (Ask kvClient) (Answer kvClient resp) state) (json : SerdeJson)
    (post : Except Error resp -> state -> Prop) (endpoint : String) (e : Error) (s : state) :
    Prop :=
  match e.newConfig json endpoint with
  | none => post (.error e) s
  | some config =>
      m.allows s (.notMyVbucketConfig config endpoint) ∧
        post (.error e) (m.after s (.notMyVbucketConfig config endpoint) ())

theorem keeps_routing {json : SerdeJson} {key : Buffer} {vbServerIdx : UInt32}
    {operation : String -> UInt16 -> Orchestrated kvClient resp} {s : state}
    (hallows : m.allows s (.dispatchByKey key vbServerIdx))
    (herror : forall e, post (.error e) (m.after s (.dispatchByKey key vbServerIdx) (.error e)))
    (hoperation : forall endpoint vbId,
      m.Keeps (fun result t => (forall r, result = .ok r -> post result t) ∧
          forall e, result = .error e -> Handed m json post endpoint e t)
        (operation endpoint vbId)
        (m.after s (.dispatchByKey key vbServerIdx) (.ok (endpoint, vbId)))) :
    m.Keeps post (orchestrateMemdRouting json key vbServerIdx operation) s := by
  refine ⟨hallows, ?_⟩
  intro a
  cases a with
  | error e => exact herror e
  | ok p =>
      apply (hoperation p.1 p.2).bind
      intro result t ht
      cases result with
      | ok r => exact ht.1 r rfl
      | error e =>
          have hhanded := ht.2 e rfl
          unfold Handed at hhanded
          dsimp only
          cases hconfig : e.newConfig json p.1 with
          | none =>
              rw [hconfig] at hhanded
              exact hhanded
          | some config =>
              rw [hconfig] at hhanded
              exact ⟨hhanded.1, fun _ => hhanded.2⟩

/-- What the monitor has to admit once the server of the key is known, with what holds whenever a
client is asked for. -/
structure Serves (m : Monitor (Ask kvClient) (Answer kvClient resp) state) (json : SerdeJson)
    (post : Except Error resp -> state -> Prop) (collectionId : UInt32)
    (inv : String -> UInt16 -> state -> Prop) : Prop where
  clientAllowed : forall {endpoint vbId s}, inv endpoint vbId s ->
    m.allows s (.getEndpointClient endpoint)
  clientFailed : forall {endpoint vbId s}, inv endpoint vbId s -> forall e,
    Handed m json post endpoint e (m.after s (.getEndpointClient endpoint) (.error e))
  operationAllowed : forall {endpoint vbId s}, inv endpoint vbId s -> forall client,
    m.allows (m.after s (.getEndpointClient endpoint) (.ok client))
      (.operation collectionId vbId client)
  operationDone : forall {endpoint vbId s}, inv endpoint vbId s -> forall client r,
    post (.ok r) (m.after (m.after s (.getEndpointClient endpoint) (.ok client))
      (.operation collectionId vbId client) (.ok r))
  operationAgain : forall {endpoint vbId s}, inv endpoint vbId s -> forall client e,
    e.into.isDispatchError = true ->
      inv endpoint vbId (m.after (m.after s (.getEndpointClient endpoint) (.ok client))
        (.operation collectionId vbId client) (.error e))
  operationFailed : forall {endpoint vbId s}, inv endpoint vbId s -> forall client e,
    e.into.isDispatchError = false ->
      Handed m json post endpoint e.into
        (m.after (m.after s (.getEndpointClient endpoint) (.ok client))
          (.operation collectionId vbId client) (.error e))

theorem Serves.keeps {json : SerdeJson} {collectionId : UInt32}
    {inv : String -> UInt16 -> state -> Prop} (h : Serves m json post collectionId inv)
    (key : Buffer) (rounds : Nat) {s : state} (hallows : m.allows s (.dispatchByKey key 0))
    (herror : forall e, post (.error e) (m.after s (.dispatchByKey key 0) (.error e)))
    (hroute : forall endpoint vbId,
      inv endpoint vbId (m.after s (.dispatchByKey key 0) (.ok (endpoint, vbId)))) :
    m.Keeps post (orchestrateMemdRouting json key 0 fun endpoint vbId =>
      orchestrateEndpointKvClient endpoint (invoke collectionId vbId) rounds) s := by
  apply keeps_routing hallows herror
  intro endpoint vbId
  apply keeps_endpoint (inv endpoint vbId) _ _ _ rounds (hroute endpoint vbId)
  · intro t ht
    exact h.clientAllowed ht
  · intro t ht e
    constructor
    · intro r hr
      cases hr
    · intro e' he
      cases he
      exact h.clientFailed ht e
  · intro t ht client
    apply keeps_invoke (h.operationAllowed ht client)
    · intro r
      constructor
      · intro hdispatch
        cases hdispatch
      · intro _
        constructor
        · intro r' hr
          cases hr
          exact h.operationDone ht client r
        · intro e he
          cases he
    · intro e
      refine ⟨h.operationAgain ht client e, ?_⟩
      intro hdispatch
      constructor
      · intro r hr
        cases hr
      · intro e' he
        cases he
        exact h.operationFailed ht client e hdispatch

theorem keeps_invalidate {scopeName collectionName : String} {e : Error} {s : state}
    (h : if e.unknownCollection then
        m.allows s (.invalidateCollectionId scopeName collectionName) ∧
          post (.error e) (m.after s (.invalidateCollectionId scopeName collectionName) ())
      else post (.error e) s) :
    m.Keeps post (invalidateCollectionId e scopeName collectionName) s := by
  unfold invalidateCollectionId
  split
  · rename_i hunknown
    rw [if_pos hunknown] at h
    exact ⟨h.1, fun _ => h.2⟩
  · rename_i hunknown
    rw [if_neg hunknown] at h
    exact h

theorem keeps_collectionId {scopeName collectionName : String}
    {operation : UInt32 -> Orchestrated kvClient resp} (mid : Except Error resp -> state -> Prop)
    {s : state} (hnamed : isDefaultCollection scopeName collectionName = false)
    (hallows : m.allows s (.resolveCollectionId scopeName collectionName))
    (herror : forall e,
      mid (.error e) (m.after s (.resolveCollectionId scopeName collectionName) (.error e)))
    (hoperation : forall id rev, m.Keeps mid (operation id)
      (m.after s (.resolveCollectionId scopeName collectionName) (.ok (id, rev))))
    (hmid : forall result t, mid result t -> if unknownResult result then
        m.allows t (.invalidateCollectionId scopeName collectionName) ∧
          post result (m.after t (.invalidateCollectionId scopeName collectionName) ())
      else post result t) :
    m.Keeps post (orchestrateMemdCollectionId scopeName collectionName operation) s := by
  unfold orchestrateMemdCollectionId
  rw [hnamed]
  refine ⟨hallows, ?_⟩
  intro a
  cases a with
  | error e => exact keeps_invalidate (hmid _ _ (herror e))
  | ok p =>
      apply (hoperation p.1 p.2).bind
      intro result t ht
      cases result with
      | ok r => exact hmid _ _ ht
      | error e => exact keeps_invalidate (hmid _ _ ht)

end Rules

/-!
# Runs
-/

section Runs

/-- What was asked in one attempt, and the error map there is when it has ended. -/
structure Attempt (kvClient resp : Type) where
  rounds : Nat
  trace : List (Asked (Ask kvClient) (Answer kvClient resp))
  errMap : ErrMapComponent.State

def Attempt.failure {kvClient resp : Type} (attempt : Attempt kvClient resp) (e : Error) :
    Retry.Failure :=
  { err := e.err, errMap := attempt.errMap }

/-- An operation so far: the attempts that failed and were retried, and the one after them. -/
structure Run {error : Type} (overflowChecks : Bool) (json : SerdeJson)
    (crud : SimpleCrud RetryStrategy error) (kvClient resp : Type) where
  failed : List (Attempt kvClient resp × Error)
  current : Attempt kvClient resp
  result : Option (Except Error resp)
  failed_runs : forall p, p ∈ failed ->
    (crud.once json p.1.rounds).Runs p.1.trace (some (.error p.2))
  retried : (orchestrateRetries overflowChecks crud.retryStrategy crud.retryInfo
    ((failed.map fun p => p.1.failure p.2).map .error : List (Retry.Outcome resp))).ending = .invoked
  current_runs : (crud.once json current.rounds).Runs current.trace result

variable {error : Type} {overflowChecks : Bool} {json : SerdeJson}
  {crud : SimpleCrud RetryStrategy error} {kvClient resp : Type}

def Run.trace (run : Run overflowChecks json crud kvClient resp) :
    List (Asked (Ask kvClient) (Answer kvClient resp)) :=
  (run.failed.map fun p => p.1.trace).flatten ++ run.current.trace

/-- What each attempt keeps is kept by the run. -/
theorem Run.accepts {state : Type} {m : Monitor (Ask kvClient) (Answer kvClient resp) state}
    (inv : state -> Prop) (run : Run overflowChecks json crud kvClient resp)
    (h : forall rounds s, inv s -> m.Keeps (fun _ t => inv t) (crud.once json rounds) s)
    {s : state} (hs : inv s) : m.Accepts s run.trace := by
  have hattempt : forall trace, trace ∈ run.failed.map (fun p => p.1.trace) -> forall t, inv t ->
      m.Accepts t trace ∧ inv (m.finish t trace) := by
    intro trace htrace t ht
    rcases List.mem_map.mp htrace with ⟨p, hp, rfl⟩
    have haccepts := (h p.1.rounds t ht).accepts (run.failed_runs p hp)
    exact ⟨haccepts.1, haccepts.2 _ rfl⟩
  have hfailed := m.accepts_flatten inv hattempt hs
  unfold Run.trace
  rw [Monitor.accepts_append]
  exact ⟨hfailed.1, ((h run.current.rounds _ hfailed.2).accepts run.current_runs).1⟩

end Runs

end Crud
end CouchbaseSdk
