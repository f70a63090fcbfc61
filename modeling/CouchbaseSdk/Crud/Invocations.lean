import CouchbaseSdk.Crud.Orchestration

/-!
# What an operation on a document asks

Every run of an operation is watched, over all its attempts: which id the collection has, which
server and client the operation goes to, and what was replied before it is invoked once more.
-/

namespace CouchbaseSdk
namespace Crud

open Config (SerdeJson TerseConfig hostReader)
open Foundation (Asked Buffer Calls Monitor)
open Retry (RetryStrategy bestEffort cannotHaveExecuted orchestrateRetries)

section Runs

variable {error : Type} {overflowChecks : Bool} {json : SerdeJson}
  {crud : SimpleCrud RetryStrategy error} {kvClient resp : Type}

/-!
# The id of the collection
-/

/-- What is known of the collection id. -/
inductive Standing where
  | default
  | unknown
  | known (collectionId : UInt32)
  /-- The collection was said to be unknown. -/
  | outdated

namespace Standing

def start (scopeName collectionName : String) : Standing :=
  if isDefaultCollection scopeName collectionName then .default else .unknown

/-- After an outdated id nothing is asked before that id is invalidated, and nothing else is ever
invalidated. -/
def allows (scopeName collectionName : String) : Standing -> Ask kvClient -> Prop
  | .outdated, q => q = .invalidateCollectionId scopeName collectionName
  | _, .invalidateCollectionId _ _ => False
  | .default, .resolveCollectionId _ _ => False
  | _, .resolveCollectionId scope collection => scope = scopeName ∧ collection = collectionName
  | .default, .operation collectionId _ _ => collectionId = 0
  | .known id, .operation collectionId _ _ => collectionId = id
  | .unknown, .operation _ _ _ => False
  | _, _ => True

def failed (e : Error) : Standing :=
  if e.unknownCollection then .outdated else .unknown

def after : Standing -> (q : Ask kvClient) -> Answer kvClient resp q -> Standing
  | .default, _, _ => .default
  | _, .resolveCollectionId _ _, .ok (collectionId, _) => .known collectionId
  | _, .resolveCollectionId _ _, .error e => failed e
  | _, .invalidateCollectionId _ _, _ => .unknown
  | standing, .dispatchByKey _ _, .ok _ => standing
  | _, .dispatchByKey _ _, .error e => failed e
  | standing, .notMyVbucketConfig _ _, _ => standing
  | standing, .getEndpointClient _, .ok _ => standing
  | _, .getEndpointClient _, .error e => failed e
  | standing, .operation _ _ _, .ok _ => standing
  | standing, .operation _ _ _, .error e =>
      if e.into.isDispatchError then standing else failed e.into

def monitor (scopeName collectionName : String) :
    Monitor (Ask kvClient) (Answer kvClient resp) Standing :=
  { allows := allows scopeName collectionName, after := after }

/-- What a result leaves behind. -/
def Left (result : Except Error resp) (standing : Standing) : Prop :=
  standing ≠ .default ∧ (standing = .outdated <-> unknownResult result = true)

theorem left_failed (e : Error) : Left (.error e : Except Error resp) (failed e) := by
  unfold Left failed
  show _ ∧ (_ <-> e.unknownCollection = true)
  split
  · rename_i hunknown
    exact ⟨nofun, iff_of_true rfl hunknown⟩
  · rename_i hunknown
    exact ⟨nofun, iff_of_false nofun hunknown⟩

/-- A config comes with no error that makes the id outdated. -/
theorem failed_of_config {json : SerdeJson} {endpoint : String} {e : Error} {config : TerseConfig}
    (h : e.newConfig json endpoint = some config) : failed e = .unknown := by
  have hkind : e.isServerErrorKind .notMyVbucket = true := by
    unfold Error.newConfig at h
    split at h
    · assumption
    · cases h
  have hknown : e.unknownCollection = false := by
    unfold Error.isServerErrorKind at hkind
    unfold Error.unknownCollection Error.isServerErrorKind
    split at hkind
    · rw [decide_eq_true_iff] at hkind
      simp [*]
    · rw [decide_eq_true_iff] at hkind
      simp [*]
    · cases hkind
  unfold failed
  rw [hknown]
  rfl

section Keeps

variable (scopeName collectionName : String) (json : SerdeJson)

theorem handed_default (endpoint : String) (e : Error) :
    Handed (@monitor kvClient resp scopeName collectionName) json
      (fun _ t => t = .default) endpoint e .default := by
  unfold Handed
  split
  · rfl
  · exact ⟨trivial, rfl⟩

theorem handed_failed (endpoint : String) (e : Error) :
    Handed (@monitor kvClient resp scopeName collectionName) json Left
      endpoint e (failed e) := by
  unfold Handed
  split
  · exact left_failed e
  · rename_i config hconfig
    have hleft := @left_failed resp e
    rw [failed_of_config hconfig] at hleft ⊢
    exact ⟨trivial, hleft⟩

theorem serves_default :
    Serves (@monitor kvClient resp scopeName collectionName) json
      (fun _ t => t = .default) 0 (fun _ _ s => s = .default) where
  clientAllowed := by
    intro endpoint vbId s hs
    subst hs
    trivial
  clientFailed := by
    intro endpoint vbId s hs e
    subst hs
    exact handed_default scopeName collectionName json endpoint e
  operationAllowed := by
    intro endpoint vbId s hs client
    subst hs
    rfl
  operationDone := by
    intro endpoint vbId s hs client r
    subst hs
    rfl
  operationAgain := by
    intro endpoint vbId s hs client e hdispatch
    subst hs
    rfl
  operationFailed := by
    intro endpoint vbId s hs client e hdispatch
    subst hs
    exact handed_default scopeName collectionName json endpoint e.into

theorem serves_known (id : UInt32) :
    Serves (@monitor kvClient resp scopeName collectionName) json Left id
      (fun _ _ s => s = .known id) where
  clientAllowed := by
    intro endpoint vbId s hs
    subst hs
    trivial
  clientFailed := by
    intro endpoint vbId s hs e
    subst hs
    exact handed_failed scopeName collectionName json endpoint e
  operationAllowed := by
    intro endpoint vbId s hs client
    subst hs
    rfl
  operationDone := by
    intro endpoint vbId s hs client r
    subst hs
    exact ⟨nofun, iff_of_false nofun nofun⟩
  operationAgain := by
    intro endpoint vbId s hs client e hdispatch
    subst hs
    exact if_pos hdispatch
  operationFailed := by
    intro endpoint vbId s hs client e hdispatch
    subst hs
    have hafter : @after kvClient resp (.known id) (.operation id vbId client) (.error e) =
        failed e.into := if_neg (Bool.eq_false_iff.mp hdispatch)
    show Handed _ _ _ _ _ (@after kvClient resp (.known id) (.operation id vbId client) (.error e))
    rw [hafter]
    exact handed_failed scopeName collectionName json endpoint e.into

end Keeps

/-- The standing between two attempts. -/
def Rests (scopeName collectionName : String) (standing : Standing) : Prop :=
  if isDefaultCollection scopeName collectionName then standing = .default
  else standing ≠ .default ∧ standing ≠ .outdated

theorem rests_start (scopeName collectionName : String) :
    Rests scopeName collectionName (start scopeName collectionName) := by
  unfold Rests start
  split
  · rfl
  · exact ⟨nofun, nofun⟩

theorem invalidated {scopeName collectionName : String} {result : Except Error resp}
    {standing : Standing} (hnamed : isDefaultCollection scopeName collectionName = false)
    (h : Left result standing) :
    if unknownResult result then
      (@monitor kvClient resp scopeName collectionName).allows standing
          (.invalidateCollectionId scopeName collectionName) ∧
        Rests scopeName collectionName (@after kvClient resp standing
          (.invalidateCollectionId scopeName collectionName) ())
    else Rests scopeName collectionName standing := by
  unfold Rests
  rw [hnamed]
  split
  · rename_i hunknown
    rw [h.2.mpr hunknown]
    exact ⟨rfl, nofun, nofun⟩
  · rename_i hknown
    exact ⟨h.1, fun houtdated => hknown (h.2.mp houtdated)⟩

theorem keeps_once (rounds : Nat) {standing : Standing}
    (h : Rests crud.scopeName crud.collectionName standing) :
    (monitor crud.scopeName crud.collectionName).Keeps
      (fun _ t => Rests crud.scopeName crud.collectionName t)
      (crud.once json rounds : Orchestrated kvClient resp) standing := by
  cases hnamed : isDefaultCollection crud.scopeName crud.collectionName with
  | true =>
      have hrests (t : Standing) :
          Rests crud.scopeName crud.collectionName t <-> t = .default := by
        unfold Rests
        rw [hnamed]
        exact iff_of_eq rfl
      rw [hrests] at h
      subst h
      simp only [hrests]
      unfold SimpleCrud.once orchestrateMemdCollectionId
      rw [hnamed]
      exact (serves_default crud.scopeName crud.collectionName json).keeps crud.key rounds trivial
        (fun e => rfl) (fun endpoint vbId => rfl)
  | false =>
      have hstanding := h
      unfold Rests at hstanding
      rw [hnamed] at hstanding
      apply keeps_collectionId Left hnamed
      · cases standing with
        | default => exact absurd rfl hstanding.1
        | unknown => exact ⟨rfl, rfl⟩
        | known old => exact ⟨rfl, rfl⟩
        | outdated => exact absurd rfl hstanding.2
      · intro e
        cases standing with
        | default => exact absurd rfl hstanding.1
        | unknown => exact left_failed e
        | known old => exact left_failed e
        | outdated => exact absurd rfl hstanding.2
      · intro id rev
        have hknown : @after kvClient resp standing
            (.resolveCollectionId crud.scopeName crud.collectionName) (.ok (id, rev)) =
              .known id := by
          cases standing with
          | default => exact absurd rfl hstanding.1
          | unknown => rfl
          | known old => rfl
          | outdated => exact absurd rfl hstanding.2
        show Monitor.Keeps _ _ _ (after standing _ _)
        rw [hknown]
        exact (serves_known crud.scopeName crud.collectionName json id).keeps crud.key rounds
          trivial left_failed (fun endpoint vbId => rfl)
      · intro result t ht
        exact invalidated hnamed ht

end Standing

/-- The operation is invoked with id 0 in the default collection, which is neither resolved nor
invalidated.  In every other collection it is invoked with the id that was resolved last, and never
after an error that says that the collection is unknown: then the id is invalidated, and resolved
again, before anything else is asked. -/
theorem collection_id_current (run : Run overflowChecks json crud kvClient resp) :
    (Standing.monitor crud.scopeName crud.collectionName).Accepts
      (Standing.start crud.scopeName crud.collectionName) run.trace :=
  run.accepts (Standing.Rests crud.scopeName crud.collectionName)
    (fun rounds _ h => Standing.keeps_once rounds h)
    (Standing.rests_start crud.scopeName crud.collectionName)

/-!
# The server of the key
-/

/-- What is known of the server of the key. -/
inductive Route (kvClient : Type) where
  | unrouted
  | routed (endpoint : String) (vbId : UInt16)
  | connected (endpoint : String) (vbId : UInt16) (client : kvClient)
  /-- A server said that it does not serve the vbucket, and sent a config. -/
  | moved (config : TerseConfig) (endpoint : String)

namespace Route

/-- A client is asked for at the server that the key was routed to last, and the operation is
invoked with that client and the vbucket of the key.  A config is handed over at once, and no other
is ever handed over. -/
def allows (key : Buffer) : Route kvClient -> Ask kvClient -> Prop
  | .unrouted, .dispatchByKey k vbServerIdx => k = key ∧ vbServerIdx = 0
  | .unrouted, .resolveCollectionId _ _ => True
  | .unrouted, .invalidateCollectionId _ _ => True
  | .unrouted, _ => False
  | .routed endpoint _, q => q = .getEndpointClient endpoint
  | .connected _ vbId client, q => exists collectionId, q = .operation collectionId vbId client
  | .moved config endpoint, q => q = .notMyVbucketConfig config endpoint

def failed (json : SerdeJson) (endpoint : String) (e : Error) : Route kvClient :=
  match e.newConfig json endpoint with
  | some config => .moved config endpoint
  | none => .unrouted

def after (json : SerdeJson) :
    Route kvClient -> (q : Ask kvClient) -> Answer kvClient resp q -> Route kvClient
  | _, .dispatchByKey _ _, .ok (endpoint, vbId) => .routed endpoint vbId
  | .routed endpoint vbId, .getEndpointClient _, .ok client => .connected endpoint vbId client
  | .routed endpoint _, .getEndpointClient _, .error e => failed json endpoint e
  | .connected endpoint vbId _, .operation _ _ _, .error e =>
      if e.into.isDispatchError then .routed endpoint vbId else failed json endpoint e.into
  | _, _, _ => .unrouted

def monitor (json : SerdeJson) (key : Buffer) :
    Monitor (Ask kvClient) (Answer kvClient resp) (Route kvClient) :=
  { allows := allows key, after := after json }

variable (json : SerdeJson) (key : Buffer)

theorem handed_failed (endpoint : String) (e : Error) :
    Handed (@monitor kvClient resp json key) json (fun _ t => t = (.unrouted : Route kvClient))
      endpoint e (failed json endpoint e) := by
  unfold Handed failed
  cases e.newConfig json endpoint with
  | none => rfl
  | some config => exact ⟨rfl, rfl⟩

theorem serves (collectionId : UInt32) :
    Serves (@monitor kvClient resp json key) json (fun _ t => t = (.unrouted : Route kvClient))
      collectionId (fun endpoint vbId s => s = .routed endpoint vbId) where
  clientAllowed := by
    intro endpoint vbId s hs
    subst hs
    rfl
  clientFailed := by
    intro endpoint vbId s hs e
    subst hs
    exact handed_failed json key endpoint e
  operationAllowed := by
    intro endpoint vbId s hs client
    subst hs
    exact ⟨collectionId, rfl⟩
  operationDone := by
    intro endpoint vbId s hs client r
    subst hs
    rfl
  operationAgain := by
    intro endpoint vbId s hs client e hdispatch
    subst hs
    exact if_pos hdispatch
  operationFailed := by
    intro endpoint vbId s hs client e hdispatch
    subst hs
    have hafter : @after kvClient resp json (.connected endpoint vbId client)
        (.operation collectionId vbId client) (.error e) = failed json endpoint e.into :=
      if_neg (Bool.eq_false_iff.mp hdispatch)
    show Handed _ _ _ _ _ (@after kvClient resp json (.connected endpoint vbId client)
      (.operation collectionId vbId client) (.error e))
    rw [hafter]
    exact handed_failed json key endpoint e.into

theorem keeps_once (rounds : Nat) :
    (monitor json crud.key).Keeps (fun _ t => t = .unrouted)
      (crud.once json rounds : Orchestrated kvClient resp) .unrouted := by
  have hserves (collectionId : UInt32) :
      (monitor json crud.key).Keeps (fun _ t => t = .unrouted)
        (orchestrateMemdRouting json crud.key 0 fun endpoint vbId =>
          orchestrateEndpointKvClient endpoint (invoke collectionId vbId) rounds :
          Orchestrated kvClient resp) .unrouted :=
    (serves json crud.key collectionId).keeps crud.key rounds ⟨rfl, rfl⟩ (fun e => rfl)
      (fun endpoint vbId => rfl)
  cases hnamed : isDefaultCollection crud.scopeName crud.collectionName with
  | true =>
      unfold SimpleCrud.once orchestrateMemdCollectionId
      rw [hnamed]
      exact hserves 0
  | false =>
      apply keeps_collectionId (fun _ t => t = .unrouted) hnamed trivial (fun e => rfl)
      · intro id rev
        exact hserves id
      · intro result t ht
        rw [ht]
        split
        · exact ⟨trivial, rfl⟩
        · rfl

end Route

/-- The operation is invoked only with the vbucket of the key and a client of the server that the
key was routed to last, and after any error but one of dispatch the key is routed again first.  A
readable config of a not-my-vbucket response is handed over before anything else is asked, once,
with the endpoint it came from, and no other config is handed over. -/
theorem route_current (run : Run overflowChecks json crud kvClient resp) :
    (Route.monitor json crud.key).Accepts .unrouted run.trace := by
  apply run.accepts (fun t => t = .unrouted) _ rfl
  intro rounds t ht
  subst ht
  exact Route.keeps_once json rounds

/-!
# At most once
-/

/-- The reply to an invocation of the operation, if there is one yet. -/
abbrev Reply (resp : Type) := Option (Except OperationError resp)

def invocation : Asked (Ask kvClient) (Answer kvClient resp) -> Option (Reply resp)
  | { question := .operation _ _ _, reply := reply } => some reply
  | _ => none

/-- The replies of an attempt, with the error map there was when the attempt had ended. -/
def Attempt.invocations (attempt : Attempt kvClient resp) :
    List (ErrMapComponent.State × Reply resp) :=
  (attempt.trace.filterMap invocation).map fun reply => (attempt.errMap, reply)

/-- Every invocation of the operation so far. -/
def Run.invocations (run : Run overflowChecks json crud kvClient resp) :
    List (ErrMapComponent.State × Reply resp) :=
  run.failed.flatMap (fun p => p.1.invocations) ++ run.current.invocations

/-- There is a reply, and it is an error that says that nothing was executed. -/
def NotExecuted : ErrMapComponent.State × Reply resp -> Prop
  | (errMap, some (.error e)) => cannotHaveExecuted errMap e.into.err.kind = true
  | _ => False

namespace Reply

/-- The reply lets the next client be tried. -/
def Undispatched : Reply resp -> Prop
  | some (.error e) => e.into.isDispatchError = true
  | _ => False

/-- The operation is invoked as long as it was not dispatched.  The state is what was replied so
far. -/
def monitor : Monitor (Ask kvClient) (Answer kvClient resp) (List (Reply resp)) where
  allows := fun replies q =>
    match q with
    | .operation _ _ _ => forall r, r ∈ replies -> Undispatched r
    | _ => True
  after := fun replies q a => replies ++ (invocation { question := q, reply := some a }).toList

theorem next_replied {asked : Asked (Ask kvClient) (Answer kvClient resp)}
    (h : asked.reply.isSome = true) (replies : List (Reply resp)) :
    monitor.next replies asked = replies ++ (invocation asked).toList := by
  rcases asked with ⟨q, reply⟩
  cases reply with
  | none => cases h
  | some a => rfl

theorem finish_replied {trace : List (Asked (Ask kvClient) (Answer kvClient resp))}
    (h : forall asked, asked ∈ trace -> asked.reply.isSome = true) (replies : List (Reply resp)) :
    monitor.finish replies trace = replies ++ trace.filterMap invocation := by
  induction trace generalizing replies with
  | nil => exact (List.append_nil replies).symm
  | cons asked trace ih =>
      have hrest := ih (fun asked hasked => h asked (List.mem_cons_of_mem _ hasked))
        (replies ++ (invocation asked).toList)
      show monitor.finish (monitor.next replies asked) trace = _
      rw [next_replied (h asked List.mem_cons_self), hrest, List.append_assoc, List.filterMap_cons]
      cases invocation asked with
      | none => rfl
      | some r => rfl

theorem undispatched_dropLast {trace : List (Asked (Ask kvClient) (Answer kvClient resp))}
    (hreplied : forall asked, asked ∈ trace.dropLast -> asked.reply.isSome = true)
    {replies : List (Reply resp)} (h : monitor.Accepts replies trace)
    (hreplies : forall r, r ∈ replies.dropLast -> Undispatched r) :
    forall r, r ∈ (replies ++ trace.filterMap invocation).dropLast -> Undispatched r := by
  induction trace generalizing replies with
  | nil =>
      rw [List.filterMap_nil, List.append_nil]
      exact hreplies
  | cons asked trace ih =>
      have hall {r : Reply resp} (hr : invocation asked = some r) :
          forall r, r ∈ replies -> Undispatched r := by
        rcases asked with ⟨q, reply⟩
        cases q with
        | operation collectionId vbId client => exact h.1
        | _ => cases hr
      cases trace with
      | nil =>
          cases hasked : invocation asked with
          | none =>
              rw [List.filterMap_cons_none hasked, List.filterMap_nil, List.append_nil]
              exact hreplies
          | some r =>
              rw [List.filterMap_cons_some hasked, List.filterMap_nil, List.dropLast_concat]
              exact hall hasked
      | cons second rest =>
          have hreply := hreplied asked List.mem_cons_self
          have haccepts := h.2
          rw [next_replied hreply] at haccepts
          have hrest := ih (fun asked hasked => hreplied asked (List.mem_cons_of_mem _ hasked))
            haccepts
          cases hasked : invocation asked with
          | none =>
              rw [hasked, Option.toList_none, List.append_nil] at hrest
              rw [List.filterMap_cons_none hasked]
              exact hrest hreplies
          | some r =>
              rw [hasked, Option.toList_some, List.dropLast_concat, List.append_assoc] at hrest
              rw [List.filterMap_cons_some hasked]
              exact hrest (hall hasked)

end Reply

/-- A failure that was let through each time. -/
theorem retried_of_invoked {strategy : RetryStrategy} (failures : List Retry.Failure)
    (request : Retry.RetryRequest)
    (h : (orchestrateRetries overflowChecks strategy request
      (failures.map .error : List (Retry.Outcome resp))).ending = .invoked) :
    (orchestrateRetries overflowChecks strategy request
      (failures.map .error : List (Retry.Outcome resp))).retried.map Retry.Retried.failure = failures := by
  induction failures generalizing request with
  | nil => rfl
  | cons failure failures ih =>
      rw [List.map_cons, orchestrateRetries] at h ⊢
      rcases hreason : Retry.errorToRetryReason failure.errMap request failure.err with
        ⟨reason, noted⟩
      rw [hreason] at h
      cases reason with
      | none => cases h
      | some reason =>
          dsimp only at h ⊢
          cases hretry : Retry.maybeRetry overflowChecks strategy noted reason with
          | ok v =>
              rcases v with ⟨duration, counted⟩
              rw [hretry] at h
              cases duration with
              | none => cases h
              | some duration => exact congrArg (failure :: ·) (ih counted h)
          | err e => cases e
          | panic =>
              rw [hretry] at h
              cases h

/-- An error of the operation that is retried says that nothing was executed. -/
theorem notExecuted_of_retried {errMap : ErrMapComponent.State} {e : OperationError}
    {reason : Retry.RetryReason} (h : Retry.retryReason errMap e.into.err.kind = some reason)
    (hgoes : Retry.goesOn reason = true) : @NotExecuted resp (errMap, some (.error e)) := by
  apply (Retry.cannotHaveExecuted_iff h hgoes).mpr
  cases e with
  | memdx e config => rfl
  | compression msg => cases h

theorem notExecuted_of_undispatched {errMap : ErrMapComponent.State} {r : Reply resp}
    (h : Reply.Undispatched r) : NotExecuted (errMap, r) := by
  unfold Reply.Undispatched at h
  split at h
  · rename_i e
    show cannotHaveExecuted errMap e.into.err.kind = true
    unfold Error.isDispatchError at h
    split at h
    · rename_i hkind
      rw [hkind]
      rfl
    · cases h
  · exact h.elim

namespace Reply

/-- The last reply is the result, and no other was dispatched. -/
def Settled (result : Except Error resp) (replies : List (Reply resp)) : Prop :=
  forall r, r ∈ replies -> Undispatched r ∨
    exists reply, r = some reply ∧ reply.mapError OperationError.into = result

theorem settled_of_undispatched {replies : List (Reply resp)} (result : Except Error resp)
    (h : forall r, r ∈ replies -> Undispatched r) : Settled result replies :=
  fun r hr => Or.inl (h r hr)

theorem settled_concat {replies : List (Reply resp)}
    (h : forall r, r ∈ replies -> Undispatched r) (reply : Except OperationError resp) :
    Settled (reply.mapError OperationError.into) (replies ++ [some reply]) := by
  intro r hr
  rcases List.mem_append.mp hr with hr | hr
  · exact Or.inl (h r hr)
  · rw [List.mem_singleton] at hr
    exact Or.inr ⟨reply, hr, rfl⟩

theorem handed {replies : List (Reply resp)} (json : SerdeJson) (endpoint : String) {e : Error}
    (h : Settled (.error e) replies) :
    Handed (@monitor kvClient resp) json Settled endpoint e replies := by
  unfold Handed
  split
  · exact h
  · refine ⟨trivial, ?_⟩
    show Settled _ (replies ++ [])
    rw [List.append_nil]
    exact h

theorem serves (json : SerdeJson) (collectionId : UInt32) :
    Serves (@monitor kvClient resp) json Settled collectionId
      (fun _ _ replies => forall r, r ∈ replies -> Undispatched r) where
  clientAllowed := by
    intro endpoint vbId replies h
    trivial
  clientFailed := by
    intro endpoint vbId replies h e
    show Handed _ _ _ _ _ (replies ++ [])
    rw [List.append_nil]
    exact handed json endpoint (settled_of_undispatched _ h)
  operationAllowed := by
    intro endpoint vbId replies h client
    show forall r, r ∈ replies ++ [] -> _
    rw [List.append_nil]
    exact h
  operationDone := by
    intro endpoint vbId replies h client r
    show Settled _ ((replies ++ []) ++ [some (.ok r)])
    rw [List.append_nil]
    exact settled_concat h (.ok r)
  operationAgain := by
    intro endpoint vbId replies h client e hdispatch
    show forall r, r ∈ (replies ++ []) ++ [some (.error e)] -> _
    rw [List.append_nil]
    intro r hr
    rcases List.mem_append.mp hr with hr | hr
    · exact h r hr
    · rw [List.mem_singleton.mp hr]
      exact hdispatch
  operationFailed := by
    intro endpoint vbId replies h client e hdispatch
    show Handed _ _ _ _ _ ((replies ++ []) ++ [some (.error e)])
    rw [List.append_nil]
    exact handed json endpoint (settled_concat h (.error e))

theorem keeps_once (rounds : Nat) :
    monitor.Keeps Settled (crud.once json rounds : Orchestrated kvClient resp) [] := by
  have hnone : forall r, r ∈ ([] : List (Reply resp)) -> Undispatched r :=
    fun r hr => absurd hr List.not_mem_nil
  have hserves (collectionId : UInt32) :
      monitor.Keeps Settled
        (orchestrateMemdRouting json crud.key 0 fun endpoint vbId =>
          orchestrateEndpointKvClient endpoint (invoke collectionId vbId) rounds :
          Orchestrated kvClient resp) [] :=
    (serves json collectionId).keeps crud.key rounds trivial
      (fun e => settled_of_undispatched _ hnone) (fun endpoint vbId => hnone)
  cases hnamed : isDefaultCollection crud.scopeName crud.collectionName with
  | true =>
      unfold SimpleCrud.once orchestrateMemdCollectionId
      rw [hnamed]
      exact hserves 0
  | false =>
      apply keeps_collectionId Settled hnamed trivial
        (fun e => settled_of_undispatched _ hnone)
      · intro id rev
        exact hserves id
      · intro result replies h
        split
        · refine ⟨trivial, ?_⟩
          show Settled _ (replies ++ [])
          rw [List.append_nil]
          exact h
        · exact h

end Reply

/-- The failures of a run were let through by the strategy of best effort. -/
theorem Run.goesOn (run : Run overflowChecks json crud kvClient resp) {backoff : UInt32 -> Nat}
    (hstrategy : crud.retryStrategy = bestEffort backoff)
    (hrequest : crud.retryInfo.isIdempotent = false) {p : Attempt kvClient resp × Error}
    (hp : p ∈ run.failed) : exists reason,
      Retry.retryReason p.1.errMap p.2.err.kind = some reason ∧ Retry.goesOn reason = true := by
  have hretried := run.retried
  rw [hstrategy] at hretried
  have hmem : p.1.failure p.2 ∈ run.failed.map fun p => p.1.failure p.2 :=
    List.mem_map.mpr ⟨p, hp, rfl⟩
  rw [← retried_of_invoked _ _ hretried] at hmem
  rcases List.mem_map.mp hmem with ⟨r, hr, hfailure⟩
  have hgoes := (Retry.runs_orchestrateRetries overflowChecks backoff _ crud.retryInfo
    hrequest).goesOn r hr
  rw [hfailure] at hgoes
  exact ⟨r.reason, hgoes⟩

theorem notExecuted_of_failed {rounds : Nat} {attempt : Attempt kvClient resp} {e : Error}
    {reason : Retry.RetryReason}
    (hruns : (crud.once json rounds).Runs attempt.trace (some (.error e)))
    (hreason : Retry.retryReason attempt.errMap e.err.kind = some reason)
    (hgoes : Retry.goesOn reason = true) :
    forall i, i ∈ attempt.invocations -> NotExecuted i := by
  have hsettled := ((Reply.keeps_once rounds).accepts hruns).2 _ rfl
  rw [Reply.finish_replied (hruns.replied.2 rfl), List.nil_append] at hsettled
  intro i hi
  rcases List.mem_map.mp hi with ⟨r, hr, rfl⟩
  rcases hsettled r hr with hundispatched | ⟨reply, rfl, hreply⟩
  · exact notExecuted_of_undispatched hundispatched
  · cases reply with
    | ok r => cases hreply
    | error operationError =>
        cases hreply
        exact notExecuted_of_retried hreason hgoes

theorem notExecuted_dropLast {rounds : Nat} {attempt : Attempt kvClient resp}
    {result : Option (Except Error resp)}
    (hruns : (crud.once json rounds).Runs attempt.trace result) :
    forall i, i ∈ attempt.invocations.dropLast -> NotExecuted i := by
  intro i hi
  unfold Attempt.invocations at hi
  rw [← List.map_dropLast] at hi
  rcases List.mem_map.mp hi with ⟨r, hr, rfl⟩
  have haccepts := ((Reply.keeps_once rounds).accepts hruns).1
  have hnone : forall r, r ∈ ([] : List (Reply resp)) -> Reply.Undispatched r :=
    fun r hr => absurd hr List.not_mem_nil
  exact notExecuted_of_undispatched
    (Reply.undispatched_dropLast hruns.replied.1 haccepts hnone r hr)

/-- Under the strategy of best effort, and for an operation that is not idempotent, every
invocation but the last one was answered with an error that says that nothing was executed. -/
theorem executed_at_most_once (run : Run overflowChecks json crud kvClient resp)
    {backoff : UInt32 -> Nat} (hstrategy : crud.retryStrategy = bestEffort backoff)
    (hrequest : crud.retryInfo.isIdempotent = false) :
    forall i, i ∈ run.invocations.dropLast -> NotExecuted i := by
  have hfailed : forall i, i ∈ run.failed.flatMap (fun p => p.1.invocations) ->
      NotExecuted i := by
    intro i hi
    rcases List.mem_flatMap.mp hi with ⟨p, hp, hmem⟩
    rcases run.goesOn hstrategy hrequest hp with ⟨reason, hreason, hgoes⟩
    exact notExecuted_of_failed (run.failed_runs p hp) hreason hgoes i hmem
  intro i hi
  unfold Run.invocations at hi
  by_cases hnil : run.current.invocations = []
  · rw [hnil, List.append_nil] at hi
    exact hfailed i (List.mem_of_mem_dropLast hi)
  · rw [List.dropLast_append_of_ne_nil hnil] at hi
    rcases List.mem_append.mp hi with hi | hi
    · exact hfailed i hi
    · exact notExecuted_dropLast run.current_runs i hi

end Runs

def upsertHotel : SimpleCrud RetryStrategy Empty :=
  upsert (fun datatype value => .ok (value, datatype))
    (UpsertOptions.new (bestEffort fun _ => 1) [49] "inventory" "hotel" [123, 125])

def notDispatched : OperationError :=
  .memdx (.dispatch 7 .set) none

def temporaryFailure : OperationError :=
  .memdx (.server { kind := .tmpFail, opaqueId := 8 }) none

/-- A first client is closed when the request is to be written, and the node of the second one
cannot serve it now. -/
def refusedUpsert : Attempt String Unit where
  rounds := 2
  trace :=
    [{ question := .resolveCollectionId "inventory" "hotel", reply := some (.ok (9, 1)) },
      { question := .dispatchByKey [49] 0, reply := some (.ok ("10.0.0.1:11210", 5)) },
      { question := .getEndpointClient "10.0.0.1:11210", reply := some (.ok "first") },
      { question := .operation 9 5 "first", reply := some (.error notDispatched) },
      { question := .getEndpointClient "10.0.0.1:11210", reply := some (.ok "second") },
      { question := .operation 9 5 "second", reply := some (.error temporaryFailure) }]
  errMap := ErrMapComponent.new

def pendingUpsert : Attempt String Unit where
  rounds := 1
  trace :=
    [{ question := .resolveCollectionId "inventory" "hotel", reply := some (.ok (9, 1)) },
      { question := .dispatchByKey [49] 0, reply := some (.ok ("10.0.0.1:11210", 5)) },
      { question := .getEndpointClient "10.0.0.1:11210", reply := some (.ok "second") },
      { question := .operation 9 5 "second", reply := none }]
  errMap := ErrMapComponent.new

theorem runs_refusedUpsert : (upsertHotel.once hostReader 2).Runs refusedUpsert.trace
    (some (.error temporaryFailure.into)) := by
  unfold SimpleCrud.once orchestrateMemdCollectionId
  rw [if_neg (by decide)]
  refine Calls.Runs.answered _ ?_
  refine Calls.Runs.answered _ ?_
  refine Calls.Runs.answered _ ?_
  refine Calls.Runs.answered _ ?_
  refine Calls.Runs.answered _ ?_
  refine Calls.Runs.answered _ ?_
  exact .gave _

theorem runs_pendingUpsert : (upsertHotel.once hostReader 1).Runs pendingUpsert.trace none := by
  unfold SimpleCrud.once orchestrateMemdCollectionId
  rw [if_neg (by decide)]
  refine Calls.Runs.answered _ ?_
  refine Calls.Runs.answered _ ?_
  refine Calls.Runs.answered _ ?_
  exact .asked _ _

theorem runs_failedUpsert (p : Attempt String Unit × Error)
    (hp : p ∈ [(refusedUpsert, temporaryFailure.into)]) :
    (upsertHotel.once hostReader p.1.rounds).Runs p.1.trace (some (.error p.2)) := by
  rw [List.mem_singleton.mp hp]
  exact runs_refusedUpsert

def retriedUpsert : Run true hostReader upsertHotel String Unit where
  failed := [(refusedUpsert, temporaryFailure.into)]
  current := pendingUpsert
  result := none
  failed_runs := runs_failedUpsert
  retried := rfl
  current_runs := runs_pendingUpsert

theorem executed_at_most_once_upsert : retriedUpsert.invocations.length = 3 ∧
    forall i, i ∈ retriedUpsert.invocations.dropLast -> NotExecuted i :=
  ⟨rfl, executed_at_most_once retriedUpsert
    (show upsertHotel.retryStrategy = bestEffort fun _ => 1 from rfl) rfl⟩

end Crud
end CouchbaseSdk
