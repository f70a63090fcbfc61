import CouchbaseSdk.Retry.Model

/-!
# What is invoked again

An operation that is not idempotent may be invoked again only where the server cannot have
executed it.  That is so for every reason the strategy of best effort lets through but one:
an HTTP request whose sending failed may have arrived.
-/

namespace CouchbaseSdk

/-!
# Refusals
-/

/-- The reply says that the request was not carried out. -/
def Memdx.ServerErrorKind.refuses (errMap : ErrMapComponent.State) :
    Memdx.ServerErrorKind -> Bool
  | .internalError | .syncWriteAmbiguous | .rangeScanCancelled | .subdoc => false
  | .unknownStatus status => errMap.shouldRetry status.toU16
  | _ => true

def Queryx.ServerErrorKind.refuses : Queryx.ServerErrorKind -> Bool
  | .parsingFailure | .authenticationFailure | .planningFailure | .preparedStatementFailure
  | .indexNotFound | .writeInReadOnlyMode | .scopeNotFound | .collectionNotFound
  | .invalidArgument _ _ => true
  | _ => false

/-- Nothing was sent, because there was no connection. -/
def Httpx.ErrorKind.notSent : Httpx.ErrorKind -> Bool
  | .connection _ => true
  | _ => false

namespace Retry

open Foundation

/-- A reply that refuses the request, or a request that was not routed, not written, or had
no connection. -/
def cannotHaveExecuted (errMap : ErrMapComponent.State) : ErrorKind -> Bool
  | .memdx (.server e) => e.kind.refuses errMap
  | .memdx (.resource e) => e.cause.kind.refuses errMap
  | .memdx (.dispatch _ _) | .memdx (.connectionFailed _) => true
  | .query (.server e) => e.kind.refuses
  | .query (.http error _ _ _) | .search (.http error _) | .analytics (.http error _ _ _)
  | .mgmt (.http error) => error.notSent
  | .search (.server e) => e.statusCode = 429
  | .noVbucketMap | .serviceNotAvailable _ | .noServerAssigned _ | .invalidVbucket _ _
  | .invalidReplica _ _ | .endpointNotKnown _ | .noEndpointsAvailable => true
  | _ => false

/-- An HTTP request that failed and that may have been sent. -/
def sendFailed : ErrorKind -> Bool
  | .query (.http (.sendRequest _) _ _ _) | .search (.http (.sendRequest _) _)
  | .analytics (.http (.sendRequest _) _ _ _) | .mgmt (.http (.sendRequest _)) => true
  | _ => false

theorem httpErrorToRetryReason_eq_some {error : Httpx.ErrorKind} {reason : RetryReason}
    (h : httpErrorToRetryReason error = some reason) :
    error.notSent = false ∧ exists msg, error = .sendRequest msg := by
  cases error with
  | sendRequest msg => exact ⟨rfl, msg, rfl⟩
  | connection msg => cases h
  | decoding msg => cases h
  | message msg => cases h

theorem serverErrorToRetryReason_refuses {errMap : ErrMapComponent.State}
    {kind : Memdx.ServerErrorKind} {reason : RetryReason}
    (h : serverErrorToRetryReason errMap kind = some reason) :
    kind.refuses errMap = true := by
  unfold serverErrorToRetryReason at h
  split at h
  case h_8 status =>
      split at h
      · assumption
      · cases h
  case h_9 => cases h
  all_goals rfl

/-- The strategy of best effort lets an operation that is not idempotent go on. -/
def goesOn (reason : RetryReason) : Bool :=
  reason.alwaysRetry || reason.allowsNonIdempotentRetry

theorem memdx_cannotHaveExecuted {errMap : ErrMapComponent.State} {e : Memdx.ErrorKind}
    {reason : RetryReason} (h : memdxErrorToRetryReason errMap e = some reason)
    (hgoes : goesOn reason = true) : cannotHaveExecuted errMap (.memdx e) = true := by
  cases e with
  | server e => exact serverErrorToRetryReason_refuses h
  | resource e => exact serverErrorToRetryReason_refuses h
  | dispatch opaqueId opCode => rfl
  | cancelled kind =>
      cases kind with
      | timeout => cases h
      | requestCancelled => cases h
      | closedInFlight =>
          cases h
          cases hgoes
  | connectionFailed msg => rfl
  | close msg => cases h
  | protocol msg => cases h
  | io => cases h
  | invalidArgument msg arg => cases h
  | decompression => cases h
  | message msg => cases h

theorem query_cannotHaveExecuted_iff {errMap : ErrMapComponent.State} {e : Queryx.ErrorKind}
    {reason : RetryReason} (h : queryErrorToRetryReason e = some reason) :
    cannotHaveExecuted errMap (.query e) = true <-> sendFailed (.query e) = false := by
  cases e with
  | server e =>
      rcases e with ⟨kind, code, msg⟩
      cases kind with
      | preparedStatementFailure => exact iff_of_true rfl rfl
      | indexNotFound => exact iff_of_true rfl rfl
      | _ => cases h
  | http error endpoint statement clientContextId =>
      rcases httpErrorToRetryReason_eq_some h with ⟨hsent, msg, rfl⟩
      exact iff_of_false nofun nofun
  | resource cause => cases h
  | message msg endpoint statement clientContextId => cases h
  | invalidArgument msg arg => cases h
  | encoding msg => cases h

theorem search_cannotHaveExecuted_iff {errMap : ErrMapComponent.State} {e : Searchx.ErrorKind}
    {reason : RetryReason} (h : searchErrorToRetryReason e = some reason) :
    cannotHaveExecuted errMap (.search e) = true <-> sendFailed (.search e) = false := by
  cases e with
  | server e =>
      unfold searchErrorToRetryReason at h
      dsimp only at h
      split at h
      · rename_i hcode
        exact iff_of_true (decide_eq_true hcode) rfl
      · cases h
  | http error endpoint =>
      rcases httpErrorToRetryReason_eq_some h with ⟨hsent, msg, rfl⟩
      exact iff_of_false nofun nofun
  | message msg endpoint => cases h
  | invalidArgument msg arg => cases h
  | encoding msg => cases h
  | unsupportedFeature feature => cases h

theorem cannotHaveExecuted_iff {errMap : ErrMapComponent.State} {kind : ErrorKind}
    {reason : RetryReason} (h : retryReason errMap kind = some reason)
    (hgoes : goesOn reason = true) :
    cannotHaveExecuted errMap kind = true <-> sendFailed kind = false := by
  cases kind with
  | memdx e => exact iff_of_true (memdx_cannotHaveExecuted h hgoes) rfl
  | query e => exact query_cannotHaveExecuted_iff h
  | search e => exact search_cannotHaveExecuted_iff h
  | analytics e =>
      cases e with
      | http error endpoint statement clientContextId =>
          rcases httpErrorToRetryReason_eq_some h with ⟨hsent, msg, rfl⟩
          exact iff_of_false nofun nofun
      | _ => cases h
  | mgmt e =>
      cases e with
      | http error =>
          rcases httpErrorToRetryReason_eq_some h with ⟨hsent, msg, rfl⟩
          exact iff_of_false nofun nofun
      | _ => cases h
  | noVbucketMap => exact iff_of_true rfl rfl
  | serviceNotAvailable service => exact iff_of_true rfl rfl
  | _ => cases h

/-!
# One failure
-/

theorem errorToRetryReason_eq (errMap : ErrMapComponent.State) (retryInfo : RetryRequest)
    (err : Error) : exists noted, errorToRetryReason errMap retryInfo err =
      (retryReason errMap err.kind, noted) ∧ noted.isIdempotent = retryInfo.isIdempotent ∧
        noted.retryAttempts = retryInfo.retryAttempts ∧
        noted.retryReasons = retryInfo.retryReasons := by
  unfold errorToRetryReason
  split
  · exact ⟨_, rfl, rfl, rfl, rfl⟩
  · exact ⟨retryInfo, rfl, rfl, rfl, rfl⟩

/-- The request after one more attempt. -/
def RetryRequest.counted (request : RetryRequest) (reason : RetryReason) : RetryRequest :=
  { request with
    retryAttempts := request.retryAttempts + 1
    retryReasons := insert reason request.retryReasons }

theorem addRetryAttempt_eq (overflowChecks : Bool) (request : RetryRequest)
    (reason : RetryReason) :
    request.addRetryAttempt overflowChecks reason = .ok (request.counted reason) ∨
      (request.addRetryAttempt overflowChecks reason = .panic ∧
        request.retryAttempts.toNat + 1 = UInt32.size) := by
  unfold RetryRequest.addRetryAttempt
  split
  · rename_i h
    rw [Bool.and_eq_true, decide_eq_true_iff] at h
    exact Or.inr ⟨rfl, h.2⟩
  · exact Or.inl rfl

theorem maybeRetry_goesOn (overflowChecks : Bool) (backoff : UInt32 -> Nat)
    {request : RetryRequest} {reason : RetryReason} (h : goesOn reason = true) :
    (exists duration, maybeRetry overflowChecks (bestEffort backoff) request reason =
      .ok (some duration, request.counted reason)) ∨
    (maybeRetry overflowChecks (bestEffort backoff) request reason = .panic ∧
      request.retryAttempts.toNat + 1 = UInt32.size) := by
  unfold maybeRetry
  cases halways : reason.alwaysRetry with
  | true =>
      rw [if_pos rfl]
      rcases addRetryAttempt_eq overflowChecks request reason with hok | ⟨hpanic, hfull⟩
      · exact Or.inl ⟨_, by rw [hok]; rfl⟩
      · exact Or.inr ⟨by rw [hpanic]; rfl, hfull⟩
  | false =>
      unfold goesOn at h
      rw [halways, Bool.false_or] at h
      rw [if_neg Bool.false_ne_true, bestEffort, h, Bool.or_true, if_pos rfl]
      rcases addRetryAttempt_eq overflowChecks request reason with hok | ⟨hpanic, hfull⟩
      · exact Or.inl ⟨_, by rw [hok]; rfl⟩
      · exact Or.inr ⟨by rw [hpanic]; rfl, hfull⟩

theorem maybeRetry_stops (overflowChecks : Bool) (backoff : UInt32 -> Nat)
    {request : RetryRequest} {reason : RetryReason} (hrequest : request.isIdempotent = false)
    (h : goesOn reason = false) :
    maybeRetry overflowChecks (bestEffort backoff) request reason = .ok (none, request) := by
  unfold goesOn at h
  rw [Bool.or_eq_false_iff] at h
  unfold maybeRetry
  rw [if_neg (Bool.eq_false_iff.mp h.1), bestEffort, hrequest, h.2]
  rfl

/-!
# All of them
-/

/-- The failures up to the first one that is not let through. -/
def letThrough {resp : Type} : List (Outcome resp) -> List Failure
  | .error failure :: outcomes =>
      if (retryReason failure.errMap failure.err.kind).any goesOn then
        failure :: letThrough outcomes
      else []
  | _ => []

section Run

variable {resp : Type} (overflowChecks : Bool) (backoff : UInt32 -> Nat)

/-- What is known of a run of an operation that is not idempotent. -/
structure Runs (retryInfo : RetryRequest) (outcomes : List (Outcome resp))
    (o : Orchestration resp) : Prop where
  retried : o.ending ≠ .panicked -> o.retried.map Retried.failure = letThrough outcomes
  goesOn : forall r, r ∈ o.retried ->
    retryReason r.failure.errMap r.failure.err.kind = some r.reason ∧ goesOn r.reason = true
  reasons : o.retryInfo.retryReasons =
    retryInfo.retryReasons ∪ (o.retried.map Retried.reason).toFinset
  room : retryInfo.retryAttempts.toNat + (letThrough outcomes).length < UInt32.size ->
    o.ending ≠ .panicked ∧
      o.retryInfo.retryAttempts.toNat =
        retryInfo.retryAttempts.toNat + (letThrough outcomes).length
  attached : forall err, o.ending = .returned (.error err) ->
    0 < o.retryInfo.retryAttempts -> err.retryInfo = some o.retryInfo

theorem runs_ended {retryInfo : RetryRequest} {outcomes : List (Outcome resp)}
    {ended : RetryRequest} {ending : Ending resp} (hnone : letThrough outcomes = [])
    (hending : ending ≠ .panicked) (hreasons : ended.retryReasons = retryInfo.retryReasons)
    (hattempts : ended.retryAttempts = retryInfo.retryAttempts)
    (hattached : forall err, ending = .returned (.error err) ->
      0 < ended.retryAttempts -> err.retryInfo = some ended) :
    Runs retryInfo outcomes { retried := [], retryInfo := ended, ending := ending } := by
  constructor
  case retried =>
      intro _
      exact hnone.symm
  case goesOn =>
      intro r hmem
      cases hmem
  case reasons => simp [hreasons]
  case room =>
      intro _
      rw [hnone, hattempts]
      exact ⟨hending, rfl⟩
  case attached => exact hattached

theorem giveUp_attached {retryInfo : RetryRequest} {err given : Error}
    (h : (Ending.returned (.error (giveUp retryInfo err)) : Ending resp) =
      .returned (.error given)) (hpos : 0 < retryInfo.retryAttempts) :
    given.retryInfo = some retryInfo := by
  cases h
  unfold giveUp
  rw [if_pos hpos]

theorem letThrough_cons {failure : Failure} {reason : RetryReason}
    (outcomes : List (Outcome resp))
    (hsome : retryReason failure.errMap failure.err.kind = some reason)
    (hgoes : goesOn reason = true) :
    letThrough (.error failure :: outcomes) = failure :: letThrough outcomes := by
  simp [letThrough, hsome, hgoes]

theorem counted_toNat {request : RetryRequest} {reason : RetryReason}
    (h : request.retryAttempts.toNat + 1 < UInt32.size) :
    (request.counted reason).retryAttempts.toNat = request.retryAttempts.toNat + 1 := by
  unfold RetryRequest.counted
  rw [UInt32.toNat_add]
  exact Nat.mod_eq_of_lt h

theorem runs_counted {retryInfo noted : RetryRequest} {failure : Failure}
    {reason : RetryReason} {outcomes : List (Outcome resp)} {next : Orchestration resp}
    (duration : Nat) (hsome : retryReason failure.errMap failure.err.kind = some reason)
    (hgoes : goesOn reason = true) (hattempts : noted.retryAttempts = retryInfo.retryAttempts)
    (hreasons : noted.retryReasons = retryInfo.retryReasons)
    (h : Runs (noted.counted reason) outcomes next) :
    Runs retryInfo (.error failure :: outcomes) { next with
      retried :=
        { failure := failure, reason := reason, duration := duration } :: next.retried } := by
  constructor
  case retried =>
      intro hending
      rw [letThrough_cons outcomes hsome hgoes, List.map_cons, h.retried hending]
  case goesOn =>
      intro r hmem
      rcases List.mem_cons.mp hmem with rfl | hmem
      · exact ⟨hsome, hgoes⟩
      · exact h.goesOn r hmem
  case reasons =>
      have hnext := h.reasons
      rw [RetryRequest.counted, hreasons] at hnext
      rw [hnext]
      simp
  case room =>
      intro hroom
      rw [letThrough_cons outcomes hsome hgoes, List.length_cons, ← hattempts] at hroom
      have hcounted : (noted.counted reason).retryAttempts.toNat =
          noted.retryAttempts.toNat + 1 := counted_toNat (by omega)
      rcases h.room (by omega) with ⟨hending, htotal⟩
      refine ⟨hending, ?_⟩
      rw [htotal, letThrough_cons outcomes hsome hgoes, List.length_cons, ← hattempts, hcounted]
      omega
  case attached => exact h.attached

theorem runs_panicked {retryInfo noted : RetryRequest} {failure : Failure}
    {reason : RetryReason} {outcomes : List (Outcome resp)}
    (hsome : retryReason failure.errMap failure.err.kind = some reason)
    (hgoes : goesOn reason = true) (hattempts : noted.retryAttempts = retryInfo.retryAttempts)
    (hreasons : noted.retryReasons = retryInfo.retryReasons)
    (hfull : noted.retryAttempts.toNat + 1 = UInt32.size) :
    Runs retryInfo (.error failure :: outcomes)
      { retried := [], retryInfo := noted, ending := .panicked } := by
  constructor
  case retried =>
      intro hending
      exact absurd rfl hending
  case goesOn =>
      intro r hmem
      cases hmem
  case reasons => simp [hreasons]
  case room =>
      intro hroom
      rw [letThrough_cons outcomes hsome hgoes, List.length_cons, ← hattempts] at hroom
      omega
  case attached =>
      intro err hending
      cases hending

theorem runs_orchestrateRetries (outcomes : List (Outcome resp)) (retryInfo : RetryRequest)
    (hrequest : retryInfo.isIdempotent = false) :
    Runs retryInfo outcomes
      (orchestrateRetries overflowChecks (bestEffort backoff) retryInfo outcomes) := by
  induction outcomes generalizing retryInfo with
  | nil => exact runs_ended rfl nofun rfl rfl (fun err h => nomatch h)
  | cons outcome outcomes ih =>
      cases outcome with
      | ok r => exact runs_ended rfl nofun rfl rfl (fun err h => nomatch h)
      | error failure =>
          rcases errorToRetryReason_eq failure.errMap retryInfo failure.err with
            ⟨noted, hreason, hidempotent, hattempts, hreasons⟩
          have hnoted : noted.isIdempotent = false := hidempotent.trans hrequest
          unfold orchestrateRetries
          rw [hreason]
          cases hsome : retryReason failure.errMap failure.err.kind with
          | none =>
              have hnone : letThrough (.error failure :: outcomes) = [] := by
                simp [letThrough, hsome]
              exact runs_ended hnone nofun hreasons hattempts (fun err => giveUp_attached)
          | some reason =>
              dsimp only
              cases hgoes : goesOn reason with
              | false =>
                  have hnone : letThrough (.error failure :: outcomes) = [] := by
                    simp [letThrough, hsome, hgoes]
                  rw [maybeRetry_stops overflowChecks backoff hnoted hgoes]
                  exact runs_ended hnone nofun hreasons hattempts (fun err => giveUp_attached)
              | true =>
                  rcases @maybeRetry_goesOn overflowChecks backoff noted reason hgoes with
                    ⟨duration, hok⟩ | ⟨hpanic, hfull⟩
                  · rw [hok]
                    have hnext := ih (noted.counted reason) hnoted
                    exact runs_counted duration hsome hgoes hattempts hreasons hnext
                  · rw [hpanic]
                    exact runs_panicked hsome hgoes hattempts hreasons hfull

end Run

/-!
# Safety
-/

/-- The run repeats only what cannot have been executed, and keeps account of it. -/
structure Safe {resp : Type} (o : Orchestration resp) : Prop where
  notExecuted : forall r, r ∈ o.retried ->
    cannotHaveExecuted r.failure.errMap r.failure.err.kind = true
  notPanicked : o.ending ≠ .panicked
  attempts : o.retryInfo.retryAttempts.toNat = o.retried.length
  reasons : o.retryInfo.retryReasons = (o.retried.map Retried.reason).toFinset
  attached : forall err, o.ending = .returned (.error err) -> o.retried ≠ [] ->
    err.retryInfo = some o.retryInfo

/-- A run is safe if and only if no failure that is let through is of an HTTP request that
may have been sent, and there are fewer of them than a `u32` can count. -/
theorem orchestrateRetries_safe_iff {resp : Type} (overflowChecks : Bool)
    (backoff : UInt32 -> Nat) (operation : String) (outcomes : List (Outcome resp)) :
    Safe (orchestrateRetries overflowChecks (bestEffort backoff)
        (RetryRequest.new operation false) outcomes) <->
      (forall failure, failure ∈ letThrough outcomes -> sendFailed failure.err.kind = false) ∧
        (letThrough outcomes).length < UInt32.size := by
  have hruns := runs_orchestrateRetries overflowChecks backoff outcomes
    (RetryRequest.new operation false) rfl
  generalize orchestrateRetries overflowChecks (bestEffort backoff)
    (RetryRequest.new operation false) outcomes = o at hruns
  have hstart : (RetryRequest.new operation false).retryAttempts.toNat = 0 := rfl
  constructor
  · intro hsafe
    have hretried := hruns.retried hsafe.notPanicked
    constructor
    · intro failure hmem
      rw [← hretried] at hmem
      rcases List.mem_map.mp hmem with ⟨r, hr, rfl⟩
      rcases hruns.goesOn r hr with ⟨hsome, hgoes⟩
      exact (cannotHaveExecuted_iff hsome hgoes).mp (hsafe.notExecuted r hr)
    · rw [← hretried, List.length_map, ← hsafe.attempts]
      exact o.retryInfo.retryAttempts.toNat_lt
  · intro ⟨hsent, hlength⟩
    have hroom := hruns.room
    rw [hstart, Nat.zero_add] at hroom
    rcases hroom hlength with ⟨hending, htotal⟩
    have hretried := hruns.retried hending
    have hattempts : o.retryInfo.retryAttempts.toNat = o.retried.length := by
      rw [htotal, ← hretried, List.length_map]
    constructor
    case notExecuted =>
        intro r hr
        rcases hruns.goesOn r hr with ⟨hsome, hgoes⟩
        refine (cannotHaveExecuted_iff hsome hgoes).mpr (hsent r.failure ?_)
        rw [← hretried]
        exact List.mem_map_of_mem hr
    case notPanicked => exact hending
    case attempts => exact hattempts
    case reasons => exact hruns.reasons.trans (Finset.empty_union _)
    case attached =>
        intro err herr hne
        refine hruns.attached err herr (UInt32.lt_iff_toNat_lt.mpr ?_)
        rw [hattempts]
        exact List.length_pos_iff.mpr hne

/-- A connection that breaks after the request of a query was written. -/
def brokenQuery : Failure :=
  { err :=
      { kind := .query (.http (.ofReqwest { isConnect := false
                                            isRequest := true
                                            text := "error sending request" })
          "http://10.0.0.1:8093" (some "INSERT INTO b VALUES (1, 2)") none)
        retryInfo := none }
    errMap := ErrMapComponent.new }

theorem orchestrateRetries_not_safe :
    ¬ forall (overflowChecks : Bool) (backoff : UInt32 -> Nat) (operation : String)
      (outcomes : List (Outcome Unit)) (r : Retried),
      r ∈ (orchestrateRetries overflowChecks (bestEffort backoff)
        (RetryRequest.new operation false) outcomes).retried ->
      cannotHaveExecuted r.failure.errMap r.failure.err.kind = true := by
  intro hall
  have hbroken := hall true (fun _ => 1) "query" [.error brokenQuery]
    { failure := brokenQuery, reason := .httpSendRequestFailed, duration := 1 }
    List.mem_cons_self
  exact absurd hbroken (by decide)

end Retry
end CouchbaseSdk
