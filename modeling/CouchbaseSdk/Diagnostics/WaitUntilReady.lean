import CouchbaseSdk.Retry.Model

/-!
# Waiting for services

`wait_until_ready` pings the services in rounds until all of them are in the desired state.
Where a service has no endpoint the two states disagree about it, and a round can be ready
with no ping at all.
-/

namespace CouchbaseSdk
namespace Diagnostics

open Foundation
open Retry (RetryRequest RetryStrategy maybeRetry)

inductive ServiceType where
  | memd | mgmt | query | search | eventing | analytics
  | other (val : String)
deriving DecidableEq

inductive ClusterState where
  | online | degraded | offline
deriving DecidableEq

structure WaitUntilReadyOptions where
  desiredState : Option ClusterState
  serviceTypes : Option (List ServiceType)
  retryStrategy : RetryStrategy

inductive Error where
  | invalidArgument (msg : String) (arg : Option String)
  | message (msg : String)
deriving DecidableEq

section

variable {error response : Type}

/-!
# Pings
-/

/-- A ping of one connection of a pool: the babysitter may have no client for it. -/
inductive ConnectionPing (error response : Type) where
  | noClient (e : error)
  | pinged (result : Except error response)

def ConnectionPing.result : ConnectionPing error response -> Except error response
  | noClient e => .error e
  | pinged result => result

/-- `ping_all_clients` of a pool -/
def pingAllClients (pool : List (ConnectionPing error response)) :
    List (Except error response) :=
  pool.map ConnectionPing.result

/-- One round of pings.  The futures of the services end in any order. -/
structure Round (error response : Type) where
  query : Except error (List (Except error Unit))
  search : Except error (List (Except error Unit))
  kv : List (String × List (ConnectionPing error response))
  arrival : List Bool -> List Bool
  arrives : forall handles, (arrival handles).Perm handles

/-!
# Readiness
-/

def isPinged {value : Type} : Except error value -> Bool
  | .ok _ => true
  | .error _ => false

def inState {value : Type} (desiredState : ClusterState) (results : List (Except error value)) :
    Bool :=
  if desiredState = .online then results.all isPinged else results.any isPinged

def isHttpReady (pinged : Except error (List (Except error Unit)))
    (desiredState : ClusterState) : Bool :=
  match pinged with
  | .ok results => inState desiredState results
  | .error _ => false

def isQueryReady (round : Round error response) (desiredState : ClusterState) : Bool :=
  isHttpReady round.query desiredState

def isSearchReady (round : Round error response) (desiredState : ClusterState) : Bool :=
  isHttpReady round.search desiredState

def isKvReady (round : Round error response) (desiredState : ClusterState) : Bool :=
  let poolsOk := round.kv.map fun pool => inState desiredState (pingAllClients pool.2)
  poolsOk.all id

/-!
# The loop
-/

def handles (serviceTypes : List ServiceType) (round : Round error response)
    (desiredState : ClusterState) : List Bool :=
  (if serviceTypes.contains .query then [isQueryReady round desiredState] else []) ++
    (if serviceTypes.contains .search then [isSearchReady round desiredState] else []) ++
    (if serviceTypes.contains .memd then [isKvReady round desiredState] else [])

/-- The first service that is not ready ends the wait for the others. -/
def awaitAll : List Bool -> Bool
  | [] => true
  | ready :: rest => if !ready then false else awaitAll rest

def allReady (serviceTypes : List ServiceType) (round : Round error response)
    (desiredState : ClusterState) : Bool :=
  awaitAll (round.arrival (handles serviceTypes round desiredState))

inductive Ending where
  /-- No more rounds have been pinged. -/
  | pinging
  | returned (result : Except Error Unit)
  | panicked
deriving DecidableEq

structure Waited where
  /-- How long it slept after each round. -/
  slept : List Nat
  ending : Ending

def rounds (overflowChecks : Bool) (strategy : RetryStrategy) (serviceTypes : List ServiceType)
    (desiredState : ClusterState) : RetryRequest -> List (Round error response) -> Waited
  | _, [] => { slept := [], ending := .pinging }
  | retryInfo, round :: more =>
      if allReady serviceTypes round desiredState then { slept := [], ending := .returned (.ok ()) }
      else
        match maybeRetry overflowChecks strategy retryInfo .notReady with
        | .ok (some duration, retryInfo) =>
            let next := rounds overflowChecks strategy serviceTypes desiredState retryInfo more
            { next with slept := duration :: next.slept }
        | .ok (none, _) =>
            { slept := []
              ending := .returned
                (.error (.message "retry manager indicated no retry, this is a bug")) }
        | .err e => nomatch e
        | .panic => { slept := [], ending := .panicked }

def chooseServices (opts : WaitUntilReadyOptions) (availableServices : List ServiceType) :
    List ServiceType :=
  match opts.serviceTypes with
  | some st => if st.isEmpty then availableServices else st
  | none => availableServices

def waitUntilReady (overflowChecks : Bool) (opts : WaitUntilReadyOptions)
    (availableServices : List ServiceType) (pinged : List (Round error response)) : Waited :=
  let desiredState := opts.desiredState.getD .online
  if desiredState = .offline then
    { slept := []
      ending := .returned
        (.error (.invalidArgument "cannot be Offline" (some "desired_state"))) }
  else
    rounds overflowChecks opts.retryStrategy (chooseServices opts availableServices) desiredState
      (RetryRequest.new "wait_until_ready" true) pinged

variable {serviceTypes : List ServiceType} {round : Round error response}
  {desiredState : ClusterState}

theorem awaitAll_eq (ready : List Bool) : awaitAll ready = ready.all id := by
  induction ready with
  | nil => rfl
  | cons first rest ih =>
      cases first with
      | true => exact ih
      | false => rfl

theorem all_of_perm {ready ready' : List Bool} (h : ready.Perm ready') :
    ready.all id = ready'.all id := by
  rw [Bool.eq_iff_iff, List.all_eq_true, List.all_eq_true]
  exact ⟨fun hall b hb => hall b (h.mem_iff.mpr hb), fun hall b hb => hall b (h.mem_iff.mp hb)⟩

/-- The order in which the services answer makes no difference. -/
theorem allReady_iff : allReady serviceTypes round desiredState = true <->
    (.query ∈ serviceTypes -> isQueryReady round desiredState = true) ∧
      (.search ∈ serviceTypes -> isSearchReady round desiredState = true) ∧
      (.memd ∈ serviceTypes -> isKvReady round desiredState = true) := by
  unfold allReady
  rw [awaitAll_eq, all_of_perm (round.arrives _)]
  unfold handles
  rw [List.all_append, List.all_append, Bool.and_eq_true, Bool.and_eq_true, and_assoc]
  have hone : forall (service : ServiceType) (ready : Bool),
      (if serviceTypes.contains service then [ready] else []).all id = true <->
        (service ∈ serviceTypes -> ready = true) := by
    intro service ready
    by_cases hmem : service ∈ serviceTypes
    · rw [if_pos (List.contains_iff_mem.mpr hmem)]
      simp [hmem]
    · rw [if_neg fun h => hmem (List.contains_iff_mem.mp h)]
      simp [hmem]
  exact and_congr (hone _ _) (and_congr (hone _ _) (hone _ _))

/-!
# What a round shows
-/

/-- The wait ends well in this round, if it comes to it. -/
def ReturnsOk (opts : WaitUntilReadyOptions) (availableServices : List ServiceType)
    (desiredState : ClusterState) (round : Round error response) : Prop :=
  forall overflowChecks,
    (waitUntilReady overflowChecks { opts with desiredState := some desiredState }
      availableServices [round]).ending = .returned (.ok ())

theorem returnsOk_iff {opts : WaitUntilReadyOptions} {availableServices : List ServiceType}
    (hstate : desiredState ≠ .offline) :
    ReturnsOk opts availableServices desiredState round <->
      allReady (chooseServices opts availableServices) round desiredState = true := by
  have hrounds : forall overflowChecks,
      waitUntilReady overflowChecks { opts with desiredState := some desiredState }
        availableServices [round] =
      rounds overflowChecks opts.retryStrategy (chooseServices opts availableServices)
        desiredState (RetryRequest.new "wait_until_ready" true) [round] :=
    fun _ => if_neg hstate
  unfold ReturnsOk
  simp only [hrounds]
  unfold rounds
  constructor
  · intro h
    by_contra hready
    have hending := h true
    rw [if_neg hready] at hending
    split at hending
    · cases hending
    · cases hending
    · contradiction
    · cases hending
  · intro hready overflowChecks
    rw [if_pos hready]

/-- A run returns well only in a round that is ready by itself. -/
theorem exists_ready {overflowChecks : Bool} {strategy : RetryStrategy} {retryInfo : RetryRequest}
    {pinged : List (Round error response)}
    (h : (rounds overflowChecks strategy serviceTypes desiredState retryInfo pinged).ending =
      .returned (.ok ())) :
    exists round, round ∈ pinged ∧ allReady serviceTypes round desiredState = true := by
  induction pinged generalizing retryInfo with
  | nil => cases h
  | cons round more ih =>
      by_cases hready : allReady serviceTypes round desiredState = true
      · exact ⟨round, List.mem_cons_self, hready⟩
      · unfold rounds at h
        rw [if_neg hready] at h
        split at h
        · rcases ih h with ⟨later, hmem, hlater⟩
          exact ⟨later, List.mem_cons_of_mem round hmem, hlater⟩
        · cases h
        · contradiction
        · cases h

def Succeeded {value : Type} (results : List (Except error value)) : Prop :=
  exists value, .ok value ∈ results

/-- There was a successful ping of the service. -/
def Round.Answered (round : Round error response) : ServiceType -> Prop
  | .query => exists results, round.query = .ok results ∧ Succeeded results
  | .search => exists results, round.search = .ok results ∧ Succeeded results
  | .memd => exists pool, pool ∈ round.kv ∧ Succeeded (pingAllClients pool.2)
  | _ => False

/-- Online is more than degraded, and neither comes without an answer of each service. -/
structure Round.Sound (round : Round error response) (opts : WaitUntilReadyOptions)
    (availableServices : List ServiceType) : Prop where
  monotone : ReturnsOk opts availableServices .online round ->
    ReturnsOk opts availableServices .degraded round
  answered : forall desiredState, desiredState = .online ∨ desiredState = .degraded ->
    ReturnsOk opts availableServices desiredState round ->
      forall service, service ∈ chooseServices opts availableServices -> round.Answered service

def Faultless {value : Type} (results : List (Except error value)) : Prop :=
  forall e, .error e ∉ results

/-- No ping of the service has failed. -/
def Round.Unfailing (round : Round error response) : ServiceType -> Prop
  | .query => exists results, round.query = .ok results ∧ Faultless results
  | .search => exists results, round.search = .ok results ∧ Faultless results
  | .memd => forall pool, pool ∈ round.kv -> Faultless (pingAllClients pool.2)
  | _ => True

/-- The service has an endpoint, and every pool a connection. -/
def Round.Populated (round : Round error response) : ServiceType -> Prop
  | .query => round.query ≠ .ok []
  | .search => round.search ≠ .ok []
  | .memd => round.kv ≠ [] ∧ forall pool, pool ∈ round.kv -> pool.2 ≠ []
  | _ => True

/-- There is something to ping where nothing fails, and where there are no pools another
service does not answer. -/
structure Round.Solid (round : Round error response) (serviceTypes : List ServiceType) :
    Prop where
  populated : (forall service, service ∈ serviceTypes -> round.Unfailing service) ->
    forall service, service ∈ serviceTypes -> round.Populated service
  pools : .memd ∈ serviceTypes -> round.kv = [] ->
    (.query ∈ serviceTypes ∧ ¬ round.Answered .query) ∨
      (.search ∈ serviceTypes ∧ ¬ round.Answered .search)

/-!
# When a round is sound
-/

theorem isPinged_iff {value : Type} {result : Except error value} :
    isPinged result = true <-> exists value, result = .ok value := by
  cases result with
  | ok value => exact iff_of_true rfl ⟨value, rfl⟩
  | error e => exact iff_of_false Bool.false_ne_true fun ⟨_, h⟩ => by cases h

theorem online_iff {value : Type} {results : List (Except error value)} :
    inState .online results = true <-> Faultless results := by
  unfold inState
  rw [if_pos rfl, List.all_eq_true]
  constructor
  · intro hall e hmem
    rcases isPinged_iff.mp (hall _ hmem) with ⟨_, h⟩
    cases h
  · intro hfaultless result hmem
    cases result with
    | ok value => rfl
    | error e => exact absurd hmem (hfaultless e)

theorem degraded_iff {value : Type} {results : List (Except error value)} :
    inState .degraded results = true <-> Succeeded results := by
  unfold inState
  rw [if_neg (by decide), List.any_eq_true]
  constructor
  · intro ⟨result, hmem, hpinged⟩
    rcases isPinged_iff.mp hpinged with ⟨value, rfl⟩
    exact ⟨value, hmem⟩
  · intro ⟨value, hmem⟩
    exact ⟨.ok value, hmem, rfl⟩

/-- With nothing to ping there is no fault and no success. -/
theorem Faultless.succeeded {value : Type} {results : List (Except error value)}
    (h : Faultless results) (hne : results ≠ []) : Succeeded results := by
  cases results with
  | nil => exact absurd rfl hne
  | cons first rest =>
      cases first with
      | ok value => exact ⟨value, List.mem_cons_self⟩
      | error e => exact absurd List.mem_cons_self (h e)

theorem httpReady_iff {pinged : Except error (List (Except error Unit))} :
    isHttpReady pinged desiredState = true <->
      exists results, pinged = .ok results ∧ inState desiredState results = true := by
  cases pinged with
  | ok results =>
      constructor
      · exact fun h => ⟨results, rfl, h⟩
      · intro ⟨_, heq, h⟩
        cases heq
        exact h
  | error e => exact iff_of_false Bool.false_ne_true fun ⟨_, h, _⟩ => by cases h

theorem kvReady_iff : isKvReady round desiredState = true <->
    forall pool, pool ∈ round.kv -> inState desiredState (pingAllClients pool.2) = true := by
  unfold isKvReady
  rw [List.all_map, List.all_eq_true]
  rfl

/-- The three services that are pinged. -/
def OnlyPinged (serviceTypes : List ServiceType) : Prop :=
  forall service, service ∈ serviceTypes ->
    service = .query ∨ service = .search ∨ service = .memd

theorem allReady_online_iff (hservices : OnlyPinged serviceTypes) :
    allReady serviceTypes round .online = true <->
      forall service, service ∈ serviceTypes -> round.Unfailing service := by
  have hquery : isQueryReady round .online = true <-> round.Unfailing .query :=
    httpReady_iff.trans (exists_congr fun _ => and_congr_right fun _ => online_iff)
  have hsearch : isSearchReady round .online = true <-> round.Unfailing .search :=
    httpReady_iff.trans (exists_congr fun _ => and_congr_right fun _ => online_iff)
  have hmemd : isKvReady round .online = true <-> round.Unfailing .memd :=
    kvReady_iff.trans (forall₂_congr fun _ _ => online_iff)
  rw [allReady_iff, hquery, hsearch, hmemd]
  constructor
  · intro ⟨h1, h2, h3⟩ service hmem
    rcases hservices service hmem with rfl | rfl | rfl
    · exact h1 hmem
    · exact h2 hmem
    · exact h3 hmem
  · intro h
    exact ⟨h .query, h .search, h .memd⟩

theorem allReady_degraded_iff : allReady serviceTypes round .degraded = true <->
    (.query ∈ serviceTypes -> round.Answered .query) ∧
      (.search ∈ serviceTypes -> round.Answered .search) ∧
      (.memd ∈ serviceTypes ->
        forall pool, pool ∈ round.kv -> Succeeded (pingAllClients pool.2)) := by
  have hquery : isQueryReady round .degraded = true <-> round.Answered .query :=
    httpReady_iff.trans (exists_congr fun _ => and_congr_right fun _ => degraded_iff)
  have hsearch : isSearchReady round .degraded = true <-> round.Answered .search :=
    httpReady_iff.trans (exists_congr fun _ => and_congr_right fun _ => degraded_iff)
  have hmemd : isKvReady round .degraded = true <->
      forall pool, pool ∈ round.kv -> Succeeded (pingAllClients pool.2) :=
    kvReady_iff.trans (forall₂_congr fun _ _ => degraded_iff)
  rw [allReady_iff, hquery, hsearch, hmemd]

theorem pingAllClients_ne_nil {pool : List (ConnectionPing error response)} (h : pool ≠ []) :
    pingAllClients pool ≠ [] := by
  unfold pingAllClients
  rwa [Ne, List.map_eq_nil_iff]

/-- A service that has what to ping and does not fail has answered, in each of its pools. -/
theorem Round.Unfailing.succeeded (h : round.Unfailing .memd) (hpopulated : round.Populated .memd)
    (pool : String × List (ConnectionPing error response)) (hmem : pool ∈ round.kv) :
    Succeeded (pingAllClients pool.2) :=
  (h pool hmem).succeeded (pingAllClients_ne_nil (hpopulated.2 pool hmem))

theorem Round.Unfailing.answered {service : ServiceType} (h : round.Unfailing service)
    (hpopulated : round.Populated service)
    (hservice : service = .query ∨ service = .search ∨ service = .memd) :
    round.Answered service := by
  rcases hservice with rfl | rfl | rfl
  · rcases h with ⟨results, hresults, hfaultless⟩
    refine ⟨results, hresults, hfaultless.succeeded ?_⟩
    intro hnil
    exact hpopulated (hresults.trans (congrArg _ hnil))
  · rcases h with ⟨results, hresults, hfaultless⟩
    refine ⟨results, hresults, hfaultless.succeeded ?_⟩
    intro hnil
    exact hpopulated (hresults.trans (congrArg _ hnil))
  · rcases List.exists_mem_of_ne_nil _ hpopulated.1 with ⟨pool, hmem⟩
    exact ⟨pool, hmem, h.succeeded hpopulated pool hmem⟩

/-- What has answered has something to ping. -/
theorem Round.Answered.populated {service : ServiceType} (h : round.Answered service)
    (hpools : service = .memd ->
      forall pool, pool ∈ round.kv -> Succeeded (pingAllClients pool.2)) :
    round.Populated service := by
  cases service with
  | query =>
      rcases h with ⟨results, hresults, value, hmem⟩
      intro hnil
      rw [hresults] at hnil
      cases hnil
      cases hmem
  | search =>
      rcases h with ⟨results, hresults, value, hmem⟩
      intro hnil
      rw [hresults] at hnil
      cases hnil
      cases hmem
  | memd =>
      rcases h with ⟨pool, hmem, _⟩
      refine ⟨List.ne_nil_of_mem hmem, fun other hother hnil => ?_⟩
      rcases hpools rfl other hother with ⟨value, hvalue⟩
      rw [hnil] at hvalue
      cases hvalue
  | mgmt | eventing | analytics | other => exact h.elim

theorem Round.sound_of_solid {opts : WaitUntilReadyOptions} {availableServices : List ServiceType}
    (hservices : OnlyPinged (chooseServices opts availableServices))
    (h : round.Solid (chooseServices opts availableServices)) :
    round.Sound opts availableServices := by
  have honline : ReturnsOk opts availableServices .online round ->
      forall service, service ∈ chooseServices opts availableServices ->
        round.Unfailing service ∧ round.Populated service := by
    intro hreturns service hmem
    have hready := (returnsOk_iff (by decide)).mp hreturns
    have hunfailing := (allReady_online_iff hservices).mp hready
    exact ⟨hunfailing service hmem, h.populated hunfailing service hmem⟩
  constructor
  · intro hreturns
    refine (returnsOk_iff (by decide)).mpr (allReady_degraded_iff.mpr ⟨?_, ?_, ?_⟩)
    · intro hmem
      exact (honline hreturns _ hmem).1.answered (honline hreturns _ hmem).2 (by simp)
    · intro hmem
      exact (honline hreturns _ hmem).1.answered (honline hreturns _ hmem).2 (by simp)
    · intro hmem
      exact (honline hreturns _ hmem).1.succeeded (honline hreturns _ hmem).2
  · intro desiredState hstate hreturns service hmem
    rcases hstate with rfl | rfl
    · exact (honline hreturns service hmem).1.answered (honline hreturns service hmem).2
        (hservices service hmem)
    · have hready := (returnsOk_iff (by decide)).mp hreturns
      rcases allReady_degraded_iff.mp hready with ⟨hquery, hsearch, hmemd⟩
      rcases hservices service hmem with rfl | rfl | rfl
      · exact hquery hmem
      · exact hsearch hmem
      · cases hkv : round.kv with
        | nil =>
            rcases h.pools hmem hkv with ⟨hin, hnot⟩ | ⟨hin, hnot⟩
            · exact absurd (hquery hin) hnot
            · exact absurd (hsearch hin) hnot
        | cons pool rest =>
            have hpool : pool ∈ round.kv := by
              rw [hkv]
              exact List.mem_cons_self
            exact ⟨pool, hpool, hmemd hmem pool hpool⟩

theorem Round.solid_of_sound {opts : WaitUntilReadyOptions} {availableServices : List ServiceType}
    (hservices : OnlyPinged (chooseServices opts availableServices))
    (h : round.Sound opts availableServices) :
    round.Solid (chooseServices opts availableServices) := by
  constructor
  · intro hunfailing service hmem
    have honline : ReturnsOk opts availableServices .online round :=
      (returnsOk_iff (by decide)).mpr ((allReady_online_iff hservices).mpr hunfailing)
    have hdegraded := (returnsOk_iff (by decide)).mp (h.monotone honline)
    refine (h.answered .online (Or.inl rfl) honline service hmem).populated ?_
    intro hmemd
    exact (allReady_degraded_iff.mp hdegraded).2.2 (hmemd ▸ hmem)
  · intro hmem hkv
    by_contra hnot
    rw [not_or, not_and, not_and, not_not, not_not] at hnot
    have hdegraded : ReturnsOk opts availableServices .degraded round := by
      refine (returnsOk_iff (by decide)).mpr (allReady_degraded_iff.mpr ⟨hnot.1, hnot.2, ?_⟩)
      intro _ pool hpool
      rw [hkv] at hpool
      cases hpool
    rcases h.answered .degraded (Or.inr rfl) hdegraded .memd hmem with ⟨pool, hpool, _⟩
    rw [hkv] at hpool
    cases hpool

/-- A round is sound exactly if it is solid, for every choice among the services. -/
theorem round_sound_iff (opts : WaitUntilReadyOptions) (availableServices : List ServiceType)
    (hservices : OnlyPinged (chooseServices opts availableServices))
    (round : Round error response) :
    round.Sound opts availableServices <-> round.Solid (chooseServices opts availableServices) :=
  ⟨Round.solid_of_sound hservices, Round.sound_of_solid hservices⟩

end

/-- A node with two connections of which one fails, and no node with the query service. -/
def partlyUp : Round String Unit where
  query := .ok []
  search := .ok []
  kv := [("node1:11210", [.pinged (.ok ()), .noClient "closed"])]
  arrival := List.reverse
  arrives := List.reverse_perm

def waitFor (serviceTypes : List ServiceType) : WaitUntilReadyOptions where
  desiredState := none
  serviceTypes := some serviceTypes
  retryStrategy := Retry.bestEffort fun _ => 100

theorem round_sound_memd :
    partlyUp.Sound (waitFor [.memd]) [.query, .memd] <-> partlyUp.Solid [.memd] :=
  round_sound_iff (waitFor [.memd]) [.query, .memd]
    (fun _ h => Or.inr (Or.inr (List.mem_singleton.mp h))) partlyUp

/-- With no node that has the query service, it is online and not degraded. -/
theorem not_sound_query : ¬ partlyUp.Sound (waitFor [.query]) [.query, .memd] := by
  intro h
  have honline : ReturnsOk (waitFor [.query]) [.query, .memd] .online partlyUp :=
    fun _ => rfl
  rcases h.answered .online (Or.inl rfl) honline .query (List.mem_singleton_self _) with
    ⟨results, hresults, value, hmem⟩
  cases hresults
  cases hmem

end Diagnostics
end CouchbaseSdk
