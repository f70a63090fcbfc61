import CouchbaseSdk.Config.Hostname
import CouchbaseSdk.Foundation.FiniteMap
import CouchbaseSdk.Pool.Model

/-!
# The endpoint client manager

The manager has one pool for each endpoint.  Callers take a pool out of a published copy of
the table and call it later.  An update of the endpoints holds the lock of the table until
it has published the new one: it takes over the pools of the endpoints that stay, makes the
missing ones, and closes the rest.
-/

namespace CouchbaseSdk
namespace EndpointManager

open Foundation
open Pool (PoolClient)

abbrev Endpoint := String

/-- A pool, by its place in the order in which they were made. -/
abbrev PoolId := Nat

/-- A call of `get_client` or of `get_endpoint_client`, in the order of their starts. -/
abbrev CallId := Nat

abbrev ClientPools := FiniteMap Endpoint PoolId

inductive CallPhase where
  | unborn
  /-- The pool was taken out of the published table; its `get_client` comes next. -/
  | loaded (p : PoolId)
  /-- The call of the pool's `get_client` is under way. -/
  | asking (p : PoolId) (d : Pool.CallId)
  /-- The call returned a client, or an error. -/
  | returned (result : Option (PoolId × PoolClient))
  | panicked
deriving DecidableEq

/-- Where the update that holds the lock stands. -/
inductive Updater where
  | idle
  | building (rest : List Endpoint) (old new : ClientPools) (addOnly : Bool)
  /-- The first pool of the rest is being closed. -/
  | closing (rest : List PoolId) (new : ClientPools)

structure State where
  numPoolConnections : Nat
  onDemandConnect : Bool
  pools : PoolId -> Pool.State
  /-- How many pools were made. -/
  made : Nat
  /-- `slow_state.client_pools` -/
  slowState : ClientPools
  fastState : ClientPools
  updater : Updater
  calls : CallId -> CallPhase
  started : Nat

/-- The manager before its first update. -/
def initial (numPoolConnections : Nat) (onDemandConnect : Bool) : State :=
  { numPoolConnections := numPoolConnections
    onDemandConnect := onDemandConnect
    pools := fun _ => Pool.initial numPoolConnections onDemandConnect
    made := 0
    slowState := ∅
    fastState := ∅
    updater := .idle
    calls := fun _ => .unborn
    started := 0 }

def State.setPool (s : State) (p : PoolId) (t : Pool.State) : State :=
  { s with pools := Function.update s.pools p t }

def State.setCall (s : State) (k : CallId) (phase : CallPhase) : State :=
  { s with calls := Function.update s.calls k phase }

def State.start (s : State) (phase : CallPhase) : State :=
  { s.setCall s.started phase with started := s.started + 1 }

/-!
# Callers
-/

/-- The endpoint is the one that comes first when the table is iterated. -/
def getClient (s : State) (endpoint : Endpoint) : Option State :=
  match s.fastState.lookup endpoint with
  | some p => some (s.start (.loaded p))
  | none => if s.fastState.keys = [] then some (s.start (.returned none)) else none

def getEndpointClient (s : State) (endpoint : Endpoint) : State :=
  match s.fastState.lookup endpoint with
  | some p => s.start (.loaded p)
  | none => s.start (.returned none)

def ask (s : State) (k : CallId) : Option State :=
  match s.calls k with
  | .loaded p =>
      let t := s.pools p
      some ((s.setPool p (Pool.getClient t)).setCall k (.asking p t.started))
  | _ => none

def finish (s : State) (k : CallId) : Option State :=
  match s.calls k with
  | .asking p d =>
      match ((s.pools p).calls d).phase with
      | .returned result => some (s.setCall k (.returned (result.map (fun c => (p, c)))))
      | .panicked => some (s.setCall k .panicked)
      | _ => none
  | _ => none

/-!
# Pools
-/

def closes : Pool.Action -> Bool
  | .closeCancel | .closeSwap | .closeDrain | .closeBabysitter _ | .closeNext => true
  | _ => false

def starts : Pool.Action -> Bool
  | .getClient => true
  | _ => false

/-- A step of a pool other than one of its `close`, or the start of a call. -/
def pool (s : State) (p : PoolId) (a : Pool.Action) : Option State :=
  if p < s.made && !closes a && !starts a then
    (Pool.step (s.pools p) a).map (s.setPool p)
  else none

/-!
# Updates of the endpoints
-/

/-- The update takes the lock and the pools.  The keys of a map are distinct. -/
def updateEndpoints (s : State) (endpoints : List Endpoint) (addOnly : Bool) : Option State :=
  match s.updater with
  | .idle =>
      if endpoints.Nodup then
        some { s with
          slowState := ∅
          updater := .building endpoints s.slowState ∅ addOnly }
      else none
  | _ => none

def addAll (new old : ClientPools) : ClientPools :=
  old.entries.foldl (fun m item => m.insert item.1 item.2) new

def buildNext (s : State) : Option State :=
  match s.updater with
  | .building (endpoint :: rest) old new addOnly =>
      match old.lookup endpoint with
      | some p =>
          some { s with
            updater := .building rest (old.erase endpoint) (new.insert endpoint p) addOnly }
      | none =>
          some { s with
            made := s.made + 1
            updater := .building rest old (new.insert endpoint s.made) addOnly }
  | .building [] old new addOnly =>
      if addOnly then some { s with updater := .closing [] (addAll new old) }
      else some { s with updater := .closing (FiniteMap.values old) new }
  | _ => none

/-- A step of the `close` of the pool at hand. -/
def closePool (s : State) (a : Pool.Action) : Option State :=
  match s.updater with
  | .closing (p :: _) _ =>
      if closes a then (Pool.step (s.pools p) a).map (s.setPool p) else none
  | _ => none

def closeNext (s : State) : Option State :=
  match s.updater with
  | .closing (p :: rest) new =>
      match (s.pools p).closer with
      | .returned => some { s with updater := .closing rest new }
      | _ => none
  | _ => none

def publish (s : State) : Option State :=
  match s.updater with
  | .closing [] new => some { s with slowState := new, fastState := new, updater := .idle }
  | _ => none

/-!
# Steps
-/

inductive Action where
  | getClient (endpoint : Endpoint)
  | getEndpointClient (endpoint : Endpoint)
  | ask (k : CallId)
  | finish (k : CallId)
  | pool (p : PoolId) (a : Pool.Action)
  | updateEndpoints (endpoints : List Endpoint) (addOnly : Bool)
  | buildNext
  | closePool (a : Pool.Action)
  | closeNext
  | publish

def step : StepFn State Action
  | s, .getClient endpoint => getClient s endpoint
  | s, .getEndpointClient endpoint => some (getEndpointClient s endpoint)
  | s, .ask k => ask s k
  | s, .finish k => finish s k
  | s, .pool p a => pool s p a
  | s, .updateEndpoints endpoints addOnly => updateEndpoints s endpoints addOnly
  | s, .buildNext => buildNext s
  | s, .closePool a => closePool s a
  | s, .closeNext => closeNext s
  | s, .publish => publish s

/-!
# The table of pools

An update of the endpoints holds the lock of the table from its start to its end, so that
updates come one after another.  Here an update is one function on the table, with the
targets of the pools and the calls of their `close`.
-/

open Config (KvTarget)

/-- A pool, as the manager uses it. -/
structure KvClientPool where
  endpointId : Endpoint
  /-- The desired target of each of its babysitters. -/
  targets : List KvTarget
  /-- How often `close` was called. -/
  closes : Nat

def KvClientPool.updateTarget (pool : KvClientPool) (target : KvTarget) : KvClientPool :=
  { pool with targets := pool.targets.map (fun _ => target) }

/-- The babysitters are drained. -/
def KvClientPool.close (pool : KvClientPool) : KvClientPool :=
  { pool with targets := [], closes := pool.closes + 1 }

structure Store where
  numPoolConnections : Nat
  pools : PoolId -> KvClientPool
  /-- How many pools were made. -/
  made : Nat
  /-- `slow_state.client_pools` -/
  slowState : ClientPools
  fastState : ClientPools

/-- The table inside `new`, before its first update. -/
def Store.empty (numPoolConnections : Nat) : Store :=
  { numPoolConnections := numPoolConnections
    pools := fun _ => { endpointId := "", targets := [], closes := 0 }
    made := 0
    slowState := ∅
    fastState := ∅ }

def Store.modify (m : Store) (p : PoolId) (f : KvClientPool -> KvClientPool) : Store :=
  { m with pools := Function.update m.pools p (f (m.pools p)) }

/-- `P::new`, with a babysitter for each connection. -/
def Store.newPool (m : Store) (endpoint : Endpoint) (target : KvTarget) : Store :=
  let pool : KvClientPool :=
    { endpointId := endpoint
      targets := List.replicate m.numPoolConnections target
      closes := 0 }
  { m with pools := Function.update m.pools m.made pool, made := m.made + 1 }

/-- Where the loop over the endpoints stands. -/
structure Rebuild where
  store : Store
  oldPools : ClientPools
  newPools : ClientPools

def takePool (r : Rebuild) (item : Sigma fun _ : Endpoint => KvTarget) : Rebuild :=
  match r.oldPools.lookup item.1 with
  | some p =>
      { store := r.store.modify p (fun pool => pool.updateTarget item.2)
        oldPools := r.oldPools.erase item.1
        newPools := r.newPools.insert item.1 p }
  | none =>
      { store := r.store.newPool item.1 item.2
        oldPools := r.oldPools
        newPools := r.newPools.insert item.1 r.store.made }

def Store.closePools (m : Store) (pools : List PoolId) : Store :=
  pools.foldl (fun m p => m.modify p KvClientPool.close) m

/-- The new table is stored, and a copy of it is published. -/
def Store.publish (m : Store) (newPools : ClientPools) : Store :=
  { m with slowState := newPools, fastState := addAll ∅ newPools }

def Store.updateEndpoints (m : Store) (endpoints : FiniteMap Endpoint KvTarget)
    (addOnly : Bool) : Store :=
  let r := endpoints.entries.foldl takePool
    { store := m, oldPools := m.slowState, newPools := ∅ }
  if addOnly then r.store.publish (addAll r.newPools r.oldPools)
  else (r.store.closePools (FiniteMap.values r.oldPools)).publish r.newPools

/-- A call of `update_endpoints`. -/
structure Update where
  endpoints : FiniteMap Endpoint KvTarget
  addOnly : Bool

/-- The calls in their order; `new` makes the first one. -/
def Store.run (m : Store) (calls : List Update) : Store :=
  calls.foldl (fun m call => m.updateEndpoints call.endpoints call.addOnly) m

/-!
# Tables
-/

theorem lookup_addAll {new old : ClientPools} {endpoint : Endpoint}
    (hfresh : endpoint ∈ old -> new.lookup endpoint = none) :
    (addAll new old).lookup endpoint = (old.lookup endpoint).or (new.lookup endpoint) := by
  have hcollect := FiniteMap.lookup_foldl_collectStep (some : PoolId -> Option PoolId)
    old.entries old.nodupKeys new endpoint hfresh
  show (old.entries.foldl (FiniteMap.collectStep some) new).lookup endpoint = _
  rw [hcollect]
  show _ = (old.entries.dlookup endpoint).or _
  cases old.entries.dlookup endpoint with
  | some p => rfl
  | none => rfl

theorem lookup_publish (m : Store) (newPools : ClientPools) (endpoint : Endpoint) :
    (m.publish newPools).fastState.lookup endpoint = newPools.lookup endpoint := by
  show (addAll ∅ newPools).lookup endpoint = _
  rw [lookup_addAll (fun _ => rfl)]
  cases newPools.lookup endpoint with
  | some p => rfl
  | none => rfl

theorem modify_self (m : Store) (p : PoolId) (f : KvClientPool -> KvClientPool) :
    (m.modify p f).pools p = f (m.pools p) := by
  unfold Store.modify
  exact Function.update_self ..

theorem modify_ne {m : Store} {p q : PoolId} {f : KvClientPool -> KvClientPool} (h : q ≠ p) :
    (m.modify p f).pools q = m.pools q := by
  unfold Store.modify
  exact Function.update_of_ne h ..

theorem newPool_self (m : Store) (endpoint : Endpoint) (target : KvTarget) :
    (m.newPool endpoint target).pools m.made =
      { endpointId := endpoint
        targets := List.replicate m.numPoolConnections target
        closes := 0 } := by
  unfold Store.newPool
  exact Function.update_self ..

/-!
# Closing pools
-/

/-- Closing pools changes nothing but these pools. -/
theorem closePools_frame (m : Store) (pools : List PoolId) :
    (m.closePools pools).made = m.made ∧
      (m.closePools pools).numPoolConnections = m.numPoolConnections := by
  induction pools generalizing m with
  | nil => exact ⟨rfl, rfl⟩
  | cons p rest ih => exact ih (m.modify p KvClientPool.close)

theorem closePools_of_not_mem {m : Store} {pools : List PoolId} {p : PoolId}
    (h : p ∉ pools) : (m.closePools pools).pools p = m.pools p := by
  induction pools generalizing m with
  | nil => rfl
  | cons q rest ih =>
      rcases not_or.mp (List.mem_cons.not.mp h) with ⟨hne, hrest⟩
      have hmodify : (m.modify q KvClientPool.close).pools p = m.pools p := modify_ne hne
      exact (ih hrest).trans hmodify

theorem closePools_of_mem {m : Store} {pools : List PoolId} {p : PoolId}
    (hnodup : pools.Nodup) (h : p ∈ pools) :
    (m.closePools pools).pools p = (m.pools p).close := by
  induction pools generalizing m with
  | nil => cases h
  | cons q rest ih =>
      rcases List.nodup_cons.mp hnodup with ⟨hfresh, hrest⟩
      rcases List.mem_cons.mp h with rfl | hmem
      · have hkept := closePools_of_not_mem (m := m.modify p KvClientPool.close) hfresh
        exact hkept.trans (modify_self m p _)
      · have hne : p ≠ q := by
          rintro rfl
          exact hfresh hmem
        have hmodify : (m.modify q KvClientPool.close).pools p = m.pools p := modify_ne hne
        have hclosed := ih (m := m.modify q KvClientPool.close) hrest hmem
        rw [hmodify] at hclosed
        exact hclosed

/-!
# What a step of the manager can do

The step function is inverted once.  What a run of the manager does to one of its pools is
a run of that pool.
-/

inductive Step (s : State) : Action -> State -> Prop where
  | load (a : Action) (endpoint : Endpoint) (p : PoolId) :
      a = .getClient endpoint ∨ a = .getEndpointClient endpoint ->
        s.fastState.lookup endpoint = some p -> Step s a (s.start (.loaded p))
  | reject (a : Action) (endpoint : Endpoint) :
      a = .getClient endpoint ∨ a = .getEndpointClient endpoint ->
        s.fastState.lookup endpoint = none -> Step s a (s.start (.returned none))
  | ask (k : CallId) (p : PoolId) : s.calls k = .loaded p ->
      Step s (.ask k)
        ((s.setPool p (Pool.getClient (s.pools p))).setCall k (.asking p (s.pools p).started))
  | finish (k : CallId) (p : PoolId) (d : Pool.CallId)
      (result : Option Pool.PoolClient) : s.calls k = .asking p d ->
        ((s.pools p).calls d).phase = .returned result ->
          Step s (.finish k) (s.setCall k (.returned (result.map (fun c => (p, c)))))
  | panic (k : CallId) (p : PoolId) (d : Pool.CallId) : s.calls k = .asking p d ->
      ((s.pools p).calls d).phase = .panicked -> Step s (.finish k) (s.setCall k .panicked)
  | pool (p : PoolId) (a : Pool.Action) (t : Pool.State) : p < s.made -> closes a = false ->
      starts a = false -> Pool.step (s.pools p) a = some t -> Step s (.pool p a) (s.setPool p t)
  | updateEndpoints (endpoints : List Endpoint) (addOnly : Bool) : s.updater = .idle ->
      Step s (.updateEndpoints endpoints addOnly)
        { s with
          slowState := ∅
          updater := .building endpoints s.slowState ∅ addOnly }
  | takeOver (endpoint : Endpoint) (rest : List Endpoint) (old new : ClientPools)
      (addOnly : Bool) (p : PoolId) : s.updater = .building (endpoint :: rest) old new addOnly ->
        old.lookup endpoint = some p ->
          Step s .buildNext
            { s with
              updater := .building rest (old.erase endpoint) (new.insert endpoint p) addOnly }
  | make (endpoint : Endpoint) (rest : List Endpoint) (old new : ClientPools)
      (addOnly : Bool) : s.updater = .building (endpoint :: rest) old new addOnly ->
        old.lookup endpoint = none ->
          Step s .buildNext
            { s with
              made := s.made + 1
              updater := .building rest old (new.insert endpoint s.made) addOnly }
  | keepOld (old new : ClientPools) : s.updater = .building [] old new true ->
      Step s .buildNext { s with updater := .closing [] (addAll new old) }
  | dropOld (old new : ClientPools) : s.updater = .building [] old new false ->
      Step s .buildNext { s with updater := .closing (FiniteMap.values old) new }
  | closePool (p : PoolId) (rest : List PoolId) (new : ClientPools) (a : Pool.Action)
      (t : Pool.State) : s.updater = .closing (p :: rest) new -> closes a = true ->
        Pool.step (s.pools p) a = some t -> Step s (.closePool a) (s.setPool p t)
  | closeNext (p : PoolId) (rest : List PoolId) (new : ClientPools) :
      s.updater = .closing (p :: rest) new -> (s.pools p).closer = .returned ->
        Step s .closeNext { s with updater := .closing rest new }
  | publish (new : ClientPools) : s.updater = .closing [] new ->
      Step s .publish { s with slowState := new, fastState := new, updater := .idle }

section
variable {s s' : State} {k : CallId} {endpoint : Endpoint}

theorem getClient_inv (h : getClient s endpoint = some s') :
    Step s (.getClient endpoint) s' := by
  unfold getClient at h
  split at h
  · rename_i p hlookup
    cases h
    exact Step.load _ endpoint p (Or.inl rfl) hlookup
  · rename_i hlookup
    split at h
    · cases h
      exact Step.reject _ endpoint (Or.inl rfl) hlookup
    · cases h

theorem getEndpointClient_inv (h : some (getEndpointClient s endpoint) = some s') :
    Step s (.getEndpointClient endpoint) s' := by
  unfold getEndpointClient at h
  split at h
  · rename_i p hlookup
    cases h
    exact Step.load _ endpoint p (Or.inr rfl) hlookup
  · rename_i hlookup
    cases h
    exact Step.reject _ endpoint (Or.inr rfl) hlookup

theorem ask_inv (h : ask s k = some s') : Step s (.ask k) s' := by
  unfold ask at h
  split at h
  · rename_i p hloaded
    cases h
    exact Step.ask k p hloaded
  · cases h

theorem finish_inv (h : finish s k = some s') : Step s (.finish k) s' := by
  unfold finish at h
  split at h
  · rename_i p d hasking
    split at h
    · rename_i result hreturned
      cases h
      exact Step.finish k p d result hasking hreturned
    · rename_i hpanicked
      cases h
      exact Step.panic k p d hasking hpanicked
    · cases h
  · cases h

theorem pool_inv {p : PoolId} {a : Pool.Action} (h : pool s p a = some s') :
    Step s (.pool p a) s' := by
  unfold pool at h
  split at h
  · rename_i hcond
    simp only [Bool.and_eq_true, decide_eq_true_eq, Bool.not_eq_true'] at hcond
    rcases Option.map_eq_some_iff.mp h with ⟨t, hstep, rfl⟩
    exact Step.pool p a t hcond.1.1 hcond.1.2 hcond.2 hstep
  · cases h

theorem updateEndpoints_inv {endpoints : List Endpoint} {addOnly : Bool}
    (h : updateEndpoints s endpoints addOnly = some s') :
    Step s (.updateEndpoints endpoints addOnly) s' := by
  unfold updateEndpoints at h
  split at h
  · rename_i hidle
    split at h
    · cases h
      exact Step.updateEndpoints endpoints addOnly hidle
    · cases h
  · cases h

theorem buildNext_inv (h : buildNext s = some s') : Step s .buildNext s' := by
  unfold buildNext at h
  split at h
  · rename_i endpoint rest old new addOnly hbuilding
    split at h
    · rename_i p hlookup
      cases h
      exact Step.takeOver endpoint rest old new addOnly p hbuilding hlookup
    · rename_i hlookup
      cases h
      exact Step.make endpoint rest old new addOnly hbuilding hlookup
  · rename_i old new addOnly hbuilding
    cases addOnly with
    | true =>
        cases h
        exact Step.keepOld old new hbuilding
    | false =>
        cases h
        exact Step.dropOld old new hbuilding
  · cases h

theorem closePool_inv {a : Pool.Action} (h : closePool s a = some s') :
    Step s (.closePool a) s' := by
  unfold closePool at h
  split at h
  · rename_i p rest new hclosing
    split at h
    · rename_i hcloses
      rcases Option.map_eq_some_iff.mp h with ⟨t, hstep, rfl⟩
      exact Step.closePool p rest new a t hclosing hcloses hstep
    · cases h
  · cases h

theorem closeNext_inv (h : closeNext s = some s') : Step s .closeNext s' := by
  unfold closeNext at h
  split at h
  · rename_i p rest new hclosing
    split at h
    · rename_i hreturned
      cases h
      exact Step.closeNext p rest new hclosing hreturned
    · cases h
  · cases h

theorem publish_inv (h : publish s = some s') : Step s .publish s' := by
  unfold publish at h
  split at h
  · rename_i new hclosing
    cases h
    exact Step.publish new hclosing
  · cases h

end

variable {s s' : State} {a : Action}

theorem step_inv (h : step s a = some s') : Step s a s' := by
  cases a with
  | getClient endpoint => exact getClient_inv h
  | getEndpointClient endpoint => exact getEndpointClient_inv h
  | ask k => exact ask_inv h
  | finish k => exact finish_inv h
  | pool p b => exact pool_inv h
  | updateEndpoints endpoints addOnly => exact updateEndpoints_inv h
  | buildNext => exact buildNext_inv h
  | closePool b => exact closePool_inv h
  | closeNext => exact closeNext_inv h
  | publish => exact publish_inv h

/-!
# Runs of a pool
-/

theorem setPool_self (s : State) (p : PoolId) (t : Pool.State) : (s.setPool p t).pools p = t := by
  unfold State.setPool
  exact Function.update_self ..

theorem setPool_ne (s : State) {p q : PoolId} (t : Pool.State) (h : q ≠ p) :
    (s.setPool p t).pools q = s.pools q := by
  unfold State.setPool
  exact Function.update_of_ne h ..

/-- The action that a step of the manager is for one of its pools. -/
inductive Forwards (s : State) : Action -> PoolId -> Pool.Action -> Prop where
  | own (p : PoolId) (b : Pool.Action) : closes b = false -> starts b = false ->
      Forwards s (.pool p b) p b
  | ask (k : CallId) (p : PoolId) : s.calls k = .loaded p -> Forwards s (.ask k) p .getClient
  | close (p : PoolId) (rest : List PoolId) (new : ClientPools) (b : Pool.Action) :
      s.updater = .closing (p :: rest) new -> closes b = true ->
        Forwards s (.closePool b) p b

theorem pool_step (h : Step s a s') (q : PoolId) :
    s'.pools q = s.pools q ∨
      exists b, Forwards s a q b ∧ Pool.step (s.pools q) b = some (s'.pools q) := by
  have hset : forall {p : PoolId} {t : Pool.State} {b : Pool.Action}, Forwards s a p b ->
      Pool.step (s.pools p) b = some t ->
        (s.setPool p t).pools q = s.pools q ∨
          exists b, Forwards s a q b ∧
            Pool.step (s.pools q) b = some ((s.setPool p t).pools q) := by
    intro p t b hforwards hstep
    by_cases hq : q = p
    · subst hq
      rw [setPool_self]
      exact Or.inr ⟨b, hforwards, hstep⟩
    · exact Or.inl (setPool_ne s t hq)
  cases h with
  | ask k p hloaded => exact hset (Forwards.ask k p hloaded) rfl
  | pool p b t _ hcloses hstarts hstep => exact hset (Forwards.own p b hcloses hstarts) hstep
  | closePool p rest new b t hclosing hcloses hstep =>
      exact hset (Forwards.close p rest new b hclosing hcloses) hstep
  | _ => exact Or.inl rfl

/-- A run of the manager is a run of each of its pools. -/
theorem reach_pool {guard : State -> Action -> Prop} {numPoolConnections : Nat}
    {onDemandConnect : Bool}
    (hreach : StepFn.Reach step guard (initial numPoolConnections onDemandConnect) s)
    (q : PoolId) :
    StepFn.Reach Pool.step StepFn.Always (Pool.initial numPoolConnections onDemandConnect)
      (s.pools q) := by
  induction hreach with
  | refl => exact StepFn.Reach.refl
  | tail a _ _ hstep ih =>
      rcases pool_step (step_inv hstep) q with hsame | ⟨b, _, hinner⟩
      · rw [hsame]
        exact ih
      · exact StepFn.Reach.tail b ih trivial hinner

end EndpointManager
end CouchbaseSdk
