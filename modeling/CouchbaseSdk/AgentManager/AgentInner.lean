import CouchbaseSdk.Routing.UpdateState

/-!
# The credentials of an agent

An agent hands its credentials on when it is made and when it is reconfigured: the
authenticator to the pools and to the components of the services, the TLS settings to the
targets of the pools and to the HTTP client.  A reconfiguration holds the lock of the agent's
state from its start to its end.
-/

namespace CouchbaseSdk
namespace AgentManager

open Foundation
open Config
open EndpointManager (Store PoolId Accounted Update)
open Routing (AgentOptions)

/-!
# The connection manager
-/

structure KvEndpointClientManager where
  store : Store
  /-- `slow_state.auth` -/
  auth : Authenticator
  /-- The desired credentials of the babysitters of a pool. -/
  poolAuth : PoolId -> Authenticator

namespace KvEndpointClientManager

def updateEndpoints (m : KvEndpointClientManager) (endpoints : FiniteMap String KvTarget)
    (addOnly : Bool) : KvEndpointClientManager :=
  { store := m.store.updateEndpoints endpoints addOnly
    auth := m.auth
    poolAuth := fun p => if p < m.store.made then m.poolAuth p else m.auth }

def updateAuth (m : KvEndpointClientManager) (authenticator : Authenticator) :
    KvEndpointClientManager :=
  { store := m.store
    auth := authenticator
    poolAuth := fun p =>
      if p ∈ FiniteMap.values m.store.slowState then authenticator else m.poolAuth p }

def new (numPoolConnections : Nat) (endpoints : FiniteMap String KvTarget)
    (authenticator : Authenticator) : KvEndpointClientManager :=
  updateEndpoints
    { store := Store.empty numPoolConnections
      auth := authenticator
      poolAuth := fun _ => authenticator } endpoints false

/-- Old and new pools have these credentials. -/
structure Authenticated (m : KvEndpointClientManager) (authenticator : Authenticator) : Prop where
  auth : m.auth = authenticator
  pools : forall endpoint p, m.store.slowState.lookup endpoint = some p ->
    m.poolAuth p = authenticator

variable {m : KvEndpointClientManager} {authenticator : Authenticator}

theorem authenticated_updateAuth (m : KvEndpointClientManager) (authenticator : Authenticator) :
    (m.updateAuth authenticator).Authenticated authenticator := by
  constructor
  · rfl
  · intro endpoint p h
    exact if_pos (FiniteMap.mem_values.mpr ⟨endpoint, h⟩)

theorem authenticated_updateEndpoints (hm : Accounted m.store)
    (h : m.Authenticated authenticator) (endpoints : FiniteMap String KvTarget)
    (addOnly : Bool) : (m.updateEndpoints endpoints addOnly).Authenticated authenticator := by
  constructor
  · exact h.auth
  · intro endpoint p hp
    have hsource := EndpointManager.source_of_accounted hm
      { endpoints := endpoints, addOnly := addOnly } hp
    show (if p < m.store.made then m.poolAuth p else m.auth) = authenticator
    rcases hsource with hold | hnew
    · rw [if_pos (hm.present endpoint p hold).1]
      exact h.pools endpoint p hold
    · rw [if_neg (Nat.not_lt.mpr hnew)]
      exact h.auth

theorem accounted_updateEndpoints (hm : Accounted m.store)
    (endpoints : FiniteMap String KvTarget) (addOnly : Bool) :
    Accounted (m.updateEndpoints endpoints addOnly).store :=
  Routing.accounted_updateEndpoints hm endpoints addOnly

/-- After a removal update the targets of all pools are among the given ones. -/
theorem targets_updateEndpoints (hm : Accounted m.store)
    {endpoints : FiniteMap String KvTarget} {endpoint : String} {p : PoolId} {target : KvTarget}
    (hp : (m.updateEndpoints endpoints false).store.slowState.lookup endpoint = some p)
    (htarget : target ∈ ((m.updateEndpoints endpoints false).store.pools p).targets) :
    endpoints.lookup endpoint = some target := by
  have hupdated := EndpointManager.updated_of_accounted hm
    { endpoints := endpoints, addOnly := false }
  rcases (hupdated.keys endpoint).mp (FiniteMap.mem_of_lookup hp) with hin | ⟨hadd, _⟩
  · rcases FiniteMap.exists_lookup hin with ⟨given, hgiven⟩
    have htargets := hupdated.targets endpoint p given hp hgiven
    have hmem : target ∈ List.replicate _ given := htargets ▸ htarget
    rw [hgiven, (List.mem_replicate.mp hmem).2]
  · cases hadd

end KvEndpointClientManager

/-!
# Agents
-/

structure ReconfigureAgentOptions where
  authenticator : Authenticator
  tlsConfig : Option TlsConfig
deriving DecidableEq, Repr

structure AgentInner where
  bucket : Option String
  authenticator : Authenticator
  tlsConfig : Option TlsConfig
  networkType : String
  latestConfig : ParsedConfig
  /-- The TLS settings that the HTTP client was built with. -/
  httpClient : Option TlsConfig
  connMgr : KvEndpointClientManager
  /-- What the components of the services were configured with. -/
  services : AgentComponentConfigs

namespace AgentInner

/-- `Agent::new`, from its first config on.  It fails where the HTTP client cannot be built
with the TLS settings, and panics where there are no components. -/
def new (httpBuilds : Option TlsConfig -> Bool) (opts : AgentOptions)
    (firstConfig : ParsedConfig) : Option AgentInner :=
  if httpBuilds opts.tlsConfig then
    (genFromConfig firstConfig opts.networkType opts.tlsConfig opts.bucket
        opts.authenticator).map fun components =>
      { bucket := opts.bucket
        authenticator := opts.authenticator
        tlsConfig := opts.tlsConfig
        networkType := opts.networkType
        latestConfig := firstConfig
        httpClient := opts.tlsConfig
        connMgr := .new opts.numPoolConnections components.kvTargets opts.authenticator
        services := components }
  else none

/-- An HTTP client that cannot be built is only warned about. -/
def install (httpBuilds : Option TlsConfig -> Bool) (agent : AgentInner)
    (opts : ReconfigureAgentOptions) (components : AgentComponentConfigs) : AgentInner :=
  let connMgr := agent.connMgr.updateAuth opts.authenticator
  { agent with
    authenticator := opts.authenticator
    tlsConfig := opts.tlsConfig
    httpClient := if httpBuilds opts.tlsConfig then opts.tlsConfig else agent.httpClient
    connMgr := (connMgr.updateEndpoints components.kvTargets true).updateEndpoints
      components.kvTargets false
    services := components }

def reconfigure (httpBuilds : Option TlsConfig -> Bool) (agent : AgentInner)
    (opts : ReconfigureAgentOptions) : Option AgentInner :=
  (genFromConfig agent.latestConfig agent.networkType opts.tlsConfig agent.bucket
    opts.authenticator).map (agent.install httpBuilds opts)

/-- The authenticator and the TLS settings that the agent works with. -/
structure Uses (agent : AgentInner) (opts : ReconfigureAgentOptions) : Prop where
  authenticator : agent.authenticator = opts.authenticator
  tlsConfig : agent.tlsConfig = opts.tlsConfig
  httpClient : agent.httpClient = opts.tlsConfig
  connMgr : agent.connMgr.Authenticated opts.authenticator
  targets : forall endpoint p target, agent.connMgr.store.slowState.lookup endpoint = some p ->
    target ∈ (agent.connMgr.store.pools p).targets -> target.tlsConfig = opts.tlsConfig
  services : agent.services.auth = opts.authenticator

/-- What an agent has kept since it was made. -/
structure Sound (agent : AgentInner) : Prop where
  accounted : Accounted agent.connMgr.store
  nodes : exists nodes,
    agent.latestConfig.addressesGroupForNetworkType agent.networkType = some nodes

variable {httpBuilds : Option TlsConfig -> Bool} {agent : AgentInner}

theorem kvTargetsOf_tlsConfig {tlsConfig : Option TlsConfig}
    {kvDataHosts : FiniteMap String Address} {endpoint : String} {target : KvTarget}
    (h : (kvTargetsOf tlsConfig kvDataHosts).lookup endpoint = some target) :
    target.tlsConfig = tlsConfig := by
  have hfold : forall (items : List (Sigma fun _ : String => Address))
      (m : FiniteMap String KvTarget),
      (forall e t, m.lookup e = some t -> t.tlsConfig = tlsConfig) ->
      forall e t, (items.foldl (fun m item => m.insert item.1
        { address := item.2, tlsConfig := tlsConfig }) m).lookup e = some t ->
          t.tlsConfig = tlsConfig := by
    intro items
    induction items with
    | nil =>
        intro m hm
        exact hm
    | cons item rest ih =>
        intro m hm
        refine ih _ ?_
        intro e t ht
        by_cases he : e = item.1
        · rw [he, AList.lookup_insert] at ht
          cases ht
          rfl
        · rw [AList.lookup_insert_ne he] at ht
          exact hm e t ht
  exact hfold kvDataHosts.entries ∅ nofun endpoint target h

theorem genFromConfig_parts {config : ParsedConfig} {networkType : String}
    {tlsConfig : Option TlsConfig} {bucket : Option String} {authenticator : Authenticator}
    {components : AgentComponentConfigs}
    (h : genFromConfig config networkType tlsConfig bucket authenticator = some components) :
    components.auth = authenticator ∧
      (exists nodes, config.addressesGroupForNetworkType networkType = some nodes) ∧
      forall endpoint target, components.kvTargets.lookup endpoint = some target ->
        target.tlsConfig = tlsConfig := by
  rcases Option.map_eq_some_iff.mp h with ⟨nodes, hnodes, rfl⟩
  exact ⟨rfl, ⟨nodes, hnodes⟩, fun endpoint target ht => kvTargetsOf_tlsConfig ht⟩

theorem new_uses {opts : AgentOptions} {firstConfig : ParsedConfig}
    (h : new httpBuilds opts firstConfig = some agent) :
    agent.Sound ∧
      agent.Uses { authenticator := opts.authenticator, tlsConfig := opts.tlsConfig } := by
  unfold new at h
  split at h
  · rcases Option.map_eq_some_iff.mp h with ⟨components, hgen, rfl⟩
    rcases genFromConfig_parts hgen with ⟨hauth, hnodes, htargets⟩
    have hempty := EndpointManager.accounted_empty opts.numPoolConnections
    refine ⟨⟨?_, hnodes⟩, ?_⟩
    · exact Routing.accounted_updateEndpoints hempty components.kvTargets false
    · constructor
      case authenticator | tlsConfig | httpClient => rfl
      case services => exact hauth
      case connMgr =>
        refine KvEndpointClientManager.authenticated_updateEndpoints hempty ⟨rfl, ?_⟩ _ _
        intro endpoint p _
        rfl
      case targets =>
        intro endpoint p target hp htarget
        exact htargets endpoint target
          (KvEndpointClientManager.targets_updateEndpoints hempty hp htarget)
  · cases h

/-- A reconfiguration reaches every part of the agent, if the HTTP client can be built. -/
theorem reconfigure_uses (hsound : agent.Sound) (opts : ReconfigureAgentOptions)
    (hbuilds : httpBuilds opts.tlsConfig = true) :
    exists agent', agent.reconfigure httpBuilds opts = some agent' ∧ agent'.Sound ∧
      agent'.Uses opts := by
  rcases hsound.nodes with ⟨nodes, hnodes⟩
  have hgen : exists components, genFromConfig agent.latestConfig agent.networkType
      opts.tlsConfig agent.bucket opts.authenticator = some components := by
    unfold genFromConfig
    rw [hnodes]
    exact ⟨_, rfl⟩
  rcases hgen with ⟨components, hgen⟩
  rcases genFromConfig_parts hgen with ⟨hauth, _, htargets⟩
  have hupdated : Accounted (agent.connMgr.updateAuth opts.authenticator).store :=
    hsound.accounted
  have hadded := KvEndpointClientManager.accounted_updateEndpoints hupdated
    components.kvTargets true
  have hremoved := KvEndpointClientManager.accounted_updateEndpoints hadded
    components.kvTargets false
  have hpools := KvEndpointClientManager.authenticated_updateEndpoints hupdated
    (agent.connMgr.authenticated_updateAuth opts.authenticator) components.kvTargets true
  refine ⟨agent.install httpBuilds opts components, ?_, ⟨hremoved, nodes, hnodes⟩, ?_⟩
  · exact Option.map_eq_some_iff.mpr ⟨components, hgen, rfl⟩
  constructor
  case authenticator | tlsConfig => rfl
  case httpClient => exact if_pos hbuilds
  case services => exact hauth
  case connMgr =>
    exact KvEndpointClientManager.authenticated_updateEndpoints hadded hpools _ false
  case targets =>
    intro endpoint p target hp htarget
    exact htargets endpoint target
      (KvEndpointClientManager.targets_updateEndpoints hadded hp htarget)

end AgentInner
end AgentManager
end CouchbaseSdk
