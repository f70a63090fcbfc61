import CouchbaseSdk.EndpointManager.Updates
import CouchbaseSdk.Foundation.Transition
import CouchbaseSdk.Routing.VbucketRouter

/-!
# Installing a config

The agent installs the endpoints and the routing table of a config in three steps, under
the lock of its state: it adds the new endpoints, replaces the routing table, and removes the
endpoints that are gone.  Operations use the table and the endpoints at any time.
-/

namespace CouchbaseSdk
namespace Routing

open Foundation
open Config
open EndpointManager (Store Accounted Update Updated)

/-!
# State
-/

/-- Where `update_state_locked` stands, and the components it installs. -/
inductive Phase where
  | idle
  | generated (components : AgentComponentConfigs)
  /-- The new endpoints are added. -/
  | added (components : AgentComponentConfigs)
  /-- The routing table is replaced. -/
  | routed (components : AgentComponentConfigs)

structure State where
  bucket : Option String
  authenticator : Authenticator
  networkType : String
  tlsConfig : Option TlsConfig
  latestConfig : ParsedConfig
  connMgr : Store
  /-- `vb_router.routing_info` -/
  routingInfo : VbucketRoutingInfo
  phase : Phase

structure AgentOptions where
  numPoolConnections : Nat
  bucket : Option String
  authenticator : Authenticator
  networkType : String
  tlsConfig : Option TlsConfig

/-- `Agent::new`, from its first config on; `none` says that it panics. -/
def new (opts : AgentOptions) (firstConfig : ParsedConfig) : Option State :=
  (genFromConfig firstConfig opts.networkType opts.tlsConfig opts.bucket
      opts.authenticator).map fun components =>
    { bucket := opts.bucket
      authenticator := opts.authenticator
      networkType := opts.networkType
      tlsConfig := opts.tlsConfig
      latestConfig := firstConfig
      connMgr := (Store.empty opts.numPoolConnections).updateEndpoints components.kvTargets false
      routingInfo := components.vbucketRoutingInfo
      phase := .idle }

/-- The first step of `update_state_locked`.  A panic lets go of the lock. -/
def State.generate (s : State) : State :=
  match genFromConfig s.latestConfig s.networkType s.tlsConfig s.bucket s.authenticator with
  | some components => { s with phase := .generated components }
  | none => s

def applyConfig (s : State) (config : ParsedConfig) : Option State :=
  match s.phase with
  | .idle => some { s with latestConfig := config }.generate
  | _ => none

def reconfigure (s : State) (tlsConfig : Option TlsConfig) (authenticator : Authenticator) :
    Option State :=
  match s.phase with
  | .idle => some { s with tlsConfig := tlsConfig, authenticator := authenticator }.generate
  | _ => none

def addEndpoints (s : State) : Option State :=
  match s.phase with
  | .generated components =>
      some { s with
        connMgr := s.connMgr.updateEndpoints components.kvTargets true
        phase := .added components }
  | _ => none

def updateVbucketInfo (s : State) : Option State :=
  match s.phase with
  | .added components =>
      some { s with
        routingInfo := components.vbucketRoutingInfo
        phase := .routed components }
  | _ => none

def removeEndpoints (s : State) : Option State :=
  match s.phase with
  | .routed components =>
      some { s with
        connMgr := s.connMgr.updateEndpoints components.kvTargets false
        phase := .idle }
  | _ => none

inductive Action where
  | applyConfig (config : ParsedConfig)
  | reconfigure (tlsConfig : Option TlsConfig) (authenticator : Authenticator)
  | addEndpoints
  | updateVbucketInfo
  | removeEndpoints

def step : StepFn State Action
  | s, .applyConfig config => applyConfig s config
  | s, .reconfigure tlsConfig authenticator => reconfigure s tlsConfig authenticator
  | s, .addEndpoints => addEndpoints s
  | s, .updateVbucketInfo => updateVbucketInfo s
  | s, .removeEndpoints => removeEndpoints s

/-!
# Steps
-/

inductive Step (s : State) : Action -> State -> Prop where
  | applyConfig (config : ParsedConfig) : s.phase = .idle ->
      Step s (.applyConfig config) { s with latestConfig := config }.generate
  | reconfigure (tlsConfig : Option TlsConfig) (authenticator : Authenticator) :
      s.phase = .idle -> Step s (.reconfigure tlsConfig authenticator)
        { s with tlsConfig := tlsConfig, authenticator := authenticator }.generate
  | addEndpoints (components : AgentComponentConfigs) : s.phase = .generated components ->
      Step s .addEndpoints
        { s with
          connMgr := s.connMgr.updateEndpoints components.kvTargets true
          phase := .added components }
  | updateVbucketInfo (components : AgentComponentConfigs) : s.phase = .added components ->
      Step s .updateVbucketInfo
        { s with
          routingInfo := components.vbucketRoutingInfo
          phase := .routed components }
  | removeEndpoints (components : AgentComponentConfigs) : s.phase = .routed components ->
      Step s .removeEndpoints
        { s with
          connMgr := s.connMgr.updateEndpoints components.kvTargets false
          phase := .idle }

variable {s s' : State} {a : Action}

theorem step_inv (h : step s a = some s') : Step s a s' := by
  cases a with
  | applyConfig config =>
      change applyConfig s config = some s' at h
      unfold applyConfig at h
      split at h
      · rename_i hphase
        cases h
        exact Step.applyConfig config hphase
      · cases h
  | reconfigure tlsConfig authenticator =>
      change reconfigure s tlsConfig authenticator = some s' at h
      unfold reconfigure at h
      split at h
      · rename_i hphase
        cases h
        exact Step.reconfigure tlsConfig authenticator hphase
      · cases h
  | addEndpoints =>
      change addEndpoints s = some s' at h
      unfold addEndpoints at h
      split at h
      · rename_i components hphase
        cases h
        exact Step.addEndpoints components hphase
      · cases h
  | updateVbucketInfo =>
      change updateVbucketInfo s = some s' at h
      unfold updateVbucketInfo at h
      split at h
      · rename_i components hphase
        cases h
        exact Step.updateVbucketInfo components hphase
      · cases h
  | removeEndpoints =>
      change removeEndpoints s = some s' at h
      unfold removeEndpoints at h
      split at h
      · rename_i components hphase
        cases h
        exact Step.removeEndpoints components hphase
      · cases h

/-!
# Components that know their endpoints
-/

/-- Every data node that the vbucket map names has a KV port in the chosen network and
mode. -/
def NamesKvNodes (networkType : String) (tlsConfig : Option TlsConfig)
    (config : ParsedConfig) : Prop :=
  forall bucket m vbId vbServerIdx idx node, config.bucket = some bucket ->
    bucket.vbucketMap = some m -> m.nodeByVbucket vbId vbServerIdx = .ok idx -> 0 ≤ idx ->
      (config.nodes.filter ParsedConfigNode.hasData)[idx.toInt.toNat]? = some node ->
        exists port, (node.ports networkType tlsConfig).kv = some port

/-- Every endpoint that the table can return is in these. -/
def Routed (info : VbucketRoutingInfo) (endpoints : String -> Prop) : Prop :=
  forall endpoint, CanDispatch info endpoint -> endpoints endpoint

theorem serverAt_componentsOf {config : ParsedConfig} {networkType : String}
    {tlsConfig : Option TlsConfig} {bucketName : Option String} {authenticator : Authenticator}
    {components : AgentComponentConfigs}
    (hgen : genFromConfig config networkType tlsConfig bucketName authenticator =
      some components) (idx : Int16) :
    serverAt components.vbucketRoutingInfo idx =
      ((config.nodes.filter ParsedConfigNode.hasData)[idx.toInt.toNat]?).map
        (fun node => "kv" ++ (inNetwork networkType node).nodeId) := by
  have hcomponents := (genFromConfig_some networkType tlsConfig bucketName authenticator hgen).2
  have hfilter : (config.nodes.map (inNetwork networkType)).filter NetworkConfigNode.hasData =
      (config.nodes.filter ParsedConfigNode.hasData).map (inNetwork networkType) :=
    List.filter_map ..
  unfold serverAt
  rw [hcomponents]
  unfold componentsOf
  rw [routingInfoOf_serverList, kvDataNodeIds_collected, hfilter, List.map_map]
  show (List.map _ _)[idx.toInt.toNat]? = _
  rw [List.getElem?_map]
  rfl

theorem routed_of_names {config : ParsedConfig} {networkType : String}
    {tlsConfig : Option TlsConfig} {bucketName : Option String} {authenticator : Authenticator}
    {components : AgentComponentConfigs}
    (hgen : genFromConfig config networkType tlsConfig bucketName authenticator =
      some components) (hnames : NamesKvNodes networkType tlsConfig config) :
    Routed components.vbucketRoutingInfo (fun endpoint => endpoint ∈ components.kvTargets) := by
  intro endpoint hdispatch
  rcases genFromConfig_some networkType tlsConfig bucketName authenticator hgen with
    ⟨hids, hcomponents⟩
  rcases canDispatch_inv hdispatch with ⟨m, vbId, vbServerIdx, idx, hmap, hnode, hge, hserver⟩
  rw [serverAt_componentsOf hgen] at hserver
  rcases Option.map_eq_some_iff.mp hserver with ⟨node, hdata, rfl⟩
  have hbucket : exists bucket, config.bucket = some bucket ∧ bucket.vbucketMap = some m := by
    rw [hcomponents] at hmap
    unfold componentsOf routingInfoOf at hmap
    dsimp only at hmap
    split at hmap
    · rename_i bucket hbucket
      exact ⟨bucket, hbucket, hmap⟩
    · cases hmap
  rcases hbucket with ⟨bucket, hbucket, hbucketMap⟩
  rcases hnames bucket m vbId vbServerIdx idx node hbucket hbucketMap hnode hge hdata with
    ⟨port, hport⟩
  have hmem : node ∈ config.nodes := List.mem_of_mem_filter (List.mem_of_getElem? hdata)
  have htarget : exists target, node.kvTarget networkType tlsConfig = some target := by
    unfold ParsedConfigNode.kvTarget
    rw [hport]
    exact ⟨_, rfl⟩
  rcases htarget with ⟨target, htarget⟩
  rw [hcomponents]
  exact (serves_kvTargets networkType tlsConfig hids).mem hmem
    (endpointId_eq networkType "kv" (hids node hmem)) htarget

/-!
# Runs
-/

/-- Every endpoint that the router can return is one of the connection manager. -/
def State.RoutesKnown (s : State) : Prop :=
  Routed s.routingInfo (fun endpoint => endpoint ∈ s.connMgr.fastState)

/-- The configs are of the kind that names nodes with a KV port only. -/
def InstallsKvNodes (s : State) : Action -> Prop
  | .applyConfig config => NamesKvNodes s.networkType s.tlsConfig config
  | .reconfigure tlsConfig _ => NamesKvNodes s.networkType tlsConfig s.latestConfig
  | _ => True

/-- What is known of the components that are being installed. -/
def Phase.Ready (phase : Phase) (s : State) : Prop :=
  match phase with
  | .idle => True
  | .generated components =>
      Routed components.vbucketRoutingInfo (fun endpoint => endpoint ∈ components.kvTargets)
  | .added components =>
      Routed components.vbucketRoutingInfo (fun endpoint => endpoint ∈ components.kvTargets) ∧
        forall endpoint, endpoint ∈ components.kvTargets -> endpoint ∈ s.connMgr.fastState
  | .routed components =>
      Routed s.routingInfo (fun endpoint => endpoint ∈ components.kvTargets)

structure RoutesInv (s : State) : Prop where
  accounted : Accounted s.connMgr
  known : s.RoutesKnown
  ready : s.phase.Ready s

theorem mem_fastState {m : Store} (h : Accounted m) (endpoint : String) :
    endpoint ∈ m.fastState <-> endpoint ∈ m.slowState := by
  rw [← AList.lookup_isSome, ← AList.lookup_isSome, h.published]

section
variable {m : Store} (hm : Accounted m) (endpoints : FiniteMap String KvTarget)
include hm

theorem accounted_updateEndpoints (addOnly : Bool) :
    Accounted (m.updateEndpoints endpoints addOnly) :=
  EndpointManager.accounted_run hm [{ endpoints := endpoints, addOnly := addOnly }]

theorem mem_updateEndpoints (addOnly : Bool) (endpoint : String) :
    endpoint ∈ (m.updateEndpoints endpoints addOnly).fastState <->
      endpoint ∈ endpoints ∨ addOnly = true ∧ endpoint ∈ m.fastState := by
  have hupdated := EndpointManager.updated_of_accounted hm
    { endpoints := endpoints, addOnly := addOnly }
  rw [mem_fastState (accounted_updateEndpoints hm endpoints addOnly), mem_fastState hm]
  exact hupdated.keys endpoint

end

/-- Starting an update touches neither the table nor the endpoints. -/
theorem routesInv_generate (hinv : RoutesInv s)
    (hnames : NamesKvNodes s.networkType s.tlsConfig s.latestConfig) : RoutesInv s.generate := by
  unfold State.generate
  split
  · rename_i components hgen
    exact
      { accounted := hinv.accounted
        known := hinv.known
        ready := routed_of_names hgen hnames }
  · exact hinv

theorem routesInv_step (h : Step s a s') (hinv : RoutesInv s) (hguard : InstallsKvNodes s a) :
    RoutesInv s' := by
  have hready := hinv.ready
  cases h with
  | applyConfig config hphase =>
      refine routesInv_generate ⟨hinv.accounted, hinv.known, ?_⟩ hguard
      show s.phase.Ready _
      rw [hphase]
      trivial
  | reconfigure tlsConfig authenticator hphase =>
      refine routesInv_generate ⟨hinv.accounted, hinv.known, ?_⟩ hguard
      show s.phase.Ready _
      rw [hphase]
      trivial
  | addEndpoints components hphase =>
      rw [hphase] at hready
      have hmem := mem_updateEndpoints hinv.accounted components.kvTargets true
      constructor
      · exact accounted_updateEndpoints hinv.accounted components.kvTargets true
      · intro endpoint hdispatch
        exact (hmem endpoint).mpr (Or.inr ⟨rfl, hinv.known endpoint hdispatch⟩)
      · exact ⟨hready, fun endpoint hin => (hmem endpoint).mpr (Or.inl hin)⟩
  | updateVbucketInfo components hphase =>
      rw [hphase] at hready
      constructor
      · exact hinv.accounted
      · intro endpoint hdispatch
        exact hready.2 endpoint (hready.1 endpoint hdispatch)
      · exact hready.1
  | removeEndpoints components hphase =>
      rw [hphase] at hready
      have hmem := mem_updateEndpoints hinv.accounted components.kvTargets false
      constructor
      · exact accounted_updateEndpoints hinv.accounted components.kvTargets false
      · intro endpoint hdispatch
        exact (hmem endpoint).mpr (Or.inl (hready endpoint hdispatch))
      · trivial

theorem routesInv_new {opts : AgentOptions} {firstConfig : ParsedConfig}
    (hnew : new opts firstConfig = some s)
    (hnames : NamesKvNodes opts.networkType opts.tlsConfig firstConfig) : RoutesInv s := by
  rcases Option.map_eq_some_iff.mp hnew with ⟨components, hgen, rfl⟩
  have hempty := EndpointManager.accounted_empty opts.numPoolConnections
  constructor
  · exact accounted_updateEndpoints hempty components.kvTargets false
  · intro endpoint hdispatch
    exact (mem_updateEndpoints hempty components.kvTargets false endpoint).mpr
      (Or.inl (routed_of_names hgen hnames endpoint hdispatch))
  · trivial

/-- A node with data, reached from outside through this address. -/
def dataNode (hostname : String) (external : Option String) : ParsedConfigNode :=
  let ports := { ParsedConfigNodePorts.default with kv := some 11210, mgmt := some 8091 }
  { hasData := true
    addresses := { hostname := hostname, nonSslPorts := ports, sslPorts := .default }
    altAddresses :=
      match external with
      | some host =>
          AList.insert "external"
            { hostname := host, nonSslPorts := ports, sslPorts := .default } ∅
      | none => ∅ }

/-- Two nodes, each with the active copy of one vbucket. -/
def twoNodes (external : Option String) : ParsedConfig :=
  { revId := 1
    revEpoch := 1
    sourceHostname := "10.0.0.1"
    bucket := some
      { bucketUuid := "1"
        bucketName := "default"
        bucketType := .couchbase
        vbucketMap := some { entries := [[0], [1]], numReplicas := 0 }
        features := [] }
    nodes := [dataNode "10.0.0.1" (some "a.example"), dataNode "10.0.0.2" external]
    features := [] }

def externalOptions : AgentOptions :=
  { numPoolConnections := 1
    bucket := some "default"
    authenticator := .certificateAuthenticator
    networkType := "external"
    tlsConfig := none }

theorem namesKvNodes_twoNodes (host : String) :
    NamesKvNodes "external" none (twoNodes (some host)) := by
  intro bucket m vbId vbServerIdx idx node _ _ _ _ hnode
  have hmem : node ∈ (twoNodes (some host)).nodes :=
    List.mem_of_mem_filter (List.mem_of_getElem? hnode)
  rcases List.mem_cons.mp hmem with rfl | hmem
  · exact ⟨11210, rfl⟩
  · rcases List.mem_singleton.mp hmem with rfl
    exact ⟨11210, rfl⟩

/-- The agent of two nodes that both have an address in its network. -/
def externalAgent : State :=
  Option.get (new externalOptions (twoNodes (some "b.example"))) rfl

end Routing
end CouchbaseSdk
