import CouchbaseSdk.Config.ComponentConfigs

/-!
# The endpoints of a config

What the components are given for each node of a config.  The call panics for a node that
has no management port; where every node has one, each endpoint is its node's and the
server list follows the order of the nodes.
-/

namespace CouchbaseSdk
namespace Config

open Foundation
open FiniteMap (Serves fillStep serves_fill)

/-!
# Node ids
-/

/-- The endpoint of a service on a node. -/
def ParsedConfigNode.endpointId (service : String) (node : ParsedConfigNode) : Option String :=
  node.nodeId.map fun nodeId => service ++ nodeId

theorem toList_port (port : UInt16) : (toString port).toList = Nat.toDigits 10 port.toNat :=
  Nat.toList_repr

theorem port_no_dash (port : UInt16) : '-' ∉ (toString port).toList := by
  rw [toList_port]
  intro hmem
  have hdigit := Nat.isDigit_of_mem_toDigits (by decide) (by decide) hmem
  revert hdigit
  decide

theorem port_injective {port port' : UInt16} (h : toString port = toString port') :
    port = port' := by
  have hdigits : Nat.toDigits 10 port.toNat = Nat.toDigits 10 port'.toNat := by
    rw [← toList_port, ← toList_port, h]
  apply UInt16.toNat_inj.mp
  rw [← Nat.ofDigitChars_ten_toDigits (n := port.toNat), hdigits, Nat.ofDigitChars_ten_toDigits]

/-- The last separator decides, since there is none in what follows it. -/
theorem append_cons_inj {c : Char} {a a' b b' : List Char} (hb : c ∉ b) (hb' : c ∉ b')
    (h : a ++ c :: b = a' ++ c :: b') : a = a' ∧ b = b' := by
  rcases List.append_eq_append_iff.mp h with ⟨mid, ha, hmid⟩ | ⟨mid, ha, hmid⟩
  · cases mid with
    | nil =>
        rw [List.append_nil] at ha
        exact ⟨ha.symm, (List.cons.inj hmid).2⟩
    | cons d mid =>
        refine (hb ?_).elim
        rw [(List.cons.inj hmid).2]
        exact List.mem_append_right _ List.mem_cons_self
  · cases mid with
    | nil =>
        rw [List.append_nil] at ha
        exact ⟨ha, (List.cons.inj hmid).2.symm⟩
    | cons d mid =>
        refine (hb' ?_).elim
        rw [(List.cons.inj hmid).2]
        exact List.mem_append_right _ List.mem_cons_self

theorem append_cancel {s t t' : String} (h : s ++ t = s ++ t') : t = t' := by
  apply String.toList_inj.mp
  have hlist : s.toList ++ t.toList = s.toList ++ t'.toList := by
    rw [← String.toList_append, ← String.toList_append, h]
  exact List.append_cancel_left hlist

theorem nodeId_injective {hostname hostname' : String} {port port' : UInt16}
    (h : "ep-" ++ hostname ++ "-" ++ toString port = "ep-" ++ hostname' ++ "-" ++ toString port') :
    hostname = hostname' ∧ port = port' := by
  have hlist : ("ep-" ++ hostname ++ "-" ++ toString port).toList =
      ("ep-" ++ hostname' ++ "-" ++ toString port').toList := congrArg String.toList h
  simp only [String.toList_append, List.append_assoc] at hlist
  have htail : hostname.toList ++ '-' :: (toString port).toList =
      hostname'.toList ++ '-' :: (toString port').toList := List.append_cancel_left hlist
  rcases append_cons_inj (port_no_dash port) (port_no_dash port') htail with ⟨hhost, hport⟩
  exact ⟨String.toList_inj.mp hhost, port_injective (String.toList_inj.mp hport)⟩

/-- Nodes with a management port have one endpoint id only if they have one identity. -/
theorem endpointId_injective {service id : String} {node node' : ParsedConfigNode}
    (h : node.endpointId service = some id) (h' : node'.endpointId service = some id) :
    node.addresses.hostname = node'.addresses.hostname ∧
      node.addresses.nonSslPorts.mgmt = node'.addresses.nonSslPorts.mgmt := by
  unfold ParsedConfigNode.endpointId ParsedConfigNode.nodeId at h h'
  rcases Option.map_eq_some_iff.mp h with ⟨nodeId, hnode, rfl⟩
  rcases Option.map_eq_some_iff.mp h' with ⟨nodeId', hnode', hservice⟩
  rcases Option.map_eq_some_iff.mp hnode with ⟨port, hport, rfl⟩
  rcases Option.map_eq_some_iff.mp hnode' with ⟨port', hport', rfl⟩
  rcases nodeId_injective (append_cancel hservice).symm with ⟨hhost, rfl⟩
  exact ⟨hhost, hport.trans hport'.symm⟩

/-!
# What a node offers
-/

/-- The ports of a node in the chosen network and mode. -/
def ParsedConfigNode.ports (networkType : String) (tlsConfig : Option TlsConfig)
    (node : ParsedConfigNode) : ParsedConfigNodePorts :=
  if tlsConfig.isSome then (node.networkAddresses networkType).sslPorts
  else (node.networkAddresses networkType).nonSslPorts

def ParsedConfigNode.kvTarget (networkType : String) (tlsConfig : Option TlsConfig)
    (node : ParsedConfigNode) : Option KvTarget :=
  (node.ports networkType tlsConfig).kv.map fun port =>
    { address := { host := (node.networkAddresses networkType).hostname, port := port }
      tlsConfig := tlsConfig }

def ParsedConfigNode.serviceUrl (networkType : String) (tlsConfig : Option TlsConfig)
    (service : ParsedConfigNodePorts -> Option UInt16) (node : ParsedConfigNode) :
    Option String :=
  (service (node.ports networkType tlsConfig)).map fun port =>
    (if tlsConfig.isSome then "https://" else "http://") ++
      (node.networkAddresses networkType).hostname ++ ":" ++ toString port

/-- The node in the network, for a node with a management port. -/
def inNetwork (networkType : String) (node : ParsedConfigNode) : NetworkConfigNode :=
  networkNode networkType node (node.nodeId.getD "")

section
variable {nodes : List ParsedConfigNode} (networkType : String)

theorem mapM_network (h : forall node, node ∈ nodes -> exists id, node.nodeId = some id) :
    nodes.mapM (fun node => node.nodeId.map (networkNode networkType node)) =
      some (nodes.map (inNetwork networkType)) := by
  induction nodes with
  | nil => rfl
  | cons node rest ih =>
      rcases h node List.mem_cons_self with ⟨id, hid⟩
      have hrest := ih (fun n hn => h n (List.mem_cons_of_mem _ hn))
      have hnode : inNetwork networkType node = networkNode networkType node id := by
        unfold inNetwork
        rw [hid]
        rfl
      rw [List.mapM_cons, hrest, hid, List.map_cons, hnode]
      rfl

theorem mapM_panics {node : ParsedConfigNode} (hmem : node ∈ nodes)
    (hnone : node.nodeId = none) :
    nodes.mapM (fun node => node.nodeId.map (networkNode networkType node)) = none := by
  induction nodes with
  | nil => cases hmem
  | cons n rest ih =>
      rw [List.mapM_cons]
      rcases List.mem_cons.mp hmem with rfl | hrest
      · rw [hnone]
        rfl
      · rw [ih hrest]
        cases n.nodeId.map (networkNode networkType n) with
        | none => rfl
        | some _ => rfl

theorem endpointId_eq (service : String) {node : ParsedConfigNode}
    (h : exists id, node.nodeId = some id) :
    node.endpointId service = some (service ++ (inNetwork networkType node).nodeId) := by
  rcases h with ⟨id, hid⟩
  unfold ParsedConfigNode.endpointId inNetwork networkNode
  rw [hid]
  rfl

/-- A map that is filled in the order of the nodes. -/
theorem serves_network {value : Type} (service : String)
    (entry : NetworkConfigNode -> Option value)
    (h : forall node, node ∈ nodes -> exists id, node.nodeId = some id) :
    Serves ((nodes.map (inNetwork networkType)).foldl
        (fillStep (fun node => service ++ node.nodeId) entry) ∅)
      nodes (ParsedConfigNode.endpointId service)
      (fun node => entry (inNetwork networkType node)) := by
  rw [List.foldl_map]
  have hfill := serves_fill (fun node => service ++ (inNetwork networkType node).nodeId)
    (fun node => entry (inNetwork networkType node)) nodes
  exact hfill.congr (fun node hmem => endpointId_eq networkType service (h node hmem))

/-- A map among what the loop collects. -/
theorem serves_collected {value : Type} (tlsConfig : Option TlsConfig)
    (field : Collected -> FiniteMap String value) (service : String)
    (entry : NetworkConfigNode -> Option value) (hempty : field Collected.empty = ∅)
    (hstep : forall c node, field (collectNode tlsConfig c node) =
      fillStep (fun node => service ++ node.nodeId) entry (field c) node)
    (h : forall node, node ∈ nodes -> exists id, node.nodeId = some id) :
    Serves (field ((nodes.map (inNetwork networkType)).foldl (collectNode tlsConfig)
        Collected.empty))
      nodes (ParsedConfigNode.endpointId service)
      (fun node => entry (inNetwork networkType node)) := by
  rw [← List.foldl_hom field (fun c node => (hstep c node).symm), hempty]
  exact serves_network networkType service entry h

end

/-!
# The server list
-/

theorem filter_eq_take {item : Type} (p : item -> Bool) (items : List item) (n : Nat)
    (h : forall i a, items[i]? = some a -> p a = decide (i < n)) :
    items.filter p = items.take n := by
  induction items generalizing n with
  | nil => rw [List.filter_nil, List.take_nil]
  | cons a rest ih =>
      have hhead : p a = decide (0 < n) := h 0 a rfl
      cases n with
      | zero =>
          have hrest := ih 0 (fun i b hb => (h (i + 1) b hb).trans (by simp))
          rw [List.filter_cons_of_neg (by simp [hhead]), hrest, List.take_zero, List.take_zero]
      | succ n =>
          have hrest := ih n (fun i b hb => (h (i + 1) b hb).trans (by simp))
          rw [List.filter_cons_of_pos (by simp [hhead]), hrest, List.take_succ_cons]

theorem routingInfoOf_serverList (bucket : Option ParsedConfigBucket) (ids : List String) :
    (routingInfoOf bucket ids).serverList = ids := by
  cases bucket with
  | none => rfl
  | some _ => rfl

theorem kvDataNodeIds_collected (tlsConfig : Option TlsConfig) (nodes : List NetworkConfigNode)
    (c : Collected) :
    (nodes.foldl (collectNode tlsConfig) c).kvDataNodeIds =
      c.kvDataNodeIds ++
        (nodes.filter NetworkConfigNode.hasData).map (fun node => "kv" ++ node.nodeId) := by
  induction nodes generalizing c with
  | nil => exact (List.append_nil _).symm
  | cons node rest ih =>
      rw [List.foldl_cons, ih]
      unfold collectNode
      cases hdata : node.hasData with
      | true =>
          rw [List.filter_cons_of_pos hdata, List.map_cons]
          exact List.append_assoc ..
      | false =>
          rw [List.filter_cons_of_neg (by rw [hdata]; decide)]
          rfl

/-!
# The components of an accepted config
-/

/-- The endpoints and the server list are those of the nodes. -/
structure RoutesNodes (config : TerseConfig) (sourceHostname networkType : String)
    (tlsConfig : Option TlsConfig) (parsed : ParsedConfig)
    (components : AgentComponentConfigs) : Prop where
  serverCount : components.vbucketRoutingInfo.serverList.length =
    min (config.nodes.getD []).length config.nodesExt.length
  servers : forall i node, i < (config.nodes.getD []).length -> config.nodesExt[i]? = some node ->
    components.vbucketRoutingInfo.serverList[i]? =
      (ConfigParser.parseNode sourceHostname (config.nodes.getD []).length i node).endpointId "kv"
  distinct : forall service node node', node ∈ parsed.nodes -> node' ∈ parsed.nodes ->
    node.addresses.hostname ≠ node'.addresses.hostname ∨
      node.addresses.nonSslPorts.mgmt ≠ node'.addresses.nonSslPorts.mgmt ->
        node.endpointId service ≠ node'.endpointId service
  kvTargets : Serves components.kvTargets parsed.nodes
    (ParsedConfigNode.endpointId "kv") (ParsedConfigNode.kvTarget networkType tlsConfig)
  mgmt : Serves components.mgmtEndpoints parsed.nodes (ParsedConfigNode.endpointId "mgmt")
    (ParsedConfigNode.serviceUrl networkType tlsConfig ParsedConfigNodePorts.mgmt)
  analytics : Serves components.analyticsEndpoints parsed.nodes
    (ParsedConfigNode.endpointId "analytics")
    (ParsedConfigNode.serviceUrl networkType tlsConfig ParsedConfigNodePorts.analytics)
  query : Serves components.queryEndpoints parsed.nodes (ParsedConfigNode.endpointId "query")
    (ParsedConfigNode.serviceUrl networkType tlsConfig ParsedConfigNodePorts.query)
  search : Serves components.searchEndpoints parsed.nodes (ParsedConfigNode.endpointId "search")
    (ParsedConfigNode.serviceUrl networkType tlsConfig ParsedConfigNodePorts.search)

/-- The services of the node have a management port outside TLS. -/
def TerseNodeExtConfig.HasMgmtPort (node : TerseNodeExtConfig) : Prop :=
  exists services port, node.services = some services ∧ services.mgmt = some port

theorem nodeId_iff (sourceHostname : String) (lenNodes i : Nat) (node : TerseNodeExtConfig) :
    (exists id, (ConfigParser.parseNode sourceHostname lenNodes i node).nodeId = some id) <->
      node.HasMgmtPort := by
  have hmgmt : (ConfigParser.parseNode sourceHostname lenNodes i node).addresses.nonSslPorts.mgmt =
      (node.services.getD .default).mgmt := rfl
  unfold ParsedConfigNode.nodeId TerseNodeExtConfig.HasMgmtPort
  rw [hmgmt]
  constructor
  · rintro ⟨id, hid⟩
    rcases Option.map_eq_some_iff.mp hid with ⟨port, hport, _⟩
    cases hservices : node.services with
    | none =>
        rw [hservices] at hport
        cases hport
    | some services =>
        rw [hservices] at hport
        exact ⟨services, port, rfl, hport⟩
  · rintro ⟨services, port, hservices, hport⟩
    rw [hservices]
    show exists id, (services.mgmt).map _ = some id
    rw [hport]
    exact ⟨_, rfl⟩

section
variable {config : TerseConfig} {sourceHostname : String} {parsed : ParsedConfig}
variable (networkType : String) (tlsConfig : Option TlsConfig) (bucketName : Option String)
  (authenticator : Authenticator)

theorem lookup_kvTargets (kvDataHosts : FiniteMap String Address) (k : String) :
    (kvTargetsOf tlsConfig kvDataHosts).lookup k =
      (kvDataHosts.lookup k).map
        (fun address => { address := address, tlsConfig := tlsConfig }) := by
  have hcollect := FiniteMap.lookup_collect
    (fun address : Address => some ({ address := address, tlsConfig := tlsConfig } : KvTarget))
    kvDataHosts k
  refine Eq.trans hcollect ?_
  cases kvDataHosts.lookup k with
  | none => rfl
  | some address => rfl

theorem kvTarget_inNetwork :
    (fun node => (NetworkConfigNode.kvAddress tlsConfig (inNetwork networkType node)).map
      fun address => ({ address := address, tlsConfig := tlsConfig } : KvTarget)) =
      ParsedConfigNode.kvTarget networkType tlsConfig := by
  funext node
  exact Option.map_map ..

theorem serves_kvTargets {nodes : List ParsedConfigNode}
    (h : forall node, node ∈ nodes -> exists id, node.nodeId = some id) :
    Serves (kvTargetsOf tlsConfig ((nodes.map (inNetwork networkType)).foldl
        (collectNode tlsConfig) Collected.empty).kvDataHosts)
      nodes (ParsedConfigNode.endpointId "kv")
      (ParsedConfigNode.kvTarget networkType tlsConfig) := by
  have hhosts := serves_collected networkType tlsConfig Collected.kvDataHosts "kv"
    (NetworkConfigNode.kvAddress tlsConfig) rfl (fun _ _ => rfl) h
  have htargets := hhosts.map _ (lookup_kvTargets tlsConfig _)
  rw [kvTarget_inNetwork] at htargets
  exact htargets

/-- Where the components can be made, every node has an id. -/
theorem genFromConfig_some {components : AgentComponentConfigs}
    (h : genFromConfig parsed networkType tlsConfig bucketName authenticator =
      some components) :
    (forall node, node ∈ parsed.nodes -> exists id, node.nodeId = some id) ∧
      components = componentsOf parsed tlsConfig bucketName authenticator
        ((parsed.nodes.map (inNetwork networkType)).foldl (collectNode tlsConfig)
          Collected.empty) := by
  have hids : forall node, node ∈ parsed.nodes -> exists id, node.nodeId = some id := by
    intro node hmem
    cases hid : node.nodeId with
    | some id => exact ⟨id, rfl⟩
    | none =>
        unfold genFromConfig ParsedConfig.addressesGroupForNetworkType at h
        rw [mapM_panics networkType hmem hid] at h
        cases h
  refine ⟨hids, ?_⟩
  unfold genFromConfig ParsedConfig.addressesGroupForNetworkType at h
  rw [mapM_network networkType hids] at h
  exact (Option.some.inj h).symm

variable (hparsed : ConfigParser.parseTerseConfig config sourceHostname = .ok parsed)
include hparsed

theorem nodes_parsed (i : Nat) :
    parsed.nodes[i]? = config.nodesExt[i]?.map
      (ConfigParser.parseNode sourceHostname (config.nodes.getD []).length i) := by
  rw [(ConfigParser.parseTerseConfig_ok hparsed).2.2, List.getElem?_mapIdx]

theorem nodeIds_of_ports (h : forall node, node ∈ config.nodesExt -> node.HasMgmtPort) :
    forall node, node ∈ parsed.nodes -> exists id, node.nodeId = some id := by
  intro node hmem
  rcases List.mem_iff_getElem?.mp hmem with ⟨i, hi⟩
  rw [nodes_parsed hparsed] at hi
  rcases Option.map_eq_some_iff.mp hi with ⟨ext, hext, rfl⟩
  exact (nodeId_iff sourceHostname _ i ext).mpr (h ext (List.mem_of_getElem? hext))

theorem serverList_parsed :
    (parsed.nodes.map (inNetwork networkType)).filter NetworkConfigNode.hasData =
      (parsed.nodes.map (inNetwork networkType)).take (config.nodes.getD []).length := by
  apply filter_eq_take
  intro i node hi
  rw [List.getElem?_map, nodes_parsed hparsed, Option.map_map] at hi
  rcases Option.map_eq_some_iff.mp hi with ⟨ext, _, rfl⟩
  rfl

theorem serverList_eq :
    ((parsed.nodes.map (inNetwork networkType)).foldl (collectNode tlsConfig)
        Collected.empty).kvDataNodeIds =
      (parsed.nodes.take (config.nodes.getD []).length).map
        (fun node => "kv" ++ (inNetwork networkType node).nodeId) := by
  rw [kvDataNodeIds_collected, serverList_parsed networkType hparsed, ← List.map_take,
    List.map_map]
  rfl

theorem routesNodes_of_ports (h : forall node, node ∈ config.nodesExt -> node.HasMgmtPort) :
    RoutesNodes config sourceHostname networkType tlsConfig parsed
      (componentsOf parsed tlsConfig bucketName authenticator
        ((parsed.nodes.map (inNetwork networkType)).foldl (collectNode tlsConfig)
          Collected.empty)) := by
  have hids := nodeIds_of_ports hparsed h
  have hlength : parsed.nodes.length = config.nodesExt.length := by
    rw [(ConfigParser.parseTerseConfig_ok hparsed).2.2, List.length_mapIdx]
  unfold componentsOf
  constructor
  case serverCount =>
    rw [routingInfoOf_serverList, serverList_eq networkType tlsConfig hparsed, List.length_map,
      List.length_take, hlength]
  case servers =>
    intro i ext hi hext
    rw [routingInfoOf_serverList, serverList_eq networkType tlsConfig hparsed, List.getElem?_map,
      List.getElem?_take_of_lt hi, nodes_parsed hparsed, hext]
    exact (endpointId_eq networkType "kv"
      ((nodeId_iff sourceHostname _ i ext).mpr (h ext (List.mem_of_getElem? hext)))).symm
  case distinct =>
    intro service node node' hmem hmem' hne heq
    have hsome := endpointId_eq networkType service (hids node hmem)
    rcases endpointId_injective hsome (heq.symm.trans hsome) with ⟨hhost, hport⟩
    exact hne.elim (fun h => h hhost) (fun h => h hport)
  case kvTargets => exact serves_kvTargets networkType tlsConfig hids
  case mgmt =>
    exact serves_collected networkType tlsConfig Collected.mgmtEndpoints "mgmt" _ rfl
      (fun _ _ => rfl) hids
  case analytics =>
    exact serves_collected networkType tlsConfig Collected.analyticsEndpoints "analytics" _ rfl
      (fun _ _ => rfl) hids
  case query =>
    exact serves_collected networkType tlsConfig Collected.queryEndpoints "query" _ rfl
      (fun _ _ => rfl) hids
  case search =>
    exact serves_collected networkType tlsConfig Collected.searchEndpoints "search" _ rfl
      (fun _ _ => rfl) hids

/-- The components can be made of an accepted config exactly if every node has a management
port, and then they are those of the nodes. -/
theorem genFromConfig_iff :
    (exists components,
      genFromConfig parsed networkType tlsConfig bucketName authenticator = some components ∧
        RoutesNodes config sourceHostname networkType tlsConfig parsed components) <->
      forall node, node ∈ config.nodesExt -> node.HasMgmtPort := by
  constructor
  · rintro ⟨components, hgen, _⟩ ext hmem
    rcases List.mem_iff_getElem?.mp hmem with ⟨i, hi⟩
    have hnode := nodes_parsed hparsed i
    rw [hi] at hnode
    have hids := (genFromConfig_some networkType tlsConfig bucketName authenticator hgen).1
    exact (nodeId_iff sourceHostname _ i ext).mp (hids _ (List.mem_of_getElem? hnode))
  · intro h
    unfold genFromConfig ParsedConfig.addressesGroupForNetworkType
    rw [mapM_network networkType (nodeIds_of_ports hparsed h)]
    exact ⟨_, rfl, routesNodes_of_ports networkType tlsConfig bucketName authenticator hparsed h⟩

end

/-- A config of the first revision, without a bucket, in which every node has data. -/
def TerseConfig.ofNodes (nodesExt : List TerseNodeExtConfig) : TerseConfig :=
  { rev := 1
    revEpoch := some 1
    name := none
    nodeLocator := none
    uuid := none
    bucketCapabilities := none
    vbucketServerMap := none
    nodes := some (nodesExt.map fun node => { hostname := node.hostname })
    nodesExt := nodesExt
    clusterCapabilities := ∅ }

/-- A node with these ports for KV and management, in the default network only. -/
def TerseNodeExtConfig.ofPorts (hostname : Option String) (kv mgmt : Option UInt16) :
    TerseNodeExtConfig :=
  { services := some { TerseExtNodePorts.default with kv := kv, mgmt := mgmt }
    hostname := hostname
    alternateAddresses := ∅ }

theorem genFromConfig_twoNodes :
    exists parsed, ConfigParser.parseTerseConfig
        (.ofNodes [.ofPorts (some "10.0.0.1") (some 11210) (some 8091),
          .ofPorts none (some 11210) (some 8091)]) "10.0.0.2" = .ok parsed ∧
      exists components,
        genFromConfig parsed "default" none none .certificateAuthenticator = some components ∧
          RoutesNodes (.ofNodes [.ofPorts (some "10.0.0.1") (some 11210) (some 8091),
            .ofPorts none (some 11210) (some 8091)]) "10.0.0.2" "default" none parsed
            components := by
  refine ⟨_, rfl, (genFromConfig_iff "default" none none .certificateAuthenticator rfl).mpr ?_⟩
  intro node hmem
  rcases List.mem_cons.mp hmem with rfl | hmem
  · exact ⟨_, 8091, rfl, rfl⟩
  · rcases List.mem_singleton.mp hmem with rfl
    exact ⟨_, 8091, rfl, rfl⟩

/-- A node that runs the data service but reports no management port. -/
theorem genFromConfig_noMgmtPort :
    exists parsed, ConfigParser.parseTerseConfig
        (.ofNodes [.ofPorts (some "10.0.0.1") (some 11210) none]) "10.0.0.1" = .ok parsed ∧
      ¬ exists components,
        genFromConfig parsed "default" none none .certificateAuthenticator = some components ∧
          RoutesNodes (.ofNodes [.ofPorts (some "10.0.0.1") (some 11210) none]) "10.0.0.1"
            "default" none parsed components := by
  refine ⟨_, rfl, ?_⟩
  rintro ⟨components, hgen, _⟩
  cases hgen

end Config
end CouchbaseSdk
