import CouchbaseSdk.Config.Topology
import Mathlib

/-!
# The ways in which a config arrives

A config arrives with a not-my-vbucket response, as the first config of an agent, and when
a node is polled.  Each way takes another name for the host of the node: the id of its
endpoint, the host of its address, and the remote hostname of the connection.
-/

namespace CouchbaseSdk
namespace Config

/-- `serde_json`, as far as terse configs go.  There is nothing to read in an empty text. -/
structure SerdeJson where
  fromStr : String -> Option TerseConfig
  fromSlice : ByteArray -> Option TerseConfig
  fromStr_empty : fromStr "" = none
  fromSlice_empty : fromSlice ByteArray.empty = none

/-- `cbconfig::parse::parse_terse_config` -/
def parseTerseText (json : SerdeJson) (config : ByteArray) (sourceHostname : String) :
    Option TerseConfig :=
  (String.fromUTF8? config).bind fun text => json.fromStr (replaceHost text sourceHostname)

def accept (sourceHostname : String) (config : TerseConfig) : Option ParsedConfig :=
  (ConfigParser.parseTerseConfig config sourceHostname).toOption

/-- `orchestrate_memd_routing` for a not-my-vbucket response of an endpoint, and
`apply_terse_config`.  Bytes that are not UTF-8 are taken for an empty text. -/
def notMyVbucketConfig (json : SerdeJson) (config : ByteArray) (endpoint : String) :
    Option ParsedConfig :=
  if config = ByteArray.empty then none
  else
    let value := (String.fromUTF8? config).getD ""
    (json.fromStr (replaceHost value endpoint)).bind (accept endpoint)

/-- The config of `get_first_config`, from a node that has answered. -/
def getFirstConfig (json : SerdeJson) (rawConfig : ByteArray) (host : Address) :
    Option ParsedConfig :=
  (json.fromSlice rawConfig).bind (accept host.host)

/-- The `remote_hostname` of a connection. -/
def remoteHostname (address : Address) : String :=
  hostnameFromAddrStr address.host

/-- The config of `poll_one`, from a node that has answered. -/
def pollOne (json : SerdeJson) (config : ByteArray) (address : Address) : Option ParsedConfig :=
  if config = ByteArray.empty then none
  else
    let hostname := remoteHostname address
    (parseTerseText json config hostname).bind (accept hostname)

/-!
# The names of a node
-/

theorem endpointId_length {node : ParsedConfigNode} {id : String}
    (h : node.endpointId "kv" = some id) :
    node.addresses.hostname.toList.length < id.toList.length := by
  unfold ParsedConfigNode.endpointId ParsedConfigNode.nodeId at h
  rcases Option.map_eq_some_iff.mp h with ⟨nodeId, hnode, rfl⟩
  rcases Option.map_eq_some_iff.mp hnode with ⟨port, _, rfl⟩
  simp only [String.toList_append, List.length_append]
  have hkv : "kv".toList.length = 2 := rfl
  omega

theorem kvTarget_host {node : ParsedConfigNode} {networkType : String}
    {tlsConfig : Option TlsConfig} {target : KvTarget}
    (h : node.kvTarget networkType tlsConfig = some target) :
    target.address.host = (node.networkAddresses networkType).hostname := by
  rcases Option.map_eq_some_iff.mp h with ⟨port, _, rfl⟩
  rfl

/-- In the default network no node has the id of its endpoint for a host. -/
theorem network_of_host_eq {node : ParsedConfigNode} {networkType id : String}
    (hid : node.endpointId "kv" = some id)
    (h : (node.networkAddresses networkType).hostname = id) : networkType ≠ "default" := by
  rintro rfl
  have hlength := endpointId_length hid
  rw [← h] at hlength
  exact Nat.lt_irrefl _ hlength

/-!
# Agreement
-/

/-- The bytes are UTF-8, and the parser finds the same in them with the id for `$HOST` as
without any substitution. -/
def ReadsSame (json : SerdeJson) (bytes : ByteArray) (config : TerseConfig) (id : String) :
    Prop :=
  exists substituted, parseTerseText json bytes id = some substituted ∧
    ConfigParser.parseTerseConfig substituted id = ConfigParser.parseTerseConfig config id

section
variable {json : SerdeJson} {bytes : ByteArray}

theorem accept_some {sourceHostname : String} {config : TerseConfig} {parsed : ParsedConfig}
    (h : accept sourceHostname config = some parsed) :
    ConfigParser.parseTerseConfig config sourceHostname = .ok parsed := by
  unfold accept at h
  cases hparse : ConfigParser.parseTerseConfig config sourceHostname with
  | error e =>
      rw [hparse] at h
      cases h
  | ok parsed' =>
      rw [hparse] at h
      cases h
      rfl

theorem nonempty_of_read {config : TerseConfig} (h : json.fromSlice bytes = some config) :
    bytes ≠ ByteArray.empty := by
  rintro rfl
  cases json.fromSlice_empty.symm.trans h

/-- A not-my-vbucket response is read as a polled config is, but with the endpoint's id. -/
theorem notMyVbucketConfig_eq (hne : bytes ≠ ByteArray.empty) (endpoint : String) :
    notMyVbucketConfig json bytes endpoint =
      (parseTerseText json bytes endpoint).bind (accept endpoint) := by
  unfold notMyVbucketConfig parseTerseText
  rw [if_neg hne]
  cases String.fromUTF8? bytes with
  | some text => rfl
  | none =>
      show (json.fromStr (replaceHost "" endpoint)).bind _ = none
      have hempty : replaceHost "" endpoint = "" := rfl
      rw [hempty, json.fromStr_empty]
      rfl

theorem pollOne_eq (hne : bytes ≠ ByteArray.empty) (address : Address) :
    pollOne json bytes address =
      (parseTerseText json bytes (remoteHostname address)).bind
        (accept (remoteHostname address)) := by
  unfold pollOne
  rw [if_neg hne]

end

/-- The three ways agree only for a node of another network that has the id of its own
endpoint for a host. -/
theorem configs_agree_iff (json : SerdeJson) (bytes : ByteArray) (config : TerseConfig)
    (bucket : Option ParsedConfigBucket) (node : ParsedConfigNode) (networkType id : String)
    (tlsConfig : Option TlsConfig) (target : KvTarget)
    (hread : json.fromSlice bytes = some config)
    (hbucket : ConfigParser.parseBucket config = .ok bucket)
    (hid : node.endpointId "kv" = some id)
    (htarget : node.kvTarget networkType tlsConfig = some target) :
    (notMyVbucketConfig json bytes id = getFirstConfig json bytes target.address ∧
      getFirstConfig json bytes target.address = pollOne json bytes target.address) <->
      networkType ≠ "default" ∧ (node.networkAddresses networkType).hostname = id ∧
        hostnameFromAddrStr id = id ∧ ReadsSame json bytes config id := by
  have hne := nonempty_of_read hread
  have haccept : forall source, exists parsed,
      ConfigParser.parseTerseConfig config source = .ok parsed ∧
        parsed.sourceHostname = source := by
    intro source
    unfold ConfigParser.parseTerseConfig
    rw [hbucket]
    exact ⟨_, rfl, rfl⟩
  rw [notMyVbucketConfig_eq hne, pollOne_eq hne, ← kvTarget_host htarget]
  unfold getFirstConfig remoteHostname
  rw [hread, Option.bind_some]
  constructor
  · rintro ⟨hnmvb, hpoll⟩
    rcases haccept target.address.host with ⟨parsed, hparsed, hsource⟩
    have hfirst : accept target.address.host config = some parsed := by
      unfold accept
      rw [hparsed]
      rfl
    rw [hfirst] at hnmvb hpoll
    rcases Option.bind_eq_some_iff.mp hnmvb with ⟨substituted, htext, hparse⟩
    rcases Option.bind_eq_some_iff.mp hpoll.symm with ⟨_, _, hparse'⟩
    have hhost : target.address.host = id :=
      hsource.symm.trans (ConfigParser.parseTerseConfig_ok (accept_some hparse)).2.1
    have hremote : target.address.host = hostnameFromAddrStr target.address.host :=
      hsource.symm.trans (ConfigParser.parseTerseConfig_ok (accept_some hparse')).2.1
    rw [hhost] at hremote hparsed
    have hhostname := (kvTarget_host htarget).symm.trans hhost
    refine ⟨network_of_host_eq hid hhostname, hhost, hremote.symm, substituted, htext, ?_⟩
    exact (accept_some hparse).trans hparsed.symm
  · rintro ⟨_, hhost, hremote, substituted, htext, hsame⟩
    rw [hhost, hremote, htext, Option.bind_some]
    unfold accept
    rw [hsame]
    exact ⟨rfl, rfl⟩

/-!
# A text with one host in it
-/

/-- What stands between two texts. -/
def between (before after text : List Char) : Option (List Char) :=
  let host := (text.drop before.length).take (text.length - before.length - after.length)
  if before ++ host ++ after = text then some host else none

theorem between_append (before host after : List Char) :
    between before after (before ++ host ++ after) = some host := by
  have hhost : ((before ++ host ++ after).drop before.length).take
      ((before ++ host ++ after).length - before.length - after.length) = host := by
    rw [List.append_assoc, List.drop_left, List.length_append, List.length_append,
      Nat.add_sub_cancel_left, Nat.add_sub_cancel, List.take_left]
  unfold between
  rw [hhost, if_pos rfl]

theorem substitute_append {before : List Char} (h : '$' ∉ before) (host rest : List Char) :
    substitute host (before ++ rest) = before ++ substitute host rest := by
  induction before with
  | nil => rfl
  | cons c before ih =>
      rcases not_or.mp (List.mem_cons.not.mp h) with ⟨hc, hbefore⟩
      rw [List.cons_append, substitute, ih hbefore]
      · rfl
      · rintro rest' rfl
        exact (hc rfl).elim

theorem replaceHost_append {before after : String} (hbefore : '$' ∉ before.toList)
    (hafter : '$' ∉ after.toList) (host : String) :
    replaceHost (before ++ "$HOST" ++ after) host = before ++ host ++ after := by
  have htail : substitute host.toList after.toList = after.toList := by
    have happend := substitute_append hafter host.toList []
    rw [List.append_nil] at happend
    exact happend.trans (List.append_nil _)
  apply String.toList_inj.mp
  unfold replaceHost
  rw [String.toList_ofList]
  simp only [String.toList_append, List.append_assoc]
  rw [substitute_append hbefore]
  show before.toList ++ (host.toList ++ substitute host.toList after.toList) = _
  rw [htail]

theorem fromUTF8_toUTF8 (text : String) : String.fromUTF8? text.toUTF8 = some text :=
  dif_pos text.isValidUTF8

/-- A reader of the texts that have the name of a host between these two. -/
def SerdeJson.ofParts (before after : String) (config : String -> TerseConfig) : SerdeJson :=
  let fromStr := fun text : String =>
    if text = "" then none
    else (between before.toList after.toList text.toList).map
      (fun host => config (String.ofList host))
  { fromStr := fromStr
    fromSlice := fun bytes => (String.fromUTF8? bytes).bind fromStr
    fromStr_empty := if_pos rfl
    fromSlice_empty := by
      have hempty : String.fromUTF8? ByteArray.empty = some "" := fromUTF8_toUTF8 ""
      rw [hempty]
      rfl }

section
variable {before after : String} {config : String -> TerseConfig} (hbefore : before ≠ "")
include hbefore

theorem ofParts_fromStr (host : String) :
    (SerdeJson.ofParts before after config).fromStr (before ++ host ++ after) =
      some (config host) := by
  have hne : before ++ host ++ after ≠ "" := by
    intro hempty
    have hlist := congrArg String.toList hempty
    rw [String.toList_append, String.toList_append] at hlist
    have hnil : before.toList = [] := (List.append_eq_nil_iff.mp
      (List.append_eq_nil_iff.mp hlist).1).1
    exact hbefore (String.toList_inj.mp hnil)
  unfold SerdeJson.ofParts
  dsimp only
  rw [if_neg hne, String.toList_append, String.toList_append, between_append, Option.map_some,
    String.ofList_toList]

theorem ofParts_fromSlice (host : String) :
    (SerdeJson.ofParts before after config).fromSlice (before ++ host ++ after).toUTF8 =
      some (config host) := by
  show (String.fromUTF8? (before ++ host ++ after).toUTF8).bind
    (SerdeJson.ofParts before after config).fromStr = _
  rw [fromUTF8_toUTF8]
  exact ofParts_fromStr hbefore host

end

/-- The config of one node, up to the name of its host and after it. -/
def textBefore : String :=
  "\x7b\"rev\":1,\"revEpoch\":1,\"nodes\":[\x7b\x7d],\"nodesExt\":[\x7b\"services\":" ++
    "\x7b\"kv\":11210,\"mgmt\":8091\x7d,\"hostname\":\""

def textAfter : String :=
  "\"\x7d],\"clusterCapabilitiesVer\":[1,0],\"clusterCapabilities\":\x7b\x7d\x7d"

theorem textBefore_nonempty : textBefore ≠ "" := by decide

def hostText (host : String) : String :=
  textBefore ++ host ++ textAfter

def hostConfig (host : String) : TerseConfig :=
  { TerseConfig.ofNodes [.ofPorts (some host) (some 11210) (some 8091)] with
    nodes := some [{ hostname := none }] }

def hostReader : SerdeJson :=
  SerdeJson.ofParts textBefore textAfter hostConfig

theorem replaceHost_hostText (host : String) :
    replaceHost (hostText "$HOST") host = hostText host :=
  replaceHost_append (by decide) (by decide) host

theorem configs_agree_default :
    ¬ (notMyVbucketConfig hostReader (hostText "10.0.0.1").toUTF8 "kvep-10.0.0.1-8091" =
        getFirstConfig hostReader (hostText "10.0.0.1").toUTF8 ⟨"10.0.0.1", 11210⟩ ∧
      getFirstConfig hostReader (hostText "10.0.0.1").toUTF8 ⟨"10.0.0.1", 11210⟩ =
        pollOne hostReader (hostText "10.0.0.1").toUTF8 ⟨"10.0.0.1", 11210⟩) := by
  have hiff := configs_agree_iff hostReader (hostText "10.0.0.1").toUTF8 _ none
    (ConfigParser.parseNode "10.0.0.1" 1 0
      (.ofPorts (some "10.0.0.1") (some 11210) (some 8091)))
    "default" "kvep-10.0.0.1-8091" none { address := ⟨"10.0.0.1", 11210⟩, tlsConfig := none }
    (ofParts_fromSlice textBefore_nonempty "10.0.0.1") rfl rfl rfl
  intro hagree
  exact (hiff.mp hagree).1 rfl

/-- The same bytes give three configs of one node: `$HOST`, its address, its endpoint. -/
theorem configs_disagree_host :
    exists first polled, getFirstConfig hostReader (hostText "$HOST").toUTF8 ⟨"10.0.0.1", 11210⟩ =
        some first ∧
      pollOne hostReader (hostText "$HOST").toUTF8 ⟨"10.0.0.1", 11210⟩ = some polled ∧
      first.nodes.map (fun node => node.addresses.hostname) = ["$HOST"] ∧
      polled.nodes.map (fun node => node.addresses.hostname) = ["10.0.0.1"] ∧
      ¬ (notMyVbucketConfig hostReader (hostText "$HOST").toUTF8 "kvep-10.0.0.1-8091" =
          getFirstConfig hostReader (hostText "$HOST").toUTF8 ⟨"10.0.0.1", 11210⟩ ∧
        getFirstConfig hostReader (hostText "$HOST").toUTF8 ⟨"10.0.0.1", 11210⟩ =
          pollOne hostReader (hostText "$HOST").toUTF8 ⟨"10.0.0.1", 11210⟩) := by
  have hread : hostReader.fromSlice (hostText "$HOST").toUTF8 = some (hostConfig "$HOST") :=
    ofParts_fromSlice textBefore_nonempty "$HOST"
  have htext : hostReader.fromStr (hostText "10.0.0.1") = some (hostConfig "10.0.0.1") :=
    ofParts_fromStr textBefore_nonempty "10.0.0.1"
  have hfirst : getFirstConfig hostReader (hostText "$HOST").toUTF8 ⟨"10.0.0.1", 11210⟩ =
      accept "10.0.0.1" (hostConfig "$HOST") := by
    unfold getFirstConfig
    rw [hread]
    rfl
  have hpoll : pollOne hostReader (hostText "$HOST").toUTF8 ⟨"10.0.0.1", 11210⟩ =
      accept "10.0.0.1" (hostConfig "10.0.0.1") := by
    have hremote : remoteHostname ⟨"10.0.0.1", 11210⟩ = "10.0.0.1" := by decide
    rw [pollOne_eq (nonempty_of_read hread), hremote]
    unfold parseTerseText
    rw [fromUTF8_toUTF8, Option.bind_some, replaceHost_hostText, htext]
    rfl
  refine ⟨_, _, hfirst, hpoll, rfl, rfl, ?_⟩
  rintro ⟨_, hagree⟩
  rw [hfirst, hpoll] at hagree
  have hnodes := congrArg (fun parsed => parsed.nodes.map fun node => node.addresses.hostname)
    (Option.some.inj hagree)
  revert hnodes
  decide

end Config
end CouchbaseSdk
