import CouchbaseSdk.Config.ConfigParser
import CouchbaseSdk.Config.Topology

/-!
# Which network the agent is in

The heuristic looks for the string that the first config was parsed with among the texts
`host:port` of the nodes.  That string is a host without a port.
-/

namespace CouchbaseSdk
namespace Config

open Foundation

/-!
# The heuristic
-/

/-- `format!("{}:{}", hostname, p) == addr`, for a port that is there. -/
def portNames (hostname addr : String) (port : Option UInt16) : Bool :=
  port.any fun p => decide (hostname ++ ":" ++ toString p = addr)

/-- The TLS port of the management service is not looked at; the one of the data service is
looked at twice. -/
def nodeContainsAddress (node : ParsedConfigNodeAddresses) (addr : String) : Bool :=
  portNames node.hostname addr node.nonSslPorts.kv ||
    portNames node.hostname addr node.nonSslPorts.mgmt ||
    portNames node.hostname addr node.sslPorts.kv ||
    portNames node.hostname addr node.sslPorts.kv

section Heuristic

variable (order : List (String × ParsedConfigNodeAddresses) ->
  List (String × ParsedConfigNodeAddresses))

/-- The alternate addresses as the two loops come to them; `order` is the one of a hash map. -/
def alternates (config : ParsedConfig) : List (String × ParsedConfigNodeAddresses) :=
  config.nodes.flatMap fun node => order (FiniteMap.pairs node.altAddresses)

def identify (config : ParsedConfig) : String :=
  if config.nodes.any fun node => nodeContainsAddress node.addresses config.sourceHostname then
    "default"
  else
    (((alternates order config).find? fun alt =>
      nodeContainsAddress alt.2 config.sourceHostname).map Prod.fst).getD "default"

end Heuristic

/-!
# The source of the first config
-/

/-- A host as a URL prints it. -/
inductive UrlHost : String -> Prop where
  | name (host : String) : ':' ∉ host.toList -> '[' ∉ host.toList -> UrlHost host
  | ipv6 (host : String) : ':' ∈ host.toList -> '[' ∉ host.toList -> ']' ∉ host.toList ->
      UrlHost ("[" ++ host ++ "]")

/-- Where the first config comes from: `get_first_config` parses it with the host of the
address, `fetch_http_config` with the hostname of the endpoint. -/
inductive Bootstrap where
  | kv (address : Address)
  | http (host : String) (valid : UrlHost host) (port : UInt16)

namespace Bootstrap

def host : Bootstrap -> String
  | .kv address => address.host
  | .http host _ _ => host

def port : Bootstrap -> UInt16
  | .kv address => address.port
  | .http _ _ port => port

def sourceHostname : Bootstrap -> Except AddrError String
  | .kv address => .ok address.host
  | .http host _ port => getHostnameFromHostPort (host ++ ":" ++ toString port)

end Bootstrap

/-!
# Network selection
-/

section Spec

/-- The port is one of the data or management service, plain or TLS. -/
def ReachedBy (address : ParsedConfigNodeAddresses) (host : String) (port : UInt16) : Prop :=
  address.hostname = host ∧
    some port ∈ [address.nonSslPorts.kv, address.nonSslPorts.mgmt, address.sslPorts.kv,
      address.sslPorts.mgmt]

variable (order : List (String × ParsedConfigNodeAddresses) ->
  List (String × ParsedConfigNodeAddresses)) (config : ParsedConfig) (host : String)
  (port : UInt16)

/-- The host is the hostname of a node in this network alone, and is reached there. -/
structure OnlyInNetwork (network : String) : Prop where
  reached : exists node address, node ∈ config.nodes ∧
    node.altAddresses.lookup network = some address ∧ ReachedBy address host port
  no_default : forall node, node ∈ config.nodes -> node.addresses.hostname ≠ host
  no_other : forall node other address, node ∈ config.nodes ->
    node.altAddresses.lookup other = some address -> address.hostname = host -> other = network

def DefaultMatches : Prop :=
  exists node, node ∈ config.nodes ∧ ReachedBy node.addresses host port

structure IdentifiesNetwork : Prop where
  alternate : forall network, OnlyInNetwork config host port network ->
    identify order config = network
  default : DefaultMatches config host port -> identify order config = "default"

/-- The source string is itself the text `host:port` of an alternate address, and of no
default one. -/
def NamesAlternate : Prop :=
  (forall node, node ∈ config.nodes ->
    nodeContainsAddress node.addresses config.sourceHostname = false) ∧
  exists alt, (alternates order config).find? (fun alt =>
      nodeContainsAddress alt.2 config.sourceHostname) = some alt ∧ alt.1 ≠ "default"

end Spec

/-!
# Texts with a port
-/

theorem portNames_some {hostname addr : String} {port : Option UInt16}
    (h : portNames hostname addr port = true) :
    exists p : UInt16, hostname ++ ":" ++ toString p = addr := by
  cases port with
  | none => cases h
  | some p => exact ⟨p, of_decide_eq_true h⟩

theorem contains_text {node : ParsedConfigNodeAddresses} {addr : String}
    (h : nodeContainsAddress node addr = true) :
    exists p : UInt16, node.hostname ++ ":" ++ toString p = addr := by
  unfold nodeContainsAddress at h
  simp only [Bool.or_eq_true] at h
  rcases h with ((h | h) | h) | h
  · exact portNames_some h
  · exact portNames_some h
  · exact portNames_some h
  · exact portNames_some h

theorem toList_text (hostname : String) (port : UInt16) :
    (hostname ++ ":" ++ toString port).toList =
      hostname.toList ++ ':' :: (toString port).toList := by
  rw [String.toList_append, String.toList_append, List.append_assoc]
  rfl

theorem port_no_bracket (port : UInt16) : ']' ∉ (toString port).toList := by
  rw [toList_port]
  intro hmem
  have hdigit := Nat.isDigit_of_mem_toDigits (by decide) (by decide) hmem
  revert hdigit
  decide

/-- The parser's hostnames have no port behind them. -/
theorem parsed_not_contained {addr hostname source : String}
    (haddr : addr = parseConfigHostname (some hostname) source)
    (node : ParsedConfigNodeAddresses) : nodeContainsAddress node addr = false := by
  cases hcontains : nodeContainsAddress node addr with
  | false => rfl
  | true =>
      exfalso
      rcases contains_text hcontains with ⟨p, htext⟩
      have hlist := congrArg String.toList htext
      rw [toList_text, haddr] at hlist
      unfold parseConfigHostname at hlist
      dsimp only at hlist
      split at hlist
      · rw [toList_brackets] at hlist
        have hreverse := congrArg List.reverse hlist
        rw [List.reverse_append, List.reverse_cons, List.append_assoc, List.reverse_cons,
          List.reverse_append, List.reverse_singleton] at hreverse
        cases hdigits : (toString p).toList.reverse with
        | nil =>
            rw [hdigits] at hreverse
            cases hreverse
        | cons d rest =>
            rw [hdigits] at hreverse
            have hd : d = ']' := (List.cons.inj hreverse).1
            apply port_no_bracket p
            rw [← List.mem_reverse, hdigits, hd]
            exact List.mem_cons_self
      · rename_i hcolon
        apply hcolon
        rw [← hlist]
        exact List.mem_append_right _ List.mem_cons_self

/-!
# The hostnames of a parsed config
-/

section Parsed

variable {config : TerseConfig} {parsed : ParsedConfig} {source : String}

theorem lookup_altAddresses {nodeHostname network : String}
    {entries : List (Sigma fun _ : String => TerseExtNodeAltAddresses)}
    {m : FiniteMap String ParsedConfigNodeAddresses} {address : ParsedConfigNodeAddresses}
    (h : (entries.foldl (fun m item =>
      m.insert item.1 (ConfigParser.parseAltAddresses nodeHostname item.2)) m).lookup network =
        some address) :
    m.lookup network = some address ∨
      exists item, item ∈ entries ∧ network = item.1 ∧
        address = ConfigParser.parseAltAddresses nodeHostname item.2 := by
  induction entries generalizing m with
  | nil => exact Or.inl h
  | cons entry entries ih =>
      rcases ih h with hinsert | ⟨item, hitem, halt⟩
      · by_cases hkey : network = entry.1
        · rw [hkey, AList.lookup_insert] at hinsert
          exact Or.inr ⟨entry, List.mem_cons_self, hkey, (Option.some.inj hinsert).symm⟩
        · rw [AList.lookup_insert_ne hkey] at hinsert
          exact Or.inl hinsert
      · exact Or.inr ⟨item, List.mem_cons_of_mem _ hitem, halt⟩

/-- Where the hostnames of a node come from. -/
theorem hostnames_parsed (hparse : ConfigParser.parseTerseConfig config source = .ok parsed)
    {node : ParsedConfigNode} (hnode : node ∈ parsed.nodes) :
    (exists hostname, node.addresses.hostname = parseConfigHostname hostname source) ∧
      forall network address, node.altAddresses.lookup network = some address ->
        exists hostname,
          address.hostname = parseConfigHostname hostname node.addresses.hostname := by
  rw [(ConfigParser.parseTerseConfig_ok hparse).2.2] at hnode
  rcases List.mem_mapIdx.mp hnode with ⟨i, hi, rfl⟩
  refine ⟨⟨_, rfl⟩, ?_⟩
  intro network address hlookup
  rcases lookup_altAddresses hlookup with hempty | ⟨item, _, _, rfl⟩
  · cases hempty
  · exact ⟨_, rfl⟩

end Parsed

/-!
# What is identified
-/

section Identify

variable {order : List (String × ParsedConfigNodeAddresses) ->
  List (String × ParsedConfigNodeAddresses)} {config : ParsedConfig}

theorem identify_of_default {node : ParsedConfigNode} (hnode : node ∈ config.nodes)
    (hcontains : nodeContainsAddress node.addresses config.sourceHostname = true) :
    identify order config = "default" :=
  if_pos (List.any_eq_true.mpr ⟨node, hnode, hcontains⟩)

theorem identify_of_no_default (h : forall node, node ∈ config.nodes ->
    nodeContainsAddress node.addresses config.sourceHostname = false) :
    identify order config =
      (((alternates order config).find? fun alt =>
        nodeContainsAddress alt.2 config.sourceHostname).map Prod.fst).getD "default" := by
  apply if_neg
  intro hany
  rcases List.any_eq_true.mp hany with ⟨node, hnode, hcontains⟩
  rw [h node hnode] at hcontains
  cases hcontains

/-- Where no address has the text, the network is the default one. -/
theorem identify_of_parsed {hostname source : String}
    (h : config.sourceHostname = parseConfigHostname (some hostname) source) :
    identify order config = "default" := by
  rw [identify_of_no_default fun node _ => parsed_not_contained h node.addresses]
  have hnone : ((alternates order config).find? fun alt =>
      nodeContainsAddress alt.2 config.sourceHostname) = none := by
    rw [List.find?_eq_none]
    intro alt _
    rw [parsed_not_contained h alt.2]
    exact Bool.false_ne_true
  rw [hnone]
  rfl

/-- The network is the default one unless the source string names an alternate address. -/
theorem identify_default_iff :
    identify order config = "default" <-> ¬ NamesAlternate order config := by
  unfold NamesAlternate
  by_cases h : forall node, node ∈ config.nodes ->
      nodeContainsAddress node.addresses config.sourceHostname = false
  · rw [identify_of_no_default h]
    cases hfind : (alternates order config).find? fun alt =>
        nodeContainsAddress alt.2 config.sourceHostname with
    | none => simp
    | some alt =>
        simp only [Option.map_some, Option.getD_some]
        constructor
        · rintro hdefault ⟨_, alt', hsome, hne⟩
          cases hsome
          exact hne hdefault
        · intro hnot
          by_contra hne
          exact hnot ⟨h, alt, rfl, hne⟩
  · rcases not_forall.mp h with ⟨node, hnode⟩
    rcases Classical.not_imp.mp hnode with ⟨hmem, hcontains⟩
    apply iff_of_true (identify_of_default hmem (Bool.not_eq_false _ ▸ hcontains))
    rintro ⟨hall, _⟩
    exact hcontains (hall node hmem)

end Identify

/-!
# The source string
-/

theorem port_no_colon (port : UInt16) : ':' ∉ (toString port).toList := by
  rw [toList_port]
  intro hmem
  have hdigit := Nat.isDigit_of_mem_toDigits (by decide) (by decide) hmem
  revert hdigit
  decide

theorem port_no_opening (port : UInt16) : '[' ∉ (toString port).toList := by
  rw [toList_port]
  intro hmem
  have hdigit := Nat.isDigit_of_mem_toDigits (by decide) (by decide) hmem
  revert hdigit
  decide

theorem splitHostPort_name {host : List Char} (hcolon : ':' ∉ host) (hopening : '[' ∉ host)
    {port : List Char} (hport : ':' ∉ port) :
    splitHostPort (host ++ ':' :: port) = .ok (host, port) := by
  unfold splitHostPort
  rw [rfindChar_last host hport]
  dsimp only
  split
  · rename_i stripped hbracket
    exfalso
    cases host with
    | nil => cases hbracket
    | cons c host =>
        apply hopening
        rw [(List.cons.inj hbracket).1]
        exact List.mem_cons_self
  · rw [List.take_left, if_neg hcolon, List.drop_append, List.drop_of_length_le (by simp)]
    simp

theorem findChar_closing {host : List Char} (hclosing : ']' ∉ host) (behind : List Char) :
    findChar ']' ('[' :: (host ++ ']' :: behind)) = some (host.length + 1) := by
  unfold findChar
  rw [if_pos (List.mem_cons_of_mem _ (List.mem_append_right _ List.mem_cons_self)),
    List.idxOf_cons_ne _ (by decide), List.idxOf_append_of_notMem hclosing, List.idxOf_cons_self,
    Nat.add_zero]

theorem splitBracketed_ipv6 {host port : List Char} (hopening : '[' ∉ host)
    (hclosing : ']' ∉ host) (hport : '[' ∉ port) (hport' : ']' ∉ port) :
    splitBracketed ('[' :: (host ++ ']' :: ':' :: port)) (host ++ ']' :: ':' :: port)
      (host.length + 2) = .ok (host, port) := by
  -- no second bracket stands in the text
  have hbrackets : ¬ ('[' ∈ host ++ ']' :: ':' :: port ∨
      ']' ∈ ('[' :: (host ++ ']' :: ':' :: port)).drop (host.length + 1 + 1)) := by
    rw [List.drop_succ_cons, List.drop_append, List.drop_of_length_le (by omega)]
    simp [hopening, hport, hport']
  have hlength : ¬ host.length + 1 + 1 = ('[' :: (host ++ ']' :: ':' :: port)).length := by
    simp
  have hnext : ¬ (host.length + 1 + 1 ≠ host.length + 2) := fun h => h rfl
  unfold splitBracketed
  rw [findChar_closing hclosing]
  dsimp only
  rw [if_neg hlength, if_neg hnext, if_neg hbrackets]
  simp [List.drop_append]

theorem splitHostPort_ipv6 {host port : List Char} (hopening : '[' ∉ host)
    (hclosing : ']' ∉ host) (hcolon : ':' ∉ port) (hport : '[' ∉ port) (hport' : ']' ∉ port) :
    splitHostPort ('[' :: (host ++ [']']) ++ ':' :: port) = .ok (host, port) := by
  have htext : '[' :: (host ++ [']']) ++ ':' :: port = '[' :: (host ++ ']' :: ':' :: port) := by
    simp
  have hlast : rfindChar ':' ('[' :: (host ++ ']' :: ':' :: port)) = some (host.length + 2) := by
    have h := rfindChar_last ('[' :: (host ++ [']'])) hcolon
    rwa [htext, List.length_cons, List.length_append, List.length_singleton] at h
  rw [htext]
  unfold splitHostPort
  rw [hlast]
  exact splitBracketed_ipv6 hopening hclosing hport hport'

theorem sourceHostname_host {bootstrap : Bootstrap} {source : String}
    (h : bootstrap.sourceHostname = .ok source) : source = bootstrap.host := by
  cases bootstrap with
  | kv address =>
      cases h
      rfl
  | http host valid port =>
      unfold Bootstrap.sourceHostname getHostnameFromHostPort at h
      dsimp only at h
      rw [toList_text] at h
      cases valid with
      | name _ hcolon hopening =>
          rw [splitHostPort_name hcolon hopening (port_no_colon port)] at h
          simp only [Except.map, if_neg hcolon, String.ofList_toList] at h
          cases h
          rfl
      | ipv6 host hcolon hopening hclosing =>
          rw [toList_brackets, splitHostPort_ipv6 hopening hclosing (port_no_colon port)
            (port_no_opening port) (port_no_bracket port)] at h
          simp only [Except.map, if_pos hcolon, String.ofList_toList] at h
          cases h
          rfl

/-!
# When the network is identified
-/

section Identified

variable {order : List (String × ParsedConfigNodeAddresses) ->
  List (String × ParsedConfigNodeAddresses)} {config : TerseConfig} {parsed : ParsedConfig}
  {source host : String} {port : UInt16}

/-- A hostname of an alternate network alone is one that the parser wrote itself. -/
theorem identify_of_onlyInNetwork
    (hparse : ConfigParser.parseTerseConfig config source = .ok parsed) (hsource : source = host)
    {network : String} (honly : OnlyInNetwork parsed host port network) :
    identify order parsed = "default" := by
  rcases honly.reached with ⟨node, address, hnode, hlookup, hhost, _⟩
  rcases (hostnames_parsed hparse hnode).2 network address hlookup with ⟨hostname, hwritten⟩
  have hparsed : parsed.sourceHostname = source := (ConfigParser.parseTerseConfig_ok hparse).2.1
  cases hostname with
  | none =>
      exact absurd (hwritten.symm.trans hhost) (honly.no_default node hnode)
  | some hostname =>
      apply identify_of_parsed
      rw [hparsed, hsource, ← hhost]
      exact hwritten

end Identified

/-- An alternate network is never identified by the host alone. -/
theorem identifies_network_iff
    (order : List (String × ParsedConfigNodeAddresses) ->
      List (String × ParsedConfigNodeAddresses))
    {config : TerseConfig} {parsed : ParsedConfig} {bootstrap : Bootstrap} {source : String}
    (hsource : bootstrap.sourceHostname = .ok source)
    (hparse : ConfigParser.parseTerseConfig config source = .ok parsed) :
    IdentifiesNetwork order parsed bootstrap.host bootstrap.port <->
      (forall network, OnlyInNetwork parsed bootstrap.host bootstrap.port network ->
        network = "default") ∧
      (DefaultMatches parsed bootstrap.host bootstrap.port -> ¬ NamesAlternate order parsed) := by
  have hdefault : forall network, OnlyInNetwork parsed bootstrap.host bootstrap.port network ->
      identify order parsed = "default" := fun network honly =>
    identify_of_onlyInNetwork hparse (sourceHostname_host hsource) honly
  constructor
  · intro hidentifies
    constructor
    · intro network honly
      rw [← hidentifies.alternate network honly]
      exact hdefault network honly
    · intro hmatches
      exact identify_default_iff.mp (hidentifies.default hmatches)
  · rintro ⟨hnetwork, hnames⟩
    constructor
    · intro network honly
      rw [hnetwork network honly]
      exact hdefault network honly
    · intro hmatches
      exact identify_default_iff.mpr (hnames hmatches)

/-- A node that is reached by `203.0.113.5` from outside. -/
def TerseNodeExtConfig.withExternal : TerseNodeExtConfig :=
  { TerseNodeExtConfig.ofPorts (some "10.0.0.1") (some 11210) (some 8091) with
    alternateAddresses := AList.insert "external"
      { ports := { TerseExtNodePorts.default with kv := some 11210 }
        hostname := some "203.0.113.5" } ∅ }

/-- From inside, the default network is identified. -/
theorem identifies_network_inside :
    exists parsed, ConfigParser.parseTerseConfig
        (.ofNodes [.withExternal]) "10.0.0.1" = .ok parsed ∧
      IdentifiesNetwork id parsed "10.0.0.1" 11210 := by
  refine ⟨_, rfl, (@identifies_network_iff id (.ofNodes [.withExternal]) _
    (.kv ⟨"10.0.0.1", 11210⟩) _ rfl rfl).mpr ⟨?_, ?_⟩⟩
  · intro network honly
    exact absurd rfl (honly.no_default _ List.mem_cons_self)
  · intro _
    exact identify_default_iff.mp (by decide)

/-- From outside, the external network is not identified. -/
theorem not_identifies_network_outside :
    exists parsed, ConfigParser.parseTerseConfig
        (.ofNodes [.withExternal]) "203.0.113.5" = .ok parsed ∧
      ¬ IdentifiesNetwork id parsed "203.0.113.5" 11210 := by
  refine ⟨_, rfl, ?_⟩
  intro hidentifies
  have h := hidentifies.alternate "external" {
    reached := ⟨_, _, List.mem_cons_self, rfl, rfl, List.mem_cons_self⟩
    no_default := ?_
    no_other := ?_ }
  · revert h
    decide
  · intro node hnode
    rcases List.mem_singleton.mp hnode with rfl
    decide
  · intro node other address hnode hlookup hhost
    rcases List.mem_singleton.mp hnode with rfl
    rcases lookup_altAddresses hlookup with hempty | ⟨item, hitem, hnetwork, _⟩
    · cases hempty
    · rcases List.mem_singleton.mp hitem with rfl
      exact hnetwork

end Config
end CouchbaseSdk
