import CouchbaseSdk.Config.Sources

/-!
# Fetching a config again

A config is fetched from a seed, and again from a node that it names.  The name of that
node goes through the parser's brackets, the address of the connection, the hostname that
is cut out of the address, and the substitution for `$HOST`.
-/

namespace CouchbaseSdk
namespace Config

open Foundation

/-!
# Hosts
-/

/-- Characters that stand for themselves in a JSON string. -/
def Plain (text : List Char) : Prop :=
  forall c, c ∈ text -> c ≠ '"' ∧ c ≠ '\\' ∧ 0x20 ≤ c.toNat

def Unbracketed (host : String) : Prop :=
  '[' ∉ host.toList ∧ ']' ∉ host.toList

/-- What all IPv6 literals have. -/
structure Ipv6Literal (host : String) : Prop where
  colons : 2 ≤ host.toList.count ':'
  unbracketed : Unbracketed host
  plain : Plain host.toList

inductive SeedHost : String -> Prop where
  /-- A DNS name or an IPv4 address. -/
  | name (host : String) : host ≠ "" -> ':' ∉ host.toList -> Plain host.toList -> SeedHost host
  | ipv6 (host : String) : Ipv6Literal host -> SeedHost host
  | bracketed (host : String) : Ipv6Literal host -> SeedHost ("[" ++ host ++ "]")

/-- A hostname with colons is in exactly one pair of brackets. -/
def BracketedOnce (host : String) : Prop :=
  ':' ∈ host.toList -> exists inner, host = "[" ++ inner ++ "]" ∧ Unbracketed inner

theorem hostname_ipv6 {host : String} (h : Ipv6Literal host) :
    hostnameFromAddrStr host = host := by
  have hmem : ':' ∈ host.toList.reverse := by
    apply List.mem_reverse.mpr
    exact List.count_pos_iff.mp (Nat.lt_of_lt_of_le Nat.zero_lt_two h.colons)
  rcases List.eq_append_cons_of_mem hmem with ⟨after, before, hsplit, hafter⟩
  have hlist : host.toList = before.reverse ++ ':' :: after.reverse := by
    rw [← List.reverse_reverse host.toList, hsplit, List.reverse_append, List.reverse_cons,
      List.append_assoc]
    rfl
  have hfresh : ':' ∉ after.reverse := fun hc => hafter (List.mem_reverse.mp hc)
  have hbefore : ':' ∈ before.reverse := by
    have hcount := h.colons
    rw [hlist, List.count_append, List.count_cons_self, List.count_eq_zero_of_not_mem hfresh]
      at hcount
    apply List.count_pos_iff.mp
    omega
  apply hostnameFromAddrStr_of_error (e := .tooManyColons)
  unfold splitHostPort
  rw [hlist, rfindChar_last before.reverse hfresh]
  have htake : ':' ∈ (before.reverse ++ ':' :: after.reverse).take before.reverse.length := by
    rw [List.take_left]
    exact hbefore
  dsimp only
  split
  · rename_i stripped hbracket
    have hin : '[' ∈ host.toList := by
      rw [hlist, hbracket]
      exact List.mem_cons_self
    exact (h.unbracketed.1 hin).elim
  · exact if_pos htake

theorem hostname_seed {host : String} (h : SeedHost host) : hostnameFromAddrStr host = host := by
  cases h with
  | name _ _ hcolon => exact hostname_no_colon hcolon
  | ipv6 _ hliteral => exact hostname_ipv6 hliteral
  | bracketed inner => exact hostname_brackets inner

/-!
# Names in the config
-/

theorem substitute_length (host text : List Char) :
    (substitute host text).length + 5 * hostCount text =
      text.length + hostCount text * host.length := by
  fun_induction substitute host text with
  | case1 rest ih =>
      rw [hostCount, List.length_append]
      simp only [List.length_cons]
      rw [Nat.add_mul, Nat.mul_add]
      omega
  | case2 c rest hpattern ih =>
      rw [hostCount]
      · simp only [List.length_cons]
        omega
      · exact hpattern
  | case3 =>
      show 0 + 5 * 0 = 0 + 0 * host.length
      rw [Nat.zero_mul]

theorem hostCount_length (text : List Char) : 5 * hostCount text ≤ text.length := by
  fun_induction hostCount text with
  | case1 rest ih =>
      simp only [List.length_cons]
      omega
  | case2 c rest hpattern ih =>
      simp only [List.length_cons]
      omega
  | case3 => exact Nat.le_refl _

theorem substitute_of_count_zero {host text : List Char} (h : hostCount text = 0) :
    substitute host text = text := by
  fun_induction substitute host text with
  | case1 rest ih => cases h
  | case2 c rest hpattern ih =>
      rw [hostCount] at h
      · rw [ih h]
      · exact hpattern
  | case3 => rfl

/-- A text of five characters in which `$HOST` stands is `$HOST`. -/
theorem eq_host_of_length {text : List Char} (hcount : hostCount text ≠ 0)
    (hlength : text.length = 5) : text = "$HOST".toList := by
  fun_cases hostCount text with
  | case1 rest =>
      have hrest : rest = [] := List.length_eq_zero_iff.mp (by
        simp only [List.length_cons] at hlength
        omega)
      rw [hrest]
      rfl
  | case2 c rest hpattern =>
      rw [hostCount] at hcount
      · have hle := hostCount_length rest
        simp only [List.length_cons] at hlength
        omega
      · exact hpattern
  | case3 => exact (hcount rfl).elim

theorem plain_substitute {host text : List Char} (hhost : Plain host) (htext : Plain text) :
    Plain (substitute host text) := by
  fun_induction substitute host text with
  | case1 rest ih =>
      have hrest : Plain rest := fun c hc => htext c (by simp [hc])
      intro c hc
      rcases List.mem_append.mp hc with h | h
      · exact hhost c h
      · exact ih hrest c h
  | case2 d rest hpattern ih =>
      intro c hc
      rcases List.mem_cons.mp hc with rfl | h
      · exact htext c List.mem_cons_self
      · exact ih (fun e he => htext e (List.mem_cons_of_mem _ he)) c h
  | case3 => exact htext

/-- The name of a node in a config that was fetched from a host. -/
def nodeName (hostname : Option String) (host : String) : String :=
  parseConfigHostname (hostname.map fun name => replaceHost name host) host

/-- The name stays the same when the config is fetched from the node, and has its brackets:
the config names the node without `$HOST` and brackets, or is `$HOST` for a host without
colons, or has no name for the node and the seed has its brackets. -/
def StableName (hostname : Option String) (seed : String) : Prop :=
  match hostname with
  | none => BracketedOnce seed
  | some name =>
      (hostCount name.toList = 0 ∧ (':' ∈ name.toList -> Unbracketed name)) ∨
        (name = "$HOST" ∧ ':' ∉ seed.toList)

def withBrackets (name : String) : String :=
  if ':' ∈ name.toList then "[" ++ name ++ "]" else name

theorem nodeName_some (name host : String) :
    nodeName (some name) host = withBrackets (replaceHost name host) := rfl

theorem length_brackets (name : String) :
    ("[" ++ name ++ "]").toList.length = name.toList.length + 2 := by
  rw [toList_brackets, List.length_cons, List.length_append]
  rfl

theorem length_withBrackets (name : String) :
    (withBrackets name).toList.length =
      name.toList.length + if ':' ∈ name.toList then 2 else 0 := by
  unfold withBrackets
  split
  · exact length_brackets name
  · rfl

theorem brackets_injective {name name' : String}
    (h : "[" ++ name ++ "]" = "[" ++ name' ++ "]") : name = name' := by
  have hlist := congrArg String.toList h
  rw [toList_brackets, toList_brackets] at hlist
  exact String.toList_inj.mp (List.append_cancel_right (List.cons.inj hlist).2)

theorem bracketedOnce_withBrackets (name : String) :
    BracketedOnce (withBrackets name) <-> (':' ∈ name.toList -> Unbracketed name) := by
  unfold withBrackets
  split
  · rename_i hcolon
    have hin : ':' ∈ ("[" ++ name ++ "]").toList := by
      rw [toList_brackets]
      exact List.mem_cons_of_mem _ (List.mem_append_left _ hcolon)
    constructor
    · intro h _
      rcases h hin with ⟨inner, hinner, hunbracketed⟩
      rw [brackets_injective hinner]
      exact hunbracketed
    · intro h _
      exact ⟨name, rfl, h hcolon⟩
  · rename_i hcolon
    constructor
    · intro _ hin
      exact (hcolon hin).elim
    · intro _ hin
      exact (hcolon hin).elim

/-- `$HOST` inside a name grows with every fetch. -/
theorem host_of_fixpoint {name host : String} (hcount : hostCount name.toList ≠ 0)
    (hnonempty : host ≠ "")
    (hfix : withBrackets (replaceHost name host) = host) :
    name = "$HOST" ∧ ':' ∉ host.toList := by
  have hlength := length_withBrackets (replaceHost name host)
  have hsubst := substitute_length host.toList name.toList
  have hreplace : (replaceHost name host).toList = substitute host.toList name.toList :=
    String.toList_ofList
  rw [hfix, hreplace] at hlength
  have hle := hostCount_length name.toList
  have hpos : 0 < host.toList.length := by
    refine Nat.pos_of_ne_zero (fun hzero => hnonempty ?_)
    exact String.toList_inj.mp (List.length_eq_zero_iff.mp hzero)
  have hmul : host.toList.length ≤ hostCount name.toList * host.toList.length :=
    Nat.le_mul_of_pos_left _ (Nat.pos_of_ne_zero hcount)
  have hfive : name.toList.length = 5 ∧ ':' ∉ substitute host.toList name.toList := by
    have hone : hostCount name.toList = 1 := by
      by_contra hne
      have htwo : 2 ≤ hostCount name.toList := by omega
      have hdouble : 2 * host.toList.length ≤ hostCount name.toList * host.toList.length :=
        Nat.mul_le_mul_right _ htwo
      omega
    rw [hone] at hsubst hle
    by_cases hcolon : ':' ∈ substitute host.toList name.toList
    · rw [if_pos hcolon] at hlength
      omega
    · rw [if_neg hcolon] at hlength
      exact ⟨by omega, hcolon⟩
  have hname : name = "$HOST" :=
    String.toList_inj.mp (eq_host_of_length hcount hfive.1)
  have hsame : substitute host.toList name.toList = host.toList := by
    rw [hname]
    exact List.append_nil _
  rw [hsame] at hfive
  exact ⟨hname, hfive.2⟩

theorem replaceHost_host (host : String) : replaceHost "$HOST" host = host := by
  apply String.toList_inj.mp
  unfold replaceHost
  rw [String.toList_ofList]
  exact List.append_nil _

theorem replaceHost_nonempty {name host : String} (hcount : hostCount name.toList ≠ 0)
    (hhost : host ≠ "") : replaceHost name host ≠ "" := by
  intro hempty
  have hlist : substitute host.toList name.toList = [] := by
    have h := congrArg String.toList hempty
    rw [replaceHost, String.toList_ofList] at h
    exact h
  have hsubst := substitute_length host.toList name.toList
  rw [hlist] at hsubst
  have hle := hostCount_length name.toList
  have hmul : hostCount name.toList * host.toList.length = 0 := by
    rw [List.length_nil] at hsubst
    omega
  rcases Nat.mul_eq_zero.mp hmul with hzero | hzero
  · exact hcount hzero
  · exact hhost (String.toList_inj.mp (List.length_eq_zero_iff.mp hzero))

theorem withBrackets_nonempty {name : String} (h : name ≠ "") : withBrackets name ≠ "" := by
  unfold withBrackets
  split
  · intro hempty
    have hlist := congrArg String.toList hempty
    rw [toList_brackets] at hlist
    cases hlist
  · exact h

theorem nodeName_fixpoint_iff (hostname : Option String) {seed : String} (hseed : seed ≠ "") :
    (nodeName hostname (nodeName hostname seed) = nodeName hostname seed ∧
      BracketedOnce (nodeName hostname seed)) <-> StableName hostname seed := by
  cases hostname with
  | none =>
      show seed = seed ∧ BracketedOnce seed <-> BracketedOnce seed
      exact ⟨fun h => h.2, fun h => ⟨rfl, h⟩⟩
  | some name =>
      rw [nodeName_some, nodeName_some]
      by_cases hcount : hostCount name.toList = 0
      · have hsame : forall host, replaceHost name host = name := by
          intro host
          unfold replaceHost
          rw [substitute_of_count_zero hcount, String.ofList_toList]
        rw [hsame, hsame, bracketedOnce_withBrackets]
        constructor
        · rintro ⟨_, h⟩
          exact Or.inl ⟨hcount, h⟩
        · rintro (⟨_, h⟩ | ⟨rfl, _⟩)
          · exact ⟨rfl, h⟩
          · cases hcount
      · constructor
        · rintro ⟨hfix, _⟩
          have hnonempty := withBrackets_nonempty (replaceHost_nonempty hcount hseed)
          rcases host_of_fixpoint hcount hnonempty hfix with ⟨rfl, hcolon⟩
          rw [replaceHost_host] at hcolon
          refine Or.inr ⟨rfl, fun hin => hcolon ?_⟩
          unfold withBrackets
          rw [if_pos hin, toList_brackets]
          exact List.mem_cons_of_mem _ (List.mem_append_left _ hin)
        · rintro (⟨hzero, _⟩ | ⟨rfl, hcolon⟩)
          · exact (hcount hzero).elim
          · have hsame : withBrackets seed = seed := if_neg hcolon
            rw [replaceHost_host seed, hsame, replaceHost_host seed]
            exact ⟨hsame, fun hin => (hcolon hin).elim⟩

/-!
# Texts
-/

def TerseExtNodeAltAddresses.substitute (host : String) (alt : TerseExtNodeAltAddresses) :
    TerseExtNodeAltAddresses :=
  { alt with hostname := alt.hostname.map fun name => replaceHost name host }

def TerseNodeExtConfig.substitute (host : String) (node : TerseNodeExtConfig) :
    TerseNodeExtConfig :=
  { node with
    hostname := node.hostname.map fun name => replaceHost name host
    alternateAddresses := node.alternateAddresses.entries.foldl
      (fun m item => m.insert item.1 (item.2.substitute host)) ∅ }

def TerseConfig.substitute (host : String) (config : TerseConfig) : TerseConfig :=
  { config with nodesExt := config.nodesExt.map (TerseNodeExtConfig.substitute host) }

/-- The text of a config, in which `$HOST` stands for plain characters inside the hostnames:
it is read as the config with the substitution made in its hostnames. -/
structure TextOf (json : SerdeJson) (text : String) (config : TerseConfig) : Prop where
  reads : forall host, Plain host.toList ->
    json.fromStr (replaceHost text host) = some (config.substitute host)
  plain : forall node name, node ∈ config.nodesExt -> node.hostname = some name ->
    Plain name.toList

section
variable {json : SerdeJson} {text : String} {config : TerseConfig}
  {bucket : Option ParsedConfigBucket}

theorem nonempty_of_textOf (h : TextOf json text config) : text.toUTF8 ≠ ByteArray.empty := by
  intro hempty
  have htext : text = "" := by
    have hutf8 := fromUTF8_toUTF8 text
    rw [hempty] at hutf8
    exact Option.some.inj (hutf8.symm.trans (fromUTF8_toUTF8 ""))
  have hread := h.reads "" nofun
  rw [htext] at hread
  cases json.fromStr_empty.symm.trans hread

/-- What a config of the text says about a node when it is fetched from a host. -/
theorem pollOne_textOf (h : TextOf json text config)
    (hbucket : ConfigParser.parseBucket config = .ok bucket) {host : String}
    (hhost : hostnameFromAddrStr host = host) (hplain : Plain host.toList) (port : UInt16)
    {i : Nat} {node : TerseNodeExtConfig} (hnode : config.nodesExt[i]? = some node) :
    exists parsed, pollOne json text.toUTF8 ⟨host, port⟩ = some parsed ∧
      parsed.nodes[i]? = some (ConfigParser.parseNode host (config.nodes.getD []).length i
        (node.substitute host)) := by
  have hremote : remoteHostname ⟨host, port⟩ = host := hhost
  have hparse : ConfigParser.parseTerseConfig (config.substitute host) host = .ok
      { revId := config.rev
        revEpoch := config.revEpoch.getD 0
        sourceHostname := host
        bucket := bucket
        nodes := (config.nodesExt.map (TerseNodeExtConfig.substitute host)).mapIdx
          (ConfigParser.parseNode host (config.nodes.getD []).length)
        features := ConfigParser.parseFeatures config.clusterCapabilities } := by
    have hsame : ConfigParser.parseBucket (config.substitute host) = .ok bucket := hbucket
    unfold ConfigParser.parseTerseConfig
    rw [hsame]
    rfl
  rw [pollOne_eq (nonempty_of_textOf h), hremote]
  unfold parseTerseText
  rw [fromUTF8_toUTF8, Option.bind_some, h.reads host hplain, Option.bind_some]
  unfold accept
  rw [hparse]
  refine ⟨_, rfl, ?_⟩
  show ((config.nodesExt.map _).mapIdx _)[i]? = _
  rw [List.getElem?_mapIdx, List.getElem?_map, hnode]
  rfl

end

/-!
# The fixpoint
-/

/-- The config is fetched from the seed and then from the address it has for the node. -/
def Refetched (json : SerdeJson) (text : String) (seed : Address) (port : UInt16) (i : Nat) :
    Prop :=
  exists first node again node',
    pollOne json text.toUTF8 seed = some first ∧ first.nodes[i]? = some node ∧
      pollOne json text.toUTF8 ⟨node.addresses.hostname, port⟩ = some again ∧
      again.nodes[i]? = some node' ∧
      node'.addresses.hostname = node.addresses.hostname ∧
      node'.endpointId "kv" = node.endpointId "kv" ∧
      BracketedOnce node.addresses.hostname

theorem seed_nonempty {host : String} (h : SeedHost host) : host ≠ "" := by
  cases h with
  | name _ hne => exact hne
  | ipv6 _ hliteral =>
      rintro rfl
      exact Nat.not_succ_le_zero 1 hliteral.colons
  | bracketed inner =>
      intro hempty
      have hlist := congrArg String.toList hempty
      rw [toList_brackets] at hlist
      cases hlist

theorem plain_brackets {name : String} (h : Plain name.toList) :
    Plain ("[" ++ name ++ "]").toList := by
  rw [toList_brackets]
  intro c hc
  rcases List.mem_cons.mp hc with rfl | hc
  · decide
  · rcases List.mem_append.mp hc with hc | hc
    · exact h c hc
    · rcases List.mem_singleton.mp hc with rfl
      decide

theorem seed_plain {host : String} (h : SeedHost host) : Plain host.toList := by
  cases h with
  | name _ _ _ hplain => exact hplain
  | ipv6 _ hliteral => exact hliteral.plain
  | bracketed inner hliteral => exact plain_brackets hliteral.plain

section
variable {hostname : Option String} {seed : String} (hseed : SeedHost seed)
include hseed

theorem nodeName_plain (hplain : forall name, hostname = some name -> Plain name.toList) :
    Plain (nodeName hostname seed).toList := by
  cases hostname with
  | none => exact seed_plain hseed
  | some name =>
      have hreplaced : Plain (replaceHost name seed).toList := by
        unfold replaceHost
        rw [String.toList_ofList]
        exact plain_substitute (seed_plain hseed) (hplain name rfl)
      rw [nodeName_some]
      unfold withBrackets
      split
      · exact plain_brackets hreplaced
      · exact hreplaced

theorem hostname_nodeName :
    hostnameFromAddrStr (nodeName hostname seed) = nodeName hostname seed := by
  cases hostname with
  | none => exact hostname_seed hseed
  | some name => exact hostname_parsed _ _

end

section
variable {json : SerdeJson} {text seed : String} {config : TerseConfig}
  {bucket : Option ParsedConfigBucket} {i : Nat} {node : TerseNodeExtConfig}

theorem refetched_iff_fixpoint (seedPort port : UInt16) (htext : TextOf json text config)
    (hbucket : ConfigParser.parseBucket config = .ok bucket) (hseed : SeedHost seed)
    (hnode : config.nodesExt[i]? = some node) :
    Refetched json text ⟨seed, seedPort⟩ port i <->
      nodeName node.hostname (nodeName node.hostname seed) = nodeName node.hostname seed ∧
        BracketedOnce (nodeName node.hostname seed) := by
  have hplain : forall name, node.hostname = some name -> Plain name.toList :=
    fun name hname => htext.plain node name (List.mem_of_getElem? hnode) hname
  rcases pollOne_textOf htext hbucket (hostname_seed hseed) (seed_plain hseed) seedPort hnode with
    ⟨first, hfirst, hfirstNode⟩
  rcases pollOne_textOf htext hbucket (hostname_nodeName hseed) (nodeName_plain hseed hplain) port
    hnode with ⟨again, hagain, hagainNode⟩
  constructor
  · rintro ⟨first', n, again', n', hfirst', hn, hagain', hn', hname, _, hbrackets⟩
    cases hfirst.symm.trans hfirst'
    cases hfirstNode.symm.trans hn
    cases hagain.symm.trans hagain'
    cases hagainNode.symm.trans hn'
    exact ⟨hname, hbrackets⟩
  · rintro ⟨hname, hbrackets⟩
    refine ⟨first, _, again, _, hfirst, hfirstNode, hagain, hagainNode, hname, ?_, hbrackets⟩
    have hendpoint : forall host, (ConfigParser.parseNode host (config.nodes.getD []).length i
        (node.substitute host)).endpointId "kv" =
          ((node.services.getD .default).mgmt.map fun port =>
            "kv" ++ ("ep-" ++ nodeName node.hostname host ++ "-" ++ toString port)) :=
      fun host => Option.map_map ..
    rw [hendpoint, hendpoint, hname]

end

theorem plain_of_all {text : List Char}
    (h : (text.all fun c => c ≠ '"' ∧ c ≠ '\\' ∧ 0x20 ≤ c.toNat) = true) : Plain text := by
  intro c hc
  exact of_decide_eq_true (List.all_eq_true.mp h c hc)

theorem textOf_hostText : TextOf hostReader (hostText "$HOST") (hostConfig "$HOST") := by
  constructor
  · intro host _
    have hsubstitute : (hostConfig "$HOST").substitute host = hostConfig host := by
      unfold hostConfig TerseConfig.substitute
      show { TerseConfig.ofNodes [.ofPorts (some (replaceHost "$HOST" host)) _ _] with
        nodes := some [{ hostname := none }] } = _
      rw [replaceHost_host]
    rw [replaceHost_hostText, hsubstitute]
    exact ofParts_fromStr textBefore_nonempty host
  · intro node name hmem hname
    rcases List.mem_singleton.mp hmem with rfl
    cases hname
    exact plain_of_all (by decide)

end Config
end CouchbaseSdk
