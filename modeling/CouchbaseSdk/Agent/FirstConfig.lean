import CouchbaseSdk.Config.Sources
import CouchbaseSdk.Foundation.MapOrder
import CouchbaseSdk.KvClient.Bootstrap

/-!
# The first config of an agent

Before it has a config an agent knows its seeds only.  It asks one after the other, first over the
key-value service and then over the management service, and begins again until one has answered.
-/

namespace CouchbaseSdk
namespace FirstConfig

open Foundation
open Config (Address Authenticator KvTarget ParsedConfig SerdeJson TerseConfig TlsConfig)
open Config.ConfigParser (parseTerseConfig)
open KvClient (KvClientOptions Standing StdKvClient)
open Memdx (getClusterConfigResponse)
open Sasl (AuthMechanism)
open Scram (Primitives Reply)

/-!
# Options
-/

structure SeedConfig where
  httpAddrs : List Address
  memdAddrs : List Address

structure AgentOptions where
  seedConfig : SeedConfig
  authenticator : Authenticator
  authMechanisms : List AuthMechanism
  tlsConfig : Option TlsConfig
  bucketName : Option String
  /-- Of the `kv_config`. -/
  enableErrorMap : Bool

/-- The state of an agent without its config, as far as the search for the config reads it. -/
structure AgentState where
  bucket : Option String
  authenticator : Authenticator
  tlsConfig : Option TlsConfig
  authMechanisms : List AuthMechanism
  disableErrorMap : Bool

def AgentOptions.state (opts : AgentOptions) : AgentState :=
  { bucket := opts.bucketName
    authenticator := opts.authenticator
    tlsConfig := opts.tlsConfig
    authMechanisms := opts.authMechanisms
    disableErrorMap := !opts.enableErrorMap }

/-!
# Seeds
-/

def addressText (addr : Address) : String :=
  addr.host ++ ":" ++ toString addr.port

structure FirstHttpConfig where
  endpoint : String
  tls : Option TlsConfig
  userAgent : String
  authenticator : Authenticator
  bucketName : Option String

def kvTarget (state : AgentState) (addr : Address) : KvTarget :=
  { address := addr, tlsConfig := state.tlsConfig }

def firstHttpConfig (clientName : String) (state : AgentState) (addr : Address) : FirstHttpConfig :=
  let base := if state.tlsConfig.isSome then "https" else "http"
  { endpoint := base ++ "://" ++ addressText addr
    tls := state.tlsConfig
    userAgent := clientName
    authenticator := state.authenticator
    bucketName := state.bucket }

open FiniteMap (fillStep serves_fill)

/-- What each address has, under a name for the address. -/
def genFirst {value : Type} (service : String) (entry : Address -> value) (addrs : List Address) :
    FiniteMap String value :=
  addrs.foldl (fillStep (fun addr => service ++ addressText addr) fun addr => some (entry addr)) ∅

def genFirstKvClientConfigs (memdAddrs : List Address) (state : AgentState) :
    FiniteMap String KvTarget :=
  genFirst "kv-" (kvTarget state) memdAddrs

def genFirstHttpEndpoints (clientName : String) (mgmtAddrs : List Address) (state : AgentState) :
    FiniteMap String FirstHttpConfig :=
  genFirst "mgmt" (firstHttpConfig clientName state) mgmtAddrs

theorem addressText_injective {addr addr' : Address} (h : addressText addr = addressText addr') :
    addr = addr' := by
  have hcolon (port : UInt16) : ':' ∉ (toString port).toList := by
    rw [Config.toList_port]
    intro hmem
    have hdigit := Nat.isDigit_of_mem_toDigits (by decide) (by decide) hmem
    revert hdigit
    decide
  have htext (addr : Address) :
      (addressText addr).toList = addr.host.toList ++ ':' :: (toString addr.port).toList := by
    rw [addressText, String.toList_append, String.toList_append, List.append_assoc]
    rfl
  have hlist := congrArg String.toList h
  rw [htext, htext] at hlist
  rcases Config.append_cons_inj (hcolon addr.port) (hcolon addr'.port) hlist with ⟨hhost, hport⟩
  cases addr
  cases addr'
  cases String.toList_inj.mp hhost
  cases Config.port_injective (String.toList_inj.mp hport)
  rfl

/-- Every address is there, once, and nothing else. -/
theorem mem_genFirst {value : Type} {service : String} {entry : Address -> value}
    {addrs : List Address} {v : value} :
    v ∈ FiniteMap.values (genFirst service entry addrs) <->
      exists addr, addr ∈ addrs ∧ entry addr = v := by
  have hserves := serves_fill (fun addr => service ++ addressText addr)
    (fun addr => some (entry addr)) addrs
  constructor
  · intro hmem
    rcases FiniteMap.mem_values.mp hmem with ⟨name, hlookup⟩
    rcases hserves.sound name v hlookup with ⟨addr, haddr, _, hentry⟩
    exact ⟨addr, haddr, Option.some.inj hentry⟩
  · intro hmem
    rcases hmem with ⟨addr, haddr, rfl⟩
    rcases FiniteMap.exists_lookup (hserves.mem haddr rfl rfl) with ⟨v, hlookup⟩
    rcases hserves.sound _ v hlookup with ⟨addr', _, hname, hentry⟩
    have htext := String.append_right_inj service |>.mp (Option.some.inj hname)
    rw [addressText_injective htext] at hentry
    cases hentry
    exact FiniteMap.mem_values.mpr ⟨_, hlookup⟩

/-!
# The search
-/

inductive Auth where
  | basicAuth (username password : String)
  | bearerAuth (token : String)
deriving DecidableEq

def authOf : Authenticator -> Auth
  | .passwordAuthenticator username password => .basicAuth username password
  | .certificateAuthenticator => .basicAuth "" ""
  | .jwtAuthenticator token => .bearerAuth token

/-- The text that the JSON reader gives is left out. -/
inductive Error where
  | memdx (e : Memdx.ErrorKind)
  | deserializeConfig
  | message (msg : String)

/-- What is taken from other packages: the hash functions of SCRAM, JSON, and the host and the port
of a URL. -/
structure Packages where
  prims : Sasl.Hash -> Primitives
  json : SerdeJson
  parseUrl : String -> Except String (Option String × Option UInt16)

def Packages.getHostPortFromUri (packages : Packages) (uri : String) : Except Error String :=
  match packages.parseUrl uri with
  | .error e => .error (.message ("failed to parse uri: " ++ e))
  | .ok (some host, some port) => .ok (host ++ ":" ++ toString port)
  | .ok (some host, none) => .ok host
  | .ok (none, _) => .error (.message ("no host in URI " ++ uri))

def Packages.hostnameOf (packages : Packages) (endpoint : String) :
    Except Error (Option String) :=
  (packages.getHostPortFromUri endpoint).map fun hostPort =>
    (Config.getHostnameFromHostPort hostPort).toOption

/-- What is asked in a search.  A client may be out of time instead of getting an answer. -/
inductive Question where
  /-- What is asked while a client of a target is made. -/
  | client (target : KvTarget) (q : KvClient.Ask)
  | getClusterConfig (target : KvTarget)
  | closeClient (target : KvTarget)
  /-- The terse config of the bucket, or of the cluster. -/
  | getTerseConfig (config : FirstHttpConfig) (auth : Auth)
  | sleep

abbrev Answer : Question -> Type
  | .client _ q => Option (KvClient.Answer q)
  | .getClusterConfig _ => Reply
  | .closeClient _ => Except Memdx.ErrorKind Unit
  | .getTerseConfig _ _ => Option TerseConfig
  | .sleep => Unit

abbrev Asking (alpha : Type) := Calls Question Answer alpha

def ask (q : Question) : Asking (Answer q) :=
  Calls.request q

def clientOptions (clientName : String) (state : AgentState) (target : KvTarget) :
    KvClientOptions :=
  { tls := target.tlsConfig.isSome
    authenticator := state.authenticator
    selectedBucket := state.bucket
    bootstrapOptions :=
      { clientName := clientName
        disableErrorMap := state.disableErrorMap
        disableMutationTokens := true
        disableServerDurations := true
        onErrMapFetched := true
        authMechanisms := state.authMechanisms } }

/-- What comes of the config that a node has sent: its text has to be JSON, or the search is over. -/
def readConfig (packages : Packages) (rawConfig : Buffer) (host : String) :
    Option (Except Error ParsedConfig) :=
  match packages.json.fromSlice ⟨rawConfig.toArray⟩ with
  | none => some (.error .deserializeConfig)
  | some config =>
      match parseTerseConfig config host with
      | .ok config => some (.ok config)
      | .error _ => none

/-- What comes of it is the config of `Config.getFirstConfig`. -/
theorem readConfig_ok (packages : Packages) (rawConfig : Buffer) (address : Address) :
    (readConfig packages rawConfig address.host).bind Except.toOption =
      Config.getFirstConfig packages.json ⟨rawConfig.toArray⟩ address := by
  unfold readConfig Config.getFirstConfig
  cases packages.json.fromSlice ⟨rawConfig.toArray⟩ with
  | none => rfl
  | some config =>
      rw [Option.bind_some]
      unfold Config.accept
      dsimp only
      cases parseTerseConfig config address.host with
      | error e => rfl
      | ok config => rfl

/-- What `fetch_http_config` makes of the answer. -/
def readTerse (terse : Option TerseConfig) (hostname : String) :
    Option (Except Error ParsedConfig) :=
  (terse.bind fun terse => (parseTerseConfig terse hostname).toOption).map .ok

section Search

variable (packages : Packages) (clientName : String) (state : AgentState)

def newClient (target : KvTarget) : Asking (Option (Except Memdx.ErrorKind StdKvClient)) :=
  (KvClient.new packages.prims (clientOptions clientName state target)).embed (.client target)
    fun _ answer => answer

def fromKv (target : KvTarget) : Asking (Option (Except Error ParsedConfig)) :=
  (newClient packages clientName state target).bind fun
    | some (.ok _) => (ask (.getClusterConfig target)).bind fun reply =>
        match getClusterConfigResponse reply with
        | .ok rawConfig => (ask (.closeClient target)).bind fun
            | .ok () => .give (readConfig packages rawConfig target.address.host)
            | .error e => .give (some (.error (.memdx e)))
        | .error _ => .give none
    | _ => .give none

/-- An endpoint without a host is an error, but an endpoint whose host has no name and a config that
cannot be had are not. -/
def fromHttp (config : FirstHttpConfig) : Asking (Option (Except Error ParsedConfig)) :=
  match packages.hostnameOf config.endpoint with
  | .error e => .give (some (.error e))
  | .ok none => .give none
  | .ok (some hostname) =>
      (ask (.getTerseConfig config (authOf config.authenticator))).bind fun terse =>
        .give (readTerse terse hostname)

def round (kvTargets : List KvTarget) (httpConfigs : List FirstHttpConfig) :
    Asking (Option (Except Error ParsedConfig)) :=
  (Calls.firstOf (fromKv packages clientName state) kvTargets).bind fun
    | some result => .give (some result)
    | none => (Calls.firstOf (fromHttp packages) httpConfigs).bind fun
        | some result => .give (some result)
        | none => (ask .sleep).bind fun _ => .give none

/-- The maps are gone through in the same order in every round. -/
def getFirstConfig (order : MapOrder) (kvTargets : FiniteMap String KvTarget)
    (httpConfigs : FiniteMap String FirstHttpConfig) (rounds : Nat) :
    Asking (Except Error ParsedConfig) :=
  Calls.loop (round packages clientName state ((order.pairs kvTargets).map Prod.snd)
    ((order.pairs httpConfigs).map Prod.snd)) rounds

end Search

/-- The search of a new agent. -/
def search (packages : Packages) (clientName : String) (order : MapOrder) (opts : AgentOptions)
    (rounds : Nat) : Asking (Except Error ParsedConfig) :=
  getFirstConfig packages clientName opts.state order
    (genFirstKvClientConfigs opts.seedConfig.memdAddrs opts.state)
    (genFirstHttpEndpoints clientName opts.seedConfig.httpAddrs opts.state) rounds

/-!
# How far the search has come
-/

inductive Stage where
  /-- A client of the first target is being made, or has been. -/
  | making (standing : Standing)
  | answered (rawConfig : Buffer)
  | decided (result : Except Error ParsedConfig)

/-- What is still to be tried in this round, and what has become of the first target. -/
structure Searching where
  targets : List KvTarget
  configs : List FirstHttpConfig
  stage : Stage

namespace Searching

section Monitor

variable (packages : Packages) (clientName : String) (state : AgentState)
variable (kvTargets : List KvTarget) (httpConfigs : List FirstHttpConfig)

/-- Nothing has been asked of the first one yet. -/
def upTo (targets : List KvTarget) (configs : List FirstHttpConfig) : Searching :=
  { targets := targets, configs := configs, stage := .making Standing.start }

def next (s : Searching) : Searching :=
  upTo s.targets.tail s.configs

/-- A client that could not be made is closed, and the next target is tried. -/
def standingAt (s : Searching) (standing : Standing) : Searching :=
  match standing.connection with
  | .closed => s.next
  | _ => { s with stage := .making standing }

/-- There is a host in the endpoint, but it has no name. -/
def unnamed (config : FirstHttpConfig) : Bool :=
  match packages.hostnameOf config.endpoint with
  | .ok none => true
  | _ => false

/-- The endpoints that are left, from the first one that is not passed over. -/
def endpoints (s : Searching) : List FirstHttpConfig :=
  s.configs.dropWhile (unnamed packages)

/-- The seeds are asked in their order, and only after all before them have failed in this round:
first for a client, then the client for its config, and then it is closed.  The management service
is asked after all targets have failed, and the next round begins after everything has. -/
def allows (s : Searching) : Question -> Prop
  | .client target q => exists rest standing, s.targets = target :: rest ∧
      s.stage = .making standing ∧
        Standing.allows (clientOptions clientName state target) standing q
  | .getClusterConfig target => exists rest standing client, s.targets = target :: rest ∧
      s.stage = .making standing ∧
        KvClient.Made (clientOptions clientName state target) (.ok client) standing
  | .closeClient target => exists rest rawConfig, s.targets = target :: rest ∧
      s.stage = .answered rawConfig
  | .getTerseConfig config auth => exists rest hostname, s = upTo [] s.configs ∧
      s.endpoints packages = config :: rest ∧
        packages.hostnameOf config.endpoint = .ok (some hostname) ∧
          auth = authOf config.authenticator
  | .sleep => s = upTo [] s.configs ∧ s.endpoints packages = []

/-- A result ends the search, and without one the next seed is tried. -/
def settle (s : Searching) : Option (Except Error ParsedConfig) -> Searching
  | some result => { s with stage := .decided result }
  | none => s.next

def after (s : Searching) : (q : Question) -> Answer q -> Searching
  | .client target q, some answer =>
      match s.stage with
      | .making standing => s.standingAt (Standing.after packages.prims
          (clientOptions clientName state target) standing q answer)
      | _ => s
  | .client _ _, none => s.next
  | .getClusterConfig _, reply =>
      match getClusterConfigResponse reply with
      | .ok rawConfig => { s with stage := .answered rawConfig }
      | .error _ => s.next
  | .closeClient _, .error e => s.settle (some (.error (.memdx e)))
  | .closeClient target, .ok () =>
      match s.stage with
      | .answered rawConfig => s.settle (readConfig packages rawConfig target.address.host)
      | _ => s
  | .getTerseConfig config _, terse =>
      match packages.hostnameOf config.endpoint with
      | .ok (some hostname) =>
          { s with configs := (s.endpoints packages).tail }.settle (readTerse terse hostname)
      | _ => s
  | .sleep, _ => upTo kvTargets httpConfigs

def monitor : Monitor Question Answer Searching where
  allows := allows packages clientName state
  after := after packages clientName state kvTargets httpConfigs

end Monitor

end Searching

/-- What a result says of the search.  Either the first target that has answered, or the first
endpoint, has decided it, or the next endpoint has no host. -/
def Found (packages : Packages) (result : Except Error ParsedConfig) (s : Searching) : Prop :=
  s.stage = .decided result ∨
    exists config rest e, s.endpoints packages = config :: rest ∧
      packages.hostnameOf config.endpoint = .error e ∧ result = .error e

section Keeps

open Searching

variable {packages : Packages} {clientName : String} {state : AgentState}
variable {kvTargets : List KvTarget} {httpConfigs : List FirstHttpConfig}

theorem not_closed_of_allows {opts : KvClientOptions} {standing : Standing} {q : KvClient.Ask}
    (h : Standing.allows opts standing q) : standing.connection ≠ .closed := by
  intro hclosed
  cases q with
  | connect =>
      rw [Standing.allows, hclosed] at h
      cases h
  | dispatch packet =>
      rcases h with ⟨stage, accepted, hconnected, _⟩
      rw [hclosed] at hconnected
      cases hconnected
  | saslAuthAuto options =>
      rcases h with ⟨stage, accepted, hconnected, _⟩
      rw [hclosed] at hconnected
      cases hconnected
  | close =>
      rw [Standing.allows, hclosed] at h
      cases h
  | onErrMapFetched errorMap =>
      rcases h with ⟨stage, accepted, hconnected, _⟩
      rw [hclosed] at hconnected
      cases hconnected

theorem standingAt_of_open {s : Searching} {standing : Standing}
    (h : standing.connection ≠ .closed) :
    s.standingAt standing = { s with stage := .making standing } := by
  unfold standingAt
  split
  · contradiction
  · rfl

theorem standingAt_of_closed {s : Searching} {standing : Standing}
    (h : standing.connection = .closed) : s.standingAt standing = s.next := by
  unfold standingAt
  rw [h]

/-- A client of the first target, or the next target. -/
def Tried (clientName : String) (state : AgentState) (target : KvTarget) (rest : List KvTarget)
    (configs : List FirstHttpConfig) :
    Option (Except Memdx.ErrorKind StdKvClient) -> Searching -> Prop
  | some (.ok client), s => exists standing,
      s = { targets := target :: rest, configs := configs, stage := .making standing } ∧
        KvClient.Made (clientOptions clientName state target) (.ok client) standing
  | _, s => s = upTo rest configs

theorem keeps_newClient (target : KvTarget) (rest : List KvTarget)
    (configs : List FirstHttpConfig) :
    (monitor packages clientName state kvTargets httpConfigs).Keeps
      (Tried clientName state target rest configs) (newClient packages clientName state target)
      (upTo (target :: rest) configs) := by
  have hstart : upTo (target :: rest) configs =
      (upTo (target :: rest) configs).standingAt Standing.start := rfl
  rw [hstart]
  unfold newClient
  apply Monitor.Keeps.embed (upTo (target :: rest) configs).standingAt ?_ ?_ ?_ ?_
    KvClient.keeps_new
  · intro standing q hallows
    rw [standingAt_of_open (not_closed_of_allows hallows)]
    exact ⟨rest, standing, rfl, rfl, hallows⟩
  · intro standing q answer given hallows hgiven
    cases hgiven
    rw [standingAt_of_open (not_closed_of_allows hallows)]
    rfl
  · intro standing q answer hallows hgiven
    cases hgiven
    rw [standingAt_of_open (not_closed_of_allows hallows)]
    rfl
  · intro result standing hmade
    cases result with
    | error e => exact standingAt_of_closed hmade
    | ok client =>
        rcases hmade.2 with ⟨stage, accepted, hconnected, _⟩
        have hopen : standing.connection ≠ .closed := by
          rw [hconnected]
          nofun
        exact ⟨standing, standingAt_of_open hopen, hmade⟩

theorem keeps_fromKv (target : KvTarget) (rest : List KvTarget) (configs : List FirstHttpConfig) :
    (monitor packages clientName state kvTargets httpConfigs).Keeps
      (fun result t => result.elim (t = upTo rest configs) fun r => t.stage = .decided r)
      (fromKv packages clientName state target) (upTo (target :: rest) configs) := by
  apply (keeps_newClient target rest configs).bind
  intro made t ht
  match made, ht with
  | none, ht => exact ht
  | some (.error e), ht => exact ht
  | some (.ok client), ⟨standing, hstate, hmade⟩ =>
      subst hstate
      have hallows : allows packages clientName state
          { targets := target :: rest, configs := configs, stage := .making standing }
          (.getClusterConfig target) := ⟨rest, standing, client, rfl, rfl, hmade⟩
      apply Monitor.Keeps.asks hallows
      intro reply
      dsimp only [monitor, after]
      cases getClusterConfigResponse reply with
      | error e => rfl
      | ok rawConfig =>
          have hclose : allows packages clientName state
              { targets := target :: rest, configs := configs, stage := .answered rawConfig }
              (.closeClient target) := ⟨rest, rawConfig, rfl, rfl⟩
          apply Monitor.Keeps.asks hclose
          intro closed
          cases closed with
          | error e => rfl
          | ok u =>
              apply Monitor.Keeps.give
              dsimp only [monitor, after]
              cases readConfig packages rawConfig target.address.host with
              | none => rfl
              | some result => rfl

/-- The endpoints that have been passed over are still there. -/
def Passed (packages : Packages) (configs : List FirstHttpConfig) (s : Searching) : Prop :=
  exists passed, s = upTo [] (passed ++ configs) ∧
    forall config, config ∈ passed -> unnamed packages config = true

theorem endpoints_of_passed {passed configs : List FirstHttpConfig}
    (h : forall config, config ∈ passed -> unnamed packages config = true) :
    (upTo [] (passed ++ configs)).endpoints packages =
      (upTo [] configs).endpoints packages :=
  List.dropWhile_append_of_pos h

theorem endpoints_cons {config : FirstHttpConfig} {rest : List FirstHttpConfig}
    (h : unnamed packages config = false) :
    (upTo [] (config :: rest)).endpoints packages = config :: rest :=
  List.dropWhile_cons_of_neg (ne_true_of_eq_false h)

theorem keeps_fromHttp (config : FirstHttpConfig) (rest : List FirstHttpConfig) {s : Searching}
    (hs : Passed packages (config :: rest) s) :
    (monitor packages clientName state kvTargets httpConfigs).Keeps
      (fun result t => result.elim (Passed packages rest t) fun r => Found packages r t)
      (fromHttp packages config) s := by
  rcases hs with ⟨passed, rfl, hpassed⟩
  have hendpoints : (upTo [] (passed ++ config :: rest)).endpoints packages =
      (upTo [] (config :: rest)).endpoints packages := endpoints_of_passed hpassed
  unfold fromHttp
  cases hhost : packages.hostnameOf config.endpoint with
  | error e =>
      have hnamed : unnamed packages config = false := by
        unfold unnamed
        rw [hhost]
      rw [endpoints_cons hnamed] at hendpoints
      exact Or.inr ⟨config, rest, e, hendpoints, hhost, rfl⟩
  | ok hostname =>
      cases hostname with
      | none =>
          have hunnamed : unnamed packages config = true := by
            unfold unnamed
            rw [hhost]
          refine ⟨passed ++ [config], ?_, ?_⟩
          · rw [List.append_assoc]
            rfl
          · intro c hc
            rcases List.mem_append.mp hc with hc | hc
            · exact hpassed c hc
            · rw [List.mem_singleton.mp hc]
              exact hunnamed
      | some hostname =>
          have hnamed : unnamed packages config = false := by
            unfold unnamed
            rw [hhost]
          rw [endpoints_cons hnamed] at hendpoints
          have hallows : allows packages clientName state (upTo [] (passed ++ config :: rest))
              (.getTerseConfig config (authOf config.authenticator)) :=
            ⟨rest, hostname, rfl, hendpoints, hhost, rfl⟩
          apply Monitor.Keeps.asks hallows
          intro terse
          apply Monitor.Keeps.give
          dsimp only [monitor, after]
          rw [hhost, hendpoints]
          dsimp only
          cases readTerse terse hostname with
          | none => exact ⟨[], rfl, nofun⟩
          | some result => exact Or.inl rfl

theorem keeps_round :
    (monitor packages clientName state kvTargets httpConfigs).Keeps
      (fun result t => result.elim (t = upTo kvTargets httpConfigs) fun r => Found packages r t)
      (round packages clientName state kvTargets httpConfigs) (upTo kvTargets httpConfigs) := by
  have hkv : (monitor packages clientName state kvTargets httpConfigs).Keeps
      (fun result t => result.elim (t = upTo [] httpConfigs) fun r => t.stage = .decided r)
      (Calls.firstOf (fromKv packages clientName state) kvTargets)
      (upTo kvTargets httpConfigs) := by
    apply Monitor.Keeps.firstOf (fun targets t => t = upTo targets httpConfigs)
    · intro target rest t ht
      subst ht
      exact keeps_fromKv target rest httpConfigs
    · rfl
  apply hkv.bind
  intro result t ht
  cases result with
  | some result => exact Or.inl ht
  | none =>
      have hpassed : Passed packages httpConfigs t := ⟨[], ht, nofun⟩
      apply (Monitor.Keeps.firstOf (Passed packages)
        (fun config rest s hs => keeps_fromHttp config rest hs) hpassed).bind
      intro result t ht
      cases result with
      | some result => exact ht
      | none =>
          rcases ht with ⟨passed, rfl, hunnamed⟩
          have hnone : (upTo [] (passed ++ [])).endpoints packages = [] :=
            endpoints_of_passed hunnamed
          exact Monitor.Keeps.asks ⟨rfl, hnone⟩ fun _ => rfl

theorem keeps_getFirstConfig (order : MapOrder) (targets : FiniteMap String KvTarget)
    (configs : FiniteMap String FirstHttpConfig) (rounds : Nat) :
    (monitor packages clientName state ((order.pairs targets).map Prod.snd)
      ((order.pairs configs).map Prod.snd)).Keeps (Found packages)
      (getFirstConfig packages clientName state order targets configs rounds)
      (upTo ((order.pairs targets).map Prod.snd) ((order.pairs configs).map Prod.snd)) := by
  apply Monitor.Keeps.loop (fun t => t = upTo ((order.pairs targets).map Prod.snd)
    ((order.pairs configs).map Prod.snd))
  · intro t ht
    subst ht
    exact keeps_round
  · rfl

end Keeps

section Seeds

variable {packages : Packages} {clientName : String} {order : MapOrder} {opts : AgentOptions}
variable {rounds : Nat}

def seedTargets (order : MapOrder) (opts : AgentOptions) : List KvTarget :=
  (order.pairs (genFirstKvClientConfigs opts.seedConfig.memdAddrs opts.state)).map Prod.snd

def seedEndpoints (clientName : String) (order : MapOrder) (opts : AgentOptions) :
    List FirstHttpConfig :=
  (order.pairs (genFirstHttpEndpoints clientName opts.seedConfig.httpAddrs opts.state)).map Prod.snd

def searching (packages : Packages) (clientName : String) (order : MapOrder)
    (opts : AgentOptions) : Monitor Question Answer Searching :=
  Searching.monitor packages clientName opts.state (seedTargets order opts)
    (seedEndpoints clientName order opts)

def begun (clientName : String) (order : MapOrder) (opts : AgentOptions) : Searching :=
  Searching.upTo (seedTargets order opts) (seedEndpoints clientName order opts)

theorem mem_values_iff {value : Type} (m : FiniteMap String value) (v : value) :
    v ∈ (order.pairs m).map Prod.snd <-> v ∈ FiniteMap.values m := by
  rw [FiniteMap.mem_values]
  constructor
  · intro hmem
    rcases List.mem_map.mp hmem with ⟨⟨k, w⟩, hpair, rfl⟩
    exact ⟨k, (order.mem_pairs m).mp hpair⟩
  · intro hlookup
    rcases hlookup with ⟨k, hlookup⟩
    exact List.mem_map.mpr ⟨(k, v), (order.mem_pairs m).mpr hlookup, rfl⟩

/-- Each address of the seeds is a target, and nothing else is one. -/
theorem mem_seedTargets {target : KvTarget} :
    target ∈ seedTargets order opts <->
      exists addr, addr ∈ opts.seedConfig.memdAddrs ∧ kvTarget opts.state addr = target :=
  (mem_values_iff _ target).trans mem_genFirst

theorem mem_seedEndpoints {config : FirstHttpConfig} :
    config ∈ seedEndpoints clientName order opts <->
      exists addr, addr ∈ opts.seedConfig.httpAddrs ∧
        firstHttpConfig clientName opts.state addr = config :=
  (mem_values_iff _ config).trans mem_genFirst

/-- In every run each round goes through the seeds in one order: a client is made of each and asked
for its config, then the management service of each is asked, and the search goes on only for as long
as nobody has answered with a config.  What it gives is what the last one that was asked has
answered, unless the text was not JSON, the client did not close or an endpoint has no host. -/
theorem first_config_found {trace : List (Asked Question Answer)}
    {result : Option (Except Error ParsedConfig)}
    (h : (search packages clientName order opts rounds).Runs trace result) :
    (searching packages clientName order opts).Accepts (begun clientName order opts) trace ∧
      forall r, result = some r ->
        Found packages r
          ((searching packages clientName order opts).finish (begun clientName order opts) trace) :=
  (keeps_getFirstConfig order _ _ rounds).accepts h

/-- One node, which has no data service yet. -/
def seededOptions : AgentOptions :=
  { seedConfig := { httpAddrs := [⟨"10.0.0.1", 8091⟩], memdAddrs := [⟨"10.0.0.1", 11210⟩] }
    authenticator := .passwordAuthenticator "alice" "secret"
    authMechanisms := []
    tlsConfig := none
    bucketName := some "travel"
    enableErrorMap := true }

def seedTarget : KvTarget :=
  { address := ⟨"10.0.0.1", 11210⟩, tlsConfig := none }

def seedEndpoint : FirstHttpConfig :=
  { endpoint := "http://10.0.0.1:8091"
    tls := none
    userAgent := "cb-rust"
    authenticator := .passwordAuthenticator "alice" "secret"
    bucketName := some "travel" }

def seedPackages : Packages :=
  { prims := fun _ => Scram.smallPrimitives
    json := Config.hostReader
    parseUrl := fun uri =>
      if uri = "http://10.0.0.1:8091" then .ok (some "10.0.0.1", some 8091)
      else .error "relative URL without a base" }

def seedTrace : List (Asked Question Answer) :=
  [{ question := .client seedTarget .connect, reply := some none },
    { question := .getTerseConfig seedEndpoint (.basicAuth "alice" "secret")
      reply := some (some (Config.hostConfig "10.0.0.1")) }]

def seedParsed : ParsedConfig :=
  { revId := 1
    revEpoch := 1
    sourceHostname := "10.0.0.1"
    bucket := none
    nodes := [Config.ConfigParser.parseNode "10.0.0.1" 1 0
      (.ofPorts (some "10.0.0.1") (some 11210) (some 8091))]
    features := [] }

/-- It begins with a connection, and there is no client if there is no time for one. -/
theorem newClient_connect (packages : Packages) (clientName : String) (state : AgentState)
    (target : KvTarget) :
    exists next, newClient packages clientName state target =
      .ask (.client target .connect) next ∧ next none = Calls.give none := by
  have hnew : exists next, KvClient.new packages.prims (clientOptions clientName state target) =
      .ask .connect next := ⟨_, rfl⟩
  rcases hnew with ⟨next, hnew⟩
  unfold newClient
  rw [hnew, Calls.embed]
  refine ⟨_, rfl, ?_⟩
  rfl

theorem runs_seeded :
    (search seedPackages "cb-rust" .kept seededOptions 1).Runs seedTrace
      (some (.ok seedParsed)) := by
  have hsearch : search seedPackages "cb-rust" .kept seededOptions 1 =
      Calls.loop (round seedPackages "cb-rust" seededOptions.state [seedTarget] [seedEndpoint])
        1 := rfl
  rcases newClient_connect seedPackages "cb-rust" seededOptions.state seedTarget with
    ⟨next, hconnect, hnone⟩
  rw [hsearch, Calls.loop, round, Calls.firstOf, fromKv, hconnect]
  refine Calls.Runs.answered _ ?_
  dsimp only
  rw [hnone]
  refine Calls.Runs.answered _ ?_
  exact .gave _

theorem first_config_found_seeded :
    (searching seedPackages "cb-rust" .kept seededOptions).Accepts
        (begun "cb-rust" .kept seededOptions) seedTrace ∧
      forall r, some (.ok seedParsed) = some r ->
        Found seedPackages r ((searching seedPackages "cb-rust" .kept seededOptions).finish
          (begun "cb-rust" .kept seededOptions) seedTrace) :=
  first_config_found runs_seeded

/-!
# Who is asked
-/

/-- Only the seeds are left to be tried. -/
def Within (kvTargets : List KvTarget) (httpConfigs : List FirstHttpConfig) (s : Searching) :
    Prop :=
  s.targets ⊆ kvTargets ∧ s.configs ⊆ httpConfigs

variable {kvTargets : List KvTarget} {httpConfigs : List FirstHttpConfig}

theorem Within.next {s : Searching} (h : Within kvTargets httpConfigs s) :
    Within kvTargets httpConfigs s.next :=
  ⟨List.Subset.trans (List.tail_subset s.targets) h.1, h.2⟩

theorem Within.settle {s : Searching} (h : Within kvTargets httpConfigs s)
    (result : Option (Except Error ParsedConfig)) :
    Within kvTargets httpConfigs (s.settle result) := by
  cases result with
  | none => exact h.next
  | some result => exact h

theorem Within.standingAt {s : Searching} (h : Within kvTargets httpConfigs s)
    (standing : Standing) : Within kvTargets httpConfigs (s.standingAt standing) := by
  unfold Searching.standingAt
  split
  · exact h.next
  · exact h

theorem Within.after {state : AgentState} {s : Searching} (h : Within kvTargets httpConfigs s)
    (q : Question) (answer : Answer q) :
    Within kvTargets httpConfigs
      (Searching.after packages clientName state kvTargets httpConfigs s q answer) := by
  cases q with
  | client target q =>
      cases answer with
      | none => exact h.next
      | some answer =>
          dsimp only [Searching.after]
          split
          · exact h.standingAt _
          · exact h
  | getClusterConfig target =>
      dsimp only [Searching.after]
      split
      · exact h
      · exact h.next
  | closeClient target =>
      cases answer with
      | error e => exact h.settle _
      | ok u =>
          dsimp only [Searching.after]
          split
          · exact h.settle _
          · exact h
  | getTerseConfig config auth =>
      dsimp only [Searching.after]
      split
      · apply Within.settle
        have hleft : (s.endpoints packages).tail ⊆ s.configs :=
          List.Subset.trans (List.tail_subset _) (List.dropWhile_subset _)
        exact ⟨h.1, List.Subset.trans hleft h.2⟩
      · exact h
  | sleep => exact ⟨List.Subset.refl _, List.Subset.refl _⟩

/-- A question to a seed.  The credentials are those of the options, and a client without TLS that has
not been told to does not name PLAIN. -/
def ToSeed (clientName : String) (opts : AgentOptions) : Question -> Prop
  | .client target q => (exists addr, addr ∈ opts.seedConfig.memdAddrs ∧
      kvTarget opts.state addr = target) ∧
        forall options, q = .saslAuthAuto options ->
          (clientOptions clientName opts.state target).bootstrapAuth = some options ∧
            (opts.tlsConfig = none -> .plain ∉ opts.authMechanisms ->
              .plain ∉ options.enabledMechs)
  | .getClusterConfig target => exists addr, addr ∈ opts.seedConfig.memdAddrs ∧
      kvTarget opts.state addr = target
  | .closeClient target => exists addr, addr ∈ opts.seedConfig.memdAddrs ∧
      kvTarget opts.state addr = target
  | .getTerseConfig config auth => (exists addr, addr ∈ opts.seedConfig.httpAddrs ∧
      firstHttpConfig clientName opts.state addr = config) ∧ auth = authOf opts.authenticator
  | .sleep => True

theorem plain_not_offered {target : KvTarget} {options : KvClient.SASLAuthAutoOptions}
    (hauth : (clientOptions clientName opts.state target).bootstrapAuth = some options)
    (htls : target.tlsConfig = none) (hmechs : AuthMechanism.plain ∉ opts.authMechanisms) :
    AuthMechanism.plain ∉ options.enabledMechs := by
  rcases Option.map_eq_some_iff.mp hauth with ⟨credentials, _, rfl⟩
  apply KvClient.plain_not_enabled
  · show target.tlsConfig.isSome = false
    rw [htls]
    rfl
  · exact hmechs

theorem toSeed_of_allows {s : Searching}
    (hs : Within (seedTargets order opts) (seedEndpoints clientName order opts) s) {q : Question}
    (h : Searching.allows packages clientName opts.state s q) : ToSeed clientName opts q := by
  have hfirst {target : KvTarget} {rest : List KvTarget} (htargets : s.targets = target :: rest) :
      exists addr, addr ∈ opts.seedConfig.memdAddrs ∧ kvTarget opts.state addr = target := by
    apply mem_seedTargets.mp
    apply hs.1
    rw [htargets]
    exact List.mem_cons_self
  cases q with
  | client target q =>
      rcases h with ⟨rest, standing, htargets, _, hallows⟩
      have hseed := hfirst htargets
      refine ⟨hseed, ?_⟩
      intro options hquestion
      rw [hquestion] at hallows
      have hauth := KvClient.bootstrapAuth_of_asked hallows
      refine ⟨hauth, ?_⟩
      intro htls hmechs
      rcases hseed with ⟨addr, _, rfl⟩
      exact plain_not_offered hauth htls hmechs
  | getClusterConfig target =>
      rcases h with ⟨rest, standing, client, htargets, _⟩
      exact hfirst htargets
  | closeClient target =>
      rcases h with ⟨rest, rawConfig, htargets, _⟩
      exact hfirst htargets
  | getTerseConfig config auth =>
      rcases h with ⟨rest, hostname, _, hendpoints, _, hauth⟩
      have hmem : config ∈ s.configs := by
        apply List.dropWhile_subset (Searching.unnamed packages)
        show config ∈ s.endpoints packages
        rw [hendpoints]
        exact List.mem_cons_self
      rcases mem_seedEndpoints.mp (hs.2 hmem) with ⟨addr, haddr, rfl⟩
      exact ⟨⟨addr, haddr, rfl⟩, hauth⟩
  | sleep => trivial

/-- Nobody but the seeds is asked, or given credentials. -/
theorem only_seeds_asked {trace : List (Asked Question Answer)}
    {result : Option (Except Error ParsedConfig)}
    (h : (search packages clientName order opts rounds).Runs trace result) :
    forall asked, asked ∈ trace -> ToSeed clientName opts asked.question := by
  have haccepts : (searching packages clientName order opts).Accepts
      (begun clientName order opts) trace :=
    ((keeps_getFirstConfig order _ _ rounds).accepts h).1
  have hbegun : Within (seedTargets order opts) (seedEndpoints clientName order opts)
      (begun clientName order opts) :=
    ⟨List.Subset.refl _, List.Subset.refl _⟩
  intro asked hasked
  rcases haccepts.allowed_of _ (Within _ _) (fun s q answer hs => hs.after q answer) hbegun asked
    hasked with ⟨s, hs, hallows⟩
  exact toSeed_of_allows hs hallows

theorem only_seeds_asked_seeded :
    ToSeed "cb-rust" seededOptions (.getTerseConfig seedEndpoint (.basicAuth "alice" "secret")) :=
  only_seeds_asked runs_seeded _ (List.mem_cons_of_mem _ List.mem_cons_self)

end Seeds

end FirstConfig
end CouchbaseSdk
