import CouchbaseSdk.Config.Hostname
import CouchbaseSdk.Foundation.Calls
import CouchbaseSdk.Memdx.Codec
import CouchbaseSdk.Sasl.SaslAuto

/-!
# Making a client

A new connection says what it supports, asks for the error map, authenticates, and selects its
bucket, one request at a time.  Only the last two have to succeed.
-/

namespace CouchbaseSdk

open Foundation

/-!
# Features
-/

namespace Memdx

inductive HelloFeature where
  | dataType | tls | tcpNoDelay | seqNo | tcpDelay | xattr | xerror | selectBucket | snappy
  | snappyEverywhere | json | duplex | clusterMapNotif | unorderedExec | durations | altRequests
  | syncReplication | collections | preserveExpiry | pointInTimeRecovery | createAsDeleted
  | replaceBodyWithXattr | clusterMapKnownVersion | dedupeNotMyVbucketClustermap
  | clusterMapChangeNotificationBrief
  | unknown (code : UInt16)
deriving DecidableEq

namespace HelloFeature

def toU16 : HelloFeature -> UInt16
  | .dataType => 0x01
  | .tls => 0x02
  | .tcpNoDelay => 0x03
  | .seqNo => 0x04
  | .tcpDelay => 0x05
  | .xattr => 0x06
  | .xerror => 0x07
  | .selectBucket => 0x08
  | .snappy => 0x0a
  | .json => 0x0b
  | .duplex => 0x0c
  | .clusterMapNotif => 0x0d
  | .unorderedExec => 0x0e
  | .durations => 0x0f
  | .altRequests => 0x10
  | .syncReplication => 0x11
  | .collections => 0x12
  | .snappyEverywhere => 0x13
  | .preserveExpiry => 0x14
  | .pointInTimeRecovery => 0x16
  | .createAsDeleted => 0x17
  | .replaceBodyWithXattr => 0x19
  | .clusterMapKnownVersion => 0x1d
  | .dedupeNotMyVbucketClustermap => 0x1e
  | .clusterMapChangeNotificationBrief => 0x1f
  | .unknown code => code

def ofU16 (value : UInt16) : HelloFeature :=
  match value.toNat with
  | 0x01 => .dataType
  | 0x02 => .tls
  | 0x03 => .tcpNoDelay
  | 0x04 => .seqNo
  | 0x05 => .tcpDelay
  | 0x06 => .xattr
  | 0x07 => .xerror
  | 0x08 => .selectBucket
  | 0x0a => .snappy
  | 0x0b => .json
  | 0x0c => .duplex
  | 0x0d => .clusterMapNotif
  | 0x0e => .unorderedExec
  | 0x0f => .durations
  | 0x10 => .altRequests
  | 0x11 => .syncReplication
  | 0x12 => .collections
  | 0x13 => .snappyEverywhere
  | 0x14 => .preserveExpiry
  | 0x16 => .pointInTimeRecovery
  | 0x17 => .createAsDeleted
  | 0x19 => .replaceBodyWithXattr
  | 0x1d => .clusterMapKnownVersion
  | 0x1e => .dedupeNotMyVbucketClustermap
  | 0x1f => .clusterMapChangeNotificationBrief
  | _ => .unknown value

def write (features : List HelloFeature) : Buffer :=
  features.flatMap fun feature => beBytes 2 feature.toU16.toNat

def read : Buffer -> List HelloFeature
  | high :: low :: rest => ofU16 (UInt16.ofNat (beNat [high, low])) :: read rest
  | _ => []

/-- What has a name is read as what was written. -/
theorem read_write {features : List HelloFeature}
    (h : forall feature, feature ∈ features -> ofU16 feature.toU16 = feature) :
    read (write features) = features := by
  induction features with
  | nil => rfl
  | cons feature features ih =>
      have hrest := ih fun f hf => h f (List.mem_cons_of_mem _ hf)
      have hlt : feature.toU16.toNat % 256 ^ 2 = feature.toU16.toNat :=
        Nat.mod_eq_of_lt feature.toU16.toNat_lt
      have hcode : UInt16.ofNat (beNat (beBytes 2 feature.toU16.toNat)) = feature.toU16 := by
        rw [beNat_beBytes, hlt, UInt16.ofNat_toNat]
      show ofU16 (UInt16.ofNat (beNat (beBytes 2 feature.toU16.toNat))) :: read (write features) = _
      rw [hcode, h feature List.mem_cons_self, hrest]

end HelloFeature

/-!
# Requests and responses
-/

open Scram (Reply decodeError protocolError)

def helloPacket (requestedFeatures : List HelloFeature) : RequestPacket :=
  { magic := .req, opCode := .hello, datatype := 0
    value := some (HelloFeature.write requestedFeatures) }

def getErrorMapPacket (version : UInt16) : RequestPacket :=
  { magic := .req, opCode := .getErrorMap, datatype := 0
    value := some (beBytes 2 version.toNat) }

def selectBucketPacket (bucketName : String) : RequestPacket :=
  { magic := .req, opCode := .selectBucket, datatype := 0, key := some (Scram.asBytes bucketName) }

/-- The epoch and the revision of a config that is known already. -/
def getClusterConfigPacket (knownVersion : Option (Int64 × Int64)) : RequestPacket :=
  { magic := .req, opCode := .getClusterConfig, datatype := 0
    extras := knownVersion.map fun (revEpoch, revId) =>
      beBytes 8 revEpoch.toUInt64.toNat ++ beBytes 8 revId.toUInt64.toNat }

def helloResponse : Reply -> Except ErrorKind (List HelloFeature)
  | .failed e => .error e
  | .packet status value opaqueId =>
      if status ≠ .success then .error (decodeError status opaqueId)
      else
        match value with
        | none => .ok []
        | some value =>
            if value.length % 2 ≠ 0 then .error (protocolError "invalid hello features length")
            else .ok (HelloFeature.read value)

def getErrorMapResponse : Reply -> Except ErrorKind Buffer
  | .failed e => .error e
  | .packet status value opaqueId =>
      if status ≠ .success then .error (decodeError status opaqueId)
      else .ok (value.getD [])

def selectBucketResponse : Reply -> Except ErrorKind Unit
  | .failed e => .error e
  | .packet status _ opaqueId =>
      if status ≠ .success then
        if status = .accessError ∨ status = .keyNotFound then
          .error (.server { kind := .unknownBucketName, opaqueId := opaqueId })
        else .error (decodeError status opaqueId)
      else .ok ()

def getClusterConfigResponse : Reply -> Except ErrorKind Buffer
  | .failed e => .error e
  | .packet status value opaqueId =>
      if status ≠ .success then .error (decodeError status opaqueId)
      else .ok (value.getD [])

end Memdx

namespace KvClient

open Config (Authenticator)
open Memdx (HelloFeature RequestPacket helloPacket getErrorMapPacket selectBucketPacket
  getClusterConfigPacket helloResponse getErrorMapResponse selectBucketResponse
  getClusterConfigResponse)
open Sasl (AuthMechanism Credentials Exchange saslAuthAuto)
open Scram (Primitives Reply)

/-!
# The bootstrap
-/

structure SASLAuthAutoOptions where
  credentials : Credentials
  enabledMechs : List AuthMechanism

/-- The replies to the requests of an authentication: to the list of mechanisms, and to the two
attempts there may be. -/
structure AuthReplies where
  mechs : Reply
  exchange : Exchange
  fallback : Exchange

/-- What is asked when a client is made.  The requests of an authentication are one question. -/
inductive Ask where
  | connect
  | dispatch (packet : RequestPacket)
  | saslAuthAuto (options : SASLAuthAutoOptions)
  | close
  | onErrMapFetched (errorMap : Buffer)

abbrev Answer : Ask -> Type
  | .connect => Except Memdx.ErrorKind Unit
  | .dispatch _ => Reply
  | .saslAuthAuto _ => AuthReplies
  | .close => Unit
  | .onErrMapFetched _ => Unit

abbrev Asking (alpha : Type) := Calls Ask Answer alpha

def ask (q : Ask) : Asking (Answer q) :=
  Calls.request q

structure BootstrapOptions where
  hello : Option (List HelloFeature)
  getErrorMap : Option UInt16
  auth : Option SASLAuthAutoOptions
  selectBucket : Option String
  getClusterConfig : Option (Option (Int64 × Int64))

structure BootstrapResult where
  hello : Option (List HelloFeature)
  errorMap : Option Buffer
  clusterConfig : Option Buffer

/-- A request that may fail. -/
def attempt {alpha : Type} (response : Reply -> Except Memdx.ErrorKind alpha) :
    Option RequestPacket -> Asking (Option alpha)
  | none => .give none
  | some packet => (ask (.dispatch packet)).bind fun reply => .give (response reply).toOption

section Bootstrap

variable (prims : Sasl.Hash -> Primitives)

/-- How an authentication ends; where it panics nothing comes after it. -/
def authenticated (options : SASLAuthAutoOptions) (replies : AuthReplies) :
    Exec Memdx.ErrorKind Unit :=
  (saslAuthAuto prims options.enabledMechs options.credentials replies.mechs replies.exchange
    replies.fallback).result

def authenticate : Option SASLAuthAutoOptions -> Asking (Except Memdx.ErrorKind Unit)
  | none => .give (.ok ())
  | some options => (ask (.saslAuthAuto options)).bind fun replies =>
      match authenticated prims options replies with
      | .ok () => .give (.ok ())
      | .err e => .give (.error e)
      | .panic => .cut

def select : Option String -> Asking (Except Memdx.ErrorKind Unit)
  | none => .give (.ok ())
  | some bucketName => (ask (.dispatch (selectBucketPacket bucketName))).bind fun reply =>
      .give (selectBucketResponse reply)

def bootstrap (opts : BootstrapOptions) : Asking (Except Memdx.ErrorKind BootstrapResult) :=
  (attempt helloResponse (opts.hello.map helloPacket)).bind fun hello =>
    (attempt getErrorMapResponse (opts.getErrorMap.map getErrorMapPacket)).bind fun errorMap =>
      (authenticate prims opts.auth).bind fun
        | .error e => .give (.error e)
        | .ok () => (select opts.selectBucket).bind fun
            | .error e => .give (.error e)
            | .ok () => (attempt getClusterConfigResponse
                (opts.getClusterConfig.map getClusterConfigPacket)).bind fun clusterConfig =>
                  .give (.ok
                    { hello := hello, errorMap := errorMap, clusterConfig := clusterConfig })

end Bootstrap

/-!
# The options of a client
-/

structure KvClientBootstrapOptions where
  clientName : String
  disableErrorMap : Bool
  disableMutationTokens : Bool
  disableServerDurations : Bool
  /-- Whether there is a handler. -/
  onErrMapFetched : Bool
  authMechanisms : List AuthMechanism

structure KvClientOptions where
  /-- Whether there is a TLS config. -/
  tls : Bool
  authenticator : Authenticator
  selectedBucket : Option String
  bootstrapOptions : KvClientBootstrapOptions

def passwordMechanisms (tlsEnabled : Bool) : List AuthMechanism :=
  if tlsEnabled then [.plain] else [.scramSha512, .scramSha256, .scramSha1]

namespace KvClientOptions

variable (opts : KvClientOptions)

def requestedFeatures : List HelloFeature :=
  [.dataType, .xattr, .xerror, .snappy, .snappyEverywhere, .json, .unorderedExec,
    .syncReplication, .replaceBodyWithXattr, .selectBucket, .createAsDeleted, .altRequests,
    .collections, .clusterMapKnownVersion, .dedupeNotMyVbucketClustermap,
    .clusterMapChangeNotificationBrief, .duplex, .preserveExpiry] ++
    (if !opts.bootstrapOptions.disableMutationTokens then [.seqNo] else []) ++
    (if !opts.bootstrapOptions.disableServerDurations then [.durations] else [])

def bootstrapHello : Option (List HelloFeature) :=
  if !opts.bootstrapOptions.clientName.isEmpty then some opts.requestedFeatures else none

def bootstrapGetErrorMap : Option UInt16 :=
  if !opts.bootstrapOptions.disableErrorMap then some 2 else none

def credentials : Option Credentials :=
  match opts.authenticator with
  | .passwordAuthenticator username password => some (.userPass username password)
  | .certificateAuthenticator => none
  | .jwtAuthenticator token => some (.jwtToken token)

def enabledMechs : List AuthMechanism :=
  if !opts.bootstrapOptions.authMechanisms.isEmpty then opts.bootstrapOptions.authMechanisms
  else
    match opts.authenticator with
    | .passwordAuthenticator _ _ => passwordMechanisms opts.tls
    | .jwtAuthenticator _ => [.oAuthBearer]
    | .certificateAuthenticator => []

def bootstrapAuth : Option SASLAuthAutoOptions :=
  opts.credentials.map fun credentials =>
    { credentials := credentials, enabledMechs := opts.enabledMechs }

def shouldBootstrap : Bool :=
  opts.bootstrapHello.isSome || opts.bootstrapAuth.isSome || opts.bootstrapGetErrorMap.isSome

end KvClientOptions

structure StdKvClient where
  supportedFeatures : List HelloFeature
  selectedBucket : Option String
deriving DecidableEq

/-- `StdKvClient::new`.  Where there is nothing to say or to prove, the bucket is not selected
either. -/
def new (prims : Sasl.Hash -> Primitives) (opts : KvClientOptions) :
    Asking (Except Memdx.ErrorKind StdKvClient) :=
  (ask .connect).bind fun
    | .error e => .give (.error e)
    | .ok () =>
        if opts.shouldBootstrap then
          (bootstrap prims
            { hello := opts.bootstrapHello
              getErrorMap := opts.bootstrapGetErrorMap
              auth := opts.bootstrapAuth
              selectBucket := opts.selectedBucket
              getClusterConfig := none }).bind fun
            | .error e => (ask .close).bind fun _ => .give (.error e)
            | .ok res =>
                let client :=
                  { supportedFeatures := res.hello.getD [], selectedBucket := opts.selectedBucket }
                match opts.bootstrapOptions.onErrMapFetched, res.errorMap with
                | true, some errorMap =>
                    (ask (.onErrMapFetched errorMap)).bind fun _ => .give (.ok client)
                | _, _ => .give (.ok client)
        else .give (.ok { supportedFeatures := [], selectedBucket := none })

/-!
# The connection
-/

inductive Connection where
  | unconnected
  /-- How far the bootstrap has come, whether the server has accepted an authentication, and the
  bucket that it has selected. -/
  | connected (stage : Nat) (accepted : Bool) (selected : Option String)
  /-- The server has accepted no authentication, or not selected the bucket. -/
  | refused
  | closed

structure Standing where
  connection : Connection
  features : List HelloFeature
  errorMap : Option Buffer

namespace Standing

def start : Standing :=
  { connection := .unconnected, features := [], errorMap := none }

section Monitor

variable (prims : Sasl.Hash -> Primitives) (opts : KvClientOptions)

/-- Whoever has credentials has been accepted. -/
def Accepted (accepted : Bool) : Prop :=
  opts.credentials.isSome = true -> accepted = true

/-- Each request comes at most once, and in its order.  The bucket is not selected before the server
has accepted the credentials, and what it refuses is closed before anything else is asked. -/
def allows (s : Standing) : Ask -> Prop
  | .connect => s.connection = .unconnected
  | .dispatch packet => exists stage accepted, s.connection = .connected stage accepted none ∧
      (stage < 1 ∧ opts.bootstrapHello.map helloPacket = some packet ∨
        stage < 2 ∧ opts.bootstrapGetErrorMap.map getErrorMapPacket = some packet ∨
        stage < 4 ∧ opts.selectedBucket.map selectBucketPacket = some packet ∧
          Accepted opts accepted)
  | .saslAuthAuto options => exists stage accepted, s.connection = .connected stage accepted none ∧
      stage < 3 ∧ opts.bootstrapAuth = some options
  | .close => s.connection = .refused
  | .onErrMapFetched errorMap => exists stage accepted,
      s.connection = .connected stage accepted opts.selectedBucket ∧ stage < 5 ∧
        Accepted opts accepted ∧ s.errorMap = some errorMap

def after (s : Standing) : (q : Ask) -> Answer q -> Standing
  | .connect, .ok () => { s with connection := .connected 0 false none }
  | .connect, .error _ => { s with connection := .closed }
  | .close, _ => { s with connection := .closed }
  | .onErrMapFetched _, _ =>
      match s.connection with
      | .connected _ accepted selected =>
          { s with connection := .connected 5 accepted selected }
      | _ => s
  | .saslAuthAuto options, replies =>
      match authenticated prims options replies with
      | .ok () => { s with connection := .connected 3 true none }
      | _ => { s with connection := .refused }
  | .dispatch packet, reply =>
      match s.connection, packet.opCode with
      | .connected _ accepted selected, .hello =>
          { s with
            connection := .connected 1 accepted selected
            features := (helloResponse reply).toOption.getD [] }
      | .connected _ accepted selected, .getErrorMap =>
          { s with
            connection := .connected 2 accepted selected
            errorMap := (getErrorMapResponse reply).toOption }
      | .connected _ accepted _, .selectBucket =>
          match selectBucketResponse reply with
          | .ok () => { s with connection := .connected 4 accepted opts.selectedBucket }
          | .error _ => { s with connection := .refused }
      | _, _ => s

def monitor : Monitor Ask Answer Standing where
  allows := allows opts
  after := after prims opts

end Monitor

end Standing

/-- What a result says of the connection.  A client has the features that the server has enabled, and
the bucket that it has selected. -/
def Made (opts : KvClientOptions) : Except Memdx.ErrorKind StdKvClient -> Standing -> Prop
  | .error _, s => s.connection = .closed
  | .ok client, s => client.supportedFeatures = s.features ∧
      exists stage accepted, s.connection = .connected stage accepted client.selectedBucket ∧
        if opts.shouldBootstrap then
          Standing.Accepted opts accepted ∧ client.selectedBucket = opts.selectedBucket
        else client.selectedBucket = none

section Keeps

variable {prims : Sasl.Hash -> Primitives} {opts : KvClientOptions}

theorem keeps_hello {s : Standing} (h : s = { Standing.start with
    connection := .connected 0 false none }) :
    (Standing.monitor prims opts).Keeps
      (fun hello t => exists stage, stage ≤ 1 ∧
        t = { connection := .connected stage false none, features := hello.getD []
              errorMap := none })
      (attempt helloResponse (opts.bootstrapHello.map helloPacket)) s := by
  subst h
  cases hhello : opts.bootstrapHello with
  | none => exact ⟨0, Nat.zero_le 1, rfl⟩
  | some features =>
      have hallows : (Standing.monitor prims opts).allows
          { Standing.start with connection := .connected 0 false none }
          (.dispatch (helloPacket features)) :=
        ⟨0, false, rfl, Or.inl ⟨Nat.zero_lt_one, congrArg (Option.map helloPacket) hhello⟩⟩
      exact ⟨hallows, fun reply => ⟨1, Nat.le_refl 1, rfl⟩⟩

theorem keeps_errorMap {features : List HelloFeature} {stage : Nat} (hstage : stage ≤ 1) :
    (Standing.monitor prims opts).Keeps
      (fun errorMap t => exists stage, stage ≤ 2 ∧
        t = { connection := .connected stage false none, features := features
              errorMap := errorMap })
      (attempt getErrorMapResponse (opts.bootstrapGetErrorMap.map getErrorMapPacket))
      { connection := .connected stage false none, features := features, errorMap := none } := by
  cases hversion : opts.bootstrapGetErrorMap with
  | none => exact ⟨stage, Nat.le_succ_of_le hstage, rfl⟩
  | some version =>
      have hallows : (Standing.monitor prims opts).allows
          { connection := .connected stage false none, features := features, errorMap := none }
          (.dispatch (getErrorMapPacket version)) :=
        ⟨stage, false, rfl, Or.inr (Or.inl ⟨Nat.lt_succ_of_le hstage,
          congrArg (Option.map getErrorMapPacket) hversion⟩)⟩
      exact ⟨hallows, fun reply => ⟨2, Nat.le_refl 2, rfl⟩⟩

/-- After a refusal the connection is to be closed. -/
def Refusable (p : Standing -> Prop) (result : Except Memdx.ErrorKind Unit) (s : Standing) : Prop :=
  match result with
  | .ok () => p s
  | .error _ => s.connection = .refused

theorem keeps_authenticate {features : List HelloFeature} {errorMap : Option Buffer} {stage : Nat}
    (hstage : stage ≤ 2) :
    (Standing.monitor prims opts).Keeps
      (Refusable fun t => exists stage accepted, stage ≤ 3 ∧ Standing.Accepted opts accepted ∧
        t = { connection := .connected stage accepted none, features := features
              errorMap := errorMap })
      (authenticate prims opts.bootstrapAuth)
      { connection := .connected stage false none, features := features
        errorMap := errorMap } := by
  cases hauth : opts.bootstrapAuth with
  | none =>
      have hnone : opts.credentials = none := Option.map_eq_none_iff.mp hauth
      refine ⟨stage, false, Nat.le_succ_of_le hstage, ?_, rfl⟩
      intro hsome
      rw [hnone] at hsome
      cases hsome
  | some options =>
      have hallows : Standing.allows opts
          { connection := .connected stage false none, features := features, errorMap := errorMap }
          (.saslAuthAuto options) :=
        ⟨stage, false, rfl, Nat.lt_succ_of_le hstage, hauth⟩
      apply Monitor.Keeps.asks hallows
      intro replies
      show (Standing.monitor prims opts).Keeps _ _
        (Standing.after prims opts _ (.saslAuthAuto options) replies)
      unfold Standing.after
      dsimp only
      cases authenticated prims options replies with
      | ok u => exact ⟨3, true, Nat.le_refl 3, fun _ => rfl, rfl⟩
      | err e => rfl
      | panic => trivial

theorem keeps_select {features : List HelloFeature} {errorMap : Option Buffer} {stage : Nat}
    {accepted : Bool} (hstage : stage ≤ 3) (haccepted : Standing.Accepted opts accepted) :
    (Standing.monitor prims opts).Keeps
      (Refusable fun t => exists stage, stage ≤ 4 ∧
        t = { connection := .connected stage accepted opts.selectedBucket, features := features
              errorMap := errorMap })
      (select opts.selectedBucket)
      { connection := .connected stage accepted none, features := features
        errorMap := errorMap } := by
  cases hbucket : opts.selectedBucket with
  | none => exact ⟨stage, Nat.le_succ_of_le hstage, rfl⟩
  | some bucketName =>
      have hallows : Standing.allows opts
          { connection := .connected stage accepted none, features := features
            errorMap := errorMap }
          (.dispatch (selectBucketPacket bucketName)) :=
        ⟨stage, accepted, rfl, Or.inr (Or.inr ⟨Nat.lt_succ_of_le hstage,
          congrArg (Option.map selectBucketPacket) hbucket, haccepted⟩)⟩
      apply Monitor.Keeps.asks hallows
      intro reply
      apply Monitor.Keeps.give
      dsimp only [Standing.monitor, Standing.after, selectBucketPacket]
      cases selectBucketResponse reply with
      | ok u => exact ⟨4, Nat.le_refl 4, by rw [hbucket]⟩
      | error e => rfl

def Bootstrapped (opts : KvClientOptions) :
    Except Memdx.ErrorKind BootstrapResult -> Standing -> Prop
  | .error _, s => s.connection = .refused
  | .ok res, s => exists stage accepted, stage ≤ 4 ∧ Standing.Accepted opts accepted ∧
      s = { connection := .connected stage accepted opts.selectedBucket
            features := res.hello.getD [], errorMap := res.errorMap }

theorem keeps_bootstrap :
    (Standing.monitor prims opts).Keeps (Bootstrapped opts)
      (bootstrap prims
        { hello := opts.bootstrapHello, getErrorMap := opts.bootstrapGetErrorMap
          auth := opts.bootstrapAuth, selectBucket := opts.selectedBucket
          getClusterConfig := none })
      { Standing.start with connection := .connected 0 false none } := by
  apply (keeps_hello rfl).bind
  intro hello t ht
  rcases ht with ⟨stage, hstage, rfl⟩
  apply (keeps_errorMap hstage).bind
  intro errorMap t ht
  rcases ht with ⟨stage, hstage, rfl⟩
  apply (keeps_authenticate hstage).bind
  intro result t ht
  cases result with
  | error e => exact ht
  | ok u =>
      rcases ht with ⟨stage, accepted, hstage, haccepted, rfl⟩
      apply (keeps_select hstage haccepted).bind
      intro result t ht
      cases result with
      | error e => exact ht
      | ok u =>
          rcases ht with ⟨stage, hstage, rfl⟩
          exact ⟨stage, accepted, hstage, haccepted, rfl⟩

/-- A connection that was refused is closed. -/
theorem keeps_close {s : Standing} (h : s.connection = .refused) (e : Memdx.ErrorKind) :
    (Standing.monitor prims opts).Keeps (Made opts)
      ((ask .close).bind fun _ => .give (.error e)) s :=
  Monitor.Keeps.asks h fun _ => rfl

theorem keeps_onErrMapFetched {res : BootstrapResult} {stage : Nat} {accepted : Bool}
    (hshould : opts.shouldBootstrap = true) (hstage : stage ≤ 4)
    (haccepted : Standing.Accepted opts accepted) :
    (Standing.monitor prims opts).Keeps (Made opts)
      (match opts.bootstrapOptions.onErrMapFetched, res.errorMap with
        | true, some errorMap => (ask (.onErrMapFetched errorMap)).bind fun _ =>
            .give (.ok { supportedFeatures := res.hello.getD []
                         selectedBucket := opts.selectedBucket })
        | _, _ => .give (.ok { supportedFeatures := res.hello.getD []
                               selectedBucket := opts.selectedBucket }))
      { connection := .connected stage accepted opts.selectedBucket
        features := res.hello.getD [], errorMap := res.errorMap } := by
  have hmade (stage : Nat) : Made opts
      (.ok { supportedFeatures := res.hello.getD [], selectedBucket := opts.selectedBucket })
      { connection := .connected stage accepted opts.selectedBucket
        features := res.hello.getD [], errorMap := res.errorMap } := by
    refine ⟨rfl, stage, accepted, rfl, ?_⟩
    rw [if_pos hshould]
    exact ⟨haccepted, rfl⟩
  split
  · rename_i errorMap _ hfetched
    have hallows : Standing.allows opts
        { connection := .connected stage accepted opts.selectedBucket
          features := res.hello.getD [], errorMap := res.errorMap }
        (.onErrMapFetched errorMap) :=
      ⟨stage, accepted, rfl, Nat.lt_succ_of_le hstage, haccepted, hfetched⟩
    exact Monitor.Keeps.asks hallows fun _ => hmade 5
  · exact hmade stage

theorem keeps_new : (Standing.monitor prims opts).Keeps (Made opts) (new prims opts)
    Standing.start := by
  apply Monitor.Keeps.asks rfl
  intro connected
  cases connected with
  | error e => rfl
  | ok u =>
      dsimp only
      split
      · rename_i hshould
        apply keeps_bootstrap.bind
        intro result t ht
        cases result with
        | error e => exact keeps_close ht e
        | ok res =>
            rcases ht with ⟨stage, accepted, hstage, haccepted, rfl⟩
            exact keeps_onErrMapFetched hshould hstage haccepted
      · rename_i hshould
        refine ⟨rfl, 0, false, rfl, ?_⟩
        rw [if_neg hshould]

end Keeps

/-- In every run the bucket is selected only after the server has accepted the credentials, if there
are any, and a connection that is refused is closed before anything else.  A client that is made has
the features that the server has enabled and the bucket that the server has selected. -/
theorem client_made {prims : Sasl.Hash -> Primitives} {opts : KvClientOptions}
    {trace : List (Asked Ask Answer)} {result : Option (Except Memdx.ErrorKind StdKvClient)}
    (h : (new prims opts).Runs trace result) :
    (Standing.monitor prims opts).Accepts Standing.start trace ∧
      forall r, result = some r ->
        Made opts r ((Standing.monitor prims opts).finish Standing.start trace) :=
  keeps_new.accepts h

/-- A client that has a bucket. -/
def travelOptions : KvClientOptions where
  tls := true
  authenticator := .passwordAuthenticator "alice" "secret"
  selectedBucket := some "travel"
  bootstrapOptions :=
    { clientName := "sdk"
      disableErrorMap := false
      disableMutationTokens := true
      disableServerDurations := true
      onErrMapFetched := true
      authMechanisms := [] }

def unauthenticated : List (Asked Ask Answer) :=
  [{ question := .connect, reply := some (.ok ()) },
    { question := .dispatch (helloPacket travelOptions.requestedFeatures)
      reply := some (.packet .success (some [0, 0x0a, 0, 0x12]) 1) },
    { question := .dispatch (getErrorMapPacket 2)
      reply := some (.packet .commandUnknown none 2) }]

def plainAuth : SASLAuthAutoOptions :=
  { credentials := .userPass "alice" "secret", enabledMechs := [.plain] }

def plainReplies : AuthReplies :=
  { mechs := .packet .success (some (Scram.asBytes "PLAIN")) 3
    exchange := { Sasl.failing with first := .packet .success none 4 }
    fallback := Sasl.failing }

def travelTrace : List (Asked Ask Answer) :=
  unauthenticated ++
    [{ question := .saslAuthAuto plainAuth, reply := some plainReplies },
      { question := .dispatch (selectBucketPacket "travel")
        reply := some (.packet .success none 5) }]

def travelClient : StdKvClient :=
  { supportedFeatures := [.snappy, .collections], selectedBucket := some "travel" }

theorem runs_travel :
    (new (fun _ => Scram.smallPrimitives) travelOptions).Runs travelTrace
      (some (.ok travelClient)) := by
  refine Calls.Runs.answered _ ?_
  refine Calls.Runs.answered _ ?_
  refine Calls.Runs.answered _ ?_
  refine Calls.Runs.answered _ ?_
  refine Calls.Runs.answered _ ?_
  exact .gave _

theorem client_made_travel :
    (Standing.monitor (fun _ => Scram.smallPrimitives) travelOptions).Accepts Standing.start
        travelTrace ∧
      forall r, some (.ok travelClient) = some r ->
        Made travelOptions r
          ((Standing.monitor (fun _ => Scram.smallPrimitives) travelOptions).finish Standing.start
            travelTrace) :=
  client_made runs_travel

/-!
# The password
-/

section Password

variable {prims : Sasl.Hash -> Primitives} {credentials : Credentials}

theorem mem_attempts {enabledMechs : List AuthMechanism} {mechs : Reply}
    {exchange fallback : Exchange} {tried : Sasl.Attempt}
    (h : tried ∈ (saslAuthAuto prims enabledMechs credentials mechs exchange fallback).attempts) :
    exists mech met, mech ∈ enabledMechs ∧
      tried = Sasl.saslAuthByName prims credentials mech met := by
  unfold saslAuthAuto at h
  split at h
  · cases h
  · rename_i defaultMech others
    have hone {first : Sasl.Attempt}
        (hfirst : first = Sasl.saslAuthByName prims credentials defaultMech exchange)
        (hmem : tried ∈ [first]) : exists mech met, mech ∈ defaultMech :: others ∧
          tried = Sasl.saslAuthByName prims credentials mech met :=
      ⟨defaultMech, exchange, List.mem_cons_self, (List.mem_singleton.mp hmem).trans hfirst⟩
    split at h
    · cases h
    · dsimp only at h
      split at h
      · exact hone rfl h
      · exact hone rfl h
      · unfold Sasl.afterFailure at h
        split at h
        · exact hone rfl h
        · split at h
          · exact hone rfl h
          · split at h
            · exact hone rfl h
            · rename_i selectedMech hselected
              rcases List.mem_cons.mp h with hfirst | hsecond
              · exact hone rfl (List.mem_singleton.mpr hfirst)
              · exact ⟨selectedMech, fallback, List.mem_of_find?_eq_some hselected,
                  List.mem_singleton.mp hsecond⟩

/-- Only PLAIN names PLAIN. -/
theorem plain_of_requests {mech : AuthMechanism} {met : Exchange} {request : Sasl.SaslRequest}
    (h : request ∈ (Sasl.saslAuthByName prims credentials mech met).requests)
    (hplain : request.mechanism = .plain) : mech = .plain := by
  have hscram {hash : Sasl.Hash} {username password : String}
      (hmem : request ∈ (Sasl.saslAuthScram prims hash username password met).requests) : False := by
    rw [(Sasl.saslAuthScram_names hmem).1] at hplain
    cases hplain
  have honce {mech : AuthMechanism} {payload : Buffer}
      (hmem : request ∈ (Sasl.authOnce mech payload met).requests) : mech = .plain :=
    (Sasl.authOnce_names hmem).1.symm.trans hplain
  cases credentials with
  | userPass username password =>
      cases mech with
      | plain => rfl
      | scramSha1 => exact (hscram h).elim
      | scramSha256 => exact (hscram h).elim
      | scramSha512 => exact (hscram h).elim
      | oAuthBearer => cases h
  | jwtToken token =>
      cases mech with
      | plain => rfl
      | scramSha1 => cases h
      | scramSha256 => cases h
      | scramSha512 => cases h
      | oAuthBearer => exact honce h

theorem plain_not_enabled {opts : KvClientOptions} (htls : opts.tls = false)
    (hmechs : AuthMechanism.plain ∉ opts.bootstrapOptions.authMechanisms) :
    AuthMechanism.plain ∉ opts.enabledMechs := by
  unfold KvClientOptions.enabledMechs
  split
  · exact hmechs
  · split
    · rw [htls]
      decide
    · decide
    · exact List.not_mem_nil

/-- What a client that is told not to name PLAIN asks for in an authentication. -/
theorem plain_not_requested {opts : KvClientOptions} {options : SASLAuthAutoOptions}
    (hauth : opts.bootstrapAuth = some options) (htls : opts.tls = false)
    (hmechs : AuthMechanism.plain ∉ opts.bootstrapOptions.authMechanisms) (replies : AuthReplies)
    {tried : Sasl.Attempt}
    (htried : tried ∈ (saslAuthAuto prims options.enabledMechs options.credentials replies.mechs
      replies.exchange replies.fallback).attempts)
    {request : Sasl.SaslRequest} (hrequest : request ∈ tried.requests) :
    request.mechanism ≠ .plain := by
  intro hplain
  rcases Option.map_eq_some_iff.mp hauth with ⟨credentials, _, rfl⟩
  rcases mem_attempts htried with ⟨mech, met, hmech, rfl⟩
  rw [plain_of_requests hrequest hplain] at hmech
  exact plain_not_enabled htls hmechs hmech

/-- Only the options that the client has are used to authenticate. -/
theorem bootstrapAuth_of_asked {opts : KvClientOptions} {s : Standing}
    {options : SASLAuthAutoOptions} (h : Standing.allows opts s (.saslAuthAuto options)) :
    opts.bootstrapAuth = some options := by
  rcases h with ⟨stage, accepted, _, _, hauth⟩
  exact hauth

/-- Without TLS the password is not sent as it is, whatever the server says it supports, unless the
options have named PLAIN. -/
theorem password_not_exposed {opts : KvClientOptions} {trace : List (Asked Ask Answer)}
    {result : Option (Except Memdx.ErrorKind StdKvClient)} (h : (new prims opts).Runs trace result)
    (htls : opts.tls = false)
    (hmechs : AuthMechanism.plain ∉ opts.bootstrapOptions.authMechanisms) :
    forall asked, asked ∈ trace -> forall options, asked.question = .saslAuthAuto options ->
      forall replies : AuthReplies, forall tried,
        tried ∈ (saslAuthAuto prims options.enabledMechs options.credentials replies.mechs
          replies.exchange replies.fallback).attempts ->
        forall request, request ∈ tried.requests -> request.mechanism ≠ .plain := by
  intro asked hasked options hquestion replies tried htried request hrequest
  rcases (keeps_new.accepts h).1.allowed _ asked hasked with ⟨s, hallows⟩
  rw [hquestion] at hallows
  exact plain_not_requested (bootstrapAuth_of_asked hallows) htls hmechs replies htried hrequest

/-- The same client without TLS. -/
def clearOptions : KvClientOptions :=
  { travelOptions with tls := false }

def scramAuth : SASLAuthAutoOptions :=
  { credentials := .userPass "alice" "secret"
    enabledMechs := [.scramSha512, .scramSha256, .scramSha1] }

def clearTrace : List (Asked Ask Answer) :=
  unauthenticated ++ [{ question := .saslAuthAuto scramAuth, reply := none }]

theorem runs_clear :
    (new (fun _ => Scram.smallPrimitives) clearOptions).Runs clearTrace none := by
  refine Calls.Runs.answered _ ?_
  refine Calls.Runs.answered _ ?_
  refine Calls.Runs.answered _ ?_
  exact .asked _ _

/-- The server has PLAIN only. -/
def clearReplies : AuthReplies :=
  { mechs := .packet .success (some (Scram.asBytes "PLAIN")) 3
    exchange := Sasl.unanswered
    fallback := Sasl.failing }

def clearAttempt : Sasl.Attempt :=
  Sasl.saslAuthByName (fun _ => Scram.smallPrimitives) (.userPass "alice" "secret") .scramSha512
    Sasl.unanswered

def clearRequest : Sasl.SaslRequest :=
  { opCode := .saslAuth
    mechanism := .scramSha512
    payload := Scram.asBytes "n,,n=alice,r=a"
    hash := some .sha512 }

theorem clearRequest_mem : clearRequest ∈ clearAttempt.requests := by
  have hrequests : clearAttempt.requests = [clearRequest] := rfl
  rw [hrequests]
  exact List.mem_cons_self

theorem clearAttempt_mem :
    clearAttempt ∈ (Sasl.saslAuthAuto (fun _ => Scram.smallPrimitives)
      [.scramSha512, .scramSha256, .scramSha1] (.userPass "alice" "secret") clearReplies.mechs
      clearReplies.exchange clearReplies.fallback).attempts := by
  have hmechs : Sasl.saslListMechsResponse clearReplies.mechs = .ok [.plain] := rfl
  exact Sasl.first_mem_attempts hmechs

theorem password_not_exposed_clear : clearRequest.mechanism ≠ .plain :=
  password_not_exposed runs_clear rfl (by decide) _ (List.mem_append_right _ List.mem_cons_self)
    scramAuth rfl clearReplies clearAttempt clearAttempt_mem clearRequest clearRequest_mem

end Password

end KvClient
end CouchbaseSdk
