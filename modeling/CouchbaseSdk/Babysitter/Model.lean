import CouchbaseSdk.Foundation.Transition
import Mathlib.Logic.Function.Basic

/-!
# The client babysitter

A babysitter keeps one connection to an endpoint alive.  A builder makes attempts until
one of them yields a client, and installs it; a listener that is started with the builder
waits for the first sign that a client of this builder was closed, and clears it.  Callers
take the client from a copy outside the lock, or start a builder and wait.

All attempts of one builder share its client id and its `on_close` channel.  A step is
what one task does between two points where another task can run.
-/

namespace CouchbaseSdk
namespace Babysitter

open Foundation

/-!
# State
-/

/-- A run of `begin_client_build`, by its place in the order of their starts.  It stands
for the client id as well, which is made once for all attempts. -/
abbrev BuilderId := Nat

/-- A `StdKvClient`, by its place in the order in which they were connected. -/
abbrev ClientId := Nat

/-- A call of `get_client`, by its place in the order of their starts. -/
abbrev CallId := Nat

/-- Where a builder stands. -/
inductive BuilderPhase where
  | unborn
  /-- `maybe_throttle_on_error` -/
  | throttling
  /-- `K::new`, with no connection yet -/
  | connecting
  /-- `K::new`, with the connection made and the bootstrap under way -/
  | bootstrapping (c : ClientId)
  /-- `K::new` has failed; the copy is about to be cleared -/
  | failed
  /-- The copy is cleared; the failure is about to be recorded. -/
  | recording
  /-- The shutdown was picked; the copy is about to be cleared. -/
  | stopped
  /-- `K::new` has returned the client. -/
  | built (c : ClientId)
  /-- The slow state has the client. -/
  | installed (c : ClientId)
  /-- The copy has the client. -/
  | stored (c : ClientId)
  /-- The waiting callers have the client. -/
  | announced (c : ClientId)
  | returned
deriving DecidableEq

/-- Where the listener of a builder stands. -/
inductive Listener where
  | unborn
  | listening
  /-- It has heard that a client was closed; the lock comes next. -/
  | notified
  /-- It has cleared the client; the owner is about to be told. -/
  | cleared
  /-- The owner was told; a new client is about to be begun. -/
  | told
  | returned
deriving DecidableEq

/-- The task of a client that waits for the end of its read loop. -/
inductive CloseTask where
  | waiting
  /-- It has set `closed`; `on_close` is about to be sent. -/
  | claimed
  | finished
deriving DecidableEq

inductive CallPhase where
  | unborn
  /-- The copy was empty. -/
  | checking
  /-- The slow state was empty, too. -/
  | subscribing
  | beginning (seen : Nat)
  | waiting (seen : Nat)
  /-- The call returned a client, or an error. -/
  | returned (result : Option ClientId)
deriving DecidableEq

structure Call where
  /-- The call started after `close` had returned. -/
  late : Bool
  phase : CallPhase

/-- Where `close` stands. -/
inductive Closer where
  | unborn
  | cancelled
  /-- The client was taken out of the slow state. -/
  | taken (client : Option ClientId)
  | notifying
  | returned
deriving DecidableEq

structure State where
  onDemandConnect : Bool
  /-- `slow_state.client` -/
  client : Option ClientId
  fastClient : Option ClientId
  isBuilding : Bool
  /-- An attempt has failed. -/
  connectErr : Bool
  shutdown : Bool
  /-- The value of `on_client_connected_tx`. -/
  connected : Option ClientId
  /-- How often a value was sent on it. -/
  sends : Nat
  /-- The values that were sent to `state_change_handler`. -/
  sent : List (Option ClientId)
  phase : BuilderId -> BuilderPhase
  listener : BuilderId -> Listener
  /-- There is a message in the builder's `on_close` channel. -/
  message : BuilderId -> Bool
  builders : Nat
  /-- The builder whose attempt made the connection. -/
  owner : ClientId -> BuilderId
  closed : ClientId -> Bool
  /-- The connection has ended. -/
  ended : ClientId -> Bool
  dropped : ClientId -> Bool
  closeTask : ClientId -> CloseTask
  connections : Nat
  calls : CallId -> Call
  started : Nat
  closer : Closer

def State.setPhase (s : State) (b : BuilderId) (phase : BuilderPhase) : State :=
  { s with phase := Function.update s.phase b phase }

def State.setListener (s : State) (b : BuilderId) (listener : Listener) : State :=
  { s with listener := Function.update s.listener b listener }

def State.setCall (s : State) (k : CallId) (phase : CallPhase) : State :=
  { s with calls := Function.update s.calls k { s.calls k with phase := phase } }

/-- `state_change_handler.send` -/
def State.tell (s : State) (client : Option ClientId) : State :=
  { s with sent := s.sent ++ [client] }

/-!
# Beginning a client
-/

/-- The listener and the builder are spawned. -/
def State.beginClientBuild (s : State) : State :=
  { s with
    isBuilding := true
    phase := Function.update s.phase s.builders .throttling
    listener := Function.update s.listener s.builders .listening
    message := Function.update s.message s.builders false
    builders := s.builders + 1 }

def State.maybeBeginClient (s : State) : State :=
  if s.isBuilding then s else s.beginClientBuild

def empty (onDemandConnect : Bool) : State :=
  { onDemandConnect := onDemandConnect
    client := none
    fastClient := none
    isBuilding := false
    connectErr := false
    shutdown := false
    connected := none
    sends := 0
    sent := []
    phase := fun _ => .unborn
    listener := fun _ => .unborn
    message := fun _ => false
    builders := 0
    owner := fun _ => 0
    closed := fun _ => false
    ended := fun _ => false
    dropped := fun _ => false
    closeTask := fun _ => .waiting
    connections := 0
    calls := fun _ => { late := false, phase := .unborn }
    started := 0
    closer := .unborn }

/-- `StdKvClientBabysitter::new` -/
def initial (onDemandConnect : Bool) : State :=
  if onDemandConnect then empty onDemandConnect
  else (empty onDemandConnect).maybeBeginClient

/-!
# Callers
-/

def getClient (s : State) : State :=
  let phase := match s.fastClient with
    | some c => .returned (some c)
    | none => .checking
  { s with
    calls := Function.update s.calls s.started
      { late := s.closer = .returned, phase := phase }
    started := s.started + 1 }

def checkSlow (s : State) (k : CallId) : Option State :=
  match (s.calls k).phase with
  | .checking =>
      match s.client with
      | some c => some (s.setCall k (.returned (some c)))
      | none => some (s.setCall k .subscribing)
  | _ => none

def subscribe (s : State) (k : CallId) : Option State :=
  match (s.calls k).phase with
  | .subscribing => some (s.setCall k (.beginning s.sends))
  | _ => none

def begin (s : State) (k : CallId) : Option State :=
  match (s.calls k).phase with
  | .beginning seen => some (s.maybeBeginClient.setCall k (.waiting seen))
  | _ => none

def CallPhase.subscribed : CallPhase -> Bool
  | .beginning _ | .waiting _ => true
  | _ => false

def State.hasReceiver (s : State) : Bool :=
  (List.range s.started).any (fun k => (s.calls k).phase.subscribed)

/-- `changed` and `borrow_and_update` -/
def receive (s : State) (k : CallId) : Option State :=
  match (s.calls k).phase with
  | .waiting seen =>
      if seen < s.sends then
        match s.connected with
        | some c => some (s.setCall k (.returned (some c)))
        | none => some (s.setCall k (.waiting s.sends))
      else none
  | _ => none

def giveUp (s : State) (k : CallId) : Option State :=
  match (s.calls k).phase with
  | .waiting _ => if s.shutdown then some (s.setCall k (.returned none)) else none
  | _ => none

/-!
# Clients
-/

def State.shut (s : State) (c : ClientId) : State :=
  { s with
    closed := Function.update s.closed c true
    ended := Function.update s.ended c true }

/-- `StdKvClient::close`, which the close task then finds done. -/
def State.closeClient (s : State) (c : ClientId) : State :=
  if s.closed c then s else s.shut c

def State.dropClient (s : State) (c : ClientId) : State :=
  { s.shut c with dropped := Function.update s.dropped c true }

def BuilderPhase.client : BuilderPhase -> Option ClientId
  | .bootstrapping c | .built c | .installed c | .stored c | .announced c => some c
  | _ => none

/-- The builder has not handed the client out yet. -/
def BuilderPhase.keeps (c : ClientId) : BuilderPhase -> Bool
  | .bootstrapping d | .built d => c == d
  | _ => false

/-- The read loop of a client ends. -/
def endConnection (s : State) (c : ClientId) : Option State :=
  if c < s.connections then some { s with ended := Function.update s.ended c true }
  else none

/-- The close task wakes, and sets `closed` unless it is set. -/
def claimClose (s : State) (c : ClientId) : Option State :=
  match s.closeTask c with
  | .waiting =>
      if s.ended c && c < s.connections then
        if s.closed c then
          some { s with closeTask := Function.update s.closeTask c .finished }
        else
          some { s with
            closed := Function.update s.closed c true
            closeTask := Function.update s.closeTask c .claimed }
      else none
  | _ => none

/-- A send fails once the listener has stopped listening. -/
def sendOnClose (s : State) (c : ClientId) : Option State :=
  match s.closeTask c with
  | .claimed =>
      let s' := { s with closeTask := Function.update s.closeTask c .finished }
      if s.listener (s.owner c) = .listening then
        some { s' with message := Function.update s.message (s.owner c) true }
      else some s'
  | _ => none

/-- A holder of the client closes it: after a dispatch error, after `AuthStale` or after
a failed re-authentication. -/
def closeByHolder (s : State) (c : ClientId) : Option State :=
  if c < s.connections && !s.dropped c && !(s.phase (s.owner c)).keeps c then
    some (s.closeClient c)
  else none

/-- The last holder of the client lets go of it. -/
def release (s : State) (c : ClientId) : Option State :=
  if c < s.connections && !s.dropped c && s.client ≠ some c && s.fastClient ≠ some c &&
      s.connected ≠ some c && (s.phase (s.owner c)).client ≠ some c then
    some (s.dropClient c)
  else none

/-!
# The builder
-/

def throttle (s : State) (b : BuilderId) : Option State :=
  match s.phase b with
  | .throttling => some (s.setPhase b .connecting)
  | _ => none

def throttleStop (s : State) (b : BuilderId) : Option State :=
  match s.phase b with
  | .throttling =>
      if s.shutdown && s.connectErr then some (s.setPhase b .returned) else none
  | _ => none

def State.openConnection (s : State) (b : BuilderId) : State :=
  { s with
    owner := Function.update s.owner s.connections b
    phase := Function.update s.phase b (.bootstrapping s.connections)
    connections := s.connections + 1 }

def connect (s : State) (b : BuilderId) : Option State :=
  match s.phase b with
  | .connecting => some (s.openConnection b)
  | _ => none

def connectFail (s : State) (b : BuilderId) : Option State :=
  match s.phase b with
  | .connecting => some (s.setPhase b .failed)
  | _ => none

/-- `K::new` is ready, and the `select` picks it. -/
def bootstrapOk (s : State) (b : BuilderId) : Option State :=
  match s.phase b with
  | .bootstrapping c => some (s.setPhase b (.built c))
  | _ => none

/-- The client is closed, and dropped when `K::new` returns the error. -/
def bootstrapFail (s : State) (b : BuilderId) : Option State :=
  match s.phase b with
  | .bootstrapping c => some ((s.dropClient c).setPhase b .failed)
  | _ => none

/-- The `select` picks the shutdown, and drops what `K::new` has made so far. -/
def stop (s : State) (b : BuilderId) : Option State :=
  if s.shutdown then
    match s.phase b with
    | .connecting => some (s.setPhase b .stopped)
    | .bootstrapping c => some ((s.dropClient c).setPhase b .stopped)
    | _ => none
  else none

def clearFast (s : State) (b : BuilderId) : Option State :=
  match s.phase b with
  | .failed => some ({ s with fastClient := none }.setPhase b .recording)
  | .stopped => some ({ s with fastClient := none }.setPhase b .returned)
  | _ => none

/-- The builder goes on to its next attempt. -/
def record (s : State) (b : BuilderId) : Option State :=
  match s.phase b with
  | .recording =>
      some ({ s with isBuilding := false, connectErr := true }.setPhase b .throttling)
  | _ => none

def install (s : State) (b : BuilderId) : Option State :=
  match s.phase b with
  | .built c => some ({ s with isBuilding := false, client := some c }.setPhase b (.installed c))
  | _ => none

def storeFast (s : State) (b : BuilderId) : Option State :=
  match s.phase b with
  | .installed c => some ({ s with fastClient := some c }.setPhase b (.stored c))
  | _ => none

/-- The value of a `watch` channel is replaced only if there is a receiver. -/
def announce (s : State) (b : BuilderId) : Option State :=
  match s.phase b with
  | .stored c =>
      if s.hasReceiver then
        some ({ s with connected := some c, sends := s.sends + 1 }.setPhase b (.announced c))
      else some (s.setPhase b (.announced c))
  | _ => none

def notify (s : State) (b : BuilderId) : Option State :=
  match s.phase b with
  | .announced c => some ((s.tell (some c)).setPhase b .returned)
  | _ => none

/-!
# The listener
-/

def receiveClose (s : State) (b : BuilderId) : Option State :=
  match s.listener b with
  | .listening =>
      if s.message b then
        some ({ s with message := Function.update s.message b false }.setListener b .notified)
      else none
  | _ => none

/-- Every sender of the channel is gone: the builder's and those of its clients. -/
def hangup (s : State) (b : BuilderId) : Option State :=
  match s.listener b, s.phase b with
  | .listening, .returned =>
      if forall c, c < s.connections -> s.owner c = b ->
          s.dropped c = true ∧ s.closeTask c = .finished then
        some (s.setListener b .notified)
      else none
  | _, _ => none

def stopListening (s : State) (b : BuilderId) : Option State :=
  match s.listener b with
  | .listening => if s.shutdown then some (s.setListener b .returned) else none
  | _ => none

/-- The client in the slow state is one of the builder's. -/
def State.isClientOf (s : State) (b : BuilderId) : Bool :=
  match s.client with
  | some c => s.owner c == b
  | none => false

/-- The critical section of the listener; it resets `is_building` first. -/
def clear (s : State) (b : BuilderId) : Option State :=
  match s.listener b with
  | .notified =>
      let s' := { s with isBuilding := false }
      if s.isClientOf b then
        some ({ s' with client := none, fastClient := none }.setListener b .cleared)
      else some (s'.setListener b .returned)
  | _ => none

def notifyClosed (s : State) (b : BuilderId) : Option State :=
  match s.listener b with
  | .cleared =>
      some ((s.tell none).setListener b (if s.onDemandConnect then .returned else .told))
  | _ => none

def beginAgain (s : State) (b : BuilderId) : Option State :=
  match s.listener b with
  | .told => some (s.maybeBeginClient.setListener b .returned)
  | _ => none

/-!
# Closing the babysitter
-/

def closeCancel (s : State) : Option State :=
  match s.closer with
  | .unborn => some { s with shutdown := true, closer := .cancelled }
  | _ => none

def closeTake (s : State) : Option State :=
  match s.closer with
  | .cancelled =>
      some { s with fastClient := none, client := none, closer := .taken s.client }
  | _ => none

/-- An error of `client.close` is handed on, and the owner is not told. -/
def closeTaken (s : State) (ok : Bool) : Option State :=
  match s.closer with
  | .taken (some c) =>
      some { s.closeClient c with closer := if ok then .notifying else .returned }
  | .taken none => some { s with closer := .notifying }
  | _ => none

def closeNotify (s : State) : Option State :=
  match s.closer with
  | .notifying => some { s.tell none with closer := .returned }
  | _ => none

/-!
# Steps
-/

inductive Action where
  | getClient
  | checkSlow (k : CallId)
  | subscribe (k : CallId)
  | begin (k : CallId)
  | receive (k : CallId)
  | giveUp (k : CallId)
  | endConnection (c : ClientId)
  | claimClose (c : ClientId)
  | sendOnClose (c : ClientId)
  | closeByHolder (c : ClientId)
  | release (c : ClientId)
  | throttle (b : BuilderId)
  | throttleStop (b : BuilderId)
  | connect (b : BuilderId)
  | connectFail (b : BuilderId)
  | bootstrapOk (b : BuilderId)
  | bootstrapFail (b : BuilderId)
  | stop (b : BuilderId)
  | clearFast (b : BuilderId)
  | record (b : BuilderId)
  | install (b : BuilderId)
  | storeFast (b : BuilderId)
  | announce (b : BuilderId)
  | notify (b : BuilderId)
  | receiveClose (b : BuilderId)
  | hangup (b : BuilderId)
  | stopListening (b : BuilderId)
  | clear (b : BuilderId)
  | notifyClosed (b : BuilderId)
  | beginAgain (b : BuilderId)
  | closeCancel
  | closeTake
  | closeTaken (ok : Bool)
  | closeNotify

def step : StepFn State Action
  | s, .getClient => some (getClient s)
  | s, .checkSlow k => checkSlow s k
  | s, .subscribe k => subscribe s k
  | s, .begin k => begin s k
  | s, .receive k => receive s k
  | s, .giveUp k => giveUp s k
  | s, .endConnection c => endConnection s c
  | s, .claimClose c => claimClose s c
  | s, .sendOnClose c => sendOnClose s c
  | s, .closeByHolder c => closeByHolder s c
  | s, .release c => release s c
  | s, .throttle b => throttle s b
  | s, .throttleStop b => throttleStop s b
  | s, .connect b => connect s b
  | s, .connectFail b => connectFail s b
  | s, .bootstrapOk b => bootstrapOk s b
  | s, .bootstrapFail b => bootstrapFail s b
  | s, .stop b => stop s b
  | s, .clearFast b => clearFast s b
  | s, .record b => record s b
  | s, .install b => install s b
  | s, .storeFast b => storeFast s b
  | s, .announce b => announce s b
  | s, .notify b => notify s b
  | s, .receiveClose b => receiveClose s b
  | s, .hangup b => hangup s b
  | s, .stopListening b => stopListening s b
  | s, .clear b => clear s b
  | s, .notifyClosed b => notifyClosed s b
  | s, .beginAgain b => beginAgain s b
  | s, .closeCancel => closeCancel s
  | s, .closeTake => closeTake s
  | s, .closeTaken ok => closeTaken s ok
  | s, .closeNotify => closeNotify s

/-!
# What a step of the babysitter can do

The step function is inverted once.  The fields of the state are updated one by one, so
that most of what a step leaves alone is left alone by definition.
-/

/-!
# The steps
-/

inductive Step (s : State) : Action -> State -> Prop where
  | getClient : Step s .getClient (getClient s)
  | slowHit (k : CallId) (c : ClientId) :
      (s.calls k).phase = .checking -> s.client = some c ->
        Step s (.checkSlow k) (s.setCall k (.returned (some c)))
  | slowMiss (k : CallId) :
      (s.calls k).phase = .checking -> s.client = none ->
        Step s (.checkSlow k) (s.setCall k .subscribing)
  | subscribe (k : CallId) :
      (s.calls k).phase = .subscribing ->
        Step s (.subscribe k) (s.setCall k (.beginning s.sends))
  | begin (k : CallId) (seen : Nat) :
      (s.calls k).phase = .beginning seen -> s.isBuilding = false ->
        Step s (.begin k) (s.beginClientBuild.setCall k (.waiting seen))
  | alreadyBuilding (k : CallId) (seen : Nat) :
      (s.calls k).phase = .beginning seen -> s.isBuilding = true ->
        Step s (.begin k) (s.setCall k (.waiting seen))
  | receive (k : CallId) (seen : Nat) (c : ClientId) :
      (s.calls k).phase = .waiting seen -> seen < s.sends -> s.connected = some c ->
        Step s (.receive k) (s.setCall k (.returned (some c)))
  | receiveNone (k : CallId) (seen : Nat) :
      (s.calls k).phase = .waiting seen -> seen < s.sends -> s.connected = none ->
        Step s (.receive k) (s.setCall k (.waiting s.sends))
  | giveUp (k : CallId) (seen : Nat) :
      (s.calls k).phase = .waiting seen -> s.shutdown = true ->
        Step s (.giveUp k) (s.setCall k (.returned none))
  | endConnection (c : ClientId) : c < s.connections ->
      Step s (.endConnection c) { s with ended := Function.update s.ended c true }
  | claimClosed (c : ClientId) : s.closeTask c = .waiting -> s.ended c = true ->
      c < s.connections -> s.closed c = true ->
        Step s (.claimClose c)
          { s with closeTask := Function.update s.closeTask c .finished }
  | claimClose (c : ClientId) : s.closeTask c = .waiting -> s.ended c = true ->
      c < s.connections -> s.closed c = false ->
        Step s (.claimClose c)
          { s with
            closed := Function.update s.closed c true
            closeTask := Function.update s.closeTask c .claimed }
  | sendOnClose (c : ClientId) : s.closeTask c = .claimed ->
      s.listener (s.owner c) = .listening ->
        Step s (.sendOnClose c)
          { s with
            closeTask := Function.update s.closeTask c .finished
            message := Function.update s.message (s.owner c) true }
  | sendFailed (c : ClientId) : s.closeTask c = .claimed ->
      s.listener (s.owner c) ≠ .listening ->
        Step s (.sendOnClose c)
          { s with closeTask := Function.update s.closeTask c .finished }
  | closeByHolder (c : ClientId) : c < s.connections -> s.dropped c = false ->
      (s.phase (s.owner c)).keeps c = false -> s.closed c = false ->
        Step s (.closeByHolder c) (s.shut c)
  | closedBefore (c : ClientId) : s.closed c = true -> Step s (.closeByHolder c) s
  | release (c : ClientId) : c < s.connections -> s.dropped c = false ->
      s.client ≠ some c -> s.fastClient ≠ some c -> s.connected ≠ some c ->
        (s.phase (s.owner c)).client ≠ some c ->
          Step s (.release c) (s.dropClient c)
  | throttle (b : BuilderId) : s.phase b = .throttling ->
      Step s (.throttle b) (s.setPhase b .connecting)
  | throttleStop (b : BuilderId) : s.phase b = .throttling -> s.shutdown = true ->
      s.connectErr = true -> Step s (.throttleStop b) (s.setPhase b .returned)
  | connect (b : BuilderId) : s.phase b = .connecting ->
      Step s (.connect b) (s.openConnection b)
  | connectFail (b : BuilderId) : s.phase b = .connecting ->
      Step s (.connectFail b) (s.setPhase b .failed)
  | bootstrapOk (b : BuilderId) (c : ClientId) : s.phase b = .bootstrapping c ->
      Step s (.bootstrapOk b) (s.setPhase b (.built c))
  | bootstrapFail (b : BuilderId) (c : ClientId) : s.phase b = .bootstrapping c ->
      Step s (.bootstrapFail b) ((s.dropClient c).setPhase b .failed)
  | stopConnecting (b : BuilderId) : s.shutdown = true -> s.phase b = .connecting ->
      Step s (.stop b) (s.setPhase b .stopped)
  | stopBootstrapping (b : BuilderId) (c : ClientId) : s.shutdown = true ->
      s.phase b = .bootstrapping c ->
        Step s (.stop b) ((s.dropClient c).setPhase b .stopped)
  | clearFast (b : BuilderId) : s.phase b = .failed ->
      Step s (.clearFast b) ({ s with fastClient := none }.setPhase b .recording)
  | clearFastStopped (b : BuilderId) : s.phase b = .stopped ->
      Step s (.clearFast b) ({ s with fastClient := none }.setPhase b .returned)
  | record (b : BuilderId) : s.phase b = .recording ->
      Step s (.record b)
        ({ s with isBuilding := false, connectErr := true }.setPhase b .throttling)
  | install (b : BuilderId) (c : ClientId) : s.phase b = .built c ->
      Step s (.install b)
        ({ s with isBuilding := false, client := some c }.setPhase b (.installed c))
  | storeFast (b : BuilderId) (c : ClientId) : s.phase b = .installed c ->
      Step s (.storeFast b) ({ s with fastClient := some c }.setPhase b (.stored c))
  | announce (b : BuilderId) (c : ClientId) : s.phase b = .stored c ->
      s.hasReceiver = true ->
        Step s (.announce b)
          ({ s with connected := some c, sends := s.sends + 1 }.setPhase b (.announced c))
  | announceUnheard (b : BuilderId) (c : ClientId) : s.phase b = .stored c ->
      s.hasReceiver = false -> Step s (.announce b) (s.setPhase b (.announced c))
  | notify (b : BuilderId) (c : ClientId) : s.phase b = .announced c ->
      Step s (.notify b) ((s.tell (some c)).setPhase b .returned)
  | receiveClose (b : BuilderId) : s.listener b = .listening -> s.message b = true ->
      Step s (.receiveClose b)
        ({ s with message := Function.update s.message b false }.setListener b .notified)
  | hangup (b : BuilderId) : s.listener b = .listening -> s.phase b = .returned ->
      (forall c, c < s.connections -> s.owner c = b ->
        s.dropped c = true ∧ s.closeTask c = .finished) ->
        Step s (.hangup b) (s.setListener b .notified)
  | stopListening (b : BuilderId) : s.listener b = .listening -> s.shutdown = true ->
      Step s (.stopListening b) (s.setListener b .returned)
  | clear (b : BuilderId) (c : ClientId) : s.listener b = .notified -> s.client = some c ->
      s.owner c = b ->
        Step s (.clear b)
          ({ s with isBuilding := false, client := none, fastClient := none }.setListener b
            .cleared)
  | clearOther (b : BuilderId) : s.listener b = .notified ->
      (forall c, s.client = some c -> s.owner c ≠ b) ->
        Step s (.clear b) ({ s with isBuilding := false }.setListener b .returned)
  | notifyClosed (b : BuilderId) (listener : Listener) : s.listener b = .cleared ->
      listener = .returned ∨ listener = .told ->
        Step s (.notifyClosed b) ((s.tell none).setListener b listener)
  | beginAgain (b : BuilderId) : s.listener b = .told -> s.isBuilding = false ->
      Step s (.beginAgain b) (s.beginClientBuild.setListener b .returned)
  | begunAlready (b : BuilderId) : s.listener b = .told -> s.isBuilding = true ->
      Step s (.beginAgain b) (s.setListener b .returned)
  | closeCancel : s.closer = .unborn ->
      Step s .closeCancel { s with shutdown := true, closer := .cancelled }
  | closeTake : s.closer = .cancelled ->
      Step s .closeTake
        { s with fastClient := none, client := none, closer := .taken s.client }
  | closeTaken (c : ClientId) (ok : Bool) (closer : Closer) : s.closer = .taken (some c) ->
      closer = .notifying ∨ closer = .returned -> s.closed c = false ->
        Step s (.closeTaken ok) { s.shut c with closer := closer }
  | closedTaken (c : ClientId) (ok : Bool) (closer : Closer) : s.closer = .taken (some c) ->
      closer = .notifying ∨ closer = .returned -> s.closed c = true ->
        Step s (.closeTaken ok) { s with closer := closer }
  | closeNone (ok : Bool) : s.closer = .taken none ->
      Step s (.closeTaken ok) { s with closer := .notifying }
  | closeNotify : s.closer = .notifying ->
      Step s .closeNotify { s.tell none with closer := .returned }

/-!
# Inversion
-/

section
variable {s s' : State} {k : CallId} {c : ClientId} {b : BuilderId}

theorem checkSlow_inv (h : checkSlow s k = some s') : Step s (.checkSlow k) s' := by
  unfold checkSlow at h
  split at h
  · rename_i hphase
    split at h
    · rename_i c hclient
      cases h
      exact Step.slowHit k c hphase hclient
    · rename_i hclient
      cases h
      exact Step.slowMiss k hphase hclient
  · cases h

theorem subscribe_inv (h : subscribe s k = some s') : Step s (.subscribe k) s' := by
  unfold subscribe at h
  split at h
  · rename_i hphase
    cases h
    exact Step.subscribe k hphase
  · cases h

theorem maybeBeginClient_of_true (h : s.isBuilding = true) : s.maybeBeginClient = s :=
  if_pos h

theorem maybeBeginClient_of_false (h : s.isBuilding = false) :
    s.maybeBeginClient = s.beginClientBuild :=
  if_neg (by rw [h]; exact Bool.false_ne_true)

theorem closeClient_of_true (h : s.closed c = true) : s.closeClient c = s :=
  if_pos h

theorem closeClient_of_false (h : s.closed c = false) : s.closeClient c = s.shut c :=
  if_neg (by rw [h]; exact Bool.false_ne_true)

theorem begin_inv (h : begin s k = some s') : Step s (.begin k) s' := by
  unfold begin at h
  split at h
  · rename_i seen hphase
    cases h
    cases hbuilding : s.isBuilding with
    | true =>
        rw [maybeBeginClient_of_true hbuilding]
        exact Step.alreadyBuilding k seen hphase hbuilding
    | false =>
        rw [maybeBeginClient_of_false hbuilding]
        exact Step.begin k seen hphase hbuilding
  · cases h

theorem receive_inv (h : receive s k = some s') : Step s (.receive k) s' := by
  unfold receive at h
  split at h
  · rename_i seen hphase
    split at h
    · rename_i hlt
      split at h
      · rename_i c hconnected
        cases h
        exact Step.receive k seen c hphase hlt hconnected
      · rename_i hconnected
        cases h
        exact Step.receiveNone k seen hphase hlt hconnected
    · cases h
  · cases h

theorem giveUp_inv (h : giveUp s k = some s') : Step s (.giveUp k) s' := by
  unfold giveUp at h
  split at h
  · rename_i seen hphase
    split at h
    · rename_i hshutdown
      cases h
      exact Step.giveUp k seen hphase hshutdown
    · cases h
  · cases h

theorem endConnection_inv (h : endConnection s c = some s') :
    Step s (.endConnection c) s' := by
  unfold endConnection at h
  split at h
  · rename_i hlt
    cases h
    exact Step.endConnection c hlt
  · cases h

theorem claimClose_inv (h : claimClose s c = some s') : Step s (.claimClose c) s' := by
  unfold claimClose at h
  split at h
  · rename_i hwaiting
    split at h
    · rename_i hcond
      rw [Bool.and_eq_true, decide_eq_true_eq] at hcond
      split at h
      · rename_i hclosed
        cases h
        exact Step.claimClosed c hwaiting hcond.1 hcond.2 hclosed
      · rename_i hclosed
        cases h
        exact Step.claimClose c hwaiting hcond.1 hcond.2 (Bool.eq_false_iff.mpr hclosed)
    · cases h
  · cases h

theorem sendOnClose_inv (h : sendOnClose s c = some s') : Step s (.sendOnClose c) s' := by
  unfold sendOnClose at h
  split at h
  · rename_i hclaimed
    split at h
    · rename_i hlistening
      cases h
      exact Step.sendOnClose c hclaimed hlistening
    · rename_i hlistening
      cases h
      exact Step.sendFailed c hclaimed hlistening
  · cases h

theorem closeByHolder_inv (h : closeByHolder s c = some s') :
    Step s (.closeByHolder c) s' := by
  unfold closeByHolder at h
  split at h
  · rename_i hcond
    simp only [Bool.and_eq_true, decide_eq_true_eq, Bool.not_eq_true'] at hcond
    cases h
    cases hclosed : s.closed c with
    | true =>
        rw [closeClient_of_true hclosed]
        exact Step.closedBefore c hclosed
    | false =>
        rw [closeClient_of_false hclosed]
        exact Step.closeByHolder c hcond.1.1 hcond.1.2 hcond.2 hclosed
  · cases h

theorem release_inv (h : release s c = some s') : Step s (.release c) s' := by
  unfold release at h
  split at h
  · rename_i hcond
    simp only [Bool.and_eq_true, decide_eq_true_eq, Bool.not_eq_true'] at hcond
    rcases hcond with ⟨⟨⟨⟨⟨hlt, hdropped⟩, hclient⟩, hfast⟩, hconnected⟩, hphase⟩
    cases h
    exact Step.release c hlt hdropped hclient hfast hconnected hphase
  · cases h

theorem throttle_inv (h : throttle s b = some s') : Step s (.throttle b) s' := by
  unfold throttle at h
  split at h
  · rename_i hphase
    cases h
    exact Step.throttle b hphase
  · cases h

theorem throttleStop_inv (h : throttleStop s b = some s') : Step s (.throttleStop b) s' := by
  unfold throttleStop at h
  split at h
  · rename_i hphase
    split at h
    · rename_i hcond
      rw [Bool.and_eq_true] at hcond
      cases h
      exact Step.throttleStop b hphase hcond.1 hcond.2
    · cases h
  · cases h

theorem connect_inv (h : connect s b = some s') : Step s (.connect b) s' := by
  unfold connect at h
  split at h
  · rename_i hphase
    cases h
    exact Step.connect b hphase
  · cases h

theorem connectFail_inv (h : connectFail s b = some s') : Step s (.connectFail b) s' := by
  unfold connectFail at h
  split at h
  · rename_i hphase
    cases h
    exact Step.connectFail b hphase
  · cases h

theorem bootstrapOk_inv (h : bootstrapOk s b = some s') : Step s (.bootstrapOk b) s' := by
  unfold bootstrapOk at h
  split at h
  · rename_i c hphase
    cases h
    exact Step.bootstrapOk b c hphase
  · cases h

theorem bootstrapFail_inv (h : bootstrapFail s b = some s') :
    Step s (.bootstrapFail b) s' := by
  unfold bootstrapFail at h
  split at h
  · rename_i c hphase
    cases h
    exact Step.bootstrapFail b c hphase
  · cases h

theorem stop_inv (h : stop s b = some s') : Step s (.stop b) s' := by
  unfold stop at h
  split at h
  · rename_i hshutdown
    split at h
    · rename_i hphase
      cases h
      exact Step.stopConnecting b hshutdown hphase
    · rename_i c hphase
      cases h
      exact Step.stopBootstrapping b c hshutdown hphase
    · cases h
  · cases h

theorem clearFast_inv (h : clearFast s b = some s') : Step s (.clearFast b) s' := by
  unfold clearFast at h
  split at h
  · rename_i hphase
    cases h
    exact Step.clearFast b hphase
  · rename_i hphase
    cases h
    exact Step.clearFastStopped b hphase
  · cases h

theorem record_inv (h : record s b = some s') : Step s (.record b) s' := by
  unfold record at h
  split at h
  · rename_i hphase
    cases h
    exact Step.record b hphase
  · cases h

theorem install_inv (h : install s b = some s') : Step s (.install b) s' := by
  unfold install at h
  split at h
  · rename_i c hphase
    cases h
    exact Step.install b c hphase
  · cases h

theorem storeFast_inv (h : storeFast s b = some s') : Step s (.storeFast b) s' := by
  unfold storeFast at h
  split at h
  · rename_i c hphase
    cases h
    exact Step.storeFast b c hphase
  · cases h

theorem announce_inv (h : announce s b = some s') : Step s (.announce b) s' := by
  unfold announce at h
  split at h
  · rename_i c hphase
    split at h
    · rename_i hreceiver
      cases h
      exact Step.announce b c hphase hreceiver
    · rename_i hreceiver
      cases h
      exact Step.announceUnheard b c hphase (Bool.eq_false_iff.mpr hreceiver)
  · cases h

theorem notify_inv (h : notify s b = some s') : Step s (.notify b) s' := by
  unfold notify at h
  split at h
  · rename_i c hphase
    cases h
    exact Step.notify b c hphase
  · cases h

theorem receiveClose_inv (h : receiveClose s b = some s') : Step s (.receiveClose b) s' := by
  unfold receiveClose at h
  split at h
  · rename_i hlistening
    split at h
    · rename_i hmessage
      cases h
      exact Step.receiveClose b hlistening hmessage
    · cases h
  · cases h

theorem hangup_inv (h : hangup s b = some s') : Step s (.hangup b) s' := by
  unfold hangup at h
  split at h
  · rename_i hlistening hphase
    split at h
    · rename_i hgone
      cases h
      exact Step.hangup b hlistening hphase hgone
    · cases h
  · cases h

theorem stopListening_inv (h : stopListening s b = some s') :
    Step s (.stopListening b) s' := by
  unfold stopListening at h
  split at h
  · rename_i hlistening
    split at h
    · rename_i hshutdown
      cases h
      exact Step.stopListening b hlistening hshutdown
    · cases h
  · cases h

theorem isClientOf_true (h : s.isClientOf b = true) :
    exists c, s.client = some c ∧ s.owner c = b := by
  unfold State.isClientOf at h
  split at h
  · rename_i c hclient
    exact ⟨c, hclient, beq_iff_eq.mp h⟩
  · cases h

theorem isClientOf_false (h : s.isClientOf b ≠ true) (c : ClientId)
    (hclient : s.client = some c) : s.owner c ≠ b := by
  intro howner
  apply h
  unfold State.isClientOf
  rw [hclient]
  exact beq_iff_eq.mpr howner

theorem clear_inv (h : clear s b = some s') : Step s (.clear b) s' := by
  unfold clear at h
  split at h
  · rename_i hnotified
    split at h
    · rename_i hof
      rcases isClientOf_true hof with ⟨c, hclient, howner⟩
      cases h
      exact Step.clear b c hnotified hclient howner
    · rename_i hof
      cases h
      exact Step.clearOther b hnotified (isClientOf_false hof)
  · cases h

theorem notifyClosed_inv (h : notifyClosed s b = some s') : Step s (.notifyClosed b) s' := by
  unfold notifyClosed at h
  split at h
  · rename_i hcleared
    cases h
    refine Step.notifyClosed b _ hcleared ?_
    cases s.onDemandConnect with
    | true => exact Or.inl rfl
    | false => exact Or.inr rfl
  · cases h

theorem beginAgain_inv (h : beginAgain s b = some s') : Step s (.beginAgain b) s' := by
  unfold beginAgain at h
  split at h
  · rename_i htold
    cases h
    cases hbuilding : s.isBuilding with
    | true =>
        rw [maybeBeginClient_of_true hbuilding]
        exact Step.begunAlready b htold hbuilding
    | false =>
        rw [maybeBeginClient_of_false hbuilding]
        exact Step.beginAgain b htold hbuilding
  · cases h

theorem closeCancel_inv (h : closeCancel s = some s') : Step s .closeCancel s' := by
  unfold closeCancel at h
  split at h
  · rename_i hcloser
    cases h
    exact Step.closeCancel hcloser
  · cases h

theorem closeTake_inv (h : closeTake s = some s') : Step s .closeTake s' := by
  unfold closeTake at h
  split at h
  · rename_i hcloser
    cases h
    exact Step.closeTake hcloser
  · cases h

theorem closeTaken_inv {ok : Bool} (h : closeTaken s ok = some s') :
    Step s (.closeTaken ok) s' := by
  unfold closeTaken at h
  split at h
  · rename_i c hcloser
    cases h
    have hnext : (if ok then Closer.notifying else Closer.returned) = .notifying ∨
        (if ok then Closer.notifying else Closer.returned) = .returned := by
      cases ok with
      | true => exact Or.inl rfl
      | false => exact Or.inr rfl
    cases hclosed : s.closed c with
    | true =>
        rw [closeClient_of_true hclosed]
        exact Step.closedTaken c ok _ hcloser hnext hclosed
    | false =>
        rw [closeClient_of_false hclosed]
        exact Step.closeTaken c ok _ hcloser hnext hclosed
  · rename_i hcloser
    cases h
    exact Step.closeNone ok hcloser
  · cases h

theorem closeNotify_inv (h : closeNotify s = some s') : Step s .closeNotify s' := by
  unfold closeNotify at h
  split at h
  · rename_i hcloser
    cases h
    exact Step.closeNotify hcloser
  · cases h

end

variable {s s' : State} {a : Action}

theorem step_inv (h : step s a = some s') : Step s a s' := by
  cases a with
  | getClient =>
      cases h
      exact Step.getClient
  | checkSlow k => exact checkSlow_inv h
  | subscribe k => exact subscribe_inv h
  | begin k => exact begin_inv h
  | receive k => exact receive_inv h
  | giveUp k => exact giveUp_inv h
  | endConnection c => exact endConnection_inv h
  | claimClose c => exact claimClose_inv h
  | sendOnClose c => exact sendOnClose_inv h
  | closeByHolder c => exact closeByHolder_inv h
  | release c => exact release_inv h
  | throttle b => exact throttle_inv h
  | throttleStop b => exact throttleStop_inv h
  | connect b => exact connect_inv h
  | connectFail b => exact connectFail_inv h
  | bootstrapOk b => exact bootstrapOk_inv h
  | bootstrapFail b => exact bootstrapFail_inv h
  | stop b => exact stop_inv h
  | clearFast b => exact clearFast_inv h
  | record b => exact record_inv h
  | install b => exact install_inv h
  | storeFast b => exact storeFast_inv h
  | announce b => exact announce_inv h
  | notify b => exact notify_inv h
  | receiveClose b => exact receiveClose_inv h
  | hangup b => exact hangup_inv h
  | stopListening b => exact stopListening_inv h
  | clear b => exact clear_inv h
  | notifyClosed b => exact notifyClosed_inv h
  | beginAgain b => exact beginAgain_inv h
  | closeCancel => exact closeCancel_inv h
  | closeTake => exact closeTake_inv h
  | closeTaken ok => exact closeTaken_inv h
  | closeNotify => exact closeNotify_inv h

end Babysitter
end CouchbaseSdk
