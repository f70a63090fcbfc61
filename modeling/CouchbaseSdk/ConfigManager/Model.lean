import CouchbaseSdk.ConfigManager.ParsedConfig
import CouchbaseSdk.Foundation.Transition
import Mathlib.Logic.Function.Basic

/-!
# The config manager

Configs reach the manager from its watcher, from callers that have a config in hand,
and from callers that have heard of a version and fetch it out of band.  Each of them
is compared with the latest config under a lock; the version is published, and the
config is handed on, after the lock was released.

A step is what one task does between two points where another task can run.  A fetch
may end in any way, and the watcher may deliver any config, at any time.
-/

namespace CouchbaseSdk
namespace ConfigManager

open Foundation

/-!
# State
-/

/-- A call is named by its place in the order in which the calls started. -/
abbrev CallId := Nat

/-- A config with its place in the order of acceptance.  The place is not in the source
and nothing reads it; it tells apart configs that were accepted at different times. -/
structure Accepted where
  config : ParsedConfig
  number : Nat
deriving DecidableEq

inductive Request where
  /-- `out_of_band_config` -/
  | config
  /-- `out_of_band_version` -/
  | version (revId revEpoch : Int)
deriving DecidableEq

/-- Where a call stands. -/
inductive Phase where
  /-- No such call yet. -/
  | unborn
  /-- `perform_out_of_band_fetch` is at the head of its loop. -/
  | checking
  /-- The version is news; the compare-exchange comes next. -/
  | claiming (known : ConfigVersion)
  /-- The call awaits `out_of_band_notify`. -/
  | waiting
  /-- The call awaits `poll_one`. -/
  | fetching (known : ConfigVersion)
  /-- The call is about to take the lock in `handle_config`. -/
  | handling (config : ParsedConfig)
  /-- The config is the latest one now; its version is not published yet. -/
  | publishing (accepted : Accepted)
  /-- The flag is about to be reset. -/
  | settling (result : Option Accepted)
  | notifying (result : Option Accepted)
  | returned (result : Option Accepted)
deriving DecidableEq

structure Call where
  request : Request
  phase : Phase

/-- Where the task of `start_watcher` stands. -/
inductive Watcher where
  /-- The task awaits the next config. -/
  | receiving
  | publishing (accepted : Accepted)
  | sending (accepted : Accepted)
deriving DecidableEq

structure State where
  latestConfig : Accepted
  /-- The value of `latest_version_tx`. -/
  latestVersion : ConfigVersion
  performingOutOfBandFetch : Bool
  calls : CallId -> Call
  started : Nat
  watcher : Watcher
  /-- The value of `on_new_config_tx`. -/
  onNewConfig : Accepted
  /-- How often a value was sent on it. -/
  sends : Nat

def Call.unborn : Call :=
  { request := .config, phase := .unborn }

def initial (firstConfig : ParsedConfig) : State :=
  { latestConfig := { config := firstConfig, number := 0 }
    latestVersion := firstConfig.version
    performingOutOfBandFetch := false
    calls := fun _ => Call.unborn
    started := 0
    watcher := .receiving
    onNewConfig := { config := firstConfig, number := 0 }
    sends := 0 }

def State.phase (s : State) (c : CallId) : Phase :=
  (s.calls c).phase

def State.request (s : State) (c : CallId) : Request :=
  (s.calls c).request

def State.setPhase (s : State) (c : CallId) (phase : Phase) : State :=
  { s with calls := Function.update s.calls c { s.calls c with phase := phase } }

def State.start (s : State) (request : Request) (phase : Phase) : State :=
  { s with
    calls := Function.update s.calls s.started { request := request, phase := phase }
    started := s.started + 1 }

/-!
# Accepting a config
-/

/-- The critical section of `handle_config`: what it leaves in `latest_config`, if it
replaces it. -/
def State.accepts (s : State) (parsedConfig : ParsedConfig) : Option Accepted :=
  if canUpdateConfig parsedConfig s.latestConfig.config then
    some { config := parsedConfig, number := s.latestConfig.number + 1 }
  else none

def State.accept (s : State) (accepted : Accepted) : State :=
  { s with latestConfig := accepted }

/-- `latest_version_tx.send` -/
def State.sendVersion (s : State) (accepted : Accepted) : State :=
  { s with latestVersion := accepted.config.version }

/-- What a call does when `handle_config` is through. -/
def Request.answer : Request -> Option Accepted -> Phase
  | .config, result => .returned result
  | .version _ _, result => .settling result

def handleConfig (s : State) (c : CallId) : Option State :=
  match s.phase c with
  | .handling config =>
      match s.accepts config with
      | some accepted => some ((s.accept accepted).setPhase c (.publishing accepted))
      | none => some (s.setPhase c ((s.request c).answer none))
  | _ => none

def publish (s : State) (c : CallId) : Option State :=
  match s.phase c with
  | .publishing accepted =>
      some ((s.sendVersion accepted).setPhase c ((s.request c).answer (some accepted)))
  | _ => none

/-!
# The watcher
-/

def deliver (s : State) (config : ParsedConfig) : Option State :=
  match s.watcher with
  | .receiving =>
      match s.accepts config with
      | some accepted => some { s.accept accepted with watcher := .publishing accepted }
      | none => some s
  | _ => none

def publishDelivered (s : State) : Option State :=
  match s.watcher with
  | .publishing accepted =>
      some { s.sendVersion accepted with watcher := .sending accepted }
  | _ => none

def sendReplace (s : State) : Option State :=
  match s.watcher with
  | .sending accepted =>
      some { s with onNewConfig := accepted, sends := s.sends + 1, watcher := .receiving }
  | _ => none

/-!
# Out-of-band fetches
-/

/-- `AtomicBool::compare_exchange`: the old value, in `ok` if it was the expected one,
and the value left behind. -/
def compareExchange (cell current new : Bool) : Except Bool Bool × Bool :=
  if cell = current then (.ok cell, new) else (.error cell, cell)

/-- How `poll_one` ends. -/
inductive Fetched where
  | config (config : ParsedConfig)
  | nothing
  | failed

/-- The version is not newer than the latest config. -/
def State.knows (s : State) (revId revEpoch : Int) : Bool :=
  revEpoch < s.latestConfig.config.revEpoch ||
    (revEpoch == s.latestConfig.config.revEpoch && revId ≤ s.latestConfig.config.revId)

def checkVersion (s : State) (c : CallId) : Option State :=
  match s.phase c, s.request c with
  | .checking, .version revId revEpoch =>
      if s.knows revId revEpoch then some (s.setPhase c (.returned none))
      else some (s.setPhase c (.claiming s.latestConfig.config.version))
  | _, _ => none

def claim (s : State) (c : CallId) : Option State :=
  match s.phase c with
  | .claiming known =>
      let exchanged := compareExchange s.performingOutOfBandFetch false true
      let s' := { s with performingOutOfBandFetch := exchanged.2 }
      match exchanged.1 with
      | .ok true => some (s'.setPhase c .waiting)
      | _ => some (s'.setPhase c (.fetching known))
  | _ => none

/-- After a failed fetch the call returns at once. -/
def pollOne (s : State) (c : CallId) (fetched : Fetched) : Option State :=
  match s.phase c with
  | .fetching _ =>
      match fetched with
      | .config config => some (s.setPhase c (.handling config))
      | .nothing => some (s.setPhase c (.settling none))
      | .failed => some (s.setPhase c (.returned none))
  | _ => none

def reset (s : State) (c : CallId) : Option State :=
  match s.phase c with
  | .settling result =>
      some ({ s with performingOutOfBandFetch := false }.setPhase c (.notifying result))
  | _ => none

def Phase.notified : Phase -> Phase
  | .waiting => .checking
  | phase => phase

def State.notifyWaiters (s : State) : State :=
  { s with calls := fun c => { s.calls c with phase := (s.calls c).phase.notified } }

def notify (s : State) (c : CallId) : Option State :=
  match s.phase c with
  | .notifying result => some (s.notifyWaiters.setPhase c (.returned result))
  | _ => none

/-!
# Steps
-/

inductive Action where
  | deliver (config : ParsedConfig)
  | publishDelivered
  | sendReplace
  | outOfBandConfig (config : ParsedConfig)
  | outOfBandVersion (revId revEpoch : Int)
  | checkVersion (c : CallId)
  | claim (c : CallId)
  | pollOne (c : CallId) (fetched : Fetched)
  | handleConfig (c : CallId)
  | publish (c : CallId)
  | reset (c : CallId)
  | notify (c : CallId)

def step : StepFn State Action
  | s, .deliver config => deliver s config
  | s, .publishDelivered => publishDelivered s
  | s, .sendReplace => sendReplace s
  | s, .outOfBandConfig config => some (s.start .config (.handling config))
  | s, .outOfBandVersion revId revEpoch =>
      some (s.start (.version revId revEpoch) .checking)
  | s, .checkVersion c => checkVersion s c
  | s, .claim c => claim s c
  | s, .pollOne c fetched => pollOne s c fetched
  | s, .handleConfig c => handleConfig s c
  | s, .publish c => publish s c
  | s, .reset c => reset s c
  | s, .notify c => notify s c

end ConfigManager
end CouchbaseSdk
