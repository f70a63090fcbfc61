import CouchbaseSdk.ConfigManager.Versions

/-!
# The agent and its configs

Three tasks bring configs to the agent: the handler of unsolicited packets, which hears
of a version; the handler of not-my-vbucket responses, which is handed a config; and the
task that watches the configs which the manager's watcher has accepted.  The first two
serve one event at a time.

A task that has an accepted config takes the lock of the agent's state, replaces the
latest config, and installs the endpoints and the routing table made from it.  It does
not compare the config with the one it replaces.
-/

namespace CouchbaseSdk
namespace Agent

open Foundation
open ConfigManager (Accepted CallId ParsedConfig Request)

/-!
# State
-/

inductive Task where
  /-- The loop over unsolicited packets. -/
  | unsolicited
  /-- The holder of the lock of `StdNotMyVbucketConfigHandler`. -/
  | notMyVbucket
  /-- The task of `start_config_watcher`. -/
  | watch
deriving DecidableEq

/-- Where a task stands. -/
inductive Progress where
  | idle
  /-- A call to the config manager is under way. -/
  | calling (c : CallId)
  /-- `apply_config` awaits the lock. -/
  | queued (accepted : Accepted)
  /-- The latest config is replaced; the new endpoints are being added. -/
  | locked (accepted : Accepted)
  /-- The routing table is replaced; the old endpoints are being removed. -/
  | routed (accepted : Accepted)
deriving DecidableEq

structure State where
  manager : ConfigManager.State
  latestConfig : Accepted
  /-- The config the routing table was made from. -/
  routing : Accepted
  /-- The config the endpoints were made from. -/
  endpoints : Accepted
  stateLock : Option Task
  tasks : Task -> Progress
  /-- The sends that the receiver of `start_config_watcher` has seen, if it exists. -/
  seen : Option Nat

def initial (firstConfig : ParsedConfig) : State :=
  { manager := ConfigManager.initial firstConfig
    latestConfig := { config := firstConfig, number := 0 }
    routing := { config := firstConfig, number := 0 }
    endpoints := { config := firstConfig, number := 0 }
    stateLock := none
    tasks := fun _ => .idle
    seen := none }

def State.setTask (s : State) (t : Task) (progress : Progress) : State :=
  { s with tasks := Function.update s.tasks t progress }

/-!
# The handlers
-/

/-- The handler calls the config manager. -/
def State.call (s : State) (t : Task) (request : Request)
    (phase : ConfigManager.Phase) : State :=
  { s.setTask t (.calling s.manager.started) with
    manager := s.manager.start request phase }

/-- `unsolicited_packet_handler`, for a packet that carries a version. -/
def unsolicitedPacketHandler (s : State) (revId revEpoch : Int) : Option State :=
  match s.tasks .unsolicited with
  | .idle => some (s.call .unsolicited (.version revId revEpoch) .checking)
  | _ => none

/-- `apply_terse_config`, for a config that was parsed. -/
def applyTerseConfig (s : State) (config : ParsedConfig) : Option State :=
  match s.tasks .notMyVbucket with
  | .idle => some (s.call .notMyVbucket .config (.handling config))
  | _ => none

/-- What the config manager returned: a config to apply, or nothing to do. -/
def Progress.answered : Option Accepted -> Progress
  | some accepted => .queued accepted
  | none => .idle

def collect (s : State) (t : Task) : Option State :=
  match s.tasks t with
  | .calling c =>
      match s.manager.phase c with
      | .returned result => some (s.setTask t (.answered result))
      | _ => none
  | _ => none

/-!
# The watch task
-/

/-- A new receiver has seen the value that is in the channel. -/
def startConfigWatcher (s : State) : Option State :=
  match s.seen with
  | none => some { s with seen := some s.manager.sends }
  | some _ => none

/-- `changed` and `borrow_and_update`: the last value that was sent, whatever was sent
in between. -/
def changed (s : State) : Option State :=
  match s.tasks .watch, s.seen with
  | .idle, some n =>
      if n < s.manager.sends then
        some ({ s with seen := some s.manager.sends }.setTask .watch
          (.queued s.manager.onNewConfig))
      else none
  | _, _ => none

/-!
# Applying a config
-/

def lock (s : State) (t : Task) : Option State :=
  match s.tasks t, s.stateLock with
  | .queued accepted, none =>
      some ({ s with latestConfig := accepted, stateLock := some t }.setTask t
        (.locked accepted))
  | _, _ => none

def updateVbucketInfo (s : State) (t : Task) : Option State :=
  match s.tasks t with
  | .locked accepted => some ({ s with routing := accepted }.setTask t (.routed accepted))
  | _ => none

def updateEndpoints (s : State) (t : Task) : Option State :=
  match s.tasks t with
  | .routed accepted =>
      some ({ s with endpoints := accepted, stateLock := none }.setTask t .idle)
  | _ => none

/-- The operation that got the not-my-vbucket response is dropped at an `await`, and its
handler with it. -/
def abandon (s : State) : Option State :=
  match s.tasks .notMyVbucket with
  | .queued _ => some (s.setTask .notMyVbucket .idle)
  | .locked _ | .routed _ => some ({ s with stateLock := none }.setTask .notMyVbucket .idle)
  | _ => none

/-!
# Steps
-/

inductive Action where
  /-- A step of the config manager other than the start of a call. -/
  | manager (a : ConfigManager.Action)
  | unsolicitedPacketHandler (revId revEpoch : Int)
  | applyTerseConfig (config : ParsedConfig)
  | collect (t : Task)
  | startConfigWatcher
  | changed
  | lock (t : Task)
  | updateVbucketInfo (t : Task)
  | updateEndpoints (t : Task)
  | abandon

/-- Calls to the config manager are started by the handlers only. -/
def starts : ConfigManager.Action -> Bool
  | .outOfBandConfig _ | .outOfBandVersion _ _ => true
  | _ => false

def managerStep (s : State) (a : ConfigManager.Action) : Option State :=
  if starts a then none
  else (ConfigManager.step s.manager a).map (fun manager => { s with manager := manager })

def step : StepFn State Action
  | s, .manager a => managerStep s a
  | s, .unsolicitedPacketHandler revId revEpoch => unsolicitedPacketHandler s revId revEpoch
  | s, .applyTerseConfig config => applyTerseConfig s config
  | s, .collect t => collect s t
  | s, .startConfigWatcher => startConfigWatcher s
  | s, .changed => changed s
  | s, .lock t => lock s t
  | s, .updateVbucketInfo t => updateVbucketInfo s t
  | s, .updateEndpoints t => updateEndpoints s t
  | s, .abandon => abandon s

/-!
# What a step of the agent can do

The step function is inverted once.  Every step of the agent is a step of the config
manager or leaves the config manager alone.
-/

open ConfigManager (Accepted CallId ParsedConfig Request)

@[simp] theorem setTask_self (s : State) (t : Task) (progress : Progress) :
    (s.setTask t progress).tasks t = progress := by
  unfold State.setTask
  exact Function.update_self ..

theorem setTask_ne (s : State) {t u : Task} (progress : Progress) (h : u ≠ t) :
    (s.setTask t progress).tasks u = s.tasks u := by
  unfold State.setTask
  exact Function.update_of_ne h ..

/-- How a handler starts a call. -/
inductive Calls : Action -> Task -> Request -> ConfigManager.Phase -> Prop where
  | unsolicited (revId revEpoch : Int) :
      Calls (.unsolicitedPacketHandler revId revEpoch) .unsolicited
        (.version revId revEpoch) .checking
  | notMyVbucket (config : ParsedConfig) :
      Calls (.applyTerseConfig config) .notMyVbucket .config (.handling config)

inductive Step (s : State) : Action -> State -> Prop where
  | manager (a : ConfigManager.Action) (manager : ConfigManager.State) :
      starts a = false -> ConfigManager.Step s.manager a manager ->
        Step s (.manager a) { s with manager := manager }
  | call {a : Action} {t : Task} {request : Request} {phase : ConfigManager.Phase} :
      Calls a t request phase -> s.tasks t = .idle -> Step s a (s.call t request phase)
  | collect (t : Task) (c : CallId) (result : Option Accepted) :
      s.tasks t = .calling c -> s.manager.phase c = .returned result ->
        Step s (.collect t) (s.setTask t (.answered result))
  | startConfigWatcher : s.seen = none ->
      Step s .startConfigWatcher { s with seen := some s.manager.sends }
  | changed (n : Nat) : s.tasks .watch = .idle -> s.seen = some n -> n < s.manager.sends ->
      Step s .changed ({ s with seen := some s.manager.sends }.setTask .watch
        (.queued s.manager.onNewConfig))
  | lock (t : Task) (accepted : Accepted) :
      s.tasks t = .queued accepted -> s.stateLock = none ->
        Step s (.lock t) ({ s with latestConfig := accepted, stateLock := some t }.setTask t
          (.locked accepted))
  | updateVbucketInfo (t : Task) (accepted : Accepted) :
      s.tasks t = .locked accepted ->
        Step s (.updateVbucketInfo t)
          ({ s with routing := accepted }.setTask t (.routed accepted))
  | updateEndpoints (t : Task) (accepted : Accepted) :
      s.tasks t = .routed accepted ->
        Step s (.updateEndpoints t)
          ({ s with endpoints := accepted, stateLock := none }.setTask t .idle)
  | abandonQueued (accepted : Accepted) : s.tasks .notMyVbucket = .queued accepted ->
      Step s .abandon (s.setTask .notMyVbucket .idle)
  | abandonLocked (accepted : Accepted) :
      s.tasks .notMyVbucket = .locked accepted ∨ s.tasks .notMyVbucket = .routed accepted ->
        Step s .abandon ({ s with stateLock := none }.setTask .notMyVbucket .idle)

section
variable {s s' : State} {t : Task}

theorem managerStep_inv {a : ConfigManager.Action} (h : managerStep s a = some s') :
    Step s (.manager a) s' := by
  unfold managerStep at h
  split at h
  · cases h
  · rename_i hstarts
    rcases Option.map_eq_some_iff.mp h with ⟨manager, hstep, rfl⟩
    exact Step.manager a manager (Bool.eq_false_iff.mpr hstarts)
      (ConfigManager.step_inv hstep)

theorem unsolicitedPacketHandler_inv {revId revEpoch : Int}
    (h : unsolicitedPacketHandler s revId revEpoch = some s') :
    Step s (.unsolicitedPacketHandler revId revEpoch) s' := by
  unfold unsolicitedPacketHandler at h
  split at h
  · rename_i hidle
    cases h
    exact Step.call (Calls.unsolicited revId revEpoch) hidle
  · cases h

theorem applyTerseConfig_inv {config : ParsedConfig}
    (h : applyTerseConfig s config = some s') : Step s (.applyTerseConfig config) s' := by
  unfold applyTerseConfig at h
  split at h
  · rename_i hidle
    cases h
    exact Step.call (Calls.notMyVbucket config) hidle
  · cases h

theorem collect_inv (h : collect s t = some s') : Step s (.collect t) s' := by
  unfold collect at h
  split at h
  · rename_i c htask
    split at h
    · rename_i result hphase
      cases h
      exact Step.collect t c result htask hphase
    · cases h
  · cases h

theorem startConfigWatcher_inv (h : startConfigWatcher s = some s') :
    Step s .startConfigWatcher s' := by
  unfold startConfigWatcher at h
  split at h
  · rename_i hseen
    cases h
    exact Step.startConfigWatcher hseen
  · cases h

theorem changed_inv (h : changed s = some s') : Step s .changed s' := by
  unfold changed at h
  split at h
  · rename_i n hidle hseen
    split at h
    · rename_i hlt
      cases h
      exact Step.changed n hidle hseen hlt
    · cases h
  · cases h

theorem lock_inv (h : lock s t = some s') : Step s (.lock t) s' := by
  unfold lock at h
  split at h
  · rename_i accepted hqueued hfree
    cases h
    exact Step.lock t accepted hqueued hfree
  · cases h

theorem updateVbucketInfo_inv (h : updateVbucketInfo s t = some s') :
    Step s (.updateVbucketInfo t) s' := by
  unfold updateVbucketInfo at h
  split at h
  · rename_i accepted hlocked
    cases h
    exact Step.updateVbucketInfo t accepted hlocked
  · cases h

theorem updateEndpoints_inv (h : updateEndpoints s t = some s') :
    Step s (.updateEndpoints t) s' := by
  unfold updateEndpoints at h
  split at h
  · rename_i accepted hrouted
    cases h
    exact Step.updateEndpoints t accepted hrouted
  · cases h

theorem abandon_inv (h : abandon s = some s') : Step s .abandon s' := by
  unfold abandon at h
  split at h
  · rename_i accepted hqueued
    cases h
    exact Step.abandonQueued accepted hqueued
  · rename_i accepted hlocked
    cases h
    exact Step.abandonLocked accepted (Or.inl hlocked)
  · rename_i accepted hrouted
    cases h
    exact Step.abandonLocked accepted (Or.inr hrouted)
  · cases h

end

variable {s s' : State} {a : Action}

theorem step_inv (h : step s a = some s') : Step s a s' := by
  cases a with
  | manager a => exact managerStep_inv h
  | unsolicitedPacketHandler revId revEpoch => exact unsolicitedPacketHandler_inv h
  | applyTerseConfig config => exact applyTerseConfig_inv h
  | collect t => exact collect_inv h
  | startConfigWatcher => exact startConfigWatcher_inv h
  | changed => exact changed_inv h
  | lock t => exact lock_inv h
  | updateVbucketInfo t => exact updateVbucketInfo_inv h
  | updateEndpoints t => exact updateEndpoints_inv h
  | abandon => exact abandon_inv h

/-- What the config manager does in a step of the agent. -/
theorem manager_step (h : Step s a s') :
    (exists b, ConfigManager.Step s.manager b s'.manager) ∨ s'.manager = s.manager := by
  cases h with
  | manager b manager hstarts hstep => exact Or.inl ⟨b, hstep⟩
  | call hcalls hidle =>
      cases hcalls with
      | unsolicited revId revEpoch =>
          exact Or.inl ⟨_, ConfigManager.Step.outOfBandVersion revId revEpoch⟩
      | notMyVbucket config => exact Or.inl ⟨_, ConfigManager.Step.outOfBandConfig config⟩
  | _ => exact Or.inr rfl

end Agent
end CouchbaseSdk
