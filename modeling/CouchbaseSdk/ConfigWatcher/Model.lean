import CouchbaseSdk.ConfigManager.ParsedConfig
import CouchbaseSdk.Foundation.Transition

/-!
# Polling for configs

The loop of `watch` asks one endpoint after the other for its config.  The endpoints it has
asked are recent ones until all that are listed are, and the list may be replaced by another
task at any time: between the read of the list and the poll, during a poll, and in a sleep.
-/

namespace CouchbaseSdk
namespace ConfigWatcher

open Foundation
open ConfigManager (ConfigVersion ParsedConfig)

/-- Where the loop is. -/
inductive Phase where
  /-- Before the endpoints are read. -/
  | starting
  | iterating (endpoints : List String)
  /-- In the sleep with no endpoints. -/
  | waiting
  /-- In the sleep after all endpoints have failed. -/
  | recovering
  | polling (endpoint : String)
  /-- In the sleep after a poll. -/
  | pausing
  | exited
deriving DecidableEq

structure State where
  /-- The list that the tasks share. -/
  endpoints : List String
  /-- What `latest_version_rx` shows. -/
  latestVersion : ConfigVersion
  recentEndpoints : List String
  allEndpointsFailed : Bool
  phase : Phase
deriving DecidableEq

inductive Event where
  /-- An iteration of the loop begins. -/
  | iterated
  | reconfigured (endpoints : List String)
  /-- A call of `poll_one`. -/
  | polled (endpoint : String) (version : ConfigVersion)
  | sent (config : ParsedConfig)
  /-- The polling period has gone by. -/
  | slept
deriving DecidableEq

inductive Action where
  | reconfigure (endpoints : List String)
  | publish (version : ConfigVersion)
  | iterate
  | turn
  /-- `poll_one` returns; an error has no value. -/
  | answer (result : Option (Option ParsedConfig))
  | wake
  | shutdown

def initial (endpoints : List String) (latestVersion : ConfigVersion) : State where
  endpoints := endpoints
  latestVersion := latestVersion
  recentEndpoints := []
  allEndpointsFailed := true
  phase := .starting

def reconfigure (s : State) (endpoints : List String) : State :=
  { s with endpoints := endpoints }

def State.remainingEndpoints (s : State) (endpoints : List String) : List String :=
  endpoints.filter fun endpoint => !s.recentEndpoints.contains endpoint

/-- All endpoints are to be asked again. -/
def State.restart (s : State) : State :=
  { s with recentEndpoints := [], allEndpointsFailed := true, phase := .starting }

/-- From the read of the endpoints to the first wait. -/
def State.choose (s : State) (endpoints : List String) : Option Event × State :=
  if endpoints.isEmpty then (none, { s with phase := .waiting })
  else
    match s.remainingEndpoints endpoints with
    | [] =>
        if s.allEndpointsFailed then (none, { s with phase := .recovering })
        else (none, s.restart)
    | endpoint :: _ =>
        (some (.polled endpoint s.latestVersion),
          { s with
            recentEndpoints := s.recentEndpoints ++ [endpoint]
            phase := .polling endpoint })

def turn (s : State) : Option (Option Event × State) :=
  match s.phase with
  | .iterating endpoints => some (s.choose endpoints)
  | _ => none

def State.take (s : State) : Option (Option ParsedConfig) -> Option Event × State
  | none => (none, { s with phase := .pausing })
  | some config =>
      (config.map .sent, { s with allEndpointsFailed := false, phase := .pausing })

def answer (s : State) (result : Option (Option ParsedConfig)) : Option (Option Event × State) :=
  match s.phase with
  | .polling _ => some (s.take result)
  | _ => none

def Phase.isSleeping : Phase -> Bool
  | .waiting | .recovering | .pausing => true
  | _ => false

def State.wake (s : State) : State :=
  match s.phase with
  | .recovering => s.restart
  | _ => { s with phase := .starting }

def step (s : State) : Action -> Option (Option Event × State)
  | .reconfigure endpoints => some (some (.reconfigured endpoints), reconfigure s endpoints)
  | .publish version => some (none, { s with latestVersion := version })
  | .iterate =>
      if s.phase = .starting then
        some (some .iterated, { s with phase := .iterating s.endpoints })
      else none
  | .turn => turn s
  | .answer result => answer s result
  | .wake => if s.phase.isSleeping then some (some .slept, s.wake) else none
  | .shutdown => if s.phase.isSleeping then some (none, { s with phase := .exited }) else none

/-- The runs of `watch` with the calls of `reconfigure` among its steps. -/
abbrev Run (endpoints : List String) (latestVersion : ConfigVersion) (shown : List Event)
    (s : State) : Prop :=
  ObservedFn.Run step (initial endpoints latestVersion) shown s

/-!
# What a step can do
-/

/-- The steps, with what each of them shows. -/
inductive Step (s : State) : Option Event -> State -> Prop where
  | reconfigure (endpoints : List String) :
      Step s (some (.reconfigured endpoints)) (reconfigure s endpoints)
  | publish (version : ConfigVersion) : Step s none { s with latestVersion := version }
  | iterate : s.phase = .starting ->
      Step s (some .iterated) { s with phase := .iterating s.endpoints }
  | wait : s.phase = .iterating [] -> Step s none { s with phase := .waiting }
  | recover (endpoints : List String) : s.phase = .iterating endpoints ->
      s.remainingEndpoints endpoints = [] -> s.allEndpointsFailed = true ->
      Step s none { s with phase := .recovering }
  | restart (endpoints : List String) : s.phase = .iterating endpoints -> endpoints ≠ [] ->
      s.remainingEndpoints endpoints = [] -> s.allEndpointsFailed = false ->
      Step s none s.restart
  | poll (endpoints : List String) (endpoint : String) (rest : List String) :
      s.phase = .iterating endpoints ->
      s.remainingEndpoints endpoints = endpoint :: rest ->
      Step s (some (.polled endpoint s.latestVersion))
        { s with
          recentEndpoints := s.recentEndpoints ++ [endpoint]
          phase := .polling endpoint }
  | answer (endpoint : String) (config : Option ParsedConfig) (failed : Bool) :
      s.phase = .polling endpoint ->
      Step s (config.map .sent) { s with allEndpointsFailed := failed, phase := .pausing }
  | wake : s.phase.isSleeping = true -> s.phase ≠ .recovering ->
      Step s (some .slept) { s with phase := .starting }
  | recovered : s.phase = .recovering -> Step s (some .slept) s.restart
  | shutdown : s.phase.isSleeping = true -> Step s none { s with phase := .exited }

theorem step_choose {s : State} {endpoints : List String}
    (hphase : s.phase = .iterating endpoints) :
    Step s (s.choose endpoints).1 (s.choose endpoints).2 := by
  unfold State.choose
  cases endpoints with
  | nil => exact Step.wait hphase
  | cons first others =>
      rw [List.isEmpty_cons, if_neg Bool.false_ne_true]
      split
      · rename_i hremaining
        by_cases hfailed : s.allEndpointsFailed = true
        · rw [if_pos hfailed]
          exact Step.recover _ hphase hremaining hfailed
        · rw [if_neg hfailed]
          exact Step.restart _ hphase (List.cons_ne_nil first others) hremaining
            (Bool.eq_false_iff.mpr hfailed)
      · rename_i endpoint rest hremaining
        exact Step.poll _ endpoint rest hphase hremaining

theorem step_take {s : State} {endpoint : String} (hphase : s.phase = .polling endpoint)
    (result : Option (Option ParsedConfig)) : Step s (s.take result).1 (s.take result).2 := by
  cases result with
  | none => exact Step.answer endpoint none s.allEndpointsFailed hphase
  | some config => exact Step.answer endpoint config false hphase

theorem step_wake {s : State} (hsleeping : s.phase.isSleeping = true) :
    Step s (some .slept) s.wake := by
  unfold State.wake
  split
  · rename_i hphase
    exact Step.recovered hphase
  · rename_i hphase
    exact Step.wake hsleeping hphase

theorem turn_cases {s u : State} {e : Option Event} (h : turn s = some (e, u)) : Step s e u := by
  unfold turn at h
  split at h
  · rename_i endpoints hphase
    have hstep := step_choose hphase
    rw [Option.some.inj h] at hstep
    exact hstep
  · cases h

theorem answer_cases {s u : State} {e : Option Event} {result : Option (Option ParsedConfig)}
    (h : answer s result = some (e, u)) : Step s e u := by
  unfold answer at h
  split at h
  · rename_i endpoint hphase
    have hstep := step_take hphase result
    rw [Option.some.inj h] at hstep
    exact hstep
  · cases h

theorem step_cases {s u : State} {a : Action} {e : Option Event}
    (h : step s a = some (e, u)) : Step s e u := by
  cases a with
  | reconfigure endpoints =>
      cases h
      exact Step.reconfigure endpoints
  | publish version =>
      cases h
      exact Step.publish version
  | iterate =>
      rcases Option.ite_none_right_eq_some.mp h with ⟨hphase, heq⟩
      cases heq
      exact Step.iterate hphase
  | turn => exact turn_cases h
  | answer result => exact answer_cases h
  | wake =>
      rcases Option.ite_none_right_eq_some.mp h with ⟨hsleeping, heq⟩
      cases heq
      exact step_wake hsleeping
  | shutdown =>
      rcases Option.ite_none_right_eq_some.mp h with ⟨hsleeping, heq⟩
      cases heq
      exact Step.shutdown hsleeping

end ConfigWatcher
end CouchbaseSdk
