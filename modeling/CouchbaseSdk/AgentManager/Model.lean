import CouchbaseSdk.AgentManager.AgentInner
import CouchbaseSdk.Foundation.Transition

/-!
# Agents on demand

A manager makes an agent for a bucket when it is first asked for.  A call looks the bucket
up in the fast map, and then, under the lock of the slow map, in the slow map and in the
map of the creations that are under way.  It waits for the creation that it finds there, or
begins one, and makes the fast map anew when it comes back.  A call may be dropped wherever
it awaits something.
-/

namespace CouchbaseSdk
namespace AgentManager

open Foundation
open Config
open Routing (AgentOptions)

/-!
# State
-/

abbrev CallId := Nat
abbrev NotifyId := Nat
abbrev AgentId := Nat

/-- What the manager keeps of its options for the agents. -/
structure OnDemandAgentManagerOptions where
  authenticator : Authenticator
  tlsConfig : Option TlsConfig
  numPoolConnections : Nat
deriving DecidableEq, Repr

def OnDemandAgentManagerOptions.agentOptions (opts : OnDemandAgentManagerOptions)
    (bucketName : Option String) (networkType : String) : AgentOptions :=
  { numPoolConnections := opts.numPoolConnections
    bucket := bucketName
    authenticator := opts.authenticator
    networkType := networkType
    tlsConfig := opts.tlsConfig }

/-- Where a call of `get_bucket_agent` is. -/
inductive Phase where
  | unborn
  /-- At the head of the loop. -/
  | looping
  /-- About to lock the slow map. -/
  | loading
  /-- Has not found the bucket in the slow map, holds its lock, and awaits the notif map. -/
  | checking
  /-- Has found this `Notify`, and does not listen to it yet. -/
  | taken (notif : NotifyId)
  | waiting (notif : NotifyId)
  /-- `Agent::new` is running. -/
  | creating (notif : NotifyId)
  /-- Has made this agent, and is about to lock the slow map. -/
  | built (notif : NotifyId) (agent : AgentId)
  /-- Has inserted its agent, holds the lock, and awaits the notif map. -/
  | inserted (notif : NotifyId)
  /-- About to lock the slow map for a new fast map. -/
  | publishing
  | returned (agent : AgentId)
  | failed
  | dropped
deriving DecidableEq, Repr

/-- The creation that the call runs, by the `Notify` it has put in the notif map. -/
def Phase.creation : Phase -> Option NotifyId
  | .creating notif | .built notif _ | .inserted notif => some notif
  | _ => none

def Phase.holdsLock : Phase -> Bool
  | .checking | .inserted _ => true
  | _ => false

/-- The future can be dropped here. -/
def Phase.awaits : Phase -> Bool
  | .loading | .checking | .waiting _ | .creating _ | .built _ _ | .inserted _ | .publishing =>
      true
  | _ => false

structure Call where
  bucketName : String
  phase : Phase
deriving DecidableEq, Repr

/-- Where the call of `reconfigure_agents` is. -/
inductive Reconfiguring where
  | idle
  /-- The cluster agent is done; about to lock the slow map. -/
  | locking (opts : ReconfigureAgentOptions)
  /-- These agents of the slow map are to come. -/
  | visiting (opts : ReconfigureAgentOptions) (rest : List AgentId)

/-- Who holds the lock of the slow map. -/
inductive Holder where
  | call (k : CallId)
  | reconfigure
deriving DecidableEq, Repr

structure State where
  opts : OnDemandAgentManagerOptions
  clusterAgent : AgentInner
  fastMap : FiniteMap String AgentId
  slowMap : FiniteMap String AgentId
  notifMap : FiniteMap String NotifyId
  slowLock : Option Holder
  agents : AgentId -> AgentInner
  /-- How many agents of buckets were made. -/
  made : Nat
  /-- How many `Notify`s were made. -/
  notifies : Nat
  calls : CallId -> Call
  reconfiguring : Reconfiguring

/-- `OnDemandAgentManager::new`; `none` says that the cluster agent is not made. -/
def new (httpBuilds : Option TlsConfig -> Bool) (opts : OnDemandAgentManagerOptions)
    (networkType : String) (firstConfig : ParsedConfig) : Option State :=
  (AgentInner.new httpBuilds (opts.agentOptions none networkType) firstConfig).map fun agent =>
    { opts := opts
      clusterAgent := agent
      fastMap := ∅
      slowMap := ∅
      notifMap := ∅
      slowLock := none
      agents := fun _ => agent
      made := 0
      notifies := 0
      calls := fun _ => { bucketName := "", phase := .unborn }
      reconfiguring := .idle }

/-!
# Calls
-/

def State.bucket (s : State) (k : CallId) : String :=
  (s.calls k).bucketName

def State.phase (s : State) (k : CallId) : Phase :=
  (s.calls k).phase

def State.setPhase (s : State) (k : CallId) (phase : Phase) : State :=
  { s with calls := Function.update s.calls k { s.calls k with phase := phase } }

def getBucketAgent (s : State) (k : CallId) (bucketName : String) : Option State :=
  match s.phase k with
  | .unborn =>
      some { s with
        calls := Function.update s.calls k { bucketName := bucketName, phase := .looping } }
  | _ => none

def loadFastMap (s : State) (k : CallId) : Option State :=
  match s.phase k with
  | .looping =>
      match s.fastMap.lookup (s.bucket k) with
      | some agent => some (s.setPhase k (.returned agent))
      | none => some (s.setPhase k .loading)
  | _ => none

def lockSlowMap (s : State) (k : CallId) : Option State :=
  match s.phase k, s.slowLock with
  | .loading, none =>
      if s.bucket k ∈ s.slowMap then some (s.setPhase k .publishing)
      else some { s.setPhase k .checking with slowLock := some (.call k) }
  | _, _ => none

/-- The notif map is only ever locked under the lock of the slow map. -/
def lockNotifMap (s : State) (k : CallId) : Option State :=
  match s.phase k with
  | .checking =>
      match s.notifMap.lookup (s.bucket k) with
      | some notif => some { s.setPhase k (.taken notif) with slowLock := none }
      | none =>
          some { s.setPhase k (.creating s.notifies) with
            notifMap := s.notifMap.insert (s.bucket k) s.notifies
            notifies := s.notifies + 1
            slowLock := none }
  | _ => none

def notified (s : State) (k : CallId) : Option State :=
  match s.phase k with
  | .taken notif => some (s.setPhase k (.waiting notif))
  | _ => none

/-- `Agent::new` returns an agent, which has this first config. -/
def agentCreated (httpBuilds : Option TlsConfig -> Bool) (s : State) (k : CallId)
    (networkType : String) (firstConfig : ParsedConfig) : Option State :=
  match s.phase k with
  | .creating notif =>
      (AgentInner.new httpBuilds (s.opts.agentOptions (some (s.bucket k)) networkType)
          firstConfig).map fun agent =>
        { s.setPhase k (.built notif s.made) with
          agents := Function.update s.agents s.made agent
          made := s.made + 1 }
  | _ => none

/-- `Agent::new` fails, and the call with it. -/
def agentFailed (s : State) (k : CallId) : Option State :=
  match s.phase k with
  | .creating _ => some (s.setPhase k .failed)
  | _ => none

def insertAgent (s : State) (k : CallId) : Option State :=
  match s.phase k, s.slowLock with
  | .built notif agent, none =>
      some { s.setPhase k (.inserted notif) with
        slowMap := s.slowMap.insert (s.bucket k) agent
        slowLock := some (.call k) }
  | _, _ => none

/-- A call that listens to this `Notify` goes on. -/
def wake (notif : NotifyId) (call : Call) : Call :=
  if call.phase = .waiting notif then { call with phase := .publishing } else call

def State.notifyWaiters (s : State) (notif : NotifyId) : State :=
  { s with calls := fun k => wake notif (s.calls k) }

def removeNotif (s : State) (k : CallId) : Option State :=
  match s.phase k with
  | .inserted notif =>
      some { (s.setPhase k .publishing).notifyWaiters notif with
        notifMap := s.notifMap.erase (s.bucket k)
        slowLock := none }
  | _ => none

/-- A fast map with what the slow map has. -/
def downgrade (slowMap : FiniteMap String AgentId) : FiniteMap String AgentId :=
  slowMap.entries.foldl (fun m item => m.insert item.1 item.2) ∅

def updateFastMap (s : State) (k : CallId) : Option State :=
  match s.phase k, s.slowLock with
  | .publishing, none => some { s.setPhase k .looping with fastMap := downgrade s.slowMap }
  | _, _ => none

/-- A dropped call lets go of the lock. -/
def dropCall (s : State) (k : CallId) : Option State :=
  if (s.phase k).awaits then
    some { s.setPhase k .dropped with
      slowLock := if (s.phase k).holdsLock then none else s.slowLock }
  else none

/-!
# Reconfiguration
-/

/-- Calls of `reconfigure_agents` come one after another. -/
def reconfigureAgents (httpBuilds : Option TlsConfig -> Bool) (s : State)
    (opts : ReconfigureAgentOptions) : Option State :=
  match s.reconfiguring with
  | .idle =>
      (s.clusterAgent.reconfigure httpBuilds opts).map fun agent =>
        { s with clusterAgent := agent, reconfiguring := .locking opts }
  | _ => none

def lockAgents (s : State) : Option State :=
  match s.reconfiguring, s.slowLock with
  | .locking opts, none =>
      some { s with
        slowLock := some .reconfigure
        reconfiguring := .visiting opts (FiniteMap.values s.slowMap) }
  | _, _ => none

def reconfigureAgent (httpBuilds : Option TlsConfig -> Bool) (s : State) : Option State :=
  match s.reconfiguring with
  | .visiting opts (a :: rest) =>
      ((s.agents a).reconfigure httpBuilds opts).map fun agent =>
        { s with
          agents := Function.update s.agents a agent
          reconfiguring := .visiting opts rest }
  | _ => none

def reconfigured (s : State) : Option State :=
  match s.reconfiguring with
  | .visiting _ [] => some { s with slowLock := none, reconfiguring := .idle }
  | _ => none

/-!
# Actions
-/

inductive Action where
  | getBucketAgent (k : CallId) (bucketName : String)
  | loadFastMap (k : CallId)
  | lockSlowMap (k : CallId)
  | lockNotifMap (k : CallId)
  | notified (k : CallId)
  | agentCreated (k : CallId) (networkType : String) (firstConfig : ParsedConfig)
  | agentFailed (k : CallId)
  | insertAgent (k : CallId)
  | removeNotif (k : CallId)
  | updateFastMap (k : CallId)
  | dropCall (k : CallId)
  | reconfigureAgents (opts : ReconfigureAgentOptions)
  | lockAgents
  | reconfigureAgent
  | reconfigured

def step (httpBuilds : Option TlsConfig -> Bool) : StepFn State Action
  | s, .getBucketAgent k bucketName => getBucketAgent s k bucketName
  | s, .loadFastMap k => loadFastMap s k
  | s, .lockSlowMap k => lockSlowMap s k
  | s, .lockNotifMap k => lockNotifMap s k
  | s, .notified k => notified s k
  | s, .agentCreated k networkType firstConfig =>
      agentCreated httpBuilds s k networkType firstConfig
  | s, .agentFailed k => agentFailed s k
  | s, .insertAgent k => insertAgent s k
  | s, .removeNotif k => removeNotif s k
  | s, .updateFastMap k => updateFastMap s k
  | s, .dropCall k => dropCall s k
  | s, .reconfigureAgents opts => reconfigureAgents httpBuilds s opts
  | s, .lockAgents => lockAgents s
  | s, .reconfigureAgent => reconfigureAgent httpBuilds s
  | s, .reconfigured => reconfigured s

end AgentManager
end CouchbaseSdk
