import CouchbaseSdk.AgentManager.Model

/-!
# What a step of the manager can do
-/

namespace CouchbaseSdk
namespace AgentManager

open Foundation
open Config

inductive Step (httpBuilds : Option TlsConfig -> Bool) (s : State) : Action -> State -> Prop where
  | began (k : CallId) (bucketName : String) : s.phase k = .unborn ->
      Step httpBuilds s (.getBucketAgent k bucketName) { s with
        calls := Function.update s.calls k { bucketName := bucketName, phase := .looping } }
  | found (k : CallId) (agent : AgentId) : s.phase k = .looping ->
      s.fastMap.lookup (s.bucket k) = some agent ->
        Step httpBuilds s (.loadFastMap k) (s.setPhase k (.returned agent))
  | missed (k : CallId) : s.phase k = .looping -> s.fastMap.lookup (s.bucket k) = none ->
      Step httpBuilds s (.loadFastMap k) (s.setPhase k .loading)
  | present (k : CallId) : s.phase k = .loading -> s.slowLock = none ->
      s.bucket k ∈ s.slowMap -> Step httpBuilds s (.lockSlowMap k) (s.setPhase k .publishing)
  | absent (k : CallId) : s.phase k = .loading -> s.slowLock = none ->
      s.bucket k ∉ s.slowMap -> Step httpBuilds s (.lockSlowMap k)
        { s.setPhase k .checking with slowLock := some (.call k) }
  | follows (k : CallId) (notif : NotifyId) : s.phase k = .checking ->
      s.notifMap.lookup (s.bucket k) = some notif -> Step httpBuilds s (.lockNotifMap k)
        { s.setPhase k (.taken notif) with slowLock := none }
  | creates (k : CallId) : s.phase k = .checking -> s.notifMap.lookup (s.bucket k) = none ->
      Step httpBuilds s (.lockNotifMap k)
        { s.setPhase k (.creating s.notifies) with
          notifMap := s.notifMap.insert (s.bucket k) s.notifies
          notifies := s.notifies + 1
          slowLock := none }
  | listens (k : CallId) (notif : NotifyId) : s.phase k = .taken notif ->
      Step httpBuilds s (.notified k) (s.setPhase k (.waiting notif))
  | created (k : CallId) (notif : NotifyId) (networkType : String) (firstConfig : ParsedConfig)
      (agent : AgentInner) : s.phase k = .creating notif ->
      AgentInner.new httpBuilds (s.opts.agentOptions (some (s.bucket k)) networkType)
        firstConfig = some agent ->
        Step httpBuilds s (.agentCreated k networkType firstConfig)
          { s.setPhase k (.built notif s.made) with
            agents := Function.update s.agents s.made agent
            made := s.made + 1 }
  | failed (k : CallId) (notif : NotifyId) : s.phase k = .creating notif ->
      Step httpBuilds s (.agentFailed k) (s.setPhase k .failed)
  | inserts (k : CallId) (notif : NotifyId) (agent : AgentId) : s.phase k = .built notif agent ->
      s.slowLock = none -> Step httpBuilds s (.insertAgent k)
        { s.setPhase k (.inserted notif) with
          slowMap := s.slowMap.insert (s.bucket k) agent
          slowLock := some (.call k) }
  | removes (k : CallId) (notif : NotifyId) : s.phase k = .inserted notif ->
      Step httpBuilds s (.removeNotif k)
        { (s.setPhase k .publishing).notifyWaiters notif with
          notifMap := s.notifMap.erase (s.bucket k)
          slowLock := none }
  | publishes (k : CallId) : s.phase k = .publishing -> s.slowLock = none ->
      Step httpBuilds s (.updateFastMap k)
        { s.setPhase k .looping with fastMap := downgrade s.slowMap }
  | drops (k : CallId) : (s.phase k).awaits = true -> Step httpBuilds s (.dropCall k)
      { s.setPhase k .dropped with
        slowLock := if (s.phase k).holdsLock then none else s.slowLock }
  | reconfigures (opts : ReconfigureAgentOptions) (agent : AgentInner) :
      s.reconfiguring = .idle -> s.clusterAgent.reconfigure httpBuilds opts = some agent ->
        Step httpBuilds s (.reconfigureAgents opts)
          { s with clusterAgent := agent, reconfiguring := .locking opts }
  | locks (opts : ReconfigureAgentOptions) : s.reconfiguring = .locking opts ->
      s.slowLock = none -> Step httpBuilds s .lockAgents { s with
        slowLock := some .reconfigure
        reconfiguring := .visiting opts (FiniteMap.values s.slowMap) }
  | visits (opts : ReconfigureAgentOptions) (a : AgentId) (rest : List AgentId)
      (agent : AgentInner) : s.reconfiguring = .visiting opts (a :: rest) ->
      (s.agents a).reconfigure httpBuilds opts = some agent ->
        Step httpBuilds s .reconfigureAgent { s with
          agents := Function.update s.agents a agent
          reconfiguring := .visiting opts rest }
  | completes (opts : ReconfigureAgentOptions) : s.reconfiguring = .visiting opts [] ->
      Step httpBuilds s .reconfigured { s with slowLock := none, reconfiguring := .idle }

variable {httpBuilds : Option TlsConfig -> Bool} {s s' : State} {a : Action} {k : CallId}

theorem getBucketAgent_inv {bucketName : String} (h : getBucketAgent s k bucketName = some s') :
    Step httpBuilds s (.getBucketAgent k bucketName) s' := by
  unfold getBucketAgent at h
  split at h
  · rename_i hphase
    cases h
    exact Step.began k bucketName hphase
  · cases h

theorem loadFastMap_inv (h : loadFastMap s k = some s') :
    Step httpBuilds s (.loadFastMap k) s' := by
  unfold loadFastMap at h
  split at h
  · rename_i hphase
    split at h
    · rename_i agent hagent
      cases h
      exact Step.found k agent hphase hagent
    · rename_i hagent
      cases h
      exact Step.missed k hphase hagent
  · cases h

theorem lockSlowMap_inv (h : lockSlowMap s k = some s') :
    Step httpBuilds s (.lockSlowMap k) s' := by
  unfold lockSlowMap at h
  split at h
  · rename_i hphase hlock
    split at h
    · rename_i hin
      cases h
      exact Step.present k hphase hlock hin
    · rename_i hout
      cases h
      exact Step.absent k hphase hlock hout
  · cases h

theorem lockNotifMap_inv (h : lockNotifMap s k = some s') :
    Step httpBuilds s (.lockNotifMap k) s' := by
  unfold lockNotifMap at h
  split at h
  · rename_i hphase
    split at h
    · rename_i notif hnotif
      cases h
      exact Step.follows k notif hphase hnotif
    · rename_i hnotif
      cases h
      exact Step.creates k hphase hnotif
  · cases h

theorem agentCreated_inv {networkType : String} {firstConfig : ParsedConfig}
    (h : agentCreated httpBuilds s k networkType firstConfig = some s') :
    Step httpBuilds s (.agentCreated k networkType firstConfig) s' := by
  unfold agentCreated at h
  split at h
  · rename_i notif hphase
    rcases Option.map_eq_some_iff.mp h with ⟨agent, hagent, rfl⟩
    exact Step.created k notif networkType firstConfig agent hphase hagent
  · cases h

theorem insertAgent_inv (h : insertAgent s k = some s') :
    Step httpBuilds s (.insertAgent k) s' := by
  unfold insertAgent at h
  split at h
  · rename_i notif agent hphase hlock
    cases h
    exact Step.inserts k notif agent hphase hlock
  · cases h

theorem call_inv (h : step httpBuilds s a = some s')
    (ha : a = .notified k ∨ a = .agentFailed k ∨ a = .removeNotif k ∨ a = .updateFastMap k ∨
      a = .dropCall k) : Step httpBuilds s a s' := by
  rcases ha with rfl | rfl | rfl | rfl | rfl
  · change notified s k = some s' at h
    unfold notified at h
    split at h
    · rename_i notif hphase
      cases h
      exact Step.listens k notif hphase
    · cases h
  · change agentFailed s k = some s' at h
    unfold agentFailed at h
    split at h
    · rename_i notif hphase
      cases h
      exact Step.failed k notif hphase
    · cases h
  · change removeNotif s k = some s' at h
    unfold removeNotif at h
    split at h
    · rename_i notif hphase
      cases h
      exact Step.removes k notif hphase
    · cases h
  · change updateFastMap s k = some s' at h
    unfold updateFastMap at h
    split at h
    · rename_i hphase hlock
      cases h
      exact Step.publishes k hphase hlock
    · cases h
  · change dropCall s k = some s' at h
    unfold dropCall at h
    split at h
    · rename_i hawaits
      cases h
      exact Step.drops k hawaits
    · cases h

theorem reconfigure_inv (h : step httpBuilds s a = some s') (ha : (exists opts,
      a = .reconfigureAgents opts) ∨ a = .lockAgents ∨ a = .reconfigureAgent ∨
        a = .reconfigured) : Step httpBuilds s a s' := by
  rcases ha with ⟨opts, rfl⟩ | rfl | rfl | rfl
  · change reconfigureAgents httpBuilds s opts = some s' at h
    unfold reconfigureAgents at h
    split at h
    · rename_i hidle
      rcases Option.map_eq_some_iff.mp h with ⟨agent, hagent, rfl⟩
      exact Step.reconfigures opts agent hidle hagent
    · cases h
  · change lockAgents s = some s' at h
    unfold lockAgents at h
    split at h
    · rename_i opts hlocking hlock
      cases h
      exact Step.locks opts hlocking hlock
    · cases h
  · change reconfigureAgent httpBuilds s = some s' at h
    unfold reconfigureAgent at h
    split at h
    · rename_i opts a rest hvisiting
      rcases Option.map_eq_some_iff.mp h with ⟨agent, hagent, rfl⟩
      exact Step.visits opts a rest agent hvisiting hagent
    · cases h
  · change reconfigured s = some s' at h
    unfold reconfigured at h
    split at h
    · rename_i opts hvisiting
      cases h
      exact Step.completes opts hvisiting
    · cases h

theorem step_inv (h : step httpBuilds s a = some s') : Step httpBuilds s a s' := by
  cases a with
  | getBucketAgent k bucketName => exact getBucketAgent_inv h
  | loadFastMap k => exact loadFastMap_inv h
  | lockSlowMap k => exact lockSlowMap_inv h
  | lockNotifMap k => exact lockNotifMap_inv h
  | agentCreated k networkType firstConfig => exact agentCreated_inv h
  | insertAgent k => exact insertAgent_inv h
  | notified k => exact call_inv h (Or.inl rfl)
  | agentFailed k => exact call_inv h (Or.inr (Or.inl rfl))
  | removeNotif k => exact call_inv h (Or.inr (Or.inr (Or.inl rfl)))
  | updateFastMap k => exact call_inv h (Or.inr (Or.inr (Or.inr (Or.inl rfl))))
  | dropCall k => exact call_inv h (Or.inr (Or.inr (Or.inr (Or.inr rfl))))
  | reconfigureAgents opts => exact reconfigure_inv h (Or.inl ⟨opts, rfl⟩)
  | lockAgents => exact reconfigure_inv h (Or.inr (Or.inl rfl))
  | reconfigureAgent => exact reconfigure_inv h (Or.inr (Or.inr (Or.inl rfl)))
  | reconfigured => exact reconfigure_inv h (Or.inr (Or.inr (Or.inr rfl)))

/-!
# What a step does to one call
-/

/-- How a call can go from one phase to another, and what the step does besides. -/
inductive Moves (s : State) (a : Action) (s' : State) (j : CallId) : Phase -> Phase -> Prop where
  | began : Moves s a s' j .unborn .looping
  | found (agent : AgentId) : s.fastMap.lookup (s.bucket j) = some agent ->
      Moves s a s' j .looping (.returned agent)
  | missed : Moves s a s' j .looping .loading
  | present : Moves s a s' j .loading .publishing
  | absent : s.bucket j ∉ s.slowMap -> s'.slowMap = s.slowMap ->
      s'.slowLock = some (.call j) -> Moves s a s' j .loading .checking
  | follows (notif : NotifyId) : s.notifMap.lookup (s.bucket j) = some notif ->
      Moves s a s' j .checking (.taken notif)
  | creates : s'.slowMap = s.slowMap ->
      s'.notifMap = s.notifMap.insert (s.bucket j) s.notifies ->
        s'.notifies = s.notifies + 1 -> Moves s a s' j .checking (.creating s.notifies)
  | listens (notif : NotifyId) : Moves s a s' j (.taken notif) (.waiting notif)
  | created (notif : NotifyId) (networkType : String) (firstConfig : ParsedConfig) :
      a = .agentCreated j networkType firstConfig ->
        Moves s a s' j (.creating notif) (.built notif s.made)
  | failed (notif : NotifyId) : a = .agentFailed j ->
      Moves s a s' j (.creating notif) .failed
  | inserts (notif : NotifyId) (agent : AgentId) : s'.slowLock = some (.call j) ->
      s'.slowMap = s.slowMap.insert (s.bucket j) agent ->
        Moves s a s' j (.built notif agent) (.inserted notif)
  | removes (notif : NotifyId) : a = .removeNotif j ->
      Moves s a s' j (.inserted notif) .publishing
  | woken (notif : NotifyId) : Moves s a s' j (.waiting notif) .publishing
  | publishes : Moves s a s' j .publishing .looping
  | drops (phase : Phase) : phase.awaits = true -> a = .dropCall j ->
      Moves s a s' j phase .dropped

/-- A call stays as it is or moves; only a new call gets a bucket. -/
def CallStep (s : State) (a : Action) (s' : State) (j : CallId) : Prop :=
  s'.calls j = s.calls j ∨
    exists p p', s.phase j = p ∧ s'.phase j = p' ∧ Moves s a s' j p p' ∧
      (p ≠ .unborn -> s'.bucket j = s.bucket j)

theorem phase_setPhase_self (s : State) (k : CallId) (phase : Phase) :
    (s.setPhase k phase).calls k = { s.calls k with phase := phase } :=
  Function.update_self ..

theorem phase_setPhase_ne {j : CallId} (hjk : j ≠ k) (s : State) (phase : Phase) :
    (s.setPhase k phase).calls j = s.calls j :=
  Function.update_of_ne hjk ..

theorem callStep_setPhase {p phase : Phase} {j : CallId} (hphase : s.phase k = p)
    (hmoves : Moves s a s' k p phase) (hcalls : s'.calls = (s.setPhase k phase).calls) :
    CallStep s a s' j := by
  by_cases hjk : j = k
  · rw [hjk]
    have hcall : s'.calls k = { s.calls k with phase := phase } := by
      rw [hcalls]
      exact phase_setPhase_self s k phase
    refine Or.inr ⟨p, phase, hphase, congrArg Call.phase hcall, hmoves, ?_⟩
    intro _
    unfold State.bucket
    rw [hcall]
  · left
    rw [hcalls]
    exact phase_setPhase_ne hjk s phase

theorem callStep_removes {notif : NotifyId} (j : CallId) (ha : a = .removeNotif k)
    (hphase : s.phase k = .inserted notif)
    (hcalls : s'.calls = ((s.setPhase k .publishing).notifyWaiters notif).calls) :
    CallStep s a s' j := by
  have hcall : s'.calls j = wake notif ((s.setPhase k .publishing).calls j) := by
    rw [hcalls]
    rfl
  by_cases hjk : j = k
  · rw [hjk, phase_setPhase_self] at hcall
    rw [hjk]
    refine Or.inr ⟨_, _, hphase, congrArg Call.phase hcall, .removes notif ha, ?_⟩
    intro _
    unfold State.bucket
    rw [hcall]
    rfl
  · rw [phase_setPhase_ne hjk] at hcall
    by_cases hwaiting : s.phase j = .waiting notif
    · have hwake : wake notif (s.calls j) = { s.calls j with phase := .publishing } :=
        if_pos hwaiting
      rw [hwake] at hcall
      refine Or.inr ⟨_, _, hwaiting, congrArg Call.phase hcall, .woken notif, ?_⟩
      intro _
      unfold State.bucket
      rw [hcall]
    · left
      rw [hcall]
      exact if_neg hwaiting

theorem callStep (h : Step httpBuilds s a s') (j : CallId) : CallStep s a s' j := by
  cases h with
  | began k bucketName hphase =>
      by_cases hjk : j = k
      · rw [hjk]
        refine Or.inr ⟨_, .looping, hphase, ?_, .began, fun hborn => absurd rfl hborn⟩
        show (Function.update s.calls k _ k).phase = _
        rw [Function.update_self]
      · exact Or.inl (Function.update_of_ne hjk ..)
  | found k agent hphase hagent => exact callStep_setPhase hphase (.found agent hagent) rfl
  | missed k hphase _ => exact callStep_setPhase hphase .missed rfl
  | present k hphase _ _ => exact callStep_setPhase hphase .present rfl
  | absent k hphase _ hout => exact callStep_setPhase hphase (.absent hout rfl rfl) rfl
  | follows k notif hphase hnotif => exact callStep_setPhase hphase (.follows notif hnotif) rfl
  | creates k hphase _ => exact callStep_setPhase hphase (.creates rfl rfl rfl) rfl
  | listens k notif hphase => exact callStep_setPhase hphase (.listens notif) rfl
  | created k notif networkType firstConfig _ hphase _ =>
      exact callStep_setPhase hphase (.created notif networkType firstConfig rfl) rfl
  | failed k notif hphase => exact callStep_setPhase hphase (.failed notif rfl) rfl
  | inserts k notif agent hphase _ =>
      exact callStep_setPhase hphase (.inserts notif agent rfl rfl) rfl
  | removes k notif hphase => exact callStep_removes j rfl hphase rfl
  | publishes k hphase _ => exact callStep_setPhase hphase .publishes rfl
  | drops k hawaits => exact callStep_setPhase rfl (.drops _ hawaits rfl) rfl
  | reconfigures | locks | visits | completes => exact Or.inl rfl

/-!
# What a step does to the maps and the lock
-/

/-- The slow map only grows, by the agent of a creation that has taken the lock. -/
theorem slowMap_step (h : Step httpBuilds s a s') :
    s'.slowMap = s.slowMap ∨
      exists k notif agent, a = .insertAgent k ∧ s.phase k = .built notif agent ∧
        s'.phase k = .inserted notif ∧ s.slowLock = none ∧
        s'.slowMap = s.slowMap.insert (s.bucket k) agent := by
  cases h with
  | inserts k notif agent hphase hlock =>
      have hcall := phase_setPhase_self s k (.inserted notif)
      exact Or.inr ⟨k, notif, agent, rfl, hphase, congrArg Call.phase hcall, hlock, rfl⟩
  | _ => exact Or.inl rfl

theorem notifMap_step (h : Step httpBuilds s a s') :
    s'.notifMap = s.notifMap ∨
      (exists k, a = .lockNotifMap k ∧ s.phase k = .checking ∧
        s'.phase k = .creating s.notifies ∧ s'.bucket k = s.bucket k ∧
        s.notifMap.lookup (s.bucket k) = none ∧
        s'.notifMap = s.notifMap.insert (s.bucket k) s.notifies) ∨
      exists k notif, a = .removeNotif k ∧ s.phase k = .inserted notif ∧
        s'.phase k = .publishing ∧ s'.notifMap = s.notifMap.erase (s.bucket k) := by
  cases h with
  | creates k hphase hnotif =>
      have hcall := phase_setPhase_self s k (.creating s.notifies)
      refine Or.inr (Or.inl ⟨k, rfl, hphase, congrArg Call.phase hcall, ?_, hnotif, rfl⟩)
      show ((s.setPhase k (.creating s.notifies)).calls k).bucketName = _
      rw [hcall]
      rfl
  | removes k notif hphase =>
      refine Or.inr (Or.inr ⟨k, notif, rfl, hphase, ?_, rfl⟩)
      show (wake notif ((s.setPhase k .publishing).calls k)).phase = _
      rw [phase_setPhase_self]
      rfl
  | _ => exact Or.inl rfl

theorem notifies_step (h : Step httpBuilds s a s') : s.notifies ≤ s'.notifies := by
  cases h with
  | creates => exact Nat.le_succ _
  | _ => exact Nat.le_refl _

theorem fastMap_step (h : Step httpBuilds s a s') :
    s'.fastMap = s.fastMap ∨ s'.fastMap = downgrade s.slowMap ∧ s'.slowMap = s.slowMap := by
  cases h with
  | publishes => exact Or.inr ⟨rfl, rfl⟩
  | _ => exact Or.inl rfl

theorem lookup_downgrade (m : FiniteMap String AgentId) (bucketName : String) :
    (downgrade m).lookup bucketName = m.lookup bucketName := by
  have hcollect := FiniteMap.lookup_collect (some : AgentId -> Option AgentId) m bucketName
  show AList.lookup bucketName (m.entries.foldl (FiniteMap.collectStep some) ∅) = _
  rw [hcollect]
  cases m.lookup bucketName with
  | some agent => rfl
  | none => rfl

/-- The lock is taken while it is free, and let go of by the one that holds it. -/
theorem slowLock_step (h : Step httpBuilds s a s') :
    s'.slowLock = s.slowLock ∨ s.slowLock = none ∨
      (exists k, (s.phase k).holdsLock = true ∧ (s'.phase k).holdsLock = false) ∨
      exists opts, s.reconfiguring = .visiting opts [] ∧ s'.reconfiguring = .idle := by
  have hreleased : forall (k : CallId) (phase : Phase) (t : State),
      (s.phase k).holdsLock = true -> phase.holdsLock = false ->
        t.calls k = (s.setPhase k phase).calls k ->
          exists k, (s.phase k).holdsLock = true ∧ (t.phase k).holdsLock = false := by
    intro k phase t hholds hnot hcalls
    refine ⟨k, hholds, ?_⟩
    unfold State.phase
    rw [hcalls, phase_setPhase_self]
    exact hnot
  cases h with
  | absent k _ hlock _ => exact Or.inr (Or.inl hlock)
  | inserts k _ _ _ hlock => exact Or.inr (Or.inl hlock)
  | locks opts _ hlock => exact Or.inr (Or.inl hlock)
  | follows k notif hphase _ =>
      exact Or.inr (Or.inr (Or.inl (hreleased k (.taken notif) _ (hphase ▸ rfl) rfl rfl)))
  | creates k hphase _ =>
      exact Or.inr (Or.inr (Or.inl
        (hreleased k (.creating s.notifies) _ (hphase ▸ rfl) rfl rfl)))
  | removes k notif hphase =>
      refine Or.inr (Or.inr (Or.inl (hreleased k .publishing _ (hphase ▸ rfl) rfl ?_)))
      show wake notif ((s.setPhase k .publishing).calls k) = _
      rw [phase_setPhase_self]
      rfl
  | drops k _ =>
      by_cases hholds : (s.phase k).holdsLock = true
      · exact Or.inr (Or.inr (Or.inl (hreleased k .dropped _ hholds rfl rfl)))
      · exact Or.inl (if_neg hholds)
  | completes opts hvisiting => exact Or.inr (Or.inr (Or.inr ⟨opts, hvisiting, rfl⟩))
  | _ => exact Or.inl rfl

end AgentManager
end CouchbaseSdk
