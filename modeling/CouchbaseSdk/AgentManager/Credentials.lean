import CouchbaseSdk.AgentManager.OneAgent

/-!
# New credentials

A reconfiguration gives new credentials to the cluster agent and then, under the lock of the
slow map, to each agent in it.  An agent is made with the options of the manager, which a
reconfiguration does not change.  Its credentials are the ones in force if they have not
changed, or if it is inserted before the reconfiguration takes the lock.
-/

namespace CouchbaseSdk
namespace AgentManager

open Foundation
open Config

variable {httpBuilds : Option TlsConfig -> Bool} {s s' : State} {a : Action}

/-- The credentials that every agent is made with. -/
def OnDemandAgentManagerOptions.credentials (opts : OnDemandAgentManagerOptions) :
    ReconfigureAgentOptions :=
  { authenticator := opts.authenticator, tlsConfig := opts.tlsConfig }

/-- The credentials of the last completed call of `reconfigure_agents`. -/
def noteReconfigured (s : State) : Action -> ReconfigureAgentOptions -> ReconfigureAgentOptions
  | .reconfigured, last =>
      match s.reconfiguring with
      | .visiting opts _ => opts
      | _ => last
  | _, last => last

/-- The cluster agent and the agent of every bucket work with these credentials. -/
structure AllUse (s : State) (opts : ReconfigureAgentOptions) : Prop where
  cluster : s.clusterAgent.Uses opts
  buckets : forall bucketName agent, s.slowMap.lookup bucketName = some agent ->
    (s.agents agent).Uses opts

/-- An agent is inserted while a reconfiguration is about to take the lock, or while the
credentials in force are those that it was made with; and an HTTP client can be built with
the new TLS settings. -/
def InsertsCurrent (httpBuilds : Option TlsConfig -> Bool) (s : State) : Action -> Prop
  | .insertAgent _ => (exists opts, s.reconfiguring = .locking opts) ∨
      s.clusterAgent.authenticator = s.opts.authenticator ∧
        s.clusterAgent.tlsConfig = s.opts.tlsConfig
  | .reconfigureAgents opts => httpBuilds opts.tlsConfig = true
  | _ => True

/-- The credentials of the cluster agent: those of a call that is under way, or of the last
one. -/
def State.inForce (s : State) (last : ReconfigureAgentOptions) : ReconfigureAgentOptions :=
  match s.reconfiguring with
  | .idle => last
  | .locking opts => opts
  | .visiting opts _ => opts

/-- The reconfiguration has yet to come to this agent. -/
def State.Pending (s : State) (agent : AgentId) : Prop :=
  match s.reconfiguring with
  | .idle => False
  | .locking _ => True
  | .visiting _ rest => agent ∈ rest

structure Rotated (httpBuilds : Option TlsConfig -> Bool) (p : State × ReconfigureAgentOptions) :
    Prop where
  owned : Owned p.1
  builds : p.1.reconfiguring ≠ .idle -> httpBuilds (p.1.inForce p.2).tlsConfig = true
  cluster : p.1.clusterAgent.Sound ∧ p.1.clusterAgent.Uses (p.1.inForce p.2)
  agents : forall bucketName agent, p.1.slowMap.lookup bucketName = some agent ->
    agent < p.1.made ∧ (p.1.agents agent).Sound ∧
      (p.1.Pending agent ∨ (p.1.agents agent).Uses (p.1.inForce p.2))
  pending : forall opts rest, p.1.reconfiguring = .visiting opts rest ->
    forall agent, agent ∈ rest -> exists bucketName, p.1.slowMap.lookup bucketName = some agent
  built : forall k notif agent, p.1.phase k = .built notif agent ->
    agent < p.1.made ∧ (p.1.agents agent).Sound ∧
      (p.1.agents agent).Uses p.1.opts.credentials ∧
        forall bucketName, p.1.slowMap.lookup bucketName ≠ some agent
  distinct : forall k k' notif notif' agent, p.1.phase k = .built notif agent ->
    p.1.phase k' = .built notif' agent -> k = k'

/-!
# Steps
-/

section
variable {last : ReconfigureAgentOptions} (h : Step httpBuilds s a s')
include h

theorem opts_step : s'.opts = s.opts := by
  cases h <;> rfl

/-- An agent that is there is left alone, or is reconfigured. -/
theorem agents_step {agent : AgentId} (hmade : agent < s.made) :
    agent < s'.made ∧ (s'.agents agent = s.agents agent ∨
      exists opts rest, s.reconfiguring = .visiting opts (agent :: rest) ∧
        (s.agents agent).reconfigure httpBuilds opts = some (s'.agents agent)) := by
  cases h with
  | created k notif networkType firstConfig inner hphase hinner =>
      refine ⟨Nat.lt_succ_of_lt hmade, Or.inl ?_⟩
      exact Function.update_of_ne (Nat.ne_of_lt hmade) ..
  | visits opts b rest inner hvisiting hinner =>
      refine ⟨hmade, ?_⟩
      by_cases heq : agent = b
      · rw [← heq] at hvisiting hinner
        refine Or.inr ⟨opts, rest, hvisiting, ?_⟩
        show _ = some (Function.update s.agents b inner agent)
        rw [← heq, Function.update_self]
        exact hinner
      · exact Or.inl (Function.update_of_ne heq ..)
  | _ => exact ⟨hmade, Or.inl rfl⟩

/-- An agent that is to come stays so until it is reconfigured. -/
theorem pending_step {bucketName : String} {agent : AgentId}
    (hin : s.slowMap.lookup bucketName = some agent) (hpending : s.Pending agent) :
    s'.Pending agent ∨ exists opts rest, s.reconfiguring = .visiting opts (agent :: rest) ∧
      (s.agents agent).reconfigure httpBuilds opts = some (s'.agents agent) := by
  unfold State.Pending at hpending ⊢
  cases h with
  | reconfigures opts inner hidle _ =>
      rw [hidle] at hpending
      cases hpending
  | locks opts hlocking _ => exact Or.inl (FiniteMap.mem_values.mpr ⟨bucketName, hin⟩)
  | visits opts b rest inner hvisiting hinner =>
      rw [hvisiting] at hpending
      rcases List.mem_cons.mp hpending with rfl | hrest
      · refine Or.inr ⟨opts, rest, hvisiting, ?_⟩
        show _ = some (Function.update s.agents agent inner agent)
        rw [Function.update_self]
        exact hinner
      · exact Or.inl hrest
  | completes opts hvisiting =>
      rw [hvisiting] at hpending
      cases hpending
  | _ => exact Or.inl hpending

/-- The credentials in force are changed by the beginning of a reconfiguration only. -/
theorem inForce_step (ha : forall opts, a ≠ .reconfigureAgents opts) :
    s'.inForce (noteReconfigured s a last) = s.inForce last := by
  unfold State.inForce
  cases h with
  | reconfigures opts => exact (ha opts rfl).elim
  | locks opts hlocking _ => rw [hlocking]
  | visits opts b rest agent hvisiting _ => rw [hvisiting]
  | completes opts hvisiting =>
      unfold noteReconfigured
      rw [hvisiting]
  | _ => rfl

theorem busy_source (ha : forall opts, a ≠ .reconfigureAgents opts)
    (hbusy : s'.reconfiguring ≠ .idle) : s.reconfiguring ≠ .idle := by
  cases h with
  | reconfigures opts => exact (ha opts rfl).elim
  | locks opts hlocking _ =>
      rw [hlocking]
      nofun
  | visits opts b rest agent hvisiting _ =>
      rw [hvisiting]
      nofun
  | completes => exact (hbusy rfl).elim
  | _ => exact hbusy

theorem built_source {k : CallId} {notif : NotifyId} {agent : AgentId}
    (hk : s'.phase k = .built notif agent) :
    s.phase k = .built notif agent ∨ agent = s.made ∧
      exists networkType firstConfig, a = .agentCreated k networkType firstConfig := by
  rcases callStep h k with hsame | ⟨p, p', hp, hp', hmoves, _⟩
  · have hphase : s'.phase k = s.phase k := congrArg Call.phase hsame
    exact Or.inl (hphase.symm.trans hk)
  · rw [hp'] at hk
    cases hmoves with
    | created _ networkType firstConfig ha =>
        cases hk
        exact Or.inr ⟨rfl, networkType, firstConfig, ha⟩
    | _ => cases hk

variable (hinv : Rotated httpBuilds (s, last)) (hguard : InsertsCurrent httpBuilds s a)
include hinv

theorem rotated_pending (opts : ReconfigureAgentOptions) (rest : List AgentId)
    (hvisiting : s'.reconfiguring = .visiting opts rest) (agent : AgentId)
    (hmem : agent ∈ rest) :
    exists bucketName, s'.slowMap.lookup bucketName = some agent := by
  have hkept : (exists bucketName, s.slowMap.lookup bucketName = some agent) ->
      exists bucketName, s'.slowMap.lookup bucketName = some agent := by
    rintro ⟨bucketName, hlookup⟩
    exact ⟨bucketName, lookup_kept h hinv.owned hlookup⟩
  apply hkept
  cases h with
  | locks =>
      cases hvisiting
      exact FiniteMap.mem_values.mp hmem
  | visits opts' b rest' _ hbefore _ =>
      cases hvisiting
      exact hinv.pending opts _ hbefore agent (List.mem_cons_of_mem _ hmem)
  | reconfigures | completes => cases hvisiting
  | _ => exact hinv.pending opts rest hvisiting agent hmem

theorem rotated_distinct (k k' : CallId) (notif notif' : NotifyId) (agent : AgentId)
    (hk : s'.phase k = .built notif agent) (hk' : s'.phase k' = .built notif' agent) :
    k = k' := by
  rcases built_source h hk with hold | ⟨hnew, _, _, ha⟩
  · rcases built_source h hk' with hold' | ⟨hnew', _⟩
    · exact hinv.distinct k k' notif notif' agent hold hold'
    · exact (Nat.ne_of_lt (hinv.built k notif agent hold).1 hnew').elim
  · rcases built_source h hk' with hold' | ⟨_, _, _, ha'⟩
    · exact (Nat.ne_of_lt (hinv.built k' notif' agent hold').1 hnew).elim
    · cases ha.symm.trans ha'
      rfl

theorem rotated_built (k : CallId) (notif : NotifyId) (agent : AgentId)
    (hk : s'.phase k = .built notif agent) :
    agent < s'.made ∧ (s'.agents agent).Sound ∧ (s'.agents agent).Uses s'.opts.credentials ∧
      forall bucketName, s'.slowMap.lookup bucketName ≠ some agent := by
  rcases built_source h hk with hold | ⟨rfl, networkType, firstConfig, rfl⟩
  · rcases hinv.built k notif agent hold with ⟨hmade, hsound, huses, hout⟩
    rcases agents_step h hmade with ⟨hmade', hsame | ⟨opts, rest, hvisiting, _⟩⟩
    · rw [hsame, opts_step h]
      refine ⟨hmade', hsound, huses, ?_⟩
      intro bucketName hlookup
      rcases slowMap_step h with hmap | ⟨j, notif', agent', _, hj, hj', _, hmap⟩
      · exact hout bucketName (hmap ▸ hlookup)
      · by_cases heq : bucketName = s.bucket j
        · rw [hmap, heq, AList.lookup_insert] at hlookup
          cases hlookup
          have hjk : j = k := hinv.distinct j k notif' notif agent hj hold
          rw [hjk, hk] at hj'
          cases hj'
        · rw [hmap, AList.lookup_insert_ne heq] at hlookup
          exact hout bucketName hlookup
    · rcases hinv.pending opts _ hvisiting agent List.mem_cons_self with ⟨bucketName, hin⟩
      exact (hout bucketName hin).elim
  · cases h with
    | created k notif' networkType firstConfig inner hphase hinner =>
        rcases AgentInner.new_uses hinner with ⟨hsound, huses⟩
        have hagent : Function.update s.agents s.made inner s.made = inner :=
          Function.update_self ..
        refine ⟨Nat.lt_succ_self _, ?_, ?_, ?_⟩
        · show (Function.update s.agents s.made inner s.made).Sound
          rw [hagent]
          exact hsound
        · show (Function.update s.agents s.made inner s.made).Uses _
          rw [hagent]
          exact huses
        · intro bucketName hlookup
          exact Nat.lt_irrefl _ (hinv.agents bucketName s.made hlookup).1

include hguard

theorem rotated_cluster : s'.clusterAgent.Sound ∧
    s'.clusterAgent.Uses (s'.inForce (noteReconfigured s a last)) := by
  cases hstep : h with
  | reconfigures opts agent hidle hagent =>
      rcases AgentInner.reconfigure_uses hinv.cluster.1 opts hguard with
        ⟨agent', hagent', hsound, huses⟩
      cases hagent.symm.trans hagent'
      exact ⟨hsound, huses⟩
  | _ =>
      rw [inForce_step h nofun]
      exact hinv.cluster

theorem rotated_builds (hbusy : s'.reconfiguring ≠ .idle) :
    httpBuilds (s'.inForce (noteReconfigured s a last)).tlsConfig = true := by
  cases hstep : h with
  | reconfigures => exact hguard
  | _ =>
      rw [inForce_step h nofun]
      exact hinv.builds (busy_source h nofun hbusy)

/-- An agent of the slow map that is not new. -/
theorem rotated_present {bucketName : String} {agent : AgentId}
    (hin : s.slowMap.lookup bucketName = some agent) :
    agent < s'.made ∧ (s'.agents agent).Sound ∧
      (s'.Pending agent ∨
        (s'.agents agent).Uses (s'.inForce (noteReconfigured s a last))) := by
  rcases hinv.agents bucketName agent hin with ⟨hmade, hsound, hstate⟩
  have hvisited : forall opts rest, s.reconfiguring = .visiting opts (agent :: rest) ->
      (s.agents agent).reconfigure httpBuilds opts = some (s'.agents agent) ->
        (s'.agents agent).Sound ∧
          (s'.agents agent).Uses (s'.inForce (noteReconfigured s a last)) := by
    intro opts rest hvisiting hagent
    have hforce : s'.inForce (noteReconfigured s a last) = opts := by
      have ha : forall opts, a ≠ .reconfigureAgents opts := by
        rintro opts' rfl
        cases h with
        | reconfigures _ _ hidle _ => cases hidle.symm.trans hvisiting
      rw [inForce_step h ha]
      unfold State.inForce
      rw [hvisiting]
    have hbuilds : httpBuilds opts.tlsConfig = true := by
      have hbusy := hinv.builds (by rw [hvisiting]; nofun)
      unfold State.inForce at hbusy
      rw [hvisiting] at hbusy
      exact hbusy
    rcases AgentInner.reconfigure_uses hsound opts hbuilds with ⟨agent', hagent', hsound', huses⟩
    cases hagent.symm.trans hagent'
    exact ⟨hsound', hforce ▸ huses⟩
  rcases agents_step h hmade with ⟨hmade', hsame | ⟨opts, rest, hvisiting, hagent⟩⟩
  · refine ⟨hmade', hsame ▸ hsound, ?_⟩
    rcases hstate with hpending | huses
    · rcases pending_step h hin hpending with hpending' | ⟨opts, rest, hvisiting, hagent⟩
      · exact Or.inl hpending'
      · exact Or.inr (hvisited opts rest hvisiting hagent).2
    · cases hstep : h with
      | reconfigures => exact Or.inl trivial
      | _ =>
          right
          rw [inForce_step h nofun, hsame]
          exact huses
  · rcases hvisited opts rest hvisiting hagent with ⟨hsound', huses⟩
    exact ⟨hmade', hsound', Or.inr huses⟩

theorem rotated_agents (bucketName : String) (agent : AgentId)
    (hlookup : s'.slowMap.lookup bucketName = some agent) :
    agent < s'.made ∧ (s'.agents agent).Sound ∧
      (s'.Pending agent ∨
        (s'.agents agent).Uses (s'.inForce (noteReconfigured s a last))) := by
  rcases slowMap_step h with hmap | ⟨k, notif, agent', rfl, hphase, hphase', hfree, hmap⟩
  · exact rotated_present h hinv hguard (hmap ▸ hlookup)
  · by_cases heq : bucketName = s.bucket k
    · rw [hmap, heq, AList.lookup_insert] at hlookup
      cases hlookup
      rcases hinv.built k notif agent hphase with ⟨hmade, hsound, huses, _⟩
      cases h with
      | inserts =>
          refine ⟨hmade, hsound, ?_⟩
          rcases hguard with ⟨opts, hlocking⟩ | ⟨hauthenticator, htls⟩
          · left
            show State.Pending { s with reconfiguring := s.reconfiguring } agent
            unfold State.Pending
            rw [hlocking]
            trivial
          · right
            have hcluster := hinv.cluster.2
            have hforce : s.opts.credentials = s.inForce last := by
              have hauth := hauthenticator.symm.trans hcluster.authenticator
              have htls' := htls.symm.trans hcluster.tlsConfig
              cases hlast : s.inForce last with
              | mk authenticator tlsConfig =>
                  rw [hlast] at hauth htls'
                  unfold OnDemandAgentManagerOptions.credentials
                  rw [hauth, htls']
            show (s.agents agent).Uses (s.inForce last)
            rw [← hforce]
            exact huses
    · rw [hmap, AList.lookup_insert_ne heq] at hlookup
      exact rotated_present h hinv hguard hlookup

theorem rotated_step : Rotated httpBuilds (s', noteReconfigured s a last) where
  owned := owned_step h hinv.owned
  builds := rotated_builds h hinv hguard
  cluster := rotated_cluster h hinv hguard
  agents := rotated_agents h hinv hguard
  pending := rotated_pending h hinv
  built := rotated_built h hinv
  distinct := rotated_distinct h hinv

end

/-- An agent that is inserted too late has other credentials than the cluster agent. -/
theorem not_allUse_of_stale {k : CallId} {last : ReconfigureAgentOptions}
    (h : Step httpBuilds s (.insertAgent k) s') (hinv : Rotated httpBuilds (s, last))
    (hguard : ¬ InsertsCurrent httpBuilds s (.insertAgent k)) : ¬ AllUse s' last := by
  intro huse
  cases h with
  | inserts k notif agent hphase hfree =>
      have hbuilt := (hinv.built k notif agent hphase).2.2.1
      have hagent := huse.buckets (s.bucket k) agent (AList.lookup_insert s.slowMap)
      refine hguard (Or.inr ⟨?_, ?_⟩)
      · exact huse.cluster.authenticator.trans
          (hagent.authenticator.symm.trans hbuilt.authenticator)
      · exact huse.cluster.tlsConfig.trans (hagent.tlsConfig.symm.trans hbuilt.tlsConfig)

/-!
# Runs
-/

theorem rotated_new {opts : OnDemandAgentManagerOptions} {networkType : String}
    {firstConfig : ParsedConfig} (h : new httpBuilds opts networkType firstConfig = some s) :
    Rotated httpBuilds (s, opts.credentials) := by
  have howned := owned_new h
  rcases Option.map_eq_some_iff.mp h with ⟨agent, hagent, rfl⟩
  constructor
  case owned => exact howned
  case builds =>
    intro hbusy
    exact (hbusy rfl).elim
  case cluster => exact AgentInner.new_uses hagent
  case agents | pending | built | distinct => nofun

/-- Where no reconfiguration is under way, all agents work with the credentials of the last
one, or with those of the manager if there was none. -/
theorem allUse_of_reach (httpBuilds : Option TlsConfig -> Bool)
    (opts : OnDemandAgentManagerOptions) (networkType : String) (firstConfig : ParsedConfig)
    (s t : State) (last : ReconfigureAgentOptions)
    (hnew : new httpBuilds opts networkType firstConfig = some s)
    (hreach : StepFn.Reach (StepFn.traced (step httpBuilds) noteReconfigured)
      (fun p a => InsertsCurrent httpBuilds p.1 a) (s, opts.credentials) (t, last))
    (hidle : t.reconfiguring = .idle) : AllUse t last := by
  have hinv : Rotated httpBuilds (t, last) := by
    refine hreach.invariant (rotated_new hnew) ?_
    rintro ⟨u, before⟩ a ⟨v, after⟩ hu hguard htraced
    rcases Option.map_eq_some_iff.mp htraced with ⟨w, hstep, heq⟩
    cases heq
    exact rotated_step (step_inv hstep) hu hguard
  have hforce : t.inForce last = last := by
    unfold State.inForce
    rw [hidle]
  constructor
  · have hcluster : t.clusterAgent.Uses (t.inForce last) := hinv.cluster.2
    rw [hforce] at hcluster
    exact hcluster
  · intro bucketName agent hlookup
    have hagent : t.Pending agent ∨ (t.agents agent).Uses (t.inForce last) :=
      (hinv.agents bucketName agent hlookup).2.2
    rw [hforce] at hagent
    unfold State.Pending at hagent
    rw [hidle] at hagent
    exact hagent.resolve_left id

def newCredentials : ReconfigureAgentOptions :=
  { authenticator := .jwtAuthenticator "new", tlsConfig := none }

/-- An agent that is made before a reconfiguration. -/
theorem allUse_madeBefore :
    exists t last, StepFn.run (StepFn.traced (step fun _ => true) noteReconfigured)
        (manager, managerOptions.credentials)
        [.getBucketAgent 0 "default", .loadFastMap 0, .lockSlowMap 0, .lockNotifMap 0,
          .agentCreated 0 "default" (Routing.twoNodes none), .insertAgent 0, .removeNotif 0,
          .reconfigureAgents newCredentials, .lockAgents, .reconfigureAgent, .reconfigured] =
          some (t, last) ∧
      last = newCredentials ∧ t.slowMap.lookup "default" = some 0 ∧ AllUse t last := by
  have h₀ : StepFn.Reach (StepFn.traced (step fun _ => true) noteReconfigured)
      (fun p a => InsertsCurrent (fun _ => true) p.1 a) (manager, managerOptions.credentials)
      (manager, managerOptions.credentials) := StepFn.Reach.refl
  have h₁ := StepFn.Reach.tail (Action.getBucketAgent 0 "default") h₀ trivial rfl
  have h₂ := StepFn.Reach.tail (Action.loadFastMap 0) h₁ trivial rfl
  have h₃ := StepFn.Reach.tail (Action.lockSlowMap 0) h₂ trivial rfl
  have h₄ := StepFn.Reach.tail (Action.lockNotifMap 0) h₃ trivial rfl
  have h₅ := StepFn.Reach.tail
    (Action.agentCreated 0 "default" (Routing.twoNodes none)) h₄ trivial rfl
  have h₆ := StepFn.Reach.tail (Action.insertAgent 0) h₅ (Or.inr ⟨rfl, rfl⟩) rfl
  have h₇ := StepFn.Reach.tail (Action.removeNotif 0) h₆ trivial rfl
  have hbegun := StepFn.Reach.tail (Action.reconfigureAgents newCredentials) h₇ rfl rfl
  have hlocked := StepFn.Reach.tail Action.lockAgents hbegun trivial rfl
  have hvisited := StepFn.Reach.tail Action.reconfigureAgent hlocked trivial rfl
  have hcompleted := StepFn.Reach.tail Action.reconfigured hvisited trivial rfl
  exact ⟨_, _, rfl, rfl, rfl, allUse_of_reach (fun _ => true) managerOptions "default"
    (Routing.twoNodes none) manager _ _ rfl hcompleted rfl⟩

/-- An agent that is made after a reconfiguration has the credentials of the manager. -/
theorem madeAfter_notAllUse :
    exists t last, StepFn.run (StepFn.traced (step fun _ => true) noteReconfigured)
        (manager, managerOptions.credentials)
        [.reconfigureAgents newCredentials, .lockAgents, .reconfigured,
          .getBucketAgent 0 "default", .loadFastMap 0, .lockSlowMap 0, .lockNotifMap 0,
          .agentCreated 0 "default" (Routing.twoNodes none), .insertAgent 0, .removeNotif 0,
          .updateFastMap 0, .loadFastMap 0] = some (t, last) ∧
      last = newCredentials ∧ t.reconfiguring = .idle ∧ t.phase 0 = .returned 0 ∧
      (t.agents 0).authenticator = .jwtAuthenticator "old" ∧ ¬ AllUse t last := by
  have hrun : exists t last, StepFn.run (StepFn.traced (step fun _ => true) noteReconfigured)
        (manager, managerOptions.credentials)
        [.reconfigureAgents newCredentials, .lockAgents, .reconfigured,
          .getBucketAgent 0 "default", .loadFastMap 0, .lockSlowMap 0, .lockNotifMap 0,
          .agentCreated 0 "default" (Routing.twoNodes none), .insertAgent 0, .removeNotif 0,
          .updateFastMap 0, .loadFastMap 0] = some (t, last) ∧
      last = newCredentials ∧ t.reconfiguring = .idle ∧ t.phase 0 = .returned 0 ∧
      (t.agents 0).authenticator = .jwtAuthenticator "old" ∧
      t.slowMap.lookup "default" = some 0 := ⟨_, _, rfl, rfl, rfl, rfl, rfl, rfl⟩
  rcases hrun with ⟨t, last, hrun, hlast, hidle, hreturned, hold, hin⟩
  refine ⟨t, last, hrun, hlast, hidle, hreturned, hold, ?_⟩
  intro huse
  have hauth := (huse.buckets "default" 0 hin).authenticator
  rw [hold, hlast] at hauth
  revert hauth
  decide

end AgentManager
end CouchbaseSdk
