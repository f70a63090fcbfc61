import CouchbaseSdk.AgentManager.Steps

/-!
# One agent for each bucket

A creation is entered in the notif map under the lock of the slow map, where the bucket has
no agent yet, and its entry stays until its agent is inserted.  So no second creation of a
bucket begins, and the agent of a bucket never changes.
-/

namespace CouchbaseSdk
namespace AgentManager

open Foundation
open Config

variable {httpBuilds : Option TlsConfig -> Bool} {s s' : State} {a : Action}

/-- The call has no agent in the slow map yet. -/
def Phase.makes : Phase -> Bool
  | .creating _ | .built _ _ => true
  | _ => false

structure Owned (s : State) : Prop where
  lock : forall k, (s.phase k).holdsLock = true -> s.slowLock = some (.call k)
  visiting : forall opts rest, s.reconfiguring = .visiting opts rest ->
    s.slowLock = some .reconfigure
  checking : forall k, s.phase k = .checking -> s.bucket k ∉ s.slowMap
  creation : forall k notif, (s.phase k).creation = some notif ->
    s.notifMap.lookup (s.bucket k) = some notif ∧ notif < s.notifies
  unique : forall k k' notif, (s.phase k).creation = some notif ->
    (s.phase k').creation = some notif -> k = k'
  making : forall k, (s.phase k).makes = true -> s.bucket k ∉ s.slowMap
  handles : forall bucketName agent, s.fastMap.lookup bucketName = some agent ->
    s.slowMap.lookup bucketName = some agent
  returned : forall k agent, s.phase k = .returned agent ->
    s.slowMap.lookup (s.bucket k) = some agent

/-- The creations of a bucket are one. -/
theorem Owned.sameCreation (hinv : Owned s) {k k' : CallId} {notif notif' : NotifyId}
    (h : (s.phase k).creation = some notif) (h' : (s.phase k').creation = some notif')
    (hbucket : s.bucket k = s.bucket k') : k = k' := by
  have hnotif := (hinv.creation k notif h).1
  rw [hbucket, (hinv.creation k' notif' h').1] at hnotif
  cases hnotif
  exact hinv.unique k k' _ h h'

theorem creation_of_makes {phase : Phase} (h : phase.makes = true) :
    exists notif, phase.creation = some notif := by
  cases phase with
  | creating notif => exact ⟨notif, rfl⟩
  | built notif _ => exact ⟨notif, rfl⟩
  | _ => cases h

/-!
# The lock
-/

section
variable (h : Step httpBuilds s a s')
include h

theorem holdsLock_source {j : CallId} (hj : (s'.phase j).holdsLock = true) :
    s'.phase j = s.phase j ∧ s'.bucket j = s.bucket j ∨ s'.slowLock = some (.call j) := by
  rcases callStep h j with hsame | ⟨p, p', hp, hp', hmoves, _⟩
  · exact Or.inl ⟨congrArg Call.phase hsame, congrArg Call.bucketName hsame⟩
  · rw [hp'] at hj
    cases hmoves with
    | absent _ _ hlock => exact Or.inr hlock
    | inserts _ _ hlock => exact Or.inr hlock
    | _ => cases hj

theorem visiting_source {opts : ReconfigureAgentOptions} {rest : List AgentId}
    (hvisiting : s'.reconfiguring = .visiting opts rest) :
    (exists rest, s.reconfiguring = .visiting opts rest) ∨ s'.slowLock = some .reconfigure := by
  cases h with
  | locks => exact Or.inr rfl
  | visits opts' b rest' _ hbefore _ =>
      cases hvisiting
      exact Or.inl ⟨_, hbefore⟩
  | reconfigures | completes => cases hvisiting
  | _ => exact Or.inl ⟨rest, hvisiting⟩

variable (hinv : Owned s)
include hinv

theorem owned_lock (j : CallId) (hj : (s'.phase j).holdsLock = true) :
    s'.slowLock = some (.call j) := by
  rcases holdsLock_source h hj with ⟨hsame, _⟩ | htaken
  · rw [hsame] at hj
    have hlock := hinv.lock j hj
    rcases slowLock_step h with hkept | hfree | ⟨k, hk, hk'⟩ | ⟨opts, hvisiting, _⟩
    · exact hkept.trans hlock
    · cases hfree.symm.trans hlock
    · cases (hinv.lock k hk).symm.trans hlock
      rw [hsame, hj] at hk'
      cases hk'
    · cases (hinv.visiting opts [] hvisiting).symm.trans hlock
  · exact htaken

theorem owned_visiting (opts : ReconfigureAgentOptions) (rest : List AgentId)
    (hvisiting : s'.reconfiguring = .visiting opts rest) : s'.slowLock = some .reconfigure := by
  rcases visiting_source h hvisiting with ⟨rest', hbefore⟩ | htaken
  · have hlock := hinv.visiting opts rest' hbefore
    rcases slowLock_step h with hkept | hfree | ⟨k, hk, _⟩ | ⟨_, _, hidle⟩
    · exact hkept.trans hlock
    · cases hfree.symm.trans hlock
    · cases (hinv.lock k hk).symm.trans hlock
    · cases hidle.symm.trans hvisiting
  · exact htaken

/-!
# Creations
-/

omit hinv in
theorem creation_source {j : CallId} {notif : NotifyId}
    (hj : (s'.phase j).creation = some notif) :
    s'.bucket j = s.bucket j ∧ ((s.phase j).creation = some notif ∨
      s.phase j = .checking ∧ notif = s.notifies ∧ s'.notifies = s.notifies + 1 ∧
        s'.notifMap = s.notifMap.insert (s.bucket j) notif) := by
  rcases callStep h j with hsame | ⟨p, p', hp, hp', hmoves, hbucket⟩
  · have hphase : s'.phase j = s.phase j := congrArg Call.phase hsame
    exact ⟨congrArg Call.bucketName hsame, Or.inl (hphase ▸ hj)⟩
  · rw [hp'] at hj
    cases hmoves with
    | creates _ hmap hnotifies =>
        cases hj
        exact ⟨hbucket nofun, Or.inr ⟨hp, rfl, hnotifies, hmap⟩⟩
    | created => exact ⟨hbucket nofun, Or.inl (hp ▸ hj)⟩
    | inserts => exact ⟨hbucket nofun, Or.inl (hp ▸ hj)⟩
    | _ => cases hj

theorem owned_creation (j : CallId) (notif : NotifyId)
    (hj : (s'.phase j).creation = some notif) :
    s'.notifMap.lookup (s'.bucket j) = some notif ∧ notif < s'.notifies := by
  rcases creation_source h hj with ⟨hbucket, hold | ⟨_, rfl, hnotifies, hmap⟩⟩
  · rcases hinv.creation j notif hold with ⟨hlookup, hlt⟩
    refine ⟨?_, Nat.lt_of_lt_of_le hlt (notifies_step h)⟩
    rw [hbucket]
    rcases notifMap_step h with hsame | ⟨k, _, _, _, _, hnone, hmap⟩ |
      ⟨k, notif', _, hk, hk', hmap⟩
    · rw [hsame]
      exact hlookup
    · have hne : s.bucket j ≠ s.bucket k := by
        intro heq
        rw [heq, hnone] at hlookup
        cases hlookup
      rw [hmap, AList.lookup_insert_ne hne]
      exact hlookup
    · have hne : s.bucket j ≠ s.bucket k := by
        intro heq
        have hcreation : (s.phase k).creation = some notif' := by
          rw [hk]
          rfl
        have hjk : j = k := hinv.sameCreation hold hcreation heq
        rw [hjk, hk'] at hj
        cases hj
      rw [hmap, AList.lookup_erase_ne hne]
      exact hlookup
  · rw [hbucket, hmap, AList.lookup_insert, hnotifies]
    exact ⟨rfl, Nat.lt_succ_self _⟩

theorem owned_unique (j j' : CallId) (notif : NotifyId)
    (hj : (s'.phase j).creation = some notif) (hj' : (s'.phase j').creation = some notif) :
    j = j' := by
  rcases (creation_source h hj).2 with hold | ⟨hchecking, hnew, _⟩
  · rcases (creation_source h hj').2 with hold' | ⟨_, rfl, _⟩
    · exact hinv.unique j j' notif hold hold'
    · exact (Nat.lt_irrefl _ (hinv.creation j _ hold).2).elim
  · rcases (creation_source h hj').2 with hold' | ⟨hchecking', _⟩
    · rw [hnew] at hold'
      exact (Nat.lt_irrefl _ (hinv.creation j' _ hold').2).elim
    · have hlock := hinv.lock j (by rw [hchecking]; rfl)
      have hlock' := hinv.lock j' (by rw [hchecking']; rfl)
      cases hlock.symm.trans hlock'
      rfl

/-!
# The slow map
-/

/-- No agent is inserted over another. -/
theorem lookup_kept {bucketName : String} {agent : AgentId}
    (hlookup : s.slowMap.lookup bucketName = some agent) :
    s'.slowMap.lookup bucketName = some agent := by
  rcases slowMap_step h with hsame | ⟨k, notif, agent', _, hk, _, _, hmap⟩
  · rw [hsame]
    exact hlookup
  · have hout : s.bucket k ∉ s.slowMap := hinv.making k (by rw [hk]; rfl)
    have hne : bucketName ≠ s.bucket k := by
      intro heq
      exact hout (heq ▸ FiniteMap.mem_of_lookup hlookup)
    rw [hmap, AList.lookup_insert_ne hne]
    exact hlookup

theorem owned_checking (j : CallId) (hj : s'.phase j = .checking) :
    s'.bucket j ∉ s'.slowMap := by
  rcases callStep h j with hsame | ⟨p, p', hp, hp', hmoves, hbucket⟩
  · have hphase : s'.phase j = s.phase j := congrArg Call.phase hsame
    have hbucket : s'.bucket j = s.bucket j := congrArg Call.bucketName hsame
    rw [hphase] at hj
    rcases slowMap_step h with hmap | ⟨k, _, _, _, _, _, hfree, _⟩
    · rw [hbucket, hmap]
      exact hinv.checking j hj
    · have hlock := hinv.lock j (by rw [hj]; rfl)
      cases hfree.symm.trans hlock
  · rw [hp'] at hj
    cases hmoves with
    | absent hout hmap _ =>
        rw [hbucket nofun, hmap]
        exact hout
    | _ => cases hj

theorem making_kept {j : CallId} (hj : (s.phase j).makes = true)
    (hj' : (s'.phase j).makes = true) : s.bucket j ∉ s'.slowMap := by
  rcases slowMap_step h with hmap | ⟨k, notif, agent, _, hk, hk', _, hmap⟩
  · rw [hmap]
    exact hinv.making j hj
  · intro hin
    rw [hmap] at hin
    rcases AList.mem_insert s.slowMap |>.mp hin with heq | hold
    · rcases creation_of_makes hj with ⟨notif', hcreation⟩
      have hcreation' : (s.phase k).creation = some notif := by
        rw [hk]
        rfl
      have hjk : j = k := hinv.sameCreation hcreation hcreation' heq
      rw [hjk, hk'] at hj'
      cases hj'
    · exact hinv.making j hj hold

theorem owned_making (j : CallId) (hj : (s'.phase j).makes = true) :
    s'.bucket j ∉ s'.slowMap := by
  rcases callStep h j with hsame | ⟨p, p', hp, hp', hmoves, hbucket⟩
  · have hphase : s'.phase j = s.phase j := congrArg Call.phase hsame
    have hbucket : s'.bucket j = s.bucket j := congrArg Call.bucketName hsame
    rw [hbucket]
    exact making_kept h hinv (hphase ▸ hj) hj
  · cases hmoves with
    | creates hmap _ _ =>
        rw [hbucket nofun, hmap]
        exact hinv.checking j hp
    | created =>
        rw [hbucket nofun]
        exact making_kept h hinv (by rw [hp]; rfl) hj
    | _ =>
        rw [hp'] at hj
        cases hj

theorem owned_returned (j : CallId) (agent : AgentId) (hj : s'.phase j = .returned agent) :
    s'.slowMap.lookup (s'.bucket j) = some agent := by
  rcases callStep h j with hsame | ⟨p, p', hp, hp', hmoves, hbucket⟩
  · have hphase : s'.phase j = s.phase j := congrArg Call.phase hsame
    have hbucket : s'.bucket j = s.bucket j := congrArg Call.bucketName hsame
    rw [hbucket]
    exact lookup_kept h hinv (hinv.returned j agent (hphase ▸ hj))
  · rw [hp'] at hj
    cases hmoves with
    | found agent' hfast =>
        cases hj
        rw [hbucket nofun]
        exact lookup_kept h hinv (hinv.handles _ _ hfast)
    | _ => cases hj

theorem owned_handles (bucketName : String) (agent : AgentId)
    (hfast : s'.fastMap.lookup bucketName = some agent) :
    s'.slowMap.lookup bucketName = some agent := by
  rcases fastMap_step h with hsame | ⟨hnew, hmap⟩
  · rw [hsame] at hfast
    exact lookup_kept h hinv (hinv.handles bucketName agent hfast)
  · rw [hnew, lookup_downgrade] at hfast
    rw [hmap]
    exact hfast

theorem owned_step : Owned s' where
  lock := owned_lock h hinv
  visiting := owned_visiting h hinv
  checking := owned_checking h hinv
  creation := owned_creation h hinv
  unique := owned_unique h hinv
  making := owned_making h hinv
  handles := owned_handles h hinv
  returned := owned_returned h hinv

end

/-!
# Runs
-/

theorem owned_new {opts : OnDemandAgentManagerOptions} {networkType : String}
    {firstConfig : ParsedConfig} (h : new httpBuilds opts networkType firstConfig = some s) :
    Owned s := by
  rcases Option.map_eq_some_iff.mp h with ⟨agent, _, rfl⟩
  constructor <;> nofun

/-- The buckets whose agents were inserted into the slow map, in their order. -/
def noteInserted (s : State) : Action -> List String -> List String
  | .insertAgent k, inserted => inserted ++ [s.bucket k]
  | _, inserted => inserted

/-- Every bucket has one agent for good. -/
structure OneAgent (s : State) (inserted : List String) : Prop where
  inserted : inserted.Nodup
  creations : forall k k', (s.phase k).creation.isSome -> (s.phase k').creation.isSome ->
    s.bucket k = s.bucket k' -> k = k'
  handles : forall bucketName agent, s.fastMap.lookup bucketName = some agent ->
    s.slowMap.lookup bucketName = some agent
  returned : forall k k' agent agent', s.phase k = .returned agent ->
    s.phase k' = .returned agent' -> s.bucket k = s.bucket k' -> agent = agent'

/-- What was inserted is there, once. -/
structure Recorded (p : State × List String) : Prop where
  owned : Owned p.1
  nodup : p.2.Nodup
  present : forall bucketName, bucketName ∈ p.2 -> bucketName ∈ p.1.slowMap

theorem recorded_step {inserted : List String} (h : Step httpBuilds s a s')
    (hinv : Recorded (s, inserted)) : Recorded (s', noteInserted s a inserted) := by
  have howned : Owned s := hinv.owned
  have hkept : forall bucketName, bucketName ∈ inserted -> bucketName ∈ s'.slowMap := by
    intro bucketName hmem
    rcases FiniteMap.exists_lookup (hinv.present bucketName hmem) with ⟨agent, hagent⟩
    exact FiniteMap.mem_of_lookup (lookup_kept h howned hagent)
  have howned' : Owned s' := owned_step h howned
  cases h with
  | inserts k notif agent hphase hlock =>
      have hout : s.bucket k ∉ s.slowMap := howned.making k (by rw [hphase]; rfl)
      refine ⟨howned', ?_, ?_⟩
      · refine List.Nodup.append hinv.nodup (List.nodup_singleton _) ?_
        intro bucketName hmem hnew
        cases List.mem_singleton.mp hnew
        exact hout (hinv.present _ hmem)
      · intro bucketName hmem
        rcases List.mem_append.mp hmem with hold | hnew
        · exact hkept bucketName hold
        · cases List.mem_singleton.mp hnew
          exact AList.mem_insert s.slowMap |>.mpr (Or.inl rfl)
  | _ => exact ⟨howned', hinv.nodup, hkept⟩

theorem oneAgent_of_recorded {inserted : List String} (hinv : Recorded (s, inserted)) :
    OneAgent s inserted := by
  have howned : Owned s := hinv.owned
  constructor
  case inserted => exact hinv.nodup
  case handles => exact howned.handles
  case creations =>
    intro k k' hk hk' hbucket
    rcases Option.isSome_iff_exists.mp hk with ⟨notif, hnotif⟩
    rcases Option.isSome_iff_exists.mp hk' with ⟨notif', hnotif'⟩
    exact howned.sameCreation hnotif hnotif' hbucket
  case returned =>
    intro k k' agent agent' hk hk' hbucket
    have hagent := howned.returned k agent hk
    rw [hbucket, howned.returned k' agent' hk'] at hagent
    exact (Option.some.inj hagent).symm

/-- In every run, whatever fails or is dropped, every bucket has one agent. -/
theorem oneAgent_of_reach (httpBuilds : Option TlsConfig -> Bool)
    (opts : OnDemandAgentManagerOptions) (networkType : String) (firstConfig : ParsedConfig)
    (s t : State) (inserted : List String)
    (hnew : new httpBuilds opts networkType firstConfig = some s)
    (hreach : StepFn.Reach (StepFn.traced (step httpBuilds) noteInserted) StepFn.Always
      (s, []) (t, inserted)) : OneAgent t inserted := by
  have hinv : Recorded (t, inserted) := by
    refine hreach.invariant ⟨owned_new hnew, List.nodup_nil, ?_⟩ ?_
    · intro bucketName hmem
      cases hmem
    · rintro ⟨u, before⟩ a ⟨v, after⟩ hu _ htraced
      rcases Option.map_eq_some_iff.mp htraced with ⟨w, hstep, heq⟩
      cases heq
      exact recorded_step (step_inv hstep) hu
  exact oneAgent_of_recorded hinv

def managerOptions : OnDemandAgentManagerOptions :=
  { authenticator := .jwtAuthenticator "old", tlsConfig := none, numPoolConnections := 1 }

/-- A manager of a cluster of two nodes. -/
def manager : State :=
  Option.get (new (fun _ => true) managerOptions "default" (Routing.twoNodes none)) rfl

/-- The second call waits for the creation of the first one. -/
def twoCalls : List Action :=
  [.getBucketAgent 0 "default", .loadFastMap 0, .lockSlowMap 0, .lockNotifMap 0,
    .getBucketAgent 1 "default", .loadFastMap 1, .lockSlowMap 1, .lockNotifMap 1, .notified 1,
    .agentCreated 0 "default" (Routing.twoNodes none), .insertAgent 0, .removeNotif 0,
    .updateFastMap 1, .loadFastMap 1, .updateFastMap 0, .loadFastMap 0]

theorem oneAgent_twoCalls :
    exists t inserted, StepFn.run (StepFn.traced (step fun _ => true) noteInserted) (manager, [])
        twoCalls = some (t, inserted) ∧
      t.phase 0 = .returned 0 ∧ t.phase 1 = .returned 0 ∧ OneAgent t inserted := by
  have hrun : exists t inserted, StepFn.run (StepFn.traced (step fun _ => true) noteInserted)
      (manager, []) twoCalls = some (t, inserted) ∧
        t.phase 0 = .returned 0 ∧ t.phase 1 = .returned 0 := ⟨_, _, rfl, rfl, rfl⟩
  rcases hrun with ⟨t, inserted, hrun, hfirst, hsecond⟩
  exact ⟨t, inserted, hrun, hfirst, hsecond, oneAgent_of_reach (fun _ => true) managerOptions
    "default" (Routing.twoNodes none) manager t inserted rfl (StepFn.reach_of_run hrun)⟩

end AgentManager
end CouchbaseSdk
