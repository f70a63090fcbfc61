import CouchbaseSdk.AgentManager.OneAgent

/-!
# Waiting for a creation

A call that finds a creation of its bucket in the notif map waits for it, and only its end
wakes the call.  A creation takes its entry out of the map and wakes those who listen when
its agent is inserted; one that fails or is dropped does neither.
-/

namespace CouchbaseSdk
namespace AgentManager

open Foundation
open Config

variable {httpBuilds : Option TlsConfig -> Bool} {s s' : State} {a : Action}

/-- The `Notify` that the call has taken from the notif map. -/
def Phase.awaited : Phase -> Option NotifyId
  | .taken notif | .waiting notif => some notif
  | _ => none

/-- The call runs the creation of this bucket that this `Notify` stands for, and its end
wakes all that listen to it. -/
def WillNotify (httpBuilds : Option TlsConfig -> Bool) (s : State) (k : CallId)
    (bucketName : String) (notif : NotifyId) : Prop :=
  s.bucket k = bucketName ∧ (s.phase k).creation = some notif ∧
    forall u, step httpBuilds s (.removeNotif k) = some u ->
      forall w, s.phase w = .waiting notif -> u.phase w = .publishing

/-- Every entry stands for a creation that is under way, and so does what a call waits for.
Where none is under way, a call that comes begins one. -/
structure Served (httpBuilds : Option TlsConfig -> Bool) (s : State) : Prop where
  entries : forall bucketName notif, s.notifMap.lookup bucketName = some notif ->
    exists k, WillNotify httpBuilds s k bucketName notif
  waiting : forall w notif, (s.phase w).awaited = some notif ->
    exists k, WillNotify httpBuilds s k (s.bucket w) notif
  restarts : forall k, s.phase k = .checking ->
    (forall k', s.bucket k' = s.bucket k -> (s.phase k').creation = none) ->
      exists u, step httpBuilds s (.lockNotifMap k) = some u ∧
        u.phase k = .creating s.notifies

/-- No creation fails or is dropped, and none ends while a call has found its `Notify` and
does not listen yet. -/
def KeepsCreations (s : State) : Action -> Prop
  | .agentFailed _ => False
  | .dropCall k => (s.phase k).creation = none
  | .removeNotif k => forall w notif, s.phase w = .taken notif ->
      (s.phase k).creation ≠ some notif
  | _ => True

/-- What carries `Served` along a run. -/
structure Attended (s : State) : Prop where
  owned : Owned s
  entries : forall bucketName notif, s.notifMap.lookup bucketName = some notif ->
    exists k, s.bucket k = bucketName ∧ (s.phase k).creation = some notif
  waiting : forall w notif, (s.phase w).awaited = some notif ->
    exists k, s.bucket k = s.bucket w ∧ (s.phase k).creation = some notif

/-!
# Steps
-/

theorem awaited_source (h : Step httpBuilds s a s') {w : CallId} {notif : NotifyId}
    (hw : (s'.phase w).awaited = some notif) :
    s'.bucket w = s.bucket w ∧ ((s.phase w).awaited = some notif ∨
      s.phase w = .checking ∧ s.notifMap.lookup (s.bucket w) = some notif) := by
  rcases callStep h w with hsame | ⟨p, p', hp, hp', hmoves, hbucket⟩
  · have hphase : s'.phase w = s.phase w := congrArg Call.phase hsame
    exact ⟨congrArg Call.bucketName hsame, Or.inl (hphase ▸ hw)⟩
  · rw [hp'] at hw
    cases hmoves with
    | follows notif' hnotif =>
        cases hw
        exact ⟨hbucket nofun, Or.inr ⟨hp, hnotif⟩⟩
    | listens => exact ⟨hbucket nofun, Or.inl (hp ▸ hw)⟩
    | _ => cases hw

/-- The end of the creation of this call. -/
structure Ended (s s' : State) (k : CallId) (notif : NotifyId) : Prop where
  phase : s.phase k = .inserted notif
  ended : s'.phase k = .publishing
  notifies : s'.notifies = s.notifies
  notifMap : s'.notifMap = s.notifMap.erase (s.bucket k)
  woken : forall w, s.phase w = .waiting notif -> s'.phase w = .publishing
  taken : forall w found, s.phase w = .taken found -> s'.phase w = .taken found

theorem ended_of_step {k : CallId} (h : Step httpBuilds s (.removeNotif k) s') :
    exists notif, Ended s s' k notif := by
  cases h with
  | removes k notif hphase =>
      have hother : forall w, s.phase w ≠ .inserted notif ->
          wake notif ((s.setPhase k .publishing).calls w) = wake notif (s.calls w) := by
        intro w hw
        have hwk : w ≠ k := by
          rintro rfl
          exact hw hphase
        rw [phase_setPhase_ne hwk]
      refine ⟨notif, hphase, ?_, rfl, rfl, ?_, ?_⟩
      · show (wake notif ((s.setPhase k .publishing).calls k)).phase = _
        rw [phase_setPhase_self]
        rfl
      · intro w hw
        have hwake : wake notif (s.calls w) = { s.calls w with phase := .publishing } :=
          if_pos hw
        show (wake notif ((s.setPhase k .publishing).calls w)).phase = _
        rw [hother w (by rw [hw]; nofun), hwake]
      · intro w found hw
        have hwake : wake notif (s.calls w) = s.calls w :=
          if_neg fun hwaiting => by cases hw.symm.trans hwaiting
        show (wake notif ((s.setPhase k .publishing).calls w)).phase = _
        rw [hother w (by rw [hw]; nofun), hwake]
        exact hw

theorem lockNotifMap_free {k : CallId} (hchecking : s.phase k = .checking)
    (hfree : s.notifMap.lookup (s.bucket k) = none) :
    exists u, lockNotifMap s k = some u ∧ u.phase k = .creating s.notifies := by
  unfold lockNotifMap
  rw [hchecking, hfree]
  exact ⟨_, rfl, congrArg Call.phase (phase_setPhase_self s k (.creating s.notifies))⟩

theorem willNotify_of_creation {k : CallId} {bucketName : String} {notif : NotifyId}
    (hbucket : s.bucket k = bucketName) (hk : (s.phase k).creation = some notif) :
    WillNotify httpBuilds s k bucketName notif := by
  refine ⟨hbucket, hk, ?_⟩
  intro u hu w hw
  rcases ended_of_step (step_inv hu) with ⟨notif', hended⟩
  rw [hended.phase] at hk
  cases hk
  exact hended.woken w hw

theorem served_of_attended (hinv : Attended s) : Served httpBuilds s := by
  constructor
  · intro bucketName notif hlookup
    rcases hinv.entries bucketName notif hlookup with ⟨k, hbucket, hk⟩
    exact ⟨k, willNotify_of_creation hbucket hk⟩
  · intro w notif hw
    rcases hinv.waiting w notif hw with ⟨k, hbucket, hk⟩
    exact ⟨k, willNotify_of_creation hbucket hk⟩
  · intro k hchecking hnone
    have hfree : s.notifMap.lookup (s.bucket k) = none := by
      cases hlookup : s.notifMap.lookup (s.bucket k) with
      | none => rfl
      | some notif =>
          rcases hinv.entries _ notif hlookup with ⟨k', hbucket, hk'⟩
          rw [hnone k' hbucket] at hk'
          cases hk'
    exact lockNotifMap_free hchecking hfree

section
variable (h : Step httpBuilds s a s')
include h

/-- A creation goes on, fails, is dropped or ends. -/
theorem creation_next {k : CallId} {notif : NotifyId}
    (hk : (s.phase k).creation = some notif) :
    s'.bucket k = s.bucket k ∧ (s'.phase k).creation = some notif ∨
      a = .agentFailed k ∨ a = .dropCall k ∨ a = .removeNotif k := by
  rcases callStep h k with hsame | ⟨p, p', hp, hp', hmoves, hbucket⟩
  · have hphase : s'.phase k = s.phase k := congrArg Call.phase hsame
    exact Or.inl ⟨congrArg Call.bucketName hsame, hphase ▸ hk⟩
  · rw [hp] at hk
    cases hmoves with
    | created => exact Or.inl ⟨hbucket nofun, hp' ▸ hk⟩
    | inserts => exact Or.inl ⟨hbucket nofun, hp' ▸ hk⟩
    | failed _ ha => exact Or.inr (Or.inl ha)
    | drops _ _ ha => exact Or.inr (Or.inr (Or.inl ha))
    | removes _ ha => exact Or.inr (Or.inr (Or.inr ha))
    | _ => cases hk

variable (hinv : Attended s) (hguard : KeepsCreations s a)
include hguard

theorem creation_kept {k : CallId} {notif : NotifyId}
    (hk : (s.phase k).creation = some notif) :
    s'.bucket k = s.bucket k ∧ (s'.phase k).creation = some notif ∨ a = .removeNotif k := by
  rcases creation_next h hk with hkept | rfl | rfl | hend
  · exact Or.inl hkept
  · exact hguard.elim
  · have hnone : (s.phase k).creation = none := hguard
    rw [hk] at hnone
    cases hnone
  · exact Or.inr hend

include hinv

theorem attended_entries (bucketName : String) (notif : NotifyId)
    (hlookup : s'.notifMap.lookup bucketName = some notif) :
    exists k, s'.bucket k = bucketName ∧ (s'.phase k).creation = some notif := by
  have hkept : s.notifMap.lookup bucketName = some notif ->
      exists k, s'.bucket k = bucketName ∧ (s'.phase k).creation = some notif := by
    intro hbefore
    rcases hinv.entries bucketName notif hbefore with ⟨k, hbucket, hk⟩
    rcases creation_kept h hguard hk with ⟨hbucket', hk'⟩ | rfl
    · exact ⟨k, hbucket'.trans hbucket, hk'⟩
    · rcases ended_of_step h with ⟨_, hended⟩
      rw [hended.notifMap, hbucket, AList.lookup_erase] at hlookup
      cases hlookup
  rcases notifMap_step h with hsame | ⟨k, _, _, hk', hbucket, _, hmap⟩ | ⟨k, _, _, _, _, hmap⟩
  · exact hkept (hsame ▸ hlookup)
  · by_cases heq : bucketName = s.bucket k
    · rw [hmap, heq, AList.lookup_insert] at hlookup
      cases hlookup
      exact ⟨k, hbucket.trans heq.symm, by rw [hk']; rfl⟩
    · rw [hmap, AList.lookup_insert_ne heq] at hlookup
      exact hkept hlookup
  · by_cases heq : bucketName = s.bucket k
    · rw [hmap, heq, AList.lookup_erase] at hlookup
      cases hlookup
    · rw [hmap, AList.lookup_erase_ne heq] at hlookup
      exact hkept hlookup

theorem attended_waiting (w : CallId) (notif : NotifyId)
    (hw : (s'.phase w).awaited = some notif) :
    exists k, s'.bucket k = s'.bucket w ∧ (s'.phase k).creation = some notif := by
  have hcreator : s'.bucket w = s.bucket w ∧
      exists k, s.bucket k = s.bucket w ∧ (s.phase k).creation = some notif := by
    rcases awaited_source h hw with ⟨hbucket, hbefore | ⟨_, hlookup⟩⟩
    · exact ⟨hbucket, hinv.waiting w notif hbefore⟩
    · exact ⟨hbucket, hinv.entries _ notif hlookup⟩
  rcases hcreator with ⟨hbucket, k, hsame, hk⟩
  rcases creation_kept h hguard hk with ⟨hbucket', hk'⟩ | rfl
  · exact ⟨k, by rw [hbucket', hbucket, hsame], hk'⟩
  · rcases ended_of_step h with ⟨notif', hended⟩
    have heq : notif' = notif := by
      rw [hended.phase] at hk
      exact Option.some.inj hk
    rw [heq] at hended
    rcases (awaited_source h hw).2 with hbefore | ⟨hchecking, _⟩
    · cases hphase' : s.phase w with
      | taken found =>
          rw [hphase'] at hbefore
          cases hbefore
          exact (hguard w notif hphase' hk).elim
      | waiting found =>
          rw [hphase'] at hbefore
          cases hbefore
          rw [hended.woken w hphase'] at hw
          cases hw
      | _ =>
          rw [hphase'] at hbefore
          cases hbefore
    · have hlock := hinv.owned.lock w (by rw [hchecking]; rfl)
      have hlock' := hinv.owned.lock k (by rw [hended.phase]; rfl)
      cases hlock.symm.trans hlock'
      cases hchecking.symm.trans hended.phase

theorem attended_step : Attended s' where
  owned := owned_step h hinv.owned
  entries := attended_entries h hinv hguard
  waiting := attended_waiting h hinv hguard

end

/-- A step that fails or drops a creation, or ends it too early, leaves an entry or a call
behind that nobody serves. -/
theorem not_served_of_not_keeps (h : Step httpBuilds s a s') (hinv : Owned s)
    (hguard : ¬ KeepsCreations s a) : ¬ Served httpBuilds s' := by
  intro hserved
  have hgone : forall (k : CallId) (notif : NotifyId), (s.phase k).creation = some notif ->
      (s'.phase k).creation = none -> s'.notifies = s.notifies ->
        forall k', (s'.phase k').creation ≠ some notif := by
    intro k notif hk hnone hnotifies k' hk'
    rcases (creation_source h hk').2 with hbefore | ⟨_, _, hnew, _⟩
    · rw [hinv.unique k' k notif hbefore hk, hnone] at hk'
      cases hk'
    · exact Nat.succ_ne_self _ (hnew.symm.trans hnotifies)
  have hleft : forall (k : CallId) (notif : NotifyId), (s.phase k).creation = some notif ->
      (s'.phase k).creation = none -> s'.notifies = s.notifies ->
        s'.notifMap ≠ s.notifMap := by
    intro k notif hk hnone hnotifies hmap
    rcases hserved.entries (s.bucket k) notif (hmap ▸ (hinv.creation k notif hk).1) with
      ⟨k', _, hk', _⟩
    exact hgone k notif hk hnone hnotifies k' hk'
  cases a with
  | agentFailed k =>
      cases h with
      | failed k notif hphase =>
          have hcall := phase_setPhase_self s k .failed
          exact hleft k notif (by rw [hphase]; rfl)
            (congrArg (fun call => call.phase.creation) hcall) rfl rfl
  | dropCall k =>
      cases h with
      | drops k _ =>
          have hcall := phase_setPhase_self s k .dropped
          rcases Option.ne_none_iff_exists'.mp hguard with ⟨notif, hk⟩
          exact hleft k notif hk (congrArg (fun call => call.phase.creation) hcall) rfl rfl
  | removeNotif k =>
      refine hguard ?_
      intro w found hw hk
      rcases ended_of_step h with ⟨notif, hended⟩
      rcases hserved.waiting w found (by rw [hended.taken w found hw]; rfl) with ⟨k', _, hk', _⟩
      exact hgone k found hk (by rw [hended.ended]; rfl) hended.notifies k' hk'
  | _ => exact hguard trivial

/-!
# Runs
-/

theorem attended_new {opts : OnDemandAgentManagerOptions} {networkType : String}
    {firstConfig : ParsedConfig} (h : new httpBuilds opts networkType firstConfig = some s) :
    Attended s := by
  have howned := owned_new h
  rcases Option.map_eq_some_iff.mp h with ⟨agent, _, rfl⟩
  exact ⟨howned, nofun, nofun⟩

/-- In every run in which creations come to their end, no call waits in vain. -/
theorem callServed_of_reach (httpBuilds : Option TlsConfig -> Bool)
    (opts : OnDemandAgentManagerOptions) (networkType : String) (firstConfig : ParsedConfig)
    (s t : State) (hnew : new httpBuilds opts networkType firstConfig = some s)
    (hreach : StepFn.Reach (step httpBuilds) KeepsCreations s t) : Served httpBuilds t := by
  have hinv : Attended t := by
    refine hreach.invariant (attended_new hnew) ?_
    intro u a v hu hguard hstep
    exact attended_step (step_inv hstep) hu hguard
  exact served_of_attended hinv

/-- A call that waits for the creation of another one, which is done by now. -/
theorem served_waiter :
    exists t, StepFn.run (step fun _ => true) manager
        [.getBucketAgent 0 "default", .loadFastMap 0, .lockSlowMap 0, .lockNotifMap 0,
          .getBucketAgent 1 "default", .loadFastMap 1, .lockSlowMap 1, .lockNotifMap 1,
          .notified 1, .agentCreated 0 "default" (Routing.twoNodes none), .insertAgent 0] =
          some t ∧
      t.phase 1 = .waiting 0 ∧ Served (fun _ => true) t := by
  have h₀ : StepFn.Reach (step fun _ => true) KeepsCreations manager manager :=
    StepFn.Reach.refl
  have h₁ := StepFn.Reach.tail (Action.getBucketAgent 0 "default") h₀ trivial rfl
  have h₂ := StepFn.Reach.tail (Action.loadFastMap 0) h₁ trivial rfl
  have h₃ := StepFn.Reach.tail (Action.lockSlowMap 0) h₂ trivial rfl
  have h₄ := StepFn.Reach.tail (Action.lockNotifMap 0) h₃ trivial rfl
  have h₅ := StepFn.Reach.tail (Action.getBucketAgent 1 "default") h₄ trivial rfl
  have h₆ := StepFn.Reach.tail (Action.loadFastMap 1) h₅ trivial rfl
  have h₇ := StepFn.Reach.tail (Action.lockSlowMap 1) h₆ trivial rfl
  have h₈ := StepFn.Reach.tail (Action.lockNotifMap 1) h₇ trivial rfl
  have h₉ := StepFn.Reach.tail (Action.notified 1) h₈ trivial rfl
  have hcreated := StepFn.Reach.tail
    (Action.agentCreated 0 "default" (Routing.twoNodes none)) h₉ trivial rfl
  have hinserted := StepFn.Reach.tail (Action.insertAgent 0) hcreated trivial rfl
  exact ⟨_, rfl, rfl, callServed_of_reach (fun _ => true) managerOptions "default"
    (Routing.twoNodes none) manager _ rfl hinserted⟩

/-- The agent of the first call is not made.  Its entry stays, and the second call waits. -/
theorem failedCreation_notServed :
    exists t, StepFn.run (step fun _ => true) manager
        [.getBucketAgent 0 "default", .loadFastMap 0, .lockSlowMap 0, .lockNotifMap 0,
          .agentFailed 0, .getBucketAgent 1 "default", .loadFastMap 1, .lockSlowMap 1,
          .lockNotifMap 1, .notified 1] = some t ∧
      t.phase 0 = .failed ∧ t.phase 1 = .waiting 0 ∧
      (forall k, (t.phase k).creation = none) ∧ ¬ Served (fun _ => true) t := by
  have hrun : exists t, StepFn.run (step fun _ => true) manager
        [.getBucketAgent 0 "default", .loadFastMap 0, .lockSlowMap 0, .lockNotifMap 0,
          .agentFailed 0, .getBucketAgent 1 "default", .loadFastMap 1, .lockSlowMap 1,
          .lockNotifMap 1, .notified 1] = some t ∧
      t.phase 0 = .failed ∧ t.phase 1 = .waiting 0 ∧
      forall k, t.phase (k + 2) = .unborn := ⟨_, rfl, rfl, rfl, fun _ => rfl⟩
  rcases hrun with ⟨t, hrun, hfirst, hsecond, hothers⟩
  have hnone : forall k, (t.phase k).creation = none := by
    intro k
    match k with
    | 0 => rw [hfirst]; rfl
    | 1 => rw [hsecond]; rfl
    | k + 2 => rw [hothers k]; rfl
  refine ⟨t, hrun, hfirst, hsecond, hnone, ?_⟩
  intro hserved
  rcases hserved.waiting 1 0 (by rw [hsecond]; rfl) with ⟨k, _, hk, _⟩
  rw [hnone k] at hk
  cases hk

end AgentManager
end CouchbaseSdk
