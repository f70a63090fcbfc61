import CouchbaseSdk.Agent.Order

/-!
# Agent and config manager

A config is accepted under one lock and applied under another, by three tasks.  When no
task has a config left to apply, the agent should have the latest config of the config
manager.  The order in which the tasks take the second lock decides whether it does.
-/

namespace CouchbaseSdk
namespace Agent

open Foundation
open ConfigManager (Accepted CallId ParsedConfig bucketTypeChanged)

variable {s s' : State} {a : Action} {x y : Accepted} {firstConfig : ParsedConfig}

/-- No task is at work, and no config waits in the channel of the watch task. -/
structure Quiescent (s : State) : Prop where
  idle : forall t, s.tasks t = .idle
  received : s.manager.watcher = .receiving
  seen : forall n, s.seen = some n -> s.manager.sends ≤ n

/-- The agent, its routing table and its endpoints have the latest config. -/
structure Agrees (s : State) : Prop where
  latest : s.latestConfig.config = s.manager.latestConfig.config
  routing : s.routing.config = s.manager.latestConfig.config
  endpoints : s.endpoints.config = s.manager.latestConfig.config

/-- Configs are applied in the order in which they were accepted, and the latest one is
not lost: the watch task listens when it is sent, and its handler is not dropped. -/
def AppliesInOrder (s : State) : Action -> Prop
  | .lock t => forall x, s.tasks t = .queued x -> s.latestConfig.number < x.number
  | .manager .sendReplace =>
      s.manager.watcher = .sending s.manager.latestConfig -> s.seen ≠ none
  | .abandon => s.stateLock ≠ some .notMyVbucket ∧
      s.tasks .notMyVbucket ≠ .queued s.manager.latestConfig
  | _ => True

/-!
# Calls and their tasks
-/

def Running : ConfigManager.Phase -> Prop
  | .unborn | .returned _ => False
  | _ => True

/-- A call that runs was started by a handler, which waits for it. -/
def State.Owned (s : State) : Prop :=
  forall c, Running (s.manager.phase c) -> exists t, s.tasks t = .calling c

theorem running_source {m m' : ConfigManager.State} {b : ConfigManager.Action}
    (h : ConfigManager.Step m b m') (hstarts : starts b = false) {c : CallId}
    (hrunning : Running (m'.phase c)) : Running (m.phase c) := by
  by_cases hactor : b.actor m = some c
  · cases h with
    | deliverAccepted | deliverRefused | publishDelivered | sendReplace => cases hactor
    | outOfBandConfig | outOfBandVersion => cases hstarts
    | upToDate d _ _ hphase | news d _ _ hphase | claim d _ hphase
    | fetchedConfig d _ _ hphase | fetchedNothing d _ hphase | fetchFailed d _ hphase
    | accepted d _ _ hphase | refused d _ hphase | publish d _ hphase | reset d _ hphase
    | notify d _ hphase =>
        cases hactor
        rw [hphase]
        trivial
  · rcases (ConfigManager.idle_of_ne_actor h hactor).2 with hsame | ⟨_, hwait, _⟩
    · rw [← hsame]
      exact hrunning
    · rw [hwait]
      trivial

theorem calling_setTask {t u : Task} {c : CallId} {progress : Progress}
    (hcalling : s.tasks u = .calling c) (htask : s.tasks t ≠ .calling c) :
    (s.setTask t progress).tasks u = .calling c := by
  have hne : u ≠ t := by
    rintro rfl
    exact htask hcalling
  rw [setTask_ne s progress hne]
  exact hcalling

theorem owned_step (h : Step s a s') (howned : s.Owned) : s'.Owned := by
  intro c hrunning
  have hother : forall {t : Task} {progress : Progress}, s.tasks t ≠ .calling c ->
      Running (s.manager.phase c) -> exists u, (s.setTask t progress).tasks u = .calling c := by
    intro t progress htask hrun
    rcases howned c hrun with ⟨u, hu⟩
    exact ⟨u, calling_setTask hu htask⟩
  cases h with
  | manager b manager hstarts hstep => exact howned c (running_source hstep hstarts hrunning)
  | startConfigWatcher => exact howned c hrunning
  | call hcalls hidle =>
      rename_i t request phase
      by_cases hc : c = s.manager.started
      · subst hc
        exact ⟨t, setTask_self s t _⟩
      · refine hother (by rw [hidle]; simp) ?_
        rw [← ConfigManager.start_phase_ne s.manager request phase hc]
        exact hrunning
  | collect t d result htask hphase =>
      have hne : s.tasks t ≠ .calling c := by
        rw [htask]
        rintro ⟨⟩
        have hrun : Running (s.manager.phase c) := hrunning
        rw [hphase] at hrun
        exact hrun
      exact hother hne hrunning
  | changed n hidle => exact hother (by rw [hidle]; simp) hrunning
  | lock t accepted htask | updateVbucketInfo t accepted htask
  | updateEndpoints t accepted htask | abandonQueued accepted htask =>
      exact hother (by rw [htask]; simp) hrunning
  | abandonLocked accepted htask =>
      refine hother ?_ hrunning
      rcases htask with htask | htask
      · rw [htask]
        simp
      · rw [htask]
        simp

/-!
# The channel of the watch task
-/

structure Channel (s : State) : Prop where
  behind : forall x, s.manager.watcher.accepted = some x ->
    s.manager.onNewConfig.number < x.number
  seen : forall n, s.seen = some n -> n ≤ s.manager.sends

theorem behind_step {m m' : ConfigManager.State} {b : ConfigManager.Action}
    (h : ConfigManager.Step m b m') (hbefore : m.Before m.onNewConfig)
    (hbehind : forall x, m.watcher.accepted = some x -> m.onNewConfig.number < x.number)
    (hx : m'.watcher.accepted = some x) : m'.onNewConfig.number < x.number := by
  cases h with
  | deliverAccepted config accepted _ haccepts =>
      cases hx
      rw [(ConfigManager.accepts_some haccepts).2.1]
      change m.onNewConfig.number < m.latestConfig.number + 1
      rcases hbefore with hlatest | hlt
      · rw [hlatest]
        exact Nat.lt_succ_self _
      · exact Nat.lt_succ_of_lt hlt
  | publishDelivered accepted hwatcher =>
      refine hbehind x ?_
      rw [hwatcher]
      exact hx
  | sendReplace accepted => cases hx
  | _ => exact hbehind x hx

theorem sends_le {m m' : ConfigManager.State} {b : ConfigManager.Action}
    (h : ConfigManager.Step m b m') : m.sends ≤ m'.sends := by
  cases h with
  | sendReplace accepted => exact Nat.le_succ _
  | _ => exact Nat.le_refl _

theorem seen_source (h : Step s a s') {n : Nat} (hn : s'.seen = some n) :
    s.seen = some n ∨ n = s'.manager.sends := by
  cases h with
  | startConfigWatcher hseen =>
      cases hn
      exact Or.inr rfl
  | changed m hidle hseen hlt =>
      cases hn
      exact Or.inr rfl
  | _ => exact Or.inl hn

theorem Channel.step (h : Channel s) (hstep : Step s a s') (hdated : s.Dated) :
    Channel s' := by
  rcases manager_step hstep with ⟨b, hmanager⟩ | hsame
  · constructor
    · intro x hx
      exact behind_step hmanager (hdated _ (Or.inl (Or.inr (Or.inl rfl)))) h.behind hx
    · intro n hn
      rcases seen_source hstep hn with hold | rfl
      · exact Nat.le_trans (h.seen n hold) (sends_le hmanager)
      · exact Nat.le_refl _
  · constructor
    · rw [hsame]
      exact h.behind
    · intro n hn
      rcases seen_source hstep hn with hold | rfl
      · rw [hsame]
        exact h.seen n hold
      · exact Nat.le_refl _

/-!
# Configs on their way
-/

/-- The task is to apply the config, or the call it waits for will return it. -/
def State.Brings (s : State) (t : Task) (x : Accepted) : Prop :=
  s.tasks t = .queued x ∨
    exists c, s.tasks t = .calling c ∧ (s.manager.phase c).accepted = some x

/-- The config will still be applied. -/
def State.Outstanding (s : State) (x : Accepted) : Prop :=
  s.manager.watcher.accepted = some x ∨
    (exists n, s.seen = some n ∧ n < s.manager.sends ∧ s.manager.onNewConfig = x) ∨
      exists t, s.Brings t x

theorem brings_setTask {t u : Task} {progress : Progress} (hbrings : s.Brings t x)
    (hne : t ≠ u) : (s.setTask u progress).Brings t x := by
  unfold State.Brings
  rw [setTask_ne s progress hne]
  exact hbrings

theorem ne_of_brings {t u : Task} (hbrings : s.Brings t x) (hqueued : s.tasks u ≠ .queued x)
    (hcalling : forall c, s.tasks u ≠ .calling c) : t ≠ u := by
  rintro rfl
  rcases hbrings with hself | ⟨c, hself, _⟩
  · exact hqueued hself
  · exact hcalling c hself

/-- The watcher hands its config on to the channel. -/
theorem outstanding_of_watcher (h : Step s a s') (hguard : AppliesInOrder s a)
    (hchannel : Channel s) (hx : s.manager.watcher.accepted = some s.manager.latestConfig) :
    s'.Outstanding s.manager.latestConfig := by
  cases h with
  | manager b manager hstarts hstep =>
      cases hstep with
      | deliverAccepted config accepted hreceiving =>
          rw [hreceiving] at hx
          cases hx
      | publishDelivered accepted hpublishing =>
          rw [hpublishing] at hx
          exact Or.inl hx
      | sendReplace accepted hsending =>
          rw [hsending] at hx
          cases hx
          cases hseen : s.seen with
          | none => exact (hguard hsending hseen).elim
          | some n =>
              exact Or.inr (Or.inl ⟨n, rfl, Nat.lt_succ_of_le (hchannel.seen n hseen), rfl⟩)
      | _ => exact Or.inl hx
  | _ => exact Or.inl hx

/-- The channel is emptied by the watch task; nothing newer overwrites the latest one. -/
theorem outstanding_of_channel (h : Step s a s') (hdated : s.Dated) (hchannel : Channel s)
    {n : Nat} (hseen : s.seen = some n) (hlt : n < s.manager.sends)
    (hx : s.manager.onNewConfig = s.manager.latestConfig) :
    s'.Outstanding s.manager.latestConfig := by
  cases h with
  | manager b manager hstarts hstep =>
      cases hstep with
      | sendReplace accepted hsending =>
          have haccepted : s.manager.watcher.accepted = some accepted := by
            rw [hsending]
            rfl
          have hbehind := hchannel.behind accepted haccepted
          rw [hx] at hbehind
          rcases hdated accepted (Or.inl (Or.inr (Or.inr (Or.inl haccepted)))) with
            rfl | hbefore
          · exact (Nat.lt_irrefl _ hbehind).elim
          · exact (Nat.lt_asymm hbehind hbefore).elim
      | _ => exact Or.inr (Or.inl ⟨n, hseen, hlt, hx⟩)
  | startConfigWatcher hnone =>
      rw [hseen] at hnone
      cases hnone
  | changed m hidle =>
      refine Or.inr (Or.inr ⟨.watch, Or.inl ?_⟩)
      rw [setTask_self, hx]
  | _ => exact Or.inr (Or.inl ⟨n, hseen, hlt, hx⟩)

/-- A task goes on with the config it brings, until it takes the lock. -/
theorem outstanding_of_brings (h : Step s a s') (hguard : AppliesInOrder s a)
    (hfresh : s.manager.Fresh) {t : Task} (hx : s.Brings t s.manager.latestConfig) :
    s'.Outstanding s.manager.latestConfig ∨ s'.latestConfig = s.manager.latestConfig := by
  have hmanager : forall {b : ConfigManager.Action} {m : ConfigManager.State},
      ConfigManager.Step s.manager b m ->
        State.Brings { s with manager := m } t s.manager.latestConfig := by
    intro b m hstep
    rcases hx with hqueued | ⟨c, hcalling, haccepted⟩
    · exact Or.inl hqueued
    · exact Or.inr ⟨c, hcalling, ConfigManager.accepted_kept hstep hfresh haccepted⟩
  cases h with
  | manager b manager hstarts hstep => exact Or.inl (Or.inr (Or.inr ⟨t, hmanager hstep⟩))
  | startConfigWatcher => exact Or.inl (Or.inr (Or.inr ⟨t, hx⟩))
  | call hcalls hidle =>
      have hne := ne_of_brings hx (by rw [hidle]; simp) (by rw [hidle]; simp)
      cases hcalls with
      | unsolicited revId revEpoch =>
          exact Or.inl (Or.inr (Or.inr ⟨t, brings_setTask
            (hmanager (.outOfBandVersion revId revEpoch)) hne⟩))
      | notMyVbucket config =>
          exact Or.inl (Or.inr (Or.inr ⟨t, brings_setTask
            (hmanager (.outOfBandConfig config)) hne⟩))
  | collect u c result htask hphase =>
      refine Or.inl (Or.inr (Or.inr ⟨t, ?_⟩))
      by_cases hu : t = u
      · subst hu
        rcases hx with hqueued | ⟨d, hcalling, haccepted⟩
        · exact absurd (hqueued.symm.trans htask) (by simp)
        · cases hcalling.symm.trans htask
          rw [hphase] at haccepted
          cases haccepted
          exact Or.inl (setTask_self s t _)
      · exact brings_setTask hx hu
  | lock u accepted htask hfree =>
      by_cases hu : t = u
      · subst hu
        rcases hx with hqueued | ⟨d, hcalling, _⟩
        · cases hqueued.symm.trans htask
          exact Or.inr rfl
        · exact absurd (hcalling.symm.trans htask) (by simp)
      · exact Or.inl (Or.inr (Or.inr ⟨t, brings_setTask hx hu⟩))
  | changed n hidle hseen =>
      have hne := ne_of_brings hx (by rw [hidle]; simp) (by rw [hidle]; simp)
      exact Or.inl (Or.inr (Or.inr ⟨t, brings_setTask hx hne⟩))
  | updateVbucketInfo u accepted htask | updateEndpoints u accepted htask =>
      have hne := ne_of_brings hx (by rw [htask]; simp) (by rw [htask]; simp)
      exact Or.inl (Or.inr (Or.inr ⟨t, brings_setTask hx hne⟩))
  | abandonQueued accepted htask =>
      have hne := ne_of_brings hx hguard.2 (by rw [htask]; simp)
      exact Or.inl (Or.inr (Or.inr ⟨t, brings_setTask hx hne⟩))
  | abandonLocked accepted htask =>
      have hne : t ≠ .notMyVbucket := by
        rcases htask with htask | htask
        · exact ne_of_brings hx (by rw [htask]; simp) (by rw [htask]; simp)
        · exact ne_of_brings hx (by rw [htask]; simp) (by rw [htask]; simp)
      exact Or.inl (Or.inr (Or.inr ⟨t, brings_setTask hx hne⟩))

/-- The latest config is in place, or it is on its way. -/
def State.Current (s : State) : Prop :=
  s.Outstanding s.manager.latestConfig ∨ s.latestConfig = s.manager.latestConfig

/-- What was the latest config before the step is still on its way or in place. -/
theorem kept_of_current (h : Step s a s') (hguard : AppliesInOrder s a)
    (hfresh : s.manager.Fresh) (hdated : s.Dated) (hchannel : Channel s)
    (hcurrent : s.Current) :
    s'.Outstanding s.manager.latestConfig ∨ s'.latestConfig = s.manager.latestConfig := by
  rcases hcurrent with (hwatcher | ⟨n, hseen, hlt, hnew⟩ | ⟨t, hbrings⟩) | hplace
  · exact Or.inl (outstanding_of_watcher h hguard hchannel hwatcher)
  · exact Or.inl (outstanding_of_channel h hdated hchannel hseen hlt hnew)
  · exact outstanding_of_brings h hguard hfresh hbrings
  · rcases latest_source h with hsame | ⟨t, rfl, hqueued⟩
    · exact Or.inr (hsame.trans hplace)
    · have hlt := hguard _ hqueued
      rw [hplace] at hlt
      have hknows : s.Knows s'.latestConfig := by
        refine Or.inr (Or.inr ⟨t, ?_⟩)
        rw [hqueued]
        rfl
      rcases hdated _ hknows with hlatest | hbefore
      · exact Or.inr hlatest
      · exact (Nat.lt_asymm hlt hbefore).elim

/-- An accepted config is on its way. -/
theorem outstanding_of_accepts (h : Step s a s') (howned : s.Owned)
    (hnew : s'.manager.latestConfig ≠ s.manager.latestConfig) :
    s'.Outstanding s'.manager.latestConfig := by
  cases h with
  | manager b manager hstarts hstep =>
      cases hstep with
      | deliverAccepted config accepted => exact Or.inl rfl
      | accepted c config accepted hphase =>
          rcases howned c (by rw [hphase]; trivial) with ⟨t, ht⟩
          refine Or.inr (Or.inr ⟨t, Or.inr ⟨c, ht, ?_⟩⟩)
          change ((ConfigManager.State.setPhase _ c (.publishing accepted)).phase c).accepted = _
          rw [ConfigManager.setPhase_phase_self]
          rfl
      | _ => exact (hnew rfl).elim
  | _ => exact (hnew rfl).elim

theorem current_step (h : Step s a s') (hguard : AppliesInOrder s a)
    (hfresh : s.manager.Fresh) (hdated : s.Dated) (hchannel : Channel s) (howned : s.Owned)
    (hcurrent : s.Current) : s'.Current := by
  by_cases hsame : s'.manager.latestConfig = s.manager.latestConfig
  · unfold State.Current
    rw [hsame]
    exact kept_of_current h hguard hfresh hdated hchannel hcurrent
  · exact Or.inl (outstanding_of_accepts h howned hsame)

/-!
# The lock of the agent's state
-/

/-- The holder of the lock installs the latest config; otherwise it is installed. -/
structure LockInv (s : State) : Prop where
  free : s.stateLock = none -> s.routing = s.latestConfig ∧ s.endpoints = s.latestConfig
  locked : forall t x, s.tasks t = .locked x -> s.stateLock = some t ∧ s.latestConfig = x
  routed : forall t x, s.tasks t = .routed x ->
    s.stateLock = some t ∧ s.latestConfig = x ∧ s.routing = x
  holder : forall t, s.stateLock = some t ->
    exists x, s.tasks t = .locked x ∨ s.tasks t = .routed x

def Progress.installs : Progress -> Bool
  | .locked _ | .routed _ => true
  | _ => false

theorem LockInv.setTask (h : LockInv s) {t : Task} (progress : Progress)
    (hold : (s.tasks t).installs = false) (hnew : progress.installs = false) :
    LockInv (s.setTask t progress) := by
  have htask : forall u x, (s.setTask t progress).tasks u = .locked x ∨
      (s.setTask t progress).tasks u = .routed x -> u ≠ t := by
    rintro u x hu rfl
    rw [setTask_self] at hu
    rcases hu with rfl | rfl
    · cases hnew
    · cases hnew
  constructor
  · exact h.free
  · intro u x hu
    have hne := htask u x (Or.inl hu)
    rw [setTask_ne s progress hne] at hu
    exact h.locked u x hu
  · intro u x hu
    have hne := htask u x (Or.inr hu)
    rw [setTask_ne s progress hne] at hu
    exact h.routed u x hu
  · intro u hu
    rcases h.holder u hu with ⟨x, hx⟩
    have hne : u ≠ t := by
      rintro rfl
      rcases hx with hx | hx
      · rw [hx] at hold
        cases hold
      · rw [hx] at hold
        cases hold
    rw [setTask_ne s progress hne]
    exact ⟨x, hx⟩

/-- What the lock says when `t` is the only task that may install a config. -/
def LockedFor (s : State) (t : Task) : Progress -> Prop
  | .locked x => s.stateLock = some t ∧ s.latestConfig = x
  | .routed x => s.stateLock = some t ∧ s.latestConfig = x ∧ s.routing = x
  | _ => s.stateLock = none ∧ s.routing = s.latestConfig ∧ s.endpoints = s.latestConfig

theorem lockInv_of_alone {t : Task} {progress : Progress}
    (halone : forall u, u ≠ t -> (s.tasks u).installs = false)
    (hself : LockedFor s t progress) : LockInv (s.setTask t progress) := by
  have htask : forall u, ((s.setTask t progress).tasks u).installs = true ->
      u = t ∧ (s.setTask t progress).tasks u = progress := by
    intro u hu
    by_cases hne : u = t
    · subst hne
      exact ⟨rfl, setTask_self s u progress⟩
    · rw [setTask_ne s progress hne, halone u hne] at hu
      cases hu
  constructor
  · intro hfree
    cases progress with
    | locked x => exact absurd (hfree.symm.trans hself.1) (by simp)
    | routed x => exact absurd (hfree.symm.trans hself.1) (by simp)
    | _ => exact hself.2
  · intro u x hu
    rcases htask u (by rw [hu]; rfl) with ⟨rfl, hprogress⟩
    cases hu.symm.trans hprogress
    exact hself
  · intro u x hu
    rcases htask u (by rw [hu]; rfl) with ⟨rfl, hprogress⟩
    cases hu.symm.trans hprogress
    exact hself
  · intro u hu
    change s.stateLock = some u at hu
    cases progress with
    | locked x =>
        cases hu.symm.trans hself.1
        exact ⟨x, Or.inl (setTask_self s t _)⟩
    | routed x =>
        cases hu.symm.trans hself.1
        exact ⟨x, Or.inr (setTask_self s t _)⟩
    | _ => exact absurd (hu.symm.trans hself.1) (by simp)

/-- A task that installs a config holds the lock. -/
theorem LockInv.installs_false (h : LockInv s) {u : Task} (hlock : s.stateLock ≠ some u) :
    (s.tasks u).installs = false := by
  cases htask : s.tasks u with
  | locked x => exact (hlock (h.locked u x htask).1).elim
  | routed x => exact (hlock (h.routed u x htask).1).elim
  | _ => rfl

theorem LockInv.alone (h : LockInv s) {t : Task} (hlock : s.stateLock = some t) (u : Task)
    (hne : u ≠ t) : (s.tasks u).installs = false := by
  apply h.installs_false
  rw [hlock]
  rintro ⟨⟩
  exact hne rfl

theorem LockInv.step (h : LockInv s) (hstep : Step s a s') (hguard : AppliesInOrder s a) :
    LockInv s' := by
  cases hstep with
  | manager b manager => exact ⟨h.free, h.locked, h.routed, h.holder⟩
  | startConfigWatcher => exact ⟨h.free, h.locked, h.routed, h.holder⟩
  | call hcalls hidle =>
      have hset := h.setTask (.calling s.manager.started) (by rw [hidle]; rfl) rfl
      exact ⟨hset.free, hset.locked, hset.routed, hset.holder⟩
  | collect t c result htask =>
      refine h.setTask _ (by rw [htask]; rfl) ?_
      cases result with
      | _ => rfl
  | changed n hidle =>
      have hset := h.setTask (.queued s.manager.onNewConfig) (by rw [hidle]; rfl) rfl
      exact ⟨hset.free, hset.locked, hset.routed, hset.holder⟩
  | lock t accepted _ hfree =>
      refine lockInv_of_alone (fun u _ => h.installs_false ?_) ⟨rfl, rfl⟩
      rw [hfree]
      simp
  | updateVbucketInfo t accepted htask =>
      rcases h.locked t accepted htask with ⟨hlock, hlatest⟩
      exact lockInv_of_alone (h.alone hlock) ⟨hlock, hlatest, rfl⟩
  | updateEndpoints t accepted htask =>
      rcases h.routed t accepted htask with ⟨hlock, hlatest, hrouting⟩
      exact lockInv_of_alone (h.alone hlock)
        ⟨rfl, hrouting.trans hlatest.symm, hlatest.symm⟩
  | abandonQueued accepted htask => exact h.setTask _ (by rw [htask]; rfl) rfl
  | abandonLocked accepted htask =>
      rcases htask with hlocked | hrouted
      · exact (hguard.1 (h.locked _ _ hlocked).1).elim
      · exact (hguard.1 (h.routed _ _ hrouted).1).elim

/-!
# Agreement
-/

structure AgreementInv (s : State) : Prop where
  fresh : s.manager.Fresh
  dated : s.Dated
  owned : s.Owned
  channel : Channel s
  current : s.Current
  lockInv : LockInv s

theorem initial_agreementInv (firstConfig : ParsedConfig) :
    AgreementInv (initial firstConfig) where
  fresh := ConfigManager.initial_fresh firstConfig
  dated := initial_dated firstConfig
  owned := by
    intro c hrunning
    cases hrunning
  channel := by
    constructor
    · intro x hx
      cases hx
    · intro n hn
      cases hn
  current := Or.inr rfl
  lockInv := by
    constructor
    · intro _
      exact ⟨rfl, rfl⟩
    · intro t x ht
      cases ht
    · intro t x ht
      cases ht
    · intro t ht
      cases ht

theorem manager_fresh_step (h : Step s a s') (hfresh : s.manager.Fresh) :
    s'.manager.Fresh := by
  rcases manager_step h with ⟨b, hstep⟩ | hsame
  · exact ConfigManager.fresh_step hstep hfresh
  · rw [hsame]
    exact hfresh

theorem AgreementInv.step (h : AgreementInv s) (hstep : Step s a s')
    (hguard : AppliesInOrder s a) : AgreementInv s' where
  fresh := manager_fresh_step hstep h.fresh
  dated := dated_step hstep h.dated
  owned := owned_step hstep h.owned
  channel := h.channel.step hstep h.dated
  current := current_step hstep hguard h.fresh h.dated h.channel h.owned h.current
  lockInv := h.lockInv.step hstep hguard

theorem agreementInv_of_reach
    (hreach : StepFn.Reach step AppliesInOrder (initial firstConfig) s) : AgreementInv s :=
  hreach.invariant (initial_agreementInv firstConfig)
    (fun _ _ _ h hguard hstep => h.step (step_inv hstep) hguard)

theorem AgreementInv.agrees (h : AgreementInv s) (hquiescent : Quiescent s) : Agrees s := by
  have hfree : s.stateLock = none := by
    cases hlock : s.stateLock with
    | none => rfl
    | some t =>
        rcases h.lockInv.holder t hlock with ⟨x, hx | hx⟩
        · exact absurd ((hquiescent.idle t).symm.trans hx) (by simp)
        · exact absurd ((hquiescent.idle t).symm.trans hx) (by simp)
  have hlatest : s.latestConfig = s.manager.latestConfig := by
    rcases h.current with (hwatcher | ⟨n, hseen, hlt, _⟩ | ⟨t, hqueued | ⟨c, hcalling, _⟩⟩) | hplace
    · rw [hquiescent.received] at hwatcher
      cases hwatcher
    · exact (Nat.not_lt_of_le (hquiescent.seen n hseen) hlt).elim
    · exact absurd ((hquiescent.idle t).symm.trans hqueued) (by simp)
    · exact absurd ((hquiescent.idle t).symm.trans hcalling) (by simp)
    · exact hplace
  rcases h.lockInv.free hfree with ⟨hrouting, hendpoints⟩
  constructor
  · rw [hlatest]
  · rw [hrouting, hlatest]
  · rw [hendpoints, hlatest]

/-- A config is in place until one that was accepted later replaces it. -/
theorem newer_of_lock (hsorted : s.Sorted) (hstep : Step s a s')
    (hguard : AppliesInOrder s a) :
    s.latestConfig.config.version.rank ≤ s'.latestConfig.config.version.rank := by
  rcases latest_source hstep with hsame | ⟨t, rfl, hqueued⟩
  · rw [hsame]
  · refine le_of_lt (hsorted _ _ (Or.inr (Or.inl rfl)) (Or.inr (Or.inr ⟨t, ?_⟩))
      (hguard _ hqueued))
    rw [hqueued]
    rfl

/-- In every run that applies configs in the order of acceptance and loses none, the
agent has the latest config in every quiescent state; and while the bucket keeps its
type, it never replaces a config by an older one. -/
theorem agrees_of_reach (firstConfig : ParsedConfig) (s : State) :
    (StepFn.Reach step AppliesInOrder (initial firstConfig) s -> Quiescent s -> Agrees s) ∧
    (StepFn.Reach step (fun s a => AppliesInOrder s a ∧ KeepsBucketType s a)
        (initial firstConfig) s ->
      forall a s', AppliesInOrder s a -> step s a = some s' ->
        s.latestConfig.config.version.rank ≤ s'.latestConfig.config.version.rank) := by
  constructor
  · intro hreach hquiescent
    exact (agreementInv_of_reach hreach).agrees hquiescent
  · intro hreach a s' hguard hstep
    exact newer_of_lock (sorted_of_reach (fun _ _ h => h.2) hreach) (step_inv hstep) hguard

/-- A task takes the lock, installs its config and releases the lock. -/
def applied (t : Task) : List Action :=
  [.lock t, .updateVbucketInfo t, .updateEndpoints t]

/-- The watcher's config is applied, and then one from a not-my-vbucket response. -/
def appliedInTurn : List Action :=
  [.startConfigWatcher, .manager (.deliver (.ofRev 2)), .manager .publishDelivered,
    .manager .sendReplace, .changed] ++ applied .watch ++
  [.applyTerseConfig (.ofRev 3), .manager (.handleConfig 0), .manager (.publish 0),
    .collect .notMyVbucket] ++ applied .notMyVbucket

theorem agrees_appliedInTurn :
    exists s, StepFn.run step (initial (.ofRev 1)) appliedInTurn = some s ∧
      s.latestConfig.config = .ofRev 3 ∧ Agrees s := by
  refine ⟨_, rfl, rfl, (agrees_of_reach (.ofRev 1) _).1 ?_ ?_⟩
  · have h₁ : StepFn.Reach step AppliesInOrder (initial (.ofRev 1)) _ :=
      StepFn.Reach.tail Action.startConfigWatcher StepFn.Reach.refl trivial rfl
    have h₂ := StepFn.Reach.tail (Action.manager (.deliver (.ofRev 2))) h₁ trivial rfl
    have h₃ := StepFn.Reach.tail (Action.manager .publishDelivered) h₂ trivial rfl
    have h₄ := StepFn.Reach.tail (Action.manager .sendReplace) h₃ (fun _ => by simp) rfl
    have h₅ := StepFn.Reach.tail Action.changed h₄ trivial rfl
    have h₆ := StepFn.Reach.tail (Action.lock .watch) h₅ (by rintro x ⟨⟩; decide) rfl
    have h₇ := StepFn.Reach.tail (Action.updateVbucketInfo .watch) h₆ trivial rfl
    have h₈ := StepFn.Reach.tail (Action.updateEndpoints .watch) h₇ trivial rfl
    have h₉ := StepFn.Reach.tail (Action.applyTerseConfig (.ofRev 3)) h₈ trivial rfl
    have h₁₀ := StepFn.Reach.tail (Action.manager (.handleConfig 0)) h₉ trivial rfl
    have h₁₁ := StepFn.Reach.tail (Action.manager (.publish 0)) h₁₀ trivial rfl
    have h₁₂ := StepFn.Reach.tail (Action.collect .notMyVbucket) h₁₁ trivial rfl
    have h₁₃ := StepFn.Reach.tail (Action.lock .notMyVbucket) h₁₂ (by rintro x ⟨⟩; decide) rfl
    have h₁₄ := StepFn.Reach.tail (Action.updateVbucketInfo .notMyVbucket) h₁₃ trivial rfl
    exact StepFn.Reach.tail (Action.updateEndpoints .notMyVbucket) h₁₄ trivial rfl
  · constructor
    · intro t
      cases t with
      | _ => rfl
    · rfl
    · intro n hn
      cases hn
      decide

/-- While the bucket keeps its type, a task that takes the lock out of order puts an
older config in the place of a newer one. -/
theorem older_of_lock {t : Task}
    (hreach : StepFn.Reach step KeepsBucketType (initial firstConfig) s)
    (hqueued : s.tasks t = .queued x) (hfree : s.stateLock = none)
    (horder : x.number < s.latestConfig.number) :
    exists s', step s (.lock t) = some s' ∧
      s'.latestConfig.config.version.rank < s.latestConfig.config.version.rank := by
  have hstep : step s (.lock t) =
      some ({ s with latestConfig := x, stateLock := some t }.setTask t (.locked x)) := by
    change lock s t = _
    unfold lock
    rw [hqueued, hfree]
  refine ⟨_, hstep, sorted_of_reach (fun _ _ h => h) hreach _ _ (Or.inr (Or.inr ⟨t, ?_⟩))
    (Or.inr (Or.inl rfl)) horder⟩
  rw [hqueued]
  rfl

/-- The watch task has the watcher's config in hand; a not-my-vbucket response brings a
newer one, which is applied first. -/
def appliedLate : List Action :=
  [.startConfigWatcher, .manager (.deliver (.ofRev 2)), .manager .publishDelivered,
    .manager .sendReplace, .changed, .applyTerseConfig (.ofRev 3),
    .manager (.handleConfig 0), .manager (.publish 0), .collect .notMyVbucket] ++
  applied .notMyVbucket ++ applied .watch

/-- The watcher's config is sent before the watch task listens. -/
def sentEarly : List Action :=
  [.manager (.deliver (.ofRev 2)), .manager .publishDelivered, .manager .sendReplace,
    .startConfigWatcher]

theorem appliedLate_disagrees :
    (exists s, StepFn.run step (initial (.ofRev 1)) appliedLate = some s ∧ Quiescent s ∧
      s.manager.latestConfig.config = .ofRev 3 ∧ s.latestConfig.config = .ofRev 2 ∧
      s.latestConfig.config.version ≠ s.manager.latestConfig.config.version) ∧
    exists s, StepFn.run step (initial (.ofRev 1)) sentEarly = some s ∧ Quiescent s ∧
      s.manager.latestConfig.config = .ofRev 2 ∧ s.latestConfig.config = .ofRev 1 ∧
      s.latestConfig.config.version ≠ s.manager.latestConfig.config.version := by
  constructor
  · refine ⟨_, rfl, ⟨?_, rfl, ?_⟩, rfl, rfl, by decide⟩
    · intro t
      cases t with
      | _ => rfl
    · intro n hn
      cases hn
      decide
  · refine ⟨_, rfl, ⟨fun _ => rfl, rfl, ?_⟩, rfl, rfl, by decide⟩
    intro n hn
    cases hn
    decide

end Agent
end CouchbaseSdk
