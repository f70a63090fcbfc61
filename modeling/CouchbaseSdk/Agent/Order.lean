import CouchbaseSdk.Agent.Model

/-!
# The order of the agent's configs

Every config that the agent or one of its tasks has was accepted by the config manager,
so the order of acceptance is an order on all of them.  As long as the bucket keeps its
type, it is the order of their versions.
-/

namespace CouchbaseSdk
namespace Agent

open Foundation
open ConfigManager (Accepted CallId ParsedConfig bucketTypeChanged)

variable {s s' : State} {a : Action} {x y : Accepted}

/-- The config that a task is to apply or is applying. -/
def Progress.accepted : Progress -> Option Accepted
  | .queued accepted | .locked accepted | .routed accepted => some accepted
  | .idle | .calling _ => none

@[simp] theorem answered_accepted (result : Option Accepted) :
    (Progress.answered result).accepted = result := by
  cases result with
  | _ => rfl

def State.Knows (s : State) (x : Accepted) : Prop :=
  s.manager.Carries x ∨ s.latestConfig = x ∨ exists t, (s.tasks t).accepted = some x

/-!
# Where a config comes from
-/

theorem accepted_setTask {t u : Task} {progress : Progress}
    (h : ((s.setTask t progress).tasks u).accepted = some x) :
    progress.accepted = some x ∨ (s.tasks u).accepted = some x := by
  by_cases hu : u = t
  · subst hu
    rw [setTask_self] at h
    exact Or.inl h
  · rw [setTask_ne s progress hu] at h
    exact Or.inr h

/-- A task has what it had before, or what the config manager carries. -/
theorem task_source (h : Step s a s') {t : Task} (hx : (s'.tasks t).accepted = some x) :
    (exists u, (s.tasks u).accepted = some x) ∨ s.manager.Carries x := by
  cases h with
  | manager b manager => exact Or.inl ⟨t, hx⟩
  | startConfigWatcher => exact Or.inl ⟨t, hx⟩
  | call hcalls hidle =>
      rcases accepted_setTask hx with hself | hold
      · cases hself
      · exact Or.inl ⟨t, hold⟩
  | collect u c result htask hphase =>
      rcases accepted_setTask hx with hself | hold
      · refine Or.inr (Or.inr (Or.inr (Or.inr ⟨c, ?_⟩)))
        rw [answered_accepted] at hself
        rw [hphase]
        exact hself
      · exact Or.inl ⟨t, hold⟩
  | changed n hidle hseen hlt =>
      rcases accepted_setTask hx with hself | hold
      · cases hself
        exact Or.inr (Or.inr (Or.inl rfl))
      · exact Or.inl ⟨t, hold⟩
  | lock u accepted htask | updateVbucketInfo u accepted htask =>
      rcases accepted_setTask hx with hself | hold
      · refine Or.inl ⟨u, ?_⟩
        rw [htask]
        exact hself
      · exact Or.inl ⟨t, hold⟩
  | updateEndpoints | abandonQueued | abandonLocked =>
      rcases accepted_setTask hx with hself | hold
      · cases hself
      · exact Or.inl ⟨t, hold⟩

theorem latest_source (h : Step s a s') :
    s'.latestConfig = s.latestConfig ∨
      exists t, a = .lock t ∧ s.tasks t = .queued s'.latestConfig := by
  cases h with
  | lock t accepted hqueued => exact Or.inr ⟨t, rfl, hqueued⟩
  | _ => exact Or.inl rfl

theorem knows_source (h : Step s a s') (hx : s'.Knows x) :
    s.Knows x ∨
      (s'.manager.latestConfig = x ∧ exists config, s.manager.accepts config = some x) := by
  rcases hx with hcarries | hlatest | ⟨t, htask⟩
  · rcases manager_step h with ⟨b, hstep⟩ | hsame
    · rcases ConfigManager.carries_source hstep hcarries with hold | hnew
      · exact Or.inl (Or.inl hold)
      · exact Or.inr hnew
    · rw [hsame] at hcarries
      exact Or.inl (Or.inl hcarries)
  · rcases latest_source h with hsame | ⟨t, _, hqueued⟩
    · exact Or.inl (Or.inr (Or.inl (hsame.symm.trans hlatest)))
    · refine Or.inl (Or.inr (Or.inr ⟨t, ?_⟩))
      rw [hqueued, hlatest]
      rfl
  · rcases task_source h htask with hold | hcarries
    · exact Or.inl (Or.inr (Or.inr hold))
    · exact Or.inl (Or.inl hcarries)

/-!
# Before the latest one
-/

/-- Every config was accepted no later than the latest one. -/
def State.Dated (s : State) : Prop :=
  forall x, s.Knows x -> s.manager.Before x

theorem initial_knows {firstConfig : ParsedConfig} (h : (initial firstConfig).Knows x) :
    x = { config := firstConfig, number := 0 } := by
  rcases h with (hx | hx | hx | ⟨c, hx⟩) | hx | ⟨t, hx⟩
  · exact hx.symm
  · exact hx.symm
  · cases hx
  · cases hx
  · exact hx.symm
  · cases hx

theorem initial_dated (firstConfig : ParsedConfig) : (initial firstConfig).Dated :=
  fun _ hx => Or.inl (initial_knows hx)

theorem dated_step (h : Step s a s') (hdated : s.Dated) : s'.Dated := by
  intro x hx
  rcases knows_source h hx with hold | ⟨hnew, _⟩
  · rcases manager_step h with ⟨b, hstep⟩ | hsame
    · exact ConfigManager.before_step hstep (hdated x hold)
    · rw [hsame]
      exact hdated x hold
  · exact Or.inl hnew.symm

theorem dated_of_reach {guard : State -> Action -> Prop} {firstConfig : ParsedConfig}
    (hreach : StepFn.Reach step guard (initial firstConfig) s) : s.Dated :=
  hreach.invariant (initial_dated firstConfig)
    (fun _ _ _ hdated _ hstep => dated_step (step_inv hstep) hdated)

/-!
# Versions
-/

/-- The config that is about to be handled does not change the type of the bucket. -/
def KeepsBucketType (s : State) : Action -> Prop
  | .manager (.deliver config) =>
      bucketTypeChanged config.bucket s.manager.latestConfig.config.bucket = false
  | .manager (.handleConfig c) => forall config, s.manager.phase c = .handling config ->
      bucketTypeChanged config.bucket s.manager.latestConfig.config.bucket = false
  | _ => True

/-- Configs that were accepted later have a greater version. -/
def State.Sorted (s : State) : Prop :=
  forall x y, s.Knows x -> s.Knows y -> x.number < y.number ->
    x.config.version.rank < y.config.version.rank

/-- What is accepted while the bucket keeps its type is newer. -/
theorem newer_of_accepts {config : ParsedConfig}
    (haccepts : s.manager.accepts config = some x)
    (hkeeps : bucketTypeChanged config.bucket s.manager.latestConfig.config.bucket = false) :
    s.manager.latestConfig.config.version.rank < x.config.version.rank := by
  rcases ConfigManager.accepts_some haccepts with ⟨hconfig, _, hcan⟩
  rw [hconfig]
  rcases (ConfigManager.canUpdateConfig_iff _ _).mp hcan with hchanged | hlt
  · rw [hkeeps] at hchanged
    cases hchanged
  · exact hlt

theorem newer_of_step (h : Step s a s') (hkeeps : KeepsBucketType s a)
    (hnew : s'.manager.latestConfig ≠ s.manager.latestConfig) :
    s.manager.latestConfig.config.version.rank <
      s'.manager.latestConfig.config.version.rank := by
  cases h with
  | manager b manager hstarts hstep =>
      rcases ConfigManager.latestConfig_step hstep with
        hsame | ⟨config, haccepts, rfl | ⟨c, rfl, hphase⟩⟩
      · exact (hnew hsame).elim
      · exact newer_of_accepts haccepts hkeeps
      · exact newer_of_accepts haccepts (hkeeps config hphase)
  | _ => exact (hnew rfl).elim

theorem sorted_step (h : Step s a s') (hdated : s.Dated) (hkeeps : KeepsBucketType s a)
    (hsorted : s.Sorted) : s'.Sorted := by
  intro x y hx hy hlt
  rcases knows_source h hy with hyold | ⟨hylatest, configy, hyaccepts⟩
  · rcases knows_source h hx with hxold | ⟨_, config, haccepts⟩
    · exact hsorted x y hxold hyold hlt
    · have hnumber := (ConfigManager.accepts_some haccepts).2.1
      rcases hdated y hyold with rfl | hbefore
      · omega
      · omega
  · have hnumber := (ConfigManager.accepts_some hyaccepts).2.1
    have hnew : s'.manager.latestConfig ≠ s.manager.latestConfig := by
      intro hsame
      rw [← hylatest, hsame] at hnumber
      exact Nat.ne_of_lt (Nat.lt_succ_self _) hnumber
    have hnewer := newer_of_step h hkeeps hnew
    rw [hylatest] at hnewer
    rcases knows_source h hx with hxold | ⟨hxlatest, _⟩
    · rcases hdated x hxold with rfl | hbefore
      · exact hnewer
      · exact lt_trans (hsorted x _ hxold (Or.inl (Or.inl rfl)) hbefore) hnewer
    · rw [← hxlatest, ← hylatest] at hlt
      exact (Nat.lt_irrefl _ hlt).elim

theorem sorted_of_reach {guard : State -> Action -> Prop} {firstConfig : ParsedConfig}
    (hguard : forall s a, guard s a -> KeepsBucketType s a)
    (hreach : StepFn.Reach step guard (initial firstConfig) s) : s.Sorted := by
  refine hreach.invariant_with (fun _ h => dated_of_reach h) ?_ ?_
  · intro x y hx hy hlt
    rw [initial_knows hx, initial_knows hy] at hlt
    exact (Nat.lt_irrefl _ hlt).elim
  · intro t a u hdated hsorted hguarded hstep
    exact sorted_step (step_inv hstep) hdated (hguard t a hguarded) hsorted

end Agent
end CouchbaseSdk
