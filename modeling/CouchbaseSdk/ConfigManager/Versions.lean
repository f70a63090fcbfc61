import CouchbaseSdk.ConfigManager.Steps

/-!
# Accepted configs

An accepted config is carried by the task that accepted it until that task hands it on.
Every config that is carried was accepted at one time, and later ones are newer unless
the type of the bucket has changed.
-/

namespace CouchbaseSdk
namespace ConfigManager

open Foundation

variable {s s' : State} {a : Action}

def Phase.accepted : Phase -> Option Accepted
  | .publishing accepted => some accepted
  | .settling result | .notifying result | .returned result => result
  | _ => none

def Watcher.accepted : Watcher -> Option Accepted
  | .receiving => none
  | .publishing accepted | .sending accepted => some accepted

/-- The config is the latest one or the last one sent, or a task has it. -/
def State.Carries (s : State) (x : Accepted) : Prop :=
  s.latestConfig = x ∨ s.onNewConfig = x ∨ s.watcher.accepted = some x ∨
    exists c, (s.phase c).accepted = some x

@[simp] theorem answer_accepted (request : Request) (result : Option Accepted) :
    (request.answer result).accepted = result := by
  cases request with
  | _ => rfl

/-!
# Where an accepted config comes from
-/

/-- A call carries what it carried before, or what it has just accepted. -/
theorem accepted_source (h : Step s a s') {c : CallId} {x : Accepted}
    (hx : (s'.phase c).accepted = some x) :
    (s.phase c).accepted = some x ∨
      (a = .handleConfig c ∧ s'.latestConfig = x ∧ exists config, s.accepts config = some x) := by
  by_cases hactor : a.actor s = some c
  · cases h with
    | deliverAccepted | deliverRefused | publishDelivered | sendReplace => cases hactor
    | accepted d config accepted _ haccepts =>
        cases hactor
        rw [setPhase_phase_self] at hx
        cases hx
        exact Or.inr ⟨rfl, rfl, config, haccepts⟩
    | publish d accepted hphase =>
        cases hactor
        rw [setPhase_phase_self, answer_accepted] at hx
        rw [hphase]
        exact Or.inl hx
    | refused d config =>
        cases hactor
        rw [setPhase_phase_self, answer_accepted] at hx
        cases hx
    | reset d _ hphase | notify d _ hphase =>
        cases hactor
        rw [setPhase_phase_self] at hx
        rw [hphase]
        exact Or.inl hx
    | _ =>
        cases hactor
        simp [Phase.accepted] at hx
  · rcases (idle_of_ne_actor h hactor).2 with hsame | ⟨_, _, hcheck⟩
    · exact Or.inl (hsame ▸ hx)
    · rw [hcheck] at hx
      cases hx

theorem carries_source (h : Step s a s') {x : Accepted} (hx : s'.Carries x) :
    s.Carries x ∨ (s'.latestConfig = x ∧ exists config, s.accepts config = some x) := by
  rcases hx with hlatest | hnew | hwatcher | ⟨c, hphase⟩
  · cases h with
    | deliverAccepted config accepted _ haccepts =>
        exact Or.inr ⟨hlatest, config, hlatest ▸ haccepts⟩
    | accepted c config accepted _ haccepts =>
        exact Or.inr ⟨hlatest, config, hlatest ▸ haccepts⟩
    | _ => exact Or.inl (Or.inl hlatest)
  · cases h with
    | sendReplace accepted hsending =>
        refine Or.inl (Or.inr (Or.inr (Or.inl ?_)))
        rw [hsending]
        exact congrArg some hnew
    | _ => exact Or.inl (Or.inr (Or.inl hnew))
  · cases h with
    | deliverAccepted config accepted _ haccepts =>
        cases hwatcher
        exact Or.inr ⟨rfl, config, haccepts⟩
    | publishDelivered accepted hpublishing =>
        refine Or.inl (Or.inr (Or.inr (Or.inl ?_)))
        rw [hpublishing]
        exact hwatcher
    | sendReplace accepted => cases hwatcher
    | _ => exact Or.inl (Or.inr (Or.inr (Or.inl hwatcher)))
  · rcases accepted_source h hphase with hold | ⟨_, hlatest, haccepts⟩
    · exact Or.inl (Or.inr (Or.inr (Or.inr ⟨c, hold⟩)))
    · exact Or.inr ⟨hlatest, haccepts⟩

/-- A call keeps what it carries. -/
theorem accepted_kept (h : Step s a s') (hfresh : s.Fresh) {c : CallId} {x : Accepted}
    (hx : (s.phase c).accepted = some x) : (s'.phase c).accepted = some x := by
  have hwait : s.phase c ≠ .waiting := by
    intro hphase
    rw [hphase] at hx
    cases hx
  by_cases hactor : a.actor s = some c
  · cases h with
    | deliverAccepted | deliverRefused | publishDelivered | sendReplace => cases hactor
    | outOfBandConfig | outOfBandVersion =>
        cases hactor
        rw [hfresh _ (Nat.le_refl _)] at hx
        cases hx
    | publish d accepted hphase =>
        cases hactor
        rw [hphase] at hx
        rw [setPhase_phase_self, answer_accepted]
        exact hx
    | reset d _ hphase | notify d _ hphase =>
        cases hactor
        rw [hphase] at hx
        rw [setPhase_phase_self]
        exact hx
    | upToDate d _ _ hphase | news d _ _ hphase | claim d _ hphase
    | fetchedConfig d _ _ hphase | fetchedNothing d _ hphase | fetchFailed d _ hphase
    | accepted d _ _ hphase | refused d _ hphase =>
        cases hactor
        rw [hphase] at hx
        cases hx
  · rw [phase_kept h hactor hwait]
    exact hx

/-!
# The order of acceptance
-/

/-- The config is the latest one, or it was accepted before. -/
def State.Before (s : State) (x : Accepted) : Prop :=
  x = s.latestConfig ∨ x.number < s.latestConfig.number

/-- The latest config is replaced by one that the watcher or a caller brings. -/
theorem latestConfig_step (h : Step s a s') :
    s'.latestConfig = s.latestConfig ∨
      exists config, s.accepts config = some s'.latestConfig ∧
        (a = .deliver config ∨ exists c, a = .handleConfig c ∧ s.phase c = .handling config) := by
  cases h with
  | deliverAccepted config accepted _ haccepts =>
      exact Or.inr ⟨config, haccepts, Or.inl rfl⟩
  | accepted c config accepted hphase haccepts =>
      exact Or.inr ⟨config, haccepts, Or.inr ⟨c, rfl, hphase⟩⟩
  | _ => exact Or.inl rfl

theorem before_step (h : Step s a s') {x : Accepted} (hx : s.Before x) : s'.Before x := by
  rcases latestConfig_step h with hsame | ⟨config, haccepts, _⟩
  · unfold State.Before
    rw [hsame]
    exact hx
  · refine Or.inr ?_
    rw [(accepts_some haccepts).2.1]
    rcases hx with rfl | hlt
    · exact Nat.lt_succ_self _
    · exact Nat.lt_succ_of_lt hlt

end ConfigManager
end CouchbaseSdk

/-!
# The latest version

The lock decides which config is the latest one, and the published version follows
after the lock was released.  Versions can be published in another order than the one
in which their configs were accepted.
-/

namespace CouchbaseSdk
namespace ConfigManager

open Foundation

variable {s s' : State} {a : Action}

/-- Accepted, with the version not published yet. -/
def State.Publishing (s : State) (accepted : Accepted) : Prop :=
  s.watcher = .publishing accepted ∨ exists c, s.phase c = .publishing accepted

/-- The version of every accepted config has been published. -/
def State.Quiescent (s : State) : Prop :=
  forall accepted, ¬ s.Publishing accepted

/-- The latest config stays, or it changes the type of the bucket, or it increases. -/
def Advances (s s' : State) : Prop :=
  s'.latestConfig = s.latestConfig ∨
    bucketTypeChanged s'.latestConfig.config.bucket s.latestConfig.config.bucket = true ∨
      s.latestConfig.config.version.rank < s'.latestConfig.config.version.rank

/-- A version is published if it is the latest one, or while the latest one is still to
be published. -/
def PublishesInTime (s : State) : Action -> Prop
  | .publish c => forall accepted, s.phase c = .publishing accepted ->
      accepted.config.version = s.latestConfig.config.version ∨
        s.Publishing s.latestConfig
  | .publishDelivered => forall accepted, s.watcher = .publishing accepted ->
      accepted.config.version = s.latestConfig.config.version ∨
        s.Publishing s.latestConfig
  | _ => True

/-!
# The latest config increases
-/

theorem advances_of_accepts {config : ParsedConfig} {accepted : Accepted}
    (haccepts : s.accepts config = some accepted) (hlatest : s'.latestConfig = accepted) :
    Advances s s' := by
  rcases accepts_some haccepts with ⟨rfl, _, hcan⟩
  unfold Advances
  rw [hlatest]
  exact Or.inr ((canUpdateConfig_iff _ _).mp hcan)

theorem advances_step (h : Step s a s') : Advances s s' := by
  cases h with
  | deliverAccepted config accepted _ haccepts => exact advances_of_accepts haccepts rfl
  | accepted c config accepted _ haccepts => exact advances_of_accepts haccepts rfl
  | _ => exact Or.inl rfl

/-!
# The published version
-/

/-- The latest version is out, or it is on its way. -/
def State.Announced (s : State) : Prop :=
  s.latestVersion = s.latestConfig.config.version ∨ s.Publishing s.latestConfig

theorem publishing_kept (h : Step s a s') (hfresh : s.Fresh) {accepted : Accepted}
    (hpublishing : s.Publishing accepted) :
    s'.Publishing accepted ∨
      (a = .publishDelivered ∧ s.watcher = .publishing accepted) ∨
        exists c, a = .publish c ∧ s.phase c = .publishing accepted := by
  rcases hpublishing with hwatcher | ⟨c, hphase⟩
  · cases h with
    | deliverAccepted config other hreceiving =>
        exact absurd (hwatcher.symm.trans hreceiving) (by simp)
    | publishDelivered other => exact Or.inr (Or.inl ⟨rfl, hwatcher⟩)
    | sendReplace other hsending => exact absurd (hwatcher.symm.trans hsending) (by simp)
    | _ => exact Or.inl (Or.inl hwatcher)
  · by_cases hactor : a.actor s = some c
    · have hacts : forall d phase, s.phase d = phase -> some d = some c ->
          phase = .publishing accepted := by
        rintro d phase hd ⟨⟩
        exact hd.symm.trans hphase
      cases h with
      | publish d other => exact Or.inr (Or.inr ⟨d, rfl, by cases hactor; exact hphase⟩)
      | deliverAccepted | deliverRefused | publishDelivered | sendReplace => cases hactor
      | outOfBandConfig | outOfBandVersion =>
          cases hactor
          exact absurd ((hfresh _ (Nat.le_refl _)).symm.trans hphase) (by simp)
      | upToDate d _ _ hd | news d _ _ hd | claim d _ hd | fetchedConfig d _ _ hd
      | fetchedNothing d _ hd | fetchFailed d _ hd | accepted d _ _ hd | refused d _ hd
      | reset d _ hd | notify d _ hd =>
          cases hacts d _ hd hactor
    · have hkept := phase_kept h hactor (by rw [hphase]; simp)
      exact Or.inl (Or.inr ⟨c, hkept.trans hphase⟩)

/-- Publishing one version leaves the latest one announced, if it was in time. -/
theorem announced_of_publish {accepted : Accepted} (h : Step s a s') (hfresh : s.Fresh)
    (hlatest : s'.latestConfig = s.latestConfig)
    (hversion : s'.latestVersion = accepted.config.version)
    (honly : (a = .publishDelivered ∧ s.watcher = .publishing accepted) ∨
      exists c, a = .publish c ∧ s.phase c = .publishing accepted)
    (htime : accepted.config.version = s.latestConfig.config.version ∨
      s.Publishing s.latestConfig) :
    s'.Announced := by
  unfold State.Announced
  rw [hlatest, hversion]
  rcases htime with hsame | hpublishing
  · exact Or.inl hsame
  · rcases publishing_kept h hfresh hpublishing with hkept | ⟨rfl, hwatcher⟩ | ⟨c, rfl, hphase⟩
    · exact Or.inr hkept
    · rcases honly with ⟨_, hwatcher'⟩ | ⟨d, hd, _⟩
      · cases hwatcher.symm.trans hwatcher'
        exact Or.inl rfl
      · cases hd
    · rcases honly with ⟨hd, _⟩ | ⟨d, hd, hphase'⟩
      · cases hd
      · cases hd
        cases hphase.symm.trans hphase'
        exact Or.inl rfl

theorem announced_step (h : Step s a s') (hfresh : s.Fresh) (hguard : PublishesInTime s a)
    (hannounced : s.Announced) : s'.Announced := by
  have hother : s'.latestConfig = s.latestConfig -> s'.latestVersion = s.latestVersion ->
      a ≠ .publishDelivered -> (forall c, a ≠ .publish c) -> s'.Announced := by
    intro hlatest hversion hdelivered hpublish
    unfold State.Announced
    rw [hlatest, hversion]
    rcases hannounced with hout | hpublishing
    · exact Or.inl hout
    · rcases publishing_kept h hfresh hpublishing with hkept | ⟨rfl, _⟩ | ⟨c, rfl, _⟩
      · exact Or.inr hkept
      · exact (hdelivered rfl).elim
      · exact (hpublish c rfl).elim
  cases h with
  | deliverAccepted config accepted => exact Or.inr (Or.inl rfl)
  | accepted c config accepted => exact Or.inr (Or.inr ⟨c, setPhase_phase_self _ c _⟩)
  | publishDelivered accepted hwatcher =>
      exact announced_of_publish (Step.publishDelivered accepted hwatcher) hfresh rfl rfl
        (Or.inl ⟨rfl, hwatcher⟩) (hguard accepted hwatcher)
  | publish c accepted hphase =>
      exact announced_of_publish (Step.publish c accepted hphase) hfresh rfl rfl
        (Or.inr ⟨c, rfl, hphase⟩) (hguard accepted hphase)
  | _ => exact hother rfl rfl (by simp) (by simp)

theorem announced_of_reach {firstConfig : ParsedConfig}
    (hreach : StepFn.Reach step PublishesInTime (initial firstConfig) s) : s.Announced :=
  hreach.invariant_with (fun _ h => fresh_of_reach h) (Or.inl rfl)
    (fun _ _ _ hfresh hannounced hguard hstep =>
      announced_step (step_inv hstep) hfresh hguard hannounced)

/-- In every run the latest config increases at every change but one of the bucket type,
and in every run that publishes in time the published version is the latest one whenever
all versions are out. -/
theorem versions_of_reach (firstConfig : ParsedConfig) (s : State) :
    (StepFn.Reach step StepFn.Always (initial firstConfig) s ->
      forall a s', step s a = some s' -> Advances s s') ∧
    (StepFn.Reach step PublishesInTime (initial firstConfig) s ->
      s.Quiescent -> s.latestVersion = s.latestConfig.config.version) := by
  constructor
  · intro _ a s' hstep
    exact advances_step (step_inv hstep)
  · intro hreach hquiescent
    rcases announced_of_reach hreach with hout | hpublishing
    · exact hout
    · exact (hquiescent _ hpublishing).elim

/-- The watcher and a caller accept a config each; their versions are published in the
order in which the configs were accepted. -/
def publishedInOrder : List Action :=
  [.deliver (.ofRev 2), .outOfBandConfig (.ofRev 3), .handleConfig 0, .publishDelivered,
    .publish 0]

theorem versions_publishedInOrder :
    (exists s, step (initial (.ofRev 1)) (.deliver (.ofRev 2)) = some s ∧
      Advances (initial (.ofRev 1)) s) ∧
    exists s, StepFn.run step (initial (.ofRev 1)) publishedInOrder = some s ∧
      s.latestConfig.config = .ofRev 3 ∧
      s.latestVersion = s.latestConfig.config.version := by
  constructor
  · exact ⟨_, rfl, (versions_of_reach (.ofRev 1) _).1 StepFn.Reach.refl
      (.deliver (.ofRev 2)) _ rfl⟩
  · refine ⟨_, rfl, rfl, ?_⟩
    apply (versions_of_reach (.ofRev 1) _).2
    · have h₁ : StepFn.Reach step PublishesInTime (initial (.ofRev 1)) _ :=
        StepFn.Reach.tail (Action.deliver (.ofRev 2)) StepFn.Reach.refl trivial rfl
      have h₂ := StepFn.Reach.tail (Action.outOfBandConfig (.ofRev 3)) h₁ trivial rfl
      have h₃ := StepFn.Reach.tail (Action.handleConfig 0) h₂ trivial rfl
      have h₄ := StepFn.Reach.tail Action.publishDelivered h₃
        (fun _ _ => Or.inr (Or.inr ⟨0, rfl⟩)) rfl
      exact StepFn.Reach.tail (Action.publish 0) h₄
        (fun _ _ => Or.inr (Or.inr ⟨0, rfl⟩)) rfl
    · rintro accepted (hwatcher | ⟨c, hphase⟩)
      · cases hwatcher
      · match c with
        | 0 => cases hphase
        | c + 1 => cases hphase

/-- A call that publishes too late, with no other version on its way, leaves an outdated
version behind for good. -/
theorem outdated_of_publish {c : CallId} {accepted : Accepted}
    (hphase : s.phase c = .publishing accepted)
    (hlate : accepted.config.version ≠ s.latestConfig.config.version)
    (hwatcher : forall other, s.watcher ≠ .publishing other)
    (hcalls : forall d other, s.phase d = .publishing other -> d = c) :
    exists s', step s (.publish c) = some s' ∧ s'.Quiescent ∧
      s'.latestVersion ≠ s'.latestConfig.config.version := by
  have hstep : step s (.publish c) =
      some ((s.sendVersion accepted).setPhase c ((s.request c).answer (some accepted))) := by
    change publish s c = _
    unfold publish
    rw [hphase]
  refine ⟨_, hstep, ?_, hlate⟩
  rintro other (hw | ⟨d, hd⟩)
  · exact hwatcher other hw
  · by_cases hdc : d = c
    · subst hdc
      rw [setPhase_phase_self] at hd
      cases hrequest : s.request d with
      | _ =>
          rw [hrequest] at hd
          cases hd
    · rw [setPhase_phase_ne _ _ hdc] at hd
      exact hdc (hcalls d other hd)

/-- The watcher accepts a config, a caller accepts a newer one and publishes its version,
and then the watcher publishes. -/
def publishedLate : List Action :=
  [.deliver (.ofRev 2), .outOfBandConfig (.ofRev 3), .handleConfig 0, .publish 0,
    .publishDelivered]

theorem publishedLate_outdated :
    exists s, StepFn.run step (initial (.ofRev 1)) publishedLate = some s ∧ s.Quiescent ∧
      s.latestConfig.config = .ofRev 3 ∧ s.latestVersion = (ParsedConfig.ofRev 2).version ∧
      s.latestVersion ≠ s.latestConfig.config.version := by
  refine ⟨_, rfl, ?_, rfl, rfl, by decide⟩
  rintro accepted (hwatcher | ⟨c, hphase⟩)
  · cases hwatcher
  · match c with
    | 0 => cases hphase
    | c + 1 => cases hphase

end ConfigManager
end CouchbaseSdk
