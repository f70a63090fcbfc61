import CouchbaseSdk.ConfigManager.Model

/-!
# What a step of the config manager can do

The step function is inverted once.  A caller never waits for the fetch of another one:
the compare-exchange never answers `Ok(true)`, which is what the source asks for.
-/

namespace CouchbaseSdk
namespace ConfigManager

open Foundation

/-!
# Reading updated states
-/

theorem setPhase_calls_self (s : State) (c : CallId) (phase : Phase) :
    (s.setPhase c phase).calls c = { s.calls c with phase := phase } := by
  unfold State.setPhase
  exact Function.update_self ..

theorem setPhase_calls_ne (s : State) {c d : CallId} (phase : Phase) (h : d ≠ c) :
    (s.setPhase c phase).calls d = s.calls d := by
  unfold State.setPhase
  exact Function.update_of_ne h ..

@[simp] theorem setPhase_phase_self (s : State) (c : CallId) (phase : Phase) :
    (s.setPhase c phase).phase c = phase := by
  unfold State.phase
  rw [setPhase_calls_self]

theorem setPhase_phase_ne (s : State) {c d : CallId} (phase : Phase) (h : d ≠ c) :
    (s.setPhase c phase).phase d = s.phase d := by
  unfold State.phase
  rw [setPhase_calls_ne s phase h]

@[simp] theorem setPhase_request (s : State) (c d : CallId) (phase : Phase) :
    (s.setPhase c phase).request d = s.request d := by
  unfold State.request
  by_cases h : d = c
  · subst h
    rw [setPhase_calls_self]
  · rw [setPhase_calls_ne s phase h]

theorem start_calls_self (s : State) (request : Request) (phase : Phase) :
    (s.start request phase).calls s.started = { request := request, phase := phase } := by
  unfold State.start
  exact Function.update_self ..

theorem start_calls_ne (s : State) (request : Request) (phase : Phase) {d : CallId}
    (h : d ≠ s.started) : (s.start request phase).calls d = s.calls d := by
  unfold State.start
  exact Function.update_of_ne h ..

@[simp] theorem start_phase_self (s : State) (request : Request) (phase : Phase) :
    (s.start request phase).phase s.started = phase := by
  unfold State.phase
  rw [start_calls_self]

theorem start_phase_ne (s : State) (request : Request) (phase : Phase) {d : CallId}
    (h : d ≠ s.started) : (s.start request phase).phase d = s.phase d := by
  unfold State.phase
  rw [start_calls_ne s request phase h]

/-- Only waiting calls are touched. -/
theorem notifyWaiters_phase (s : State) (c : CallId) :
    s.notifyWaiters.phase c = s.phase c ∨
      (s.phase c = .waiting ∧ s.notifyWaiters.phase c = .checking) := by
  change (s.phase c).notified = s.phase c ∨
    (s.phase c = .waiting ∧ (s.phase c).notified = .checking)
  cases s.phase c with
  | waiting => exact Or.inr ⟨rfl, rfl⟩
  | _ => exact Or.inl rfl

/-!
# The compare-exchange
-/

/-- The value that comes back in `ok` is the expected one, so it is never `true`. -/
theorem compareExchange_ne_true (cell : Bool) :
    (compareExchange cell false true).1 ≠ .ok true := by
  cases cell with
  | false => simp [compareExchange]
  | true => simp [compareExchange]

theorem compareExchange_cell (cell : Bool) :
    (compareExchange cell false true).2 = true := by
  cases cell with
  | false => rfl
  | true => rfl

/-- Whatever the flag is, the caller goes on to fetch. -/
theorem claim_eq {s : State} {c : CallId} {known : ConfigVersion}
    (hphase : s.phase c = .claiming known) :
    claim s c =
      some ({ s with performingOutOfBandFetch := true }.setPhase c (.fetching known)) := by
  unfold claim
  rw [hphase]
  dsimp only
  rw [compareExchange_cell]
  split
  · rename_i heq
    exact (compareExchange_ne_true _ heq).elim
  · rfl

/-!
# The steps
-/

inductive Step (s : State) : Action -> State -> Prop where
  | deliverAccepted (config : ParsedConfig) (accepted : Accepted) :
      s.watcher = .receiving -> s.accepts config = some accepted ->
        Step s (.deliver config) { s.accept accepted with watcher := .publishing accepted }
  | deliverRefused (config : ParsedConfig) :
      s.watcher = .receiving -> s.accepts config = none -> Step s (.deliver config) s
  | publishDelivered (accepted : Accepted) :
      s.watcher = .publishing accepted ->
        Step s .publishDelivered { s.sendVersion accepted with watcher := .sending accepted }
  | sendReplace (accepted : Accepted) :
      s.watcher = .sending accepted ->
        Step s .sendReplace
          { s with onNewConfig := accepted, sends := s.sends + 1, watcher := .receiving }
  | outOfBandConfig (config : ParsedConfig) :
      Step s (.outOfBandConfig config) (s.start .config (.handling config))
  | outOfBandVersion (revId revEpoch : Int) :
      Step s (.outOfBandVersion revId revEpoch) (s.start (.version revId revEpoch) .checking)
  | upToDate (c : CallId) (revId revEpoch : Int) :
      s.phase c = .checking -> s.request c = .version revId revEpoch ->
        s.knows revId revEpoch = true ->
          Step s (.checkVersion c) (s.setPhase c (.returned none))
  | news (c : CallId) (revId revEpoch : Int) :
      s.phase c = .checking -> s.request c = .version revId revEpoch ->
        s.knows revId revEpoch = false ->
          Step s (.checkVersion c) (s.setPhase c (.claiming s.latestConfig.config.version))
  | claim (c : CallId) (known : ConfigVersion) :
      s.phase c = .claiming known ->
        Step s (.claim c)
          ({ s with performingOutOfBandFetch := true }.setPhase c (.fetching known))
  | fetchedConfig (c : CallId) (known : ConfigVersion) (config : ParsedConfig) :
      s.phase c = .fetching known ->
        Step s (.pollOne c (.config config)) (s.setPhase c (.handling config))
  | fetchedNothing (c : CallId) (known : ConfigVersion) :
      s.phase c = .fetching known ->
        Step s (.pollOne c .nothing) (s.setPhase c (.settling none))
  | fetchFailed (c : CallId) (known : ConfigVersion) :
      s.phase c = .fetching known ->
        Step s (.pollOne c .failed) (s.setPhase c (.returned none))
  | accepted (c : CallId) (config : ParsedConfig) (accepted : Accepted) :
      s.phase c = .handling config -> s.accepts config = some accepted ->
        Step s (.handleConfig c) ((s.accept accepted).setPhase c (.publishing accepted))
  | refused (c : CallId) (config : ParsedConfig) :
      s.phase c = .handling config -> s.accepts config = none ->
        Step s (.handleConfig c) (s.setPhase c ((s.request c).answer none))
  | publish (c : CallId) (accepted : Accepted) :
      s.phase c = .publishing accepted ->
        Step s (.publish c)
          ((s.sendVersion accepted).setPhase c ((s.request c).answer (some accepted)))
  | reset (c : CallId) (result : Option Accepted) :
      s.phase c = .settling result ->
        Step s (.reset c)
          ({ s with performingOutOfBandFetch := false }.setPhase c (.notifying result))
  | notify (c : CallId) (result : Option Accepted) :
      s.phase c = .notifying result ->
        Step s (.notify c) (s.notifyWaiters.setPhase c (.returned result))

section
variable {s s' : State} {c : CallId}

theorem deliver_inv {config : ParsedConfig} (h : deliver s config = some s') :
    Step s (.deliver config) s' := by
  unfold deliver at h
  split at h
  · rename_i hwatcher
    split at h
    · rename_i accepted haccepts
      cases h
      exact Step.deliverAccepted config accepted hwatcher haccepts
    · rename_i haccepts
      cases h
      exact Step.deliverRefused config hwatcher haccepts
  · cases h

theorem publishDelivered_inv (h : publishDelivered s = some s') :
    Step s .publishDelivered s' := by
  unfold publishDelivered at h
  split at h
  · rename_i accepted hwatcher
    cases h
    exact Step.publishDelivered accepted hwatcher
  · cases h

theorem sendReplace_inv (h : sendReplace s = some s') : Step s .sendReplace s' := by
  unfold sendReplace at h
  split at h
  · rename_i accepted hwatcher
    cases h
    exact Step.sendReplace accepted hwatcher
  · cases h

theorem checkVersion_inv (h : checkVersion s c = some s') :
    Step s (.checkVersion c) s' := by
  unfold checkVersion at h
  split at h
  · rename_i revId revEpoch hphase hrequest
    split at h
    · rename_i hknows
      cases h
      exact Step.upToDate c revId revEpoch hphase hrequest hknows
    · rename_i hknows
      cases h
      exact Step.news c revId revEpoch hphase hrequest (Bool.eq_false_iff.mpr hknows)
  · cases h

theorem claim_inv (h : claim s c = some s') : Step s (.claim c) s' := by
  cases hphase : s.phase c with
  | claiming known =>
      rw [claim_eq hphase] at h
      cases h
      exact Step.claim c known hphase
  | _ =>
      unfold claim at h
      rw [hphase] at h
      cases h

theorem pollOne_inv {fetched : Fetched} (h : pollOne s c fetched = some s') :
    Step s (.pollOne c fetched) s' := by
  unfold pollOne at h
  split at h
  · rename_i known hphase
    cases fetched with
    | config config =>
        cases h
        exact Step.fetchedConfig c known config hphase
    | nothing =>
        cases h
        exact Step.fetchedNothing c known hphase
    | failed =>
        cases h
        exact Step.fetchFailed c known hphase
  · cases h

theorem handleConfig_inv (h : handleConfig s c = some s') :
    Step s (.handleConfig c) s' := by
  unfold handleConfig at h
  split at h
  · rename_i config hphase
    split at h
    · rename_i accepted haccepts
      cases h
      exact Step.accepted c config accepted hphase haccepts
    · rename_i haccepts
      cases h
      exact Step.refused c config hphase haccepts
  · cases h

theorem publish_inv (h : publish s c = some s') : Step s (.publish c) s' := by
  unfold publish at h
  split at h
  · rename_i accepted hphase
    cases h
    exact Step.publish c accepted hphase
  · cases h

theorem reset_inv (h : reset s c = some s') : Step s (.reset c) s' := by
  unfold reset at h
  split at h
  · rename_i result hphase
    cases h
    exact Step.reset c result hphase
  · cases h

theorem notify_inv (h : notify s c = some s') : Step s (.notify c) s' := by
  unfold notify at h
  split at h
  · rename_i result hphase
    cases h
    exact Step.notify c result hphase
  · cases h

end

variable {s s' : State} {a : Action}

theorem step_inv (h : step s a = some s') : Step s a s' := by
  cases a with
  | deliver config => exact deliver_inv h
  | publishDelivered => exact publishDelivered_inv h
  | sendReplace => exact sendReplace_inv h
  | outOfBandConfig config =>
      cases h
      exact Step.outOfBandConfig config
  | outOfBandVersion revId revEpoch =>
      cases h
      exact Step.outOfBandVersion revId revEpoch
  | checkVersion c => exact checkVersion_inv h
  | claim c => exact claim_inv h
  | pollOne c fetched => exact pollOne_inv h
  | handleConfig c => exact handleConfig_inv h
  | publish c => exact publish_inv h
  | reset c => exact reset_inv h
  | notify c => exact notify_inv h

/-!
# The acting call
-/

/-- The call that takes the step, unless it is the watcher. -/
def Action.actor (s : State) : Action -> Option CallId
  | .deliver _ | .publishDelivered | .sendReplace => none
  | .outOfBandConfig _ | .outOfBandVersion _ _ => some s.started
  | .checkVersion c | .claim c | .pollOne c _ | .handleConfig c | .publish c | .reset c
  | .notify c => some c

/-- The call is as it was, or it waited and was notified. -/
def Idle (s : State) (a : Action) (s' : State) (d : CallId) : Prop :=
  s'.request d = s.request d ∧
    (s'.phase d = s.phase d ∨
      ((exists c, a = .notify c) ∧ s.phase d = .waiting ∧ s'.phase d = .checking))

theorem idle_refl (s : State) (a : Action) (d : CallId) : Idle s a s d :=
  ⟨rfl, Or.inl rfl⟩

theorem idle_setPhase (s : State) (a : Action) {c d : CallId} (phase : Phase)
    (hne : some c ≠ some d) : Idle s a (s.setPhase c phase) d := by
  refine ⟨setPhase_request s c d phase, Or.inl (setPhase_phase_ne s phase ?_)⟩
  rintro rfl
  exact hne rfl

theorem idle_start (s : State) (a : Action) (request : Request) (phase : Phase) {d : CallId}
    (hne : some s.started ≠ some d) : Idle s a (s.start request phase) d := by
  have hne' : d ≠ s.started := by
    rintro rfl
    exact hne rfl
  constructor
  · unfold State.request
    rw [start_calls_ne s request phase hne']
  · exact Or.inl (start_phase_ne s request phase hne')

theorem idle_notify (s : State) {c d : CallId} (phase : Phase) (hne : some c ≠ some d) :
    Idle s (.notify c) (s.notifyWaiters.setPhase c phase) d := by
  have hne' : d ≠ c := by
    rintro rfl
    exact hne rfl
  constructor
  · rw [setPhase_request]
    rfl
  · rw [setPhase_phase_ne _ phase hne']
    rcases notifyWaiters_phase s d with hsame | hnotified
    · exact Or.inl hsame
    · exact Or.inr ⟨⟨c, rfl⟩, hnotified⟩

theorem idle_of_ne_actor (h : Step s a s') {d : CallId} (hne : a.actor s ≠ some d) :
    Idle s a s' d := by
  cases h with
  | deliverAccepted config accepted => exact idle_refl s _ d
  | deliverRefused config => exact idle_refl s _ d
  | publishDelivered accepted => exact idle_refl s _ d
  | sendReplace accepted => exact idle_refl s _ d
  | outOfBandConfig config => exact idle_start s _ _ _ hne
  | outOfBandVersion revId revEpoch => exact idle_start s _ _ _ hne
  | notify c result => exact idle_notify s _ hne
  | claim c known => exact idle_setPhase { s with performingOutOfBandFetch := true } _ _ hne
  | reset c result => exact idle_setPhase { s with performingOutOfBandFetch := false } _ _ hne
  | accepted c config accepted => exact idle_setPhase (s.accept accepted) _ _ hne
  | publish c accepted => exact idle_setPhase (s.sendVersion accepted) _ _ hne
  | _ => exact idle_setPhase s _ _ hne

/-- A call that does not act stays where it is, unless it waits. -/
theorem phase_kept (h : Step s a s') {d : CallId} (hne : a.actor s ≠ some d)
    (hwait : s.phase d ≠ .waiting) : s'.phase d = s.phase d := by
  rcases (idle_of_ne_actor h hne).2 with hsame | ⟨_, hwaits, _⟩
  · exact hsame
  · exact (hwait hwaits).elim

/-- No call beyond those that have started. -/
def State.Fresh (s : State) : Prop :=
  forall c, s.started ≤ c -> s.phase c = .unborn

theorem initial_fresh (firstConfig : ParsedConfig) : (initial firstConfig).Fresh :=
  fun _ _ => rfl

/-- A call has started, or it starts with the step. -/
theorem started_step (h : Step s a s') :
    (a.actor s = some s.started ∧ s'.started = s.started + 1) ∨
      (s'.started = s.started ∧ forall c, a.actor s = some c -> s.phase c ≠ .unborn) := by
  cases h with
  | outOfBandConfig config => exact Or.inl ⟨rfl, rfl⟩
  | outOfBandVersion revId revEpoch => exact Or.inl ⟨rfl, rfl⟩
  | deliverAccepted | deliverRefused | publishDelivered | sendReplace =>
      refine Or.inr ⟨rfl, fun c hactor => ?_⟩
      cases hactor
  | upToDate d _ _ hphase | news d _ _ hphase | claim d _ hphase
  | fetchedConfig d _ _ hphase | fetchedNothing d _ hphase | fetchFailed d _ hphase
  | accepted d _ _ hphase | refused d _ hphase | publish d _ hphase | reset d _ hphase
  | notify d _ hphase =>
      refine Or.inr ⟨rfl, fun c hactor => ?_⟩
      cases hactor
      rw [hphase]
      simp

theorem fresh_step (h : Step s a s') (hfresh : s.Fresh) : s'.Fresh := by
  intro c hle
  have hold : s.phase c = .unborn -> a.actor s ≠ some c -> s'.phase c = .unborn := by
    intro hphase hne
    rw [phase_kept h hne (by rw [hphase]; simp)]
    exact hphase
  rcases started_step h with ⟨hactor, hstarted⟩ | ⟨hstarted, hacts⟩
  · rw [hstarted] at hle
    refine hold (hfresh c (Nat.le_of_succ_le hle)) ?_
    rw [hactor]
    rintro ⟨⟩
    exact Nat.not_succ_le_self _ hle
  · rw [hstarted] at hle
    have hphase := hfresh c hle
    exact hold hphase (fun hactor => hacts c hactor hphase)

theorem fresh_of_reach {guard : State -> Action -> Prop} {firstConfig : ParsedConfig}
    (hreach : StepFn.Reach step guard (initial firstConfig) s) : s.Fresh :=
  hreach.invariant (initial_fresh firstConfig)
    (fun _ _ _ hfresh _ hstep => fresh_step (step_inv hstep) hfresh)

/-- A waiting call takes no step of its own. -/
theorem actor_ne_waiting (h : Step s a s') (hfresh : s.Fresh) {c : CallId}
    (hactor : a.actor s = some c) : s.phase c ≠ .waiting := by
  cases h with
  | deliverAccepted | deliverRefused | publishDelivered | sendReplace => cases hactor
  | outOfBandConfig | outOfBandVersion =>
      cases hactor
      rw [hfresh _ (Nat.le_refl _)]
      simp
  | upToDate d _ _ hphase | news d _ _ hphase | claim d _ hphase
  | fetchedConfig d _ _ hphase | fetchedNothing d _ hphase | fetchFailed d _ hphase
  | accepted d _ _ hphase | refused d _ hphase | publish d _ hphase | reset d _ hphase
  | notify d _ hphase =>
      cases hactor
      rw [hphase]
      simp

/-!
# The latest config
-/

theorem accepts_some {config : ParsedConfig} {accepted : Accepted}
    (h : s.accepts config = some accepted) :
    accepted.config = config ∧ accepted.number = s.latestConfig.number + 1 ∧
      canUpdateConfig config s.latestConfig.config = true := by
  unfold State.accepts at h
  split at h
  · rename_i hcan
    cases h
    exact ⟨rfl, rfl, hcan⟩
  · cases h

end ConfigManager
end CouchbaseSdk
