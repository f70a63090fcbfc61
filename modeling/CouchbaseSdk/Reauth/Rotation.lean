import CouchbaseSdk.Babysitter.Copies
import CouchbaseSdk.Reauth.Coverage

/-!
# The last token reaches the client

Every step that is timely keeps the client covered until it has the desired credentials, and
a task that is at rest covers nothing.  Two runs in which a step is not timely end with old
credentials.
-/

namespace CouchbaseSdk
namespace Reauth

open Foundation
open Config (Authenticator)
open Babysitter (ClientId)

/-- The credentials of the last call of `update_auth`. -/
def noteAuth (_ : State) : Action -> Authenticator -> Authenticator
  | .updateAuth authenticator, _ => authenticator
  | _, last => last

/-- No builder and no listener is at work, and no task but those that wait for a client. -/
structure Quiescent (s : State) : Prop where
  babysitter : Babysitter.Quiescent s.babysitter
  tasks : forall i, s.phase i = .unborn ∨ s.phase i = .finished ∨
    exists seen, s.phase i = .waiting seen ∧ s.babysitter.sends ≤ seen

/-- Every connection and every authentication succeeds, there is no shutdown, and all
credentials are tokens. -/
def Premises : Action -> Prop
  | .babysitter (.connectFail _) | .babysitter (.bootstrapFail _) => False
  | .babysitter .closeCancel => False
  | .updateAuth authenticator => exists token, authenticator = .jwtAuthenticator token
  | .reauthFail _ => False
  | _ => True

variable {s s' : State} {a : Action} {i : TaskId} {c : ClientId} {last : Authenticator}

/-!
# Steps of a task
-/

@[simp] theorem setTask_self (s : State) (i : TaskId) (phase : TaskPhase) :
    (s.setTask i phase).phase i = phase := by
  unfold State.phase State.setTask
  simp only [Function.update_self]

theorem setTask_ne (s : State) {i j : TaskId} (phase : TaskPhase) (h : j ≠ i) :
    (s.setTask i phase).phase j = s.phase j := by
  unfold State.phase State.setTask
  simp only [Function.update_of_ne h]

theorem setTask_token (s : State) (i j : TaskId) (phase : TaskPhase) :
    ((s.setTask i phase).tasks j).token = (s.tasks j).token := by
  unfold State.setTask
  by_cases hj : j = i
  · rw [hj]
    simp only [Function.update_self]
  · simp only [Function.update_of_ne hj]

theorem setTask_cases (s : State) (i j : TaskId) (phase : TaskPhase) :
    j = i ∧ (s.setTask i phase).phase j = phase ∨
      j ≠ i ∧ (s.setTask i phase).phase j = s.phase j := by
  by_cases hj : j = i
  · exact Or.inl ⟨hj, hj ▸ setTask_self s i phase⟩
  · exact Or.inr ⟨hj, setTask_ne s phase hj⟩

/-- A task goes on, and leaves the credentials alone. -/
theorem rotation_setTask {phase : TaskPhase} (hinv : RotationInv (s, last))
    (hhanded : forall c, phase = .reauthenticating c -> Handed s.babysitter c)
    (hseen : forall seen, phase = .waiting seen -> seen ≤ s.babysitter.sends)
    (hcurrent : i + 1 = s.spawned -> forall c, s.babysitter.client = some c ->
      s.Fresh c ∨ phase.Covers s.babysitter c)
    (hattempts : i + 1 = s.spawned -> phase.Looks ∨
      forall b authenticator, s.attempt b = some authenticator ->
        authenticator = s.desiredAuth) :
    RotationInv (s.setTask i phase, last) := by
  have hsource : forall {j p}, (s.setTask i phase).phase j = p -> phase = p ∨ s.phase j = p := by
    intro j p hj
    rcases setTask_cases s i j phase with ⟨_, hset⟩ | ⟨_, hset⟩
    · exact Or.inl (hset.symm.trans hj)
    · exact Or.inr (hset.symm.trans hj)
  constructor
  case babysitter => exact hinv.babysitter
  case tasks =>
    intro j c hj
    rcases hsource hj with hphase | hphase
    · exact hhanded c hphase
    · exact hinv.tasks j c hphase
  case seen =>
    intro j seen hj
    rcases hsource hj with hphase | hphase
    · exact hseen seen hphase
    · exact hinv.seen j seen hphase
  case token =>
    intro j hj
    exact (hinv.token j hj).trans (congrArg _ (setTask_token s i j phase).symm)
  case current =>
    intro c hc
    rcases hinv.current c hc with hfresh | ⟨j, hj, hcovers⟩
    · exact Or.inl hfresh
    · rcases setTask_cases s i j phase with ⟨rfl, hset⟩ | ⟨_, hset⟩
      · rcases hcurrent hj c hc with hfresh | hcovers'
        · exact Or.inl hfresh
        · exact Or.inr ⟨j, hj, hset.symm ▸ hcovers'⟩
      · exact Or.inr ⟨j, hj, hset.symm ▸ hcovers⟩
  case attempts =>
    intro b authenticator hb
    rcases hinv.attempts b authenticator hb with hdesired | ⟨j, hj, hlooks⟩
    · exact Or.inl hdesired
    · rcases setTask_cases s i j phase with ⟨rfl, hset⟩ | ⟨_, hset⟩
      · rcases hattempts hj with hlooks' | hdesired
        · exact Or.inr ⟨j, hj, hset.symm ▸ hlooks'⟩
        · exact Or.inl (hdesired b authenticator hb)
      · exact Or.inr ⟨j, hj, hset.symm ▸ hlooks⟩
  case last => exact hinv.last

/-- A task takes a client. -/
theorem rotation_takes (hinv : RotationInv (s, last)) (hc : Handed s.babysitter c)
    (hsuffices : i + 1 = s.spawned -> s.Suffices c) :
    RotationInv (s.setTask i (.reauthenticating c), last) := by
  refine rotation_setTask hinv ?_ nofun ?_ ?_
  · intro d hd
    cases hd
    exact hc
  · intro hi d hd
    rcases (hsuffices hi).current d hd with heq | hfresh
    · exact Or.inr heq.symm
    · exact Or.inl hfresh
  · intro hi
    exact Or.inr (hsuffices hi).attempts

theorem rotation_updateAuth (token : String) (hinv : RotationInv (s, last)) :
    RotationInv (updateAuth s (.jwtAuthenticator token), .jwtAuthenticator token) := by
  let tasks := Function.update s.tasks s.spawned { token := token, phase := .loading }
  have hnew : tasks s.spawned = { token := token, phase := .loading } :=
    Function.update_self ..
  have hsource : forall {j p}, (tasks j).phase = p -> p = .loading ∨ s.phase j = p := by
    intro j p hj
    by_cases heq : j = s.spawned
    · rw [heq, hnew] at hj
      exact Or.inl hj.symm
    · exact Or.inr ((congrArg Task.phase (Function.update_of_ne heq ..)).symm.trans hj)
  have hlooks : (tasks s.spawned).phase = .loading := congrArg Task.phase hnew
  constructor
  case babysitter => exact hinv.babysitter
  case tasks =>
    intro j c hj
    rcases hsource hj with hphase | hphase
    · cases hphase
    · exact hinv.tasks j c hphase
  case seen =>
    intro j seen hj
    rcases hsource hj with hphase | hphase
    · cases hphase
    · exact hinv.seen j seen hphase
  case token =>
    intro j hj
    have heq : j = s.spawned := Nat.succ.inj hj
    change Authenticator.jwtAuthenticator token = .jwtAuthenticator (tasks j).token
    rw [heq, hnew]
  case current =>
    intro c _
    refine Or.inr ⟨s.spawned, rfl, ?_⟩
    change TaskPhase.Covers _ c (tasks s.spawned).phase
    rw [hlooks]
    trivial
  case attempts =>
    intro b authenticator _
    refine Or.inr ⟨s.spawned, rfl, ?_⟩
    change (tasks s.spawned).phase.Looks
    rw [hlooks]
    trivial
  case last => rfl

/-- A builder sees to it with the same credentials where its attempt and its client have them. -/
theorem attempt_congr {t : State} {b : Babysitter.BuilderId}
    (hbabysitter : t.babysitter = s.babysitter)
    (hattempts : t.attemptAuth = s.attemptAuth)
    (hclient : forall d, s.babysitter.phase b = .built d -> t.clientAuth d = s.clientAuth d) :
    t.attempt b = s.attempt b := by
  unfold State.attempt
  rw [hbabysitter, hattempts]
  cases hphase : s.babysitter.phase b with
  | built d => exact congrArg some (hclient d hphase)
  | _ => rfl

/-- A task has authenticated its client, and has come to its end. -/
theorem rotation_reauthenticated (hinv : RotationInv (s, last))
    (hphase : s.phase i = .reauthenticating c) (htimely : Timely s (.reauthOk i)) :
    RotationInv ({ s.setTask i .finished with
      clientAuth := Function.update s.clientAuth c (.jwtAuthenticator (s.tasks i).token) },
      last) := by
  have hsource : forall {j p}, (s.setTask i .finished).phase j = p ->
      p = .finished ∨ s.phase j = p := by
    intro j p hj
    rcases setTask_cases s i j .finished with ⟨_, hset⟩ | ⟨_, hset⟩
    · exact Or.inl (hj.symm.trans hset)
    · exact Or.inr (hset.symm.trans hj)
  constructor
  case babysitter => exact hinv.babysitter
  case tasks =>
    intro j d hj
    rcases hsource hj with hfinished | hbefore
    · cases hfinished
    · exact hinv.tasks j d hbefore
  case seen =>
    intro j seen hj
    rcases hsource hj with hfinished | hbefore
    · cases hfinished
    · exact hinv.seen j seen hbefore
  case token =>
    intro j hj
    exact (hinv.token j hj).trans (congrArg _ (setTask_token s i j .finished).symm)
  case current =>
    intro d hd
    change Function.update s.clientAuth c _ d = s.desiredAuth ∨ _
    by_cases heq : d = c
    · subst heq
      rw [Function.update_self]
      rcases htimely d hphase hd with hdesired | ⟨j, hj, hcovers⟩
      · exact Or.inl hdesired
      · rcases setTask_cases s i j .finished with ⟨rfl, _⟩ | ⟨_, hset⟩
        · exact Or.inl (hinv.token j hj).symm
        · exact Or.inr ⟨j, hj, hset.symm ▸ hcovers⟩
    · rw [Function.update_of_ne heq]
      rcases hinv.current d hd with hfresh | ⟨j, hj, hcovers⟩
      · exact Or.inl hfresh
      · rcases setTask_cases s i j .finished with ⟨rfl, _⟩ | ⟨_, hset⟩
        · have hcovers' : (s.phase j).Covers s.babysitter d := hcovers
          rw [hphase] at hcovers'
          exact (heq hcovers'.symm).elim
        · exact Or.inr ⟨j, hj, hset.symm ▸ hcovers⟩
  case attempts =>
    intro b authenticator hb
    have hbefore : s.attempt b = some authenticator := by
      rw [← hb]
      symm
      apply attempt_congr
      · rfl
      · rfl
      · intro d hbuilt
        have hne : d ≠ c := by
          rintro rfl
          exact (hinv.tasks i d hphase).not_built b hbuilt
        exact Function.update_of_ne hne ..
    rcases hinv.attempts b authenticator hbefore with hdesired | ⟨j, hj, hlooks⟩
    · exact Or.inl hdesired
    · rcases setTask_cases s i j .finished with ⟨rfl, _⟩ | ⟨_, hset⟩
      · have hlooks' : (s.phase j).Looks := hlooks
        rw [hphase] at hlooks'
        cases hlooks'
      · exact Or.inr ⟨j, hj, hset.symm ▸ hlooks⟩
  case last => exact hinv.last

theorem rotation_step (h : Step s a s') (hinv : RotationInv (s, last)) (hpremises : Premises a)
    (htimely : Timely s a) : RotationInv (s', noteAuth s a last) := by
  cases h with
  | babysitter a t hadvance =>
      refine rotation_advance hadvance hinv htimely ?_
      rintro rfl
      exact hpremises
  | rotated token => exact rotation_updateAuth token hinv
  | changed authenticator hnot =>
      rcases hpremises with ⟨token, htoken⟩
      exact (hnot token htoken).elim
  | fastHit i c _ hfast =>
      exact rotation_takes hinv (hinv.babysitter.fast c hfast) (fun hi => htimely hi c hfast)
  | fastMiss i _ _ =>
      exact rotation_setTask hinv nofun nofun (fun _ _ _ => Or.inr trivial)
        (fun _ => Or.inl trivial)
  | slowHit i c _ hclient =>
      exact rotation_takes hinv (handed_of_client hinv.babysitter.clients hclient)
        (fun hi => htimely hi c hclient)
  | slowMiss i _ _ =>
      exact rotation_setTask hinv nofun nofun (fun _ _ _ => Or.inr trivial)
        (fun _ => Or.inl trivial)
  | subscribed i _ =>
      refine rotation_setTask hinv nofun ?_ ?_ (fun _ => Or.inl trivial)
      · intro seen hseen
        cases hseen
        exact Nat.le_refl _
      · intro hi c hc
        exact (htimely hi c hc).imp_right Or.inl
  | received i seen c _ _ hconnected =>
      exact rotation_takes hinv (hinv.babysitter.connected c hconnected)
        (fun hi => htimely hi c hconnected)
  | receivedNone i seen hphase hnone =>
      refine rotation_setTask hinv nofun ?_ ?_ (fun _ => Or.inl trivial)
      · intro seen' hseen
        cases hseen
        exact Nat.le_refl _
      · intro hi c hc
        rcases hinv.current c hc with hfresh | ⟨j, hj, hcovers⟩
        · exact Or.inl hfresh
        · have hji : j = i := Nat.succ.inj (hj.trans hi.symm)
          have hcovers' : (s.phase j).Covers s.babysitter c := hcovers
          rw [hji, hphase] at hcovers'
          rcases hcovers' with hpending | ⟨_, hconnected⟩
          · exact Or.inr (Or.inl hpending)
          · cases hconnected.symm.trans hnone
  | gaveUp i seen _ hshutdown => cases hshutdown.symm.trans hinv.babysitter.running
  | reauthenticated i c hphase => exact rotation_reauthenticated hinv hphase htimely
  | refused => exact hpremises.elim

/-!
# Steps that are not timely
-/

/-- A task that subscribes too late does not come to the client. -/
theorem missed_of_not_timely (h : Step s (.subscribe i) s') (hnot : ¬ Timely s (.subscribe i)) :
    exists c, s'.babysitter.client = some c ∧ ¬ s'.Fresh c ∧ ¬ s'.Covered c := by
  simp only [Timely, not_forall, not_or, exists_prop] at hnot
  rcases hnot with ⟨hi, c, hclient, hstale, hannounced⟩
  cases h with
  | subscribed i hphase =>
      refine ⟨c, hclient, hstale, ?_⟩
      rintro ⟨j, hj, hcovers⟩
      have hji : j = i := Nat.succ.inj (hj.trans hi.symm)
      have hcovers' : ((s.setTask i (.waiting s.babysitter.sends)).phase j).Covers
        s.babysitter c := hcovers
      rw [hji, setTask_self] at hcovers'
      rcases hcovers' with hpending | ⟨hlt, _⟩
      · exact hannounced hpending
      · exact Nat.lt_irrefl _ hlt

/-- A task that authenticates the client too late gives it old credentials for good. -/
theorem stale_of_not_timely (h : Step s (.reauthOk i) s') (hnot : ¬ Timely s (.reauthOk i)) :
    exists c, s'.babysitter.client = some c ∧ ¬ s'.Fresh c ∧ ¬ s'.Covered c := by
  simp only [Timely, not_forall, not_or, exists_prop] at hnot
  rcases hnot with ⟨c, hc, hclient, hstale, huncovered⟩
  cases h with
  | reauthenticated i d hphase =>
      cases hc.symm.trans hphase
      refine ⟨c, hclient, ?_, ?_⟩
      · intro hfresh
        refine hstale (Eq.trans ?_ hfresh)
        show _ = Function.update s.clientAuth c (.jwtAuthenticator (s.tasks i).token) c
        rw [Function.update_self]
      · rintro ⟨j, hj, hcovers⟩
        rcases setTask_cases s i j .finished with ⟨_, hset⟩ | ⟨_, hset⟩
        · have hcovers' : ((s.setTask i .finished).phase j).Covers s.babysitter c := hcovers
          rw [hset] at hcovers'
          exact hcovers'
        · exact huncovered ⟨j, hj, hset ▸ hcovers⟩

/-!
# Runs
-/

theorem rotation_initial (onDemandConnect : Bool) (auth : Authenticator) :
    RotationInv (initial onDemandConnect auth, auth) := by
  constructor
  case babysitter =>
    constructor
    case clients => exact Babysitter.initial_clientsInv onDemandConnect
    case running =>
      cases onDemandConnect with
      | _ => rfl
    case fast | connected =>
      intro c hc
      cases onDemandConnect with
      | _ => cases hc
  case current =>
    intro c hc
    cases onDemandConnect with
    | _ => cases hc
  case tasks | seen | token => nofun
  case attempts =>
    intro b authenticator hb
    unfold State.attempt at hb
    split at hb
    · exact Or.inl (Option.some.inj hb).symm
    · exact Or.inl (Option.some.inj hb).symm
    · exact Or.inl (Option.some.inj hb).symm
    · cases hb
  case last => rfl

/-- At rest nobody sees to a client any more. -/
theorem not_covered (hquiescent : Quiescent s) : ¬ s.Covered c := by
  rintro ⟨i, _, hcovers⟩
  rcases hquiescent.tasks i with hphase | hphase | ⟨seen, hphase, hseen⟩
  · rw [hphase] at hcovers
    exact hcovers
  · rw [hphase] at hcovers
    exact hcovers
  · rw [hphase] at hcovers
    rcases hcovers with hpending | ⟨hlt, _⟩
    · unfold ToAnnounce at hpending
      rcases hquiescent.babysitter.builders (s.babysitter.owner c) with hb | hb
      · rw [hb] at hpending
        rcases hpending with hc | hc <;> cases hc
      · rw [hb] at hpending
        rcases hpending with hc | hc <;> cases hc
    · exact Nat.not_lt_of_le hseen hlt

/-- Once all is quiet, the client has the credentials of the last call. -/
theorem authenticated_of_reach (onDemandConnect : Bool) (auth last : Authenticator)
    (t : State) (c : ClientId)
    (hreach : StepFn.Reach (StepFn.traced step noteAuth)
      (fun p a => Premises a ∧ Timely p.1 a) (initial onDemandConnect auth, auth) (t, last))
    (hquiescent : Quiescent t) (hclient : t.babysitter.client = some c) :
    t.clientAuth c = last := by
  have hinv : RotationInv (t, last) := by
    refine hreach.invariant (rotation_initial onDemandConnect auth) ?_
    rintro ⟨u, before⟩ a ⟨v, after⟩ hu hguard htraced
    rcases Option.map_eq_some_iff.mp htraced with ⟨w, hstep, heq⟩
    cases heq
    exact rotation_step (step_inv hstep) hu hguard.1 hguard.2
  have hfresh : t.clientAuth c = t.desiredAuth :=
    (hinv.current c hclient).resolve_right (not_covered hquiescent)
  exact hfresh.trans hinv.last

/-- The first builder makes a client and hands it out. -/
def connects : List Action :=
  [.babysitter (.throttle 0), .babysitter (.connect 0), .babysitter (.bootstrapOk 0),
    .babysitter (.install 0), .babysitter (.storeFast 0), .babysitter (.announce 0),
    .babysitter (.notify 0)]

/-- A token for a client that is there. -/
theorem authenticated_connected :
    exists t last, StepFn.run (StepFn.traced step noteAuth)
        (initial false (.jwtAuthenticator "zero"), .jwtAuthenticator "zero")
        (connects ++ [.updateAuth (.jwtAuthenticator "one"), .loadFast 0, .reauthOk 0]) =
          some (t, last) ∧
      last = .jwtAuthenticator "one" ∧ t.babysitter.client = some 0 ∧
      t.clientAuth 0 = last := by
  have h₀ : StepFn.Reach (StepFn.traced step noteAuth)
      (fun p a => Premises a ∧ Timely p.1 a)
      (initial false (.jwtAuthenticator "zero"), .jwtAuthenticator "zero")
      (initial false (.jwtAuthenticator "zero"), .jwtAuthenticator "zero") := StepFn.Reach.refl
  have h₁ := StepFn.Reach.tail (Action.babysitter (.throttle 0)) h₀ ⟨trivial, trivial⟩ rfl
  have h₂ := StepFn.Reach.tail (Action.babysitter (.connect 0)) h₁ ⟨trivial, trivial⟩ rfl
  have h₃ := StepFn.Reach.tail (Action.babysitter (.bootstrapOk 0)) h₂ ⟨trivial, trivial⟩ rfl
  have h₄ := StepFn.Reach.tail (Action.babysitter (.install 0)) h₃ ⟨trivial, trivial⟩ rfl
  have h₅ := StepFn.Reach.tail (Action.babysitter (.storeFast 0)) h₄ ⟨trivial, trivial⟩ rfl
  have h₆ := StepFn.Reach.tail (Action.babysitter (.announce 0)) h₅
    ⟨trivial, fun c d hc hd => Or.inl (by cases hc; cases hd; rfl)⟩ rfl
  have h₇ := StepFn.Reach.tail (Action.babysitter (.notify 0)) h₆ ⟨trivial, trivial⟩ rfl
  have hrotated := StepFn.Reach.tail (Action.updateAuth (.jwtAuthenticator "one")) h₇
    ⟨⟨"one", rfl⟩, trivial⟩ rfl
  have hloaded := StepFn.Reach.tail (Action.loadFast 0) hrotated
    ⟨trivial, fun _ c hc =>
      { attempts := fun b authenticator hb => by
          cases b with
          | _ => cases hb
        current := fun d hd => Or.inl (by cases hc; cases hd; rfl) }⟩ rfl
  have hdone := StepFn.Reach.tail (Action.reauthOk 0) hloaded
    ⟨trivial, fun c hc hclient => Or.inl rfl⟩ rfl
  refine ⟨_, _, rfl, rfl, rfl, ?_⟩
  refine authenticated_of_reach false (.jwtAuthenticator "zero") _ _ 0 hdone ?_ rfl
  constructor
  case babysitter =>
    exact Babysitter.quiescent_first rfl (fun _ => rfl) (Or.inl rfl) (fun _ => rfl)
  case tasks =>
    intro i
    cases i with
    | zero => exact Or.inr (Or.inl rfl)
    | succ i => exact Or.inl rfl

/-- The task of the first of two calls authenticates the client last. -/
def reordered : List Action :=
  connects ++ [.updateAuth (.jwtAuthenticator "one"), .updateAuth (.jwtAuthenticator "two"),
    .loadFast 0, .loadFast 1, .reauthOk 1, .reauthOk 0]

/-- A task finds no client, and subscribes after the client was announced. -/
def missed : List Action :=
  [.babysitter (.throttle 0), .babysitter (.connect 0), .babysitter (.bootstrapOk 0),
    .updateAuth (.jwtAuthenticator "one"), .loadFast 0, .checkSlow 0,
    .babysitter (.install 0), .babysitter (.storeFast 0), .babysitter (.announce 0),
    .babysitter (.notify 0), .subscribe 0]

/-- The client is left with old credentials by either run. -/
theorem rotations_notAuthenticated :
    (exists t last, StepFn.run (StepFn.traced step noteAuth)
        (initial false (.jwtAuthenticator "zero"), .jwtAuthenticator "zero") reordered =
          some (t, last) ∧
      (forall a, a ∈ reordered -> Premises a) ∧ Quiescent t ∧
      t.babysitter.client = some 0 ∧ t.clientAuth 0 ≠ last) ∧
    (exists t last, StepFn.run (StepFn.traced step noteAuth)
        (initial false (.jwtAuthenticator "zero"), .jwtAuthenticator "zero") missed =
          some (t, last) ∧
      (forall a, a ∈ missed -> Premises a) ∧ Quiescent t ∧
      t.babysitter.client = some 0 ∧ t.clientAuth 0 ≠ last) := by
  constructor
  · refine ⟨_, _, rfl, ?_, ?_, rfl, ?_⟩
    · simp [reordered, connects, Premises]
    · constructor
      case babysitter =>
        exact Babysitter.quiescent_first rfl (fun _ => rfl) (Or.inl rfl) (fun _ => rfl)
      case tasks =>
        intro i
        cases i with
        | zero => exact Or.inr (Or.inl rfl)
        | succ i =>
            cases i with
            | zero => exact Or.inr (Or.inl rfl)
            | succ i => exact Or.inl rfl
    · show Authenticator.jwtAuthenticator "one" ≠ .jwtAuthenticator "two"
      decide
  · refine ⟨_, _, rfl, ?_, ?_, rfl, ?_⟩
    · simp [missed, Premises]
    · constructor
      case babysitter =>
        exact Babysitter.quiescent_first rfl (fun _ => rfl) (Or.inl rfl) (fun _ => rfl)
      case tasks =>
        intro i
        cases i with
        | zero => exact Or.inr (Or.inr ⟨0, rfl, Nat.le_refl 0⟩)
        | succ i => exact Or.inl rfl
    · show Authenticator.jwtAuthenticator "zero" ≠ .jwtAuthenticator "one"
      decide

end Reauth
end CouchbaseSdk
