import CouchbaseSdk.ConfigManager.Steps

/-!
# Out-of-band fetches

`performing_out_of_band_fetch` is meant to let one fetch through at a time.  The branch
that waits asks the compare-exchange for `Ok(true)`, which it never answers, and a
failed fetch returns with the flag still set.
-/

namespace CouchbaseSdk
namespace ConfigManager

open Foundation

variable {s s' : State} {a : Action} {c : CallId}

def Request.isVersion : Request -> Bool
  | .config => false
  | .version _ _ => true

/-- The call has set the flag and has neither reset it nor given up. -/
def Call.inFlight (call : Call) : Bool :=
  match call.phase with
  | .fetching _ | .settling _ => true
  | .handling _ | .publishing _ => call.request.isVersion
  | _ => false

def State.InFlight (s : State) (c : CallId) : Prop :=
  (s.calls c).inFlight = true

/-- One fetch at a time, and the flag tells whether there is one. -/
structure FetchGuard (s : State) : Prop where
  single : forall c d, s.InFlight c -> s.InFlight d -> c = d
  flag : s.performingOutOfBandFetch = true <-> exists c, s.InFlight c

/-- A call that finds a fetch in flight waits, and a call that waits is notified and
checks the version again. -/
def WaitsItsTurn (s : State) (a : Action) (s' : State) : Prop :=
  (forall c, a = .claim c -> (exists d, s.InFlight d) -> s'.phase c = .waiting) ∧
    (forall d, s.phase d = .waiting -> s'.phase d = .waiting ∨
      ((exists c, a = .notify c) ∧ s'.phase d = .checking))

/-- A call reaches the compare-exchange while the flag is clear, and no fetch fails. -/
def OneByOne (s : State) : Action -> Prop
  | .claim _ => s.performingOutOfBandFetch = false
  | .pollOne _ .failed => False
  | _ => True

/-!
# Calls in flight
-/

theorem inFlight_of_phase {phase : Phase} (h : s.phase c = phase) :
    s.InFlight c <-> Call.inFlight { request := s.request c, phase := phase } = true := by
  subst h
  exact Iff.rfl

theorem inFlight_setPhase_self (s : State) (c : CallId) (phase : Phase) :
    (s.setPhase c phase).InFlight c <->
      Call.inFlight { request := s.request c, phase := phase } = true := by
  unfold State.InFlight
  rw [setPhase_calls_self]
  exact Iff.rfl

theorem inFlight_of_idle {d : CallId} (h : Idle s a s' d) :
    s'.InFlight d <-> s.InFlight d := by
  rcases h with ⟨hrequest, hsame | ⟨_, hwait, hcheck⟩⟩
  · rw [inFlight_of_phase hsame, hrequest]
    exact Iff.rfl
  · rw [inFlight_of_phase hcheck, inFlight_of_phase hwait]
    exact Iff.rfl

/-- Only a call that has heard of a version fetches. -/
def State.Typed (s : State) : Prop :=
  forall c known, s.phase c = .claiming known ∨ s.phase c = .fetching known ->
    (s.request c).isVersion = true

theorem typed_step (h : Step s a s') (htyped : s.Typed) : s'.Typed := by
  intro d known hphase
  by_cases hactor : a.actor s = some d
  · cases h with
    | news c revId revEpoch _ hrequest =>
        rw [setPhase_request]
        cases hactor
        rw [hrequest]
        rfl
    | claim c known' hclaim =>
        cases hactor
        rw [setPhase_request]
        exact htyped d known' (Or.inl hclaim)
    | deliverAccepted | deliverRefused | publishDelivered | sendReplace => cases hactor
    | refused c config | publish c accepted =>
        cases hactor
        cases hrequest : s.request d with
        | _ => simp [hrequest, Request.answer] at hphase
    | _ =>
        cases hactor
        simp at hphase
  · rcases idle_of_ne_actor h hactor with ⟨hrequest, hsame | ⟨_, _, hcheck⟩⟩
    · rw [hsame] at hphase
      rw [hrequest]
      exact htyped d known hphase
    · rw [hcheck] at hphase
      simp at hphase

/-!
# What a step does to the calls in flight
-/

/-- Calls other than `c` are in flight as before. -/
def Elsewhere (s s' : State) (c : CallId) : Prop :=
  forall d, d ≠ c -> (s'.InFlight d <-> s.InFlight d)

inductive Flight (s s' : State) : Action -> Prop where
  | same (a : Action) : s'.performingOutOfBandFetch = s.performingOutOfBandFetch ->
      (forall d, s'.InFlight d <-> s.InFlight d) -> OneByOne s a -> Flight s s' a
  | begun (c : CallId) : s'.performingOutOfBandFetch = true -> Elsewhere s s' c ->
      ¬ s.InFlight c -> s'.InFlight c -> Flight s s' (.claim c)
  | ended (c : CallId) : s'.performingOutOfBandFetch = false -> Elsewhere s s' c ->
      s.InFlight c -> ¬ s'.InFlight c -> Flight s s' (.reset c)
  | failed (c : CallId) : s'.performingOutOfBandFetch = s.performingOutOfBandFetch ->
      Elsewhere s s' c -> s.InFlight c -> ¬ s'.InFlight c ->
        Flight s s' (.pollOne c .failed)

theorem elsewhere_of_step (h : Step s a s') (hactor : a.actor s = some c) :
    Elsewhere s s' c := by
  intro d hne
  refine inFlight_of_idle (idle_of_ne_actor h ?_)
  rw [hactor]
  rintro ⟨⟩
  exact hne rfl

theorem flight_same (h : Step s a s') (hactor : a.actor s = some c)
    (hflag : s'.performingOutOfBandFetch = s.performingOutOfBandFetch)
    (hself : s'.InFlight c <-> s.InFlight c) (hguard : OneByOne s a) :
    Flight s s' a := by
  refine Flight.same a hflag (fun d => ?_) hguard
  by_cases hd : d = c
  · rw [hd]
    exact hself
  · exact elsewhere_of_step h hactor d hd

theorem flight_of_step (h : Step s a s') (hfresh : s.Fresh) (htyped : s.Typed) :
    Flight s s' a := by
  have hstep := h
  cases h with
  | deliverAccepted | deliverRefused | publishDelivered | sendReplace =>
      exact Flight.same _ rfl (fun d => Iff.rfl) trivial
  | outOfBandConfig | outOfBandVersion =>
      refine flight_same hstep rfl rfl ?_ trivial
      rw [inFlight_of_phase (hfresh _ (Nat.le_refl _)),
        inFlight_of_phase (start_phase_self s _ _)]
      unfold State.request
      rw [start_calls_self]
      exact Iff.rfl
  | claim c known hphase =>
      refine Flight.begun c rfl (elsewhere_of_step hstep rfl) ?_ ?_
      · rw [inFlight_of_phase hphase]
        exact Bool.false_ne_true
      · rw [inFlight_setPhase_self]
        rfl
  | reset c result hphase =>
      refine Flight.ended c rfl (elsewhere_of_step hstep rfl) ?_ ?_
      · rw [inFlight_of_phase hphase]
        rfl
      · rw [inFlight_setPhase_self]
        exact Bool.false_ne_true
  | fetchFailed c known hphase =>
      refine Flight.failed c rfl (elsewhere_of_step hstep rfl) ?_ ?_
      · rw [inFlight_of_phase hphase]
        rfl
      · rw [inFlight_setPhase_self]
        exact Bool.false_ne_true
  | fetchedConfig c known config hphase =>
      refine flight_same hstep rfl rfl ?_ trivial
      rw [inFlight_setPhase_self, inFlight_of_phase hphase]
      exact iff_of_true (htyped c known (Or.inr hphase)) rfl
  | refused c config hphase =>
      refine flight_same hstep rfl rfl ?_ trivial
      rw [inFlight_setPhase_self, inFlight_of_phase hphase]
      cases s.request c with
      | _ => exact Iff.rfl
  | publish c accepted hphase =>
      refine flight_same hstep rfl rfl ?_ trivial
      rw [inFlight_setPhase_self, inFlight_of_phase hphase]
      change Call.inFlight { request := s.request c, phase := _ } = true <-> _
      cases s.request c with
      | _ => exact Iff.rfl
  | accepted c config accepted hphase =>
      refine flight_same hstep rfl rfl ?_ trivial
      rw [inFlight_setPhase_self, inFlight_of_phase hphase]
      exact Iff.rfl
  | upToDate c _ _ hphase | news c _ _ hphase | fetchedNothing c _ hphase
  | notify c _ hphase =>
      refine flight_same hstep rfl rfl ?_ trivial
      rw [inFlight_setPhase_self, inFlight_of_phase hphase]
      exact Iff.rfl

/-!
# One by one
-/

theorem initial_fetchGuard (firstConfig : ParsedConfig) :
    FetchGuard (initial firstConfig) where
  single := by
    intro c d hc
    cases hc
  flag := by
    constructor
    · intro h
      cases h
    · rintro ⟨c, hc⟩
      cases hc

theorem FetchGuard.step (h : FetchGuard s) (hflight : Flight s s' a)
    (hguard : OneByOne s a) : FetchGuard s' := by
  cases hflight with
  | same _ hflag hsame =>
      constructor
      · intro c d hc hd
        exact h.single c d ((hsame c).mp hc) ((hsame d).mp hd)
      · rw [hflag, h.flag]
        exact exists_congr (fun c => (hsame c).symm)
  | begun c hflag helse hnot hnow =>
      have hnone : forall d, ¬ s.InFlight d := by
        intro d hd
        have hset := h.flag.mpr ⟨d, hd⟩
        rw [show s.performingOutOfBandFetch = false from hguard] at hset
        cases hset
      have honly : forall d, s'.InFlight d -> d = c := by
        intro d hd
        by_cases hdc : d = c
        · exact hdc
        · exact (hnone d ((helse d hdc).mp hd)).elim
      constructor
      · intro d e hd he
        rw [honly d hd, honly e he]
      · exact iff_of_true hflag ⟨c, hnow⟩
  | ended c hflag helse hwas hnot =>
      have hnone : forall d, ¬ s'.InFlight d := by
        intro d hd
        by_cases hdc : d = c
        · exact hnot (hdc ▸ hd)
        · exact hdc (h.single d c ((helse d hdc).mp hd) hwas)
      constructor
      · intro d e hd
        exact (hnone d hd).elim
      · rw [hflag]
        exact iff_of_false Bool.false_ne_true (fun ⟨d, hd⟩ => hnone d hd)
  | failed c => exact hguard.elim

theorem waitsItsTurn_of_oneByOne (h : FetchGuard s) (hfresh : s.Fresh)
    (hstep : Step s a s') (hguard : OneByOne s a) : WaitsItsTurn s a s' := by
  constructor
  · rintro c rfl hflight
    have hset := h.flag.mpr hflight
    rw [show s.performingOutOfBandFetch = false from hguard] at hset
    cases hset
  · intro d hwait
    have hactor : a.actor s ≠ some d := fun hactor =>
      actor_ne_waiting hstep hfresh hactor hwait
    rcases (idle_of_ne_actor hstep hactor).2 with hsame | ⟨hnotify, _, hcheck⟩
    · exact Or.inl (hsame.trans hwait)
    · exact Or.inr ⟨hnotify, hcheck⟩

structure FetchInv (s : State) : Prop where
  fresh : s.Fresh
  typed : s.Typed
  fetchGuard : FetchGuard s

theorem fetchInv_of_reach {firstConfig : ParsedConfig}
    (hreach : StepFn.Reach step OneByOne (initial firstConfig) s) : FetchInv s := by
  refine hreach.invariant ⟨initial_fresh _, ?_, initial_fetchGuard _⟩ ?_
  · rintro c known (hphase | hphase)
    · cases hphase
    · cases hphase
  · intro t a u h hguard hstepEq
    have hstep := step_inv hstepEq
    exact ⟨fresh_step hstep h.fresh, typed_step hstep h.typed,
      h.fetchGuard.step (flight_of_step hstep h.fresh h.typed) hguard⟩

/-- In every run in which the calls reach the compare-exchange one by one and no fetch
fails, there is at most one fetch in flight, and the flag is set exactly while there
is one. -/
theorem fetchGuard_of_reach (firstConfig : ParsedConfig)
    (hreach : StepFn.Reach step OneByOne (initial firstConfig) s) :
    FetchGuard s ∧
      forall a s', OneByOne s a -> step s a = some s' -> WaitsItsTurn s a s' := by
  have h := fetchInv_of_reach hreach
  refine ⟨h.fetchGuard, fun a s' hguard hstep => ?_⟩
  exact waitsItsTurn_of_oneByOne h.fetchGuard h.fresh (step_inv hstep) hguard

/-- Two calls fetch, the second after the first has reset the flag. -/
def fetchedInTurn : List Action :=
  [.outOfBandVersion 2 1, .outOfBandVersion 3 1, .checkVersion 0, .checkVersion 1,
    .claim 0, .pollOne 0 (.config (.ofRev 2)), .handleConfig 0, .publish 0,
    .reset 0, .claim 1]

theorem fetchGuard_fetchedInTurn :
    exists s, StepFn.run step (initial (.ofRev 1)) fetchedInTurn = some s ∧
      s.performingOutOfBandFetch = true ∧ s.InFlight 1 ∧ FetchGuard s := by
  refine ⟨_, rfl, rfl, rfl, (fetchGuard_of_reach (.ofRev 1) ?_).1⟩
  have h₁ : StepFn.Reach step OneByOne (initial (.ofRev 1)) _ :=
    StepFn.Reach.tail (Action.outOfBandVersion 2 1) StepFn.Reach.refl trivial rfl
  have h₂ := StepFn.Reach.tail (Action.outOfBandVersion 3 1) h₁ trivial rfl
  have h₃ := StepFn.Reach.tail (Action.checkVersion 0) h₂ trivial rfl
  have h₄ := StepFn.Reach.tail (Action.checkVersion 1) h₃ trivial rfl
  have h₅ := StepFn.Reach.tail (Action.claim 0) h₄ rfl rfl
  have h₆ := StepFn.Reach.tail (Action.pollOne 0 (.config (.ofRev 2)))
    h₅ trivial rfl
  have h₇ := StepFn.Reach.tail (Action.handleConfig 0) h₆ trivial rfl
  have h₈ := StepFn.Reach.tail (Action.publish 0) h₇ trivial rfl
  have h₉ := StepFn.Reach.tail (Action.reset 0) h₈ trivial rfl
  exact StepFn.Reach.tail (Action.claim 1) h₉ rfl rfl

/-- The first step that is not one by one breaks the mutual exclusion or the flag. -/
theorem broken_of_not_oneByOne {firstConfig : ParsedConfig}
    (hreach : StepFn.Reach step OneByOne (initial firstConfig) s)
    (hstep : step s a = some s') (hguard : ¬ OneByOne s a) : ¬ FetchGuard s' := by
  intro h'
  have hinv := fetchInv_of_reach hreach
  have h := hinv.fetchGuard
  cases flight_of_step (step_inv hstep) hinv.fresh hinv.typed with
  | same _ _ _ hone => exact hguard hone
  | begun c hflag helse hnot hnow =>
      have hset : s.performingOutOfBandFetch = true := by
        cases hclear : s.performingOutOfBandFetch with
        | false => exact (hguard hclear).elim
        | true => rfl
      rcases h.flag.mp hset with ⟨d, hd⟩
      have hne : d ≠ c := by
        rintro rfl
        exact hnot hd
      exact hne (h'.single d c ((helse d hne).mpr hd) hnow)
  | ended c => exact hguard trivial
  | failed c hflag helse hwas hnot =>
      have hset : s'.performingOutOfBandFetch = true := by
        rw [hflag]
        exact h.flag.mpr ⟨c, hwas⟩
      rcases h'.flag.mp hset with ⟨d, hd⟩
      by_cases hdc : d = c
      · exact hnot (hdc ▸ hd)
      · exact hdc (h.single d c ((helse d hdc).mp hd) hwas)

/-- Two calls claim one after the other. -/
def claimedTwice : List Action :=
  [.outOfBandVersion 2 1, .checkVersion 0, .claim 0, .outOfBandVersion 3 1, .checkVersion 1,
    .claim 1]

/-- The fetch of a call fails. -/
def fetchLost : List Action :=
  [.outOfBandVersion 2 1, .checkVersion 0, .claim 0, .pollOne 0 .failed]

theorem fetchGuard_fails :
    (exists s, StepFn.run step (initial (.ofRev 1)) claimedTwice = some s ∧
      s.InFlight 0 ∧ s.InFlight 1 ∧ s.phase 1 ≠ .waiting ∧ ¬ FetchGuard s) ∧
    exists s, StepFn.run step (initial (.ofRev 1)) fetchLost = some s ∧
      s.performingOutOfBandFetch = true ∧ s.phase 0 = .returned none ∧ ¬ FetchGuard s := by
  constructor
  · refine ⟨_, rfl, rfl, rfl, by decide, fun h => ?_⟩
    exact Nat.zero_ne_one (h.single 0 1 rfl rfl)
  · refine ⟨_, rfl, rfl, rfl, fun h => ?_⟩
    rcases h.flag.mp rfl with ⟨c, hc⟩
    match c with
    | 0 => cases hc
    | c + 1 => cases hc

end ConfigManager
end CouchbaseSdk
