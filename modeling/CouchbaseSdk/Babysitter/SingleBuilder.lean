import CouchbaseSdk.Babysitter.Clients

/-!
# One builder at a time

`is_building` is meant to be set while a builder runs.  A builder resets it after every
attempt, also after a failed one that it follows up with another; a listener resets it
whoever is building; and a caller that begins a client does not look whether one was
installed since it last looked.
-/

namespace CouchbaseSdk
namespace Babysitter

open Foundation

variable {s s' : State} {a : Action}

/-- The builder has not connected yet. -/
def BuilderPhase.early : BuilderPhase -> Bool
  | .unborn | .throttling | .connecting => true
  | _ => false

def State.Live (s : State) (c : ClientId) : Prop :=
  c < s.connections ∧ s.ended c = false

structure SingleBuilder (s : State) : Prop where
  single : forall b d, s.Running b -> s.Running d -> b = d
  flag : s.isBuilding = true <-> exists b, s.Running b
  /-- No builder is about to install its client over another live one. -/
  installs : forall b c d, s.phase b = .built c -> s.client = some d -> s.ended d = true
  live : forall c d, s.Live c -> s.Live d -> c = d

/-- No attempt fails, a listener takes the lock while no builder runs, and a connection is
made while the client in the slow state, if any, is dead. -/
def BuildsAlone (s : State) : Action -> Prop
  | .record _ => False
  | .clear _ => s.isBuilding = false
  | .connect _ => forall d, s.client = some d -> s.ended d = true
  | _ => True

/-!
# What a step does to the builders
-/

inductive Turn (s s' : State) : Prop where
  | same : s'.isBuilding = s.isBuilding -> (forall d, s'.Running d <-> s.Running d) ->
      Turn s s'
  | begun : s.isBuilding = false -> s'.isBuilding = true ->
      (forall d, s'.Running d <-> d = s.builders ∨ s.Running d) -> Turn s s'
  | installed (b : BuilderId) : s.Running b -> s'.isBuilding = false ->
      (forall d, s'.Running d <-> d ≠ b ∧ s.Running d) -> Turn s s'

theorem running_setPhase {t : State} {b : BuilderId} {old : BuilderPhase}
    (phase : BuilderPhase) (ht : t.phase = s.phase) (hb : s.phase b = old)
    (hsame : phase.running = old.running) (d : BuilderId) :
    (t.setPhase b phase).Running d <-> s.Running d := by
  unfold State.Running
  by_cases hd : d = b
  · subst hd
    rw [setPhase_self, hb, hsame]
  · rw [setPhase_ne t phase hd, ht]

theorem running_beginClientBuild (d : BuilderId) :
    (Function.update s.phase s.builders .throttling d).running = true <->
      d = s.builders ∨ s.Running d := by
  unfold State.Running
  by_cases hd : d = s.builders
  · subst hd
    rw [Function.update_self]
    exact iff_of_true rfl (Or.inl rfl)
  · rw [Function.update_of_ne hd]
    exact ⟨Or.inr, fun h => h.resolve_left hd⟩

theorem turn_of_step (h : Step s a s') (hwf : s.WellFormed) (hopen : s'.shutdown = false)
    (hguard : BuildsAlone s a) : Turn s s' := by
  have hshutdown := shutdown_mono h hopen
  have hstopped : s.shutdown ≠ true := by
    rw [hshutdown]
    exact Bool.false_ne_true
  cases h with
  | begin k seen _ hbuilding | beginAgain b _ hbuilding =>
      exact Turn.begun hbuilding rfl running_beginClientBuild
  | throttle b hb | connectFail b hb | bootstrapOk b _ hb | bootstrapFail b _ hb
  | clearFast b hb | storeFast b _ hb | announce b _ hb | announceUnheard b _ hb
  | notify b _ hb => exact Turn.same rfl (running_setPhase _ rfl hb rfl)
  | connect b hb =>
      exact Turn.same rfl
        (running_setPhase (t := s) (.bootstrapping s.connections) rfl hb rfl)
  | install b c hb =>
      refine Turn.installed b (running_of_phase hb rfl) rfl (fun d => ?_)
      unfold State.Running
      by_cases hd : d = b
      · subst hd
        rw [setPhase_self]
        exact iff_of_false Bool.false_ne_true (fun hne => hne.1 rfl)
      · rw [setPhase_ne _ _ hd]
        exact ⟨fun hrun => ⟨hd, hrun⟩, And.right⟩
  | clear | clearOther => exact Turn.same (Eq.symm hguard) (fun _ => Iff.rfl)
  | record => exact hguard.elim
  | throttleStop _ _ hs | stopConnecting _ hs | stopBootstrapping _ _ hs =>
      exact (hstopped hs).elim
  | clearFastStopped b hb => exact (hstopped (hwf.stopped b hb)).elim
  | _ => exact Turn.same rfl (fun _ => Iff.rfl)

/-!
# The only attempt
-/

theorem early_source (h : Step s a s') (hguard : BuildsAlone s a) (hwf : s.WellFormed)
    {b : BuilderId} (hearly : (s'.phase b).early = true) : (s.phase b).early = true := by
  rcases builder_step h hwf b with hsame | ⟨old, new, hold, hnew, hmove⟩
  · rw [hsame] at hearly
    exact hearly
  · rw [hnew] at hearly
    rw [hold]
    cases hmove with
    | begun | throttle => rfl
    | record => exact hguard.elim
    | _ => cases hearly

/-!
# The invariant
-/

structure BuildInv (s : State) : Prop where
  single : forall b d, s.Running b -> s.Running d -> b = d
  flag : s.isBuilding = true <-> exists b, s.Running b
  replaced : forall b c d, (s.phase b).keeps c = true -> s.client = some d ->
    s.ended d = true
  held : forall c, s.Live c -> s.client = some c ∨ (s.phase (s.owner c)).keeps c = true
  /-- A builder has at most one client, for its only attempt. -/
  early : forall b c, (s.phase b).early = true -> c < s.connections -> s.owner c ≠ b
  one : forall c d, c < s.connections -> d < s.connections -> s.owner c = s.owner d -> c = d
  heard : forall b, s.Heard b -> (s.phase b).early = false ∧
    forall c, c < s.connections -> s.owner c = b -> s.ended c = true

section
variable (h : Step s a s') (hknown : ClientsInv s) (hinv : BuildInv s)
  (hopen : s'.shutdown = false) (hguard : BuildsAlone s a)
include h hknown hinv hopen hguard

theorem single_step (b d : BuilderId) (hb : s'.Running b) (hd : s'.Running d) : b = d := by
  cases turn_of_step h hknown.wellFormed hopen hguard with
  | same _ hrunning => exact hinv.single b d ((hrunning b).mp hb) ((hrunning d).mp hd)
  | begun hbuilding _ hrunning =>
      have hnone : forall e, ¬ s.Running e := by
        intro e he
        rw [hinv.flag.mpr ⟨e, he⟩] at hbuilding
        cases hbuilding
      have hb' := ((hrunning b).mp hb).resolve_right (hnone b)
      have hd' := ((hrunning d).mp hd).resolve_right (hnone d)
      exact hb'.trans hd'.symm
  | installed e _ _ hrunning =>
      exact hinv.single b d ((hrunning b).mp hb).2 ((hrunning d).mp hd).2

theorem flag_step : s'.isBuilding = true <-> exists b, s'.Running b := by
  cases turn_of_step h hknown.wellFormed hopen hguard with
  | same hbuilding hrunning =>
      rw [hbuilding, hinv.flag]
      exact exists_congr (fun b => (hrunning b).symm)
  | begun _ hbuilding hrunning =>
      exact iff_of_true hbuilding ⟨s.builders, (hrunning s.builders).mpr (Or.inl rfl)⟩
  | installed b hb hbuilding hrunning =>
      refine iff_of_false (by rw [hbuilding]; exact Bool.false_ne_true) ?_
      rintro ⟨d, hd⟩
      rcases (hrunning d).mp hd with ⟨hne, hd⟩
      exact hne (hinv.single d b hd hb)

omit hopen in
theorem replaced_step (b : BuilderId) (c d : ClientId) (hkeeps : (s'.phase b).keeps c = true)
    (hclient : s'.client = some d) : s'.ended d = true := by
  rcases keeps_source h hknown.wellFormed hkeeps with hkept | ⟨rfl, _⟩
  · have hold : s.client = some d -> s'.ended d = true := by
      intro hd
      exact ended_step h (hinv.replaced b c d hkept hd)
    cases h with
    | install e f he =>
        have hbe := hinv.single b e (running_of_keeps hkept) (running_of_phase he rfl)
        subst hbe
        rw [setPhase_self] at hkeeps
        cases hkeeps
    | clear | closeTake => cases hclient
    | _ => exact hold hclient
  · cases h with
    | connect => exact hguard d hclient

omit hguard in
theorem held_step (c : ClientId) (hlive : s'.Live c) :
    s'.client = some c ∨ (s'.phase (s'.owner c)).keeps c = true := by
  have hended : s.ended c = false := by
    cases hend : s.ended c with
    | false => rfl
    | true =>
        have hend' := ended_step h hend
        rw [hlive.2] at hend'
        cases hend'
  rcases known_or_new h hlive.1 with hlt | ⟨rfl, b, _, _, rfl⟩
  · rw [owner_kept h hlt]
    rcases hinv.held c ⟨hlt, hended⟩ with hclient | hkeeps
    · cases h with
      | install b d hb =>
          have hdead := hinv.replaced b d c (by rw [hb]; exact beq_self_eq_true d) hclient
          rw [hended] at hdead
          cases hdead
      | clear b d hnotified hd howner =>
          cases hclient.symm.trans hd
          have hdead := (hinv.heard b (Or.inr hnotified)).2 c hlt howner
          rw [hended] at hdead
          cases hdead
      | closeTake hcloser =>
          rw [closer_unborn hknown.wellFormed hopen] at hcloser
          cases hcloser
      | _ => exact Or.inl hclient
    · rcases keeps_kept h hknown.wellFormed hkeeps with hkept | ⟨_, hend⟩ | hclient
      · exact Or.inr hkept
      · rw [hlive.2] at hend
        cases hend
      · exact Or.inl hclient
  · rw [openConnection_owner_self, openConnection_phase_self]
    exact Or.inr (beq_self_eq_true _)

omit hopen in
theorem early_step (b : BuilderId) (c : ClientId) (hearly : (s'.phase b).early = true)
    (hlt : c < s'.connections) : s'.owner c ≠ b := by
  have hbefore := early_source h hguard hknown.wellFormed hearly
  rcases known_or_new h hlt with hlt | ⟨rfl, d, _, _, rfl⟩
  · rw [owner_kept h hlt]
    exact hinv.early b c hbefore hlt
  · rw [openConnection_owner_self]
    rintro rfl
    rw [openConnection_phase_self] at hearly
    cases hearly

omit hopen hknown hguard in
theorem one_step (c d : ClientId) (hc : c < s'.connections) (hd : d < s'.connections)
    (howner : s'.owner c = s'.owner d) : c = d := by
  have hnew : forall {e : ClientId} {b : BuilderId}, e < s.connections ->
      s.phase b = .connecting -> s'.owner e ≠ b := by
    intro e b he hconnecting
    rw [owner_kept h he]
    exact hinv.early b e (by rw [hconnecting]; rfl) he
  rcases known_or_new h hc with hc | ⟨rfl, b, _, hconnecting, hopen⟩
  · rcases known_or_new h hd with hd | ⟨rfl, b, _, hconnecting, hopen⟩
    · rw [owner_kept h hc, owner_kept h hd] at howner
      exact hinv.one c d hc hd howner
    · have hself : s'.owner s.connections = b := hopen ▸ openConnection_owner_self s b
      exact (hnew hc hconnecting (howner.trans hself)).elim
  · rcases known_or_new h hd with hd | ⟨rfl, _⟩
    · have hself : s'.owner s.connections = b := hopen ▸ openConnection_owner_self s b
      exact (hnew hd hconnecting (howner.symm.trans hself)).elim
    · rfl

omit hopen hguard in
theorem heard_before {b : BuilderId} (hheard : s'.Heard b) :
    (s.phase b).early = false ∧
      forall c, c < s.connections -> s.owner c = b -> s.ended c = true := by
  rcases heard_source h hknown.wellFormed hheard with
    hold | ⟨c, hclaimed, howner⟩ | ⟨hreturned, hgone⟩
  · exact hinv.heard b hold
  · rcases hknown.woken c (by rw [hclaimed]; simp) with ⟨hlt, _, hended⟩
    constructor
    · cases hearly : (s.phase b).early with
      | false => rfl
      | true => exact (hinv.early b c hearly hlt howner).elim
    · intro d hd hdowner
      rw [hinv.one d c hd hlt (hdowner.trans howner.symm)]
      exact hended
  · rw [hreturned]
    exact ⟨rfl, fun c hlt howner => (hknown.dropped c (hgone c hlt howner)).2⟩

omit hopen in
theorem heard_step (b : BuilderId) (hheard : s'.Heard b) : (s'.phase b).early = false ∧
    forall c, c < s'.connections -> s'.owner c = b -> s'.ended c = true := by
  rcases heard_before h hknown hinv hheard with ⟨hlate, hdead⟩
  constructor
  · cases hearly : (s'.phase b).early with
    | false => rfl
    | true =>
        rw [early_source h hguard hknown.wellFormed hearly] at hlate
        cases hlate
  · intro c hc howner
    rcases known_or_new h hc with hlt | ⟨rfl, d, _, hconnecting, rfl⟩
    · rw [owner_kept h hlt] at howner
      exact ended_step h (hdead c hlt howner)
    · rw [openConnection_owner_self] at howner
      subst howner
      rw [hconnecting] at hlate
      cases hlate

theorem BuildInv.step : BuildInv s' where
  single := single_step h hknown hinv hopen hguard
  flag := flag_step h hknown hinv hopen hguard
  replaced := replaced_step h hknown hinv hguard
  held := held_step h hknown hinv hopen
  early := early_step h hknown hinv hguard
  one := one_step h hinv
  heard := heard_step h hknown hinv hguard

end

theorem initial_buildInv (onDemandConnect : Bool) : BuildInv (initial onDemandConnect) := by
  have hnone : (initial onDemandConnect).connections = 0 := by
    cases onDemandConnect with
    | _ => rfl
  have hlt : forall c, ¬ c < (initial onDemandConnect).connections := by
    intro c hc
    rw [hnone] at hc
    exact Nat.not_lt_zero c hc
  have hrunning : forall b, (initial onDemandConnect).Running b ->
      b = 0 ∧ onDemandConnect = false := by
    intro b hb
    cases onDemandConnect with
    | true => cases hb
    | false =>
        cases b with
        | zero => exact ⟨rfl, rfl⟩
        | succ b => cases hb
  refine ⟨?_, ?_, ?_, fun c hc => (hlt c hc.1).elim, fun b c _ hc => (hlt c hc).elim,
    fun c d hc => (hlt c hc).elim, ?_⟩
  · intro b d hb hd
    exact (hrunning b hb).1.trans (hrunning d hd).1.symm
  · cases onDemandConnect with
    | true =>
        refine iff_of_false Bool.false_ne_true ?_
        rintro ⟨b, hb⟩
        cases (hrunning b hb).2
    | false => exact iff_of_true rfl ⟨0, rfl⟩
  · intro b c d _ hd
    cases onDemandConnect with
    | _ => cases hd
  · intro b hb
    cases onDemandConnect with
    | true => rcases hb with hb | hb <;> cases hb
    | false =>
        cases b with
        | _ => rcases hb with hb | hb <;> cases hb

theorem SingleBuilder.of_buildInv (h : BuildInv s) : SingleBuilder s := by
  have hdead : forall {c d : ClientId}, s.Live c -> s.client = some c ->
      (s.phase (s.owner d)).keeps d = true -> False := by
    intro c d hlive hclient hkeeps
    have hended := h.replaced _ d c hkeeps hclient
    rw [hlive.2] at hended
    cases hended
  refine ⟨h.single, h.flag, ?_, ?_⟩
  · intro b c d hb hclient
    exact h.replaced b c d (by rw [hb]; exact beq_self_eq_true c) hclient
  · intro c d hc hd
    rcases h.held c hc with hclient | hkeeps
    · rcases h.held d hd with hclient' | hkeeps'
      · exact Option.some.inj (hclient.symm.trans hclient')
      · exact (hdead hc hclient hkeeps').elim
    · rcases h.held d hd with hclient' | hkeeps'
      · exact (hdead hd hclient' hkeeps).elim
      · have howner := h.single _ _ (running_of_keeps hkeeps) (running_of_keeps hkeeps')
        exact h.one c d hc.1 hd.1 howner

/-- One builder at a time in every run in which no attempt fails, no listener takes the
lock while a builder runs, and no connection is made beside a live client. -/
theorem singleBuilder_of_reach (onDemandConnect : Bool) (s : State)
    (hreach : StepFn.Reach step BuildsAlone (initial onDemandConnect) s)
    (hopen : s.shutdown = false) : SingleBuilder s := by
  have hinv : s.shutdown = false -> BuildInv s :=
    hreach.invariant_while (fun _ h => clientsInv_of_reach h)
      (fun _ _ _ h => shutdown_mono (step_inv h)) (initial_buildInv onDemandConnect)
      (fun _ _ _ hknown hinv hguard h hopen =>
        BuildInv.step (step_inv h) hknown hinv hopen hguard)
  exact SingleBuilder.of_buildInv (hinv hopen)

/-- The first client is cleared when its connection ends, and a second one replaces it. -/
theorem singleBuilder_replacedClient :
    exists s, StepFn.Reach step BuildsAlone (initial false) s ∧ s.builders = 2 ∧
      s.client = some 1 ∧ SingleBuilder s := by
  have h₁ : StepFn.Reach step BuildsAlone (initial false) _ :=
    StepFn.Reach.tail (Action.throttle 0) StepFn.Reach.refl trivial rfl
  have h₂ := StepFn.Reach.tail (Action.connect 0) h₁
    (fun _ hd => (Option.some_ne_none _ hd.symm).elim) rfl
  have h₃ := StepFn.Reach.tail (Action.bootstrapOk 0) h₂ trivial rfl
  have h₄ := StepFn.Reach.tail (Action.install 0) h₃ trivial rfl
  have h₅ := StepFn.Reach.tail (Action.endConnection 0) h₄ trivial rfl
  have h₆ := StepFn.Reach.tail (Action.claimClose 0) h₅ trivial rfl
  have h₇ := StepFn.Reach.tail (Action.sendOnClose 0) h₆ trivial rfl
  have h₈ := StepFn.Reach.tail (Action.receiveClose 0) h₇ trivial rfl
  have h₉ := StepFn.Reach.tail (Action.clear 0) h₈ rfl rfl
  have h₁₀ := StepFn.Reach.tail (Action.notifyClosed 0) h₉ trivial rfl
  have h₁₁ := StepFn.Reach.tail (Action.beginAgain 0) h₁₀ trivial rfl
  have h₁₂ := StepFn.Reach.tail (Action.throttle 1) h₁₁ trivial rfl
  have h₁₃ := StepFn.Reach.tail (Action.connect 1) h₁₂
    (fun _ hd => (Option.some_ne_none _ hd.symm).elim) rfl
  have h₁₄ := StepFn.Reach.tail (Action.bootstrapOk 1) h₁₃ trivial rfl
  have h₁₅ := StepFn.Reach.tail (Action.install 1) h₁₄ trivial rfl
  exact ⟨_, h₁₅, rfl, rfl, singleBuilder_of_reach false _ h₁₅ rfl⟩

/-!
# Where it fails
-/

/-- Every step outside of the condition breaks what held before it. -/
theorem broken_of_not_buildsAlone (h : Step s a s') (hknown : ClientsInv s)
    (hsingle : SingleBuilder s) (hguard : ¬ BuildsAlone s a) : ¬ SingleBuilder s' := by
  intro hsingle'
  have hflag : forall b, s'.isBuilding = false -> ¬ s'.Running b := by
    intro b hbuilding hb
    rw [hsingle'.flag.mpr ⟨b, hb⟩] at hbuilding
    cases hbuilding
  have hrunning : s.isBuilding ≠ false -> exists b, s.Running b := by
    intro hbuilding
    exact hsingle.flag.mp (Bool.not_eq_false _ ▸ hbuilding)
  cases h with
  | record b =>
      refine hflag b rfl ?_
      unfold State.Running
      rw [setPhase_self]
      rfl
  | clear | clearOther =>
      rcases hrunning hguard with ⟨d, hd⟩
      exact hflag d rfl hd
  | connect b =>
      refine hguard (fun d hclient => ?_)
      cases hended : s.ended d with
      | true => rfl
      | false =>
          have hlt := hknown.valid d hclient
          have hnew : s.ended s.connections = false := by
            refine Bool.eq_false_iff.mpr (fun hend => ?_)
            exact Nat.lt_irrefl _ (hknown.fresh _ (Or.inr hend))
          have heq := hsingle'.live d s.connections ⟨Nat.lt_succ_of_lt hlt, hended⟩
            ⟨Nat.lt_succ_self _, hnew⟩
          exact (Nat.ne_of_lt hlt heq).elim
  | _ => exact hguard trivial

/-- The first attempt fails, and a caller begins a second builder while the first one goes
on. -/
def failedAttempt : List Action :=
  [.throttle 0, .connectFail 0, .clearFast 0, .record 0, .getClient, .checkSlow 0,
    .subscribe 0, .begin 0]

/-- Both builders connect, and the first one installs its client. -/
def bothConnect : List Action :=
  [.throttle 0, .connect 0, .bootstrapOk 0, .throttle 1, .connect 1, .bootstrapOk 1,
    .install 0]

theorem failedAttempt_notSingle :
    exists t s, StepFn.run step (initial false) failedAttempt = some t ∧
      t.Running 0 ∧ t.Running 1 ∧ StepFn.run step t bothConnect = some s ∧
      s.shutdown = false ∧ s.Running 1 ∧ s.isBuilding = false ∧ s.phase 1 = .built 1 ∧
      s.client = some 0 ∧ s.Live 0 ∧ s.Live 1 ∧ ¬ SingleBuilder s := by
  refine ⟨_, _, rfl, rfl, rfl, rfl, rfl, rfl, rfl, rfl, rfl, ⟨Nat.zero_lt_two, rfl⟩,
    ⟨Nat.one_lt_two, rfl⟩, ?_⟩
  intro hsingle
  exact Nat.zero_ne_one (hsingle.live 0 1 ⟨Nat.zero_lt_two, rfl⟩ ⟨Nat.one_lt_two, rfl⟩)

end Babysitter
end CouchbaseSdk
