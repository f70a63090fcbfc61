import CouchbaseSdk.Babysitter.Model

/-!
# Builders and listeners

A step moves at most one builder and one listener, and begins at most one of each.  What it
does to a given builder, or to a given listener, is one of a few moves.
-/

namespace CouchbaseSdk
namespace Babysitter

open Foundation

variable {s s' : State} {a : Action}

@[simp] theorem setPhase_self (s : State) (b : BuilderId) (phase : BuilderPhase) :
    (s.setPhase b phase).phase b = phase := by
  unfold State.setPhase
  exact Function.update_self ..

theorem setPhase_ne (s : State) {b d : BuilderId} (phase : BuilderPhase) (h : d ≠ b) :
    (s.setPhase b phase).phase d = s.phase d := by
  unfold State.setPhase
  exact Function.update_of_ne h ..

@[simp] theorem setListener_self (s : State) (b : BuilderId) (listener : Listener) :
    (s.setListener b listener).listener b = listener := by
  unfold State.setListener
  exact Function.update_self ..

theorem setListener_ne (s : State) {b d : BuilderId} (listener : Listener) (h : d ≠ b) :
    (s.setListener b listener).listener d = s.listener d := by
  unfold State.setListener
  exact Function.update_of_ne h ..

/-- No builder beyond those that have begun, and `close` cancels first. -/
structure State.WellFormed (s : State) : Prop where
  phase : forall b, s.builders ≤ b -> s.phase b = .unborn
  listener : forall b, s.builders ≤ b -> s.listener b = .unborn
  listening : forall b, b < s.builders -> s.listener b ≠ .unborn
  closer : s.closer ≠ .unborn -> s.shutdown = true
  stopped : forall b, s.phase b = .stopped -> s.shutdown = true

/-!
# The moves of a builder
-/

inductive BuilderMove (s s' : State) (b : BuilderId) :
    Action -> BuilderPhase -> BuilderPhase -> Prop where
  | begun (a : Action) : b = s.builders -> s'.builders = s.builders + 1 ->
      BuilderMove s s' b a .unborn .throttling
  | throttle : BuilderMove s s' b (.throttle b) .throttling .connecting
  | throttleStop : s.shutdown = true ->
      BuilderMove s s' b (.throttleStop b) .throttling .returned
  | connect : s' = s.openConnection b ->
      BuilderMove s s' b (.connect b) .connecting (.bootstrapping s.connections)
  | connectFail : BuilderMove s s' b (.connectFail b) .connecting .failed
  | bootstrapOk (c : ClientId) :
      BuilderMove s s' b (.bootstrapOk b) (.bootstrapping c) (.built c)
  | bootstrapFail (c : ClientId) : s'.closed c = true -> s'.ended c = true ->
      BuilderMove s s' b (.bootstrapFail b) (.bootstrapping c) .failed
  | stopConnecting : s.shutdown = true -> BuilderMove s s' b (.stop b) .connecting .stopped
  | stopBootstrapping (c : ClientId) : s.shutdown = true -> s'.closed c = true ->
      s'.ended c = true -> BuilderMove s s' b (.stop b) (.bootstrapping c) .stopped
  | clearFast : BuilderMove s s' b (.clearFast b) .failed .recording
  | clearFastStopped : BuilderMove s s' b (.clearFast b) .stopped .returned
  | record : BuilderMove s s' b (.record b) .recording .throttling
  | install (c : ClientId) : s'.client = some c ->
      BuilderMove s s' b (.install b) (.built c) (.installed c)
  | storeFast (c : ClientId) : BuilderMove s s' b (.storeFast b) (.installed c) (.stored c)
  | announce (c : ClientId) : BuilderMove s s' b (.announce b) (.stored c) (.announced c)
  | notify (c : ClientId) : BuilderMove s s' b (.notify b) (.announced c) .returned

/-- A builder stays where it is, or makes one of its moves. -/
theorem builder_step (h : Step s a s') (hwf : s.WellFormed) (b : BuilderId) :
    s'.phase b = s.phase b ∨
      exists old new, s.phase b = old ∧ s'.phase b = new ∧ BuilderMove s s' b a old new := by
  have hset : forall {t : State} {d : BuilderId} {old phase : BuilderPhase},
      t.phase = s.phase -> s.phase d = old -> BuilderMove s s' d a old phase ->
        (t.setPhase d phase).phase b = s.phase b ∨
          exists old new, s.phase b = old ∧ (t.setPhase d phase).phase b = new ∧
            BuilderMove s s' b a old new := by
    intro t d old phase ht hd hmove
    by_cases hb : b = d
    · subst hb
      rw [setPhase_self]
      exact Or.inr ⟨old, phase, hd, rfl, hmove⟩
    · rw [setPhase_ne t phase hb, ht]
      exact Or.inl rfl
  have hunborn := hwf.phase s.builders (Nat.le_refl _)
  cases h with
  | begin | beginAgain => exact hset (t := s) rfl hunborn (BuilderMove.begun _ rfl rfl)
  | throttle d hd => exact hset rfl hd BuilderMove.throttle
  | throttleStop d hd hs => exact hset rfl hd (BuilderMove.throttleStop hs)
  | connect d hd => exact hset (t := s) rfl hd (BuilderMove.connect rfl)
  | connectFail d hd => exact hset rfl hd BuilderMove.connectFail
  | bootstrapOk d c hd => exact hset rfl hd (BuilderMove.bootstrapOk c)
  | bootstrapFail d c hd =>
      exact hset rfl hd
        (BuilderMove.bootstrapFail c (Function.update_self ..) (Function.update_self ..))
  | stopConnecting d hs hd => exact hset rfl hd (BuilderMove.stopConnecting hs)
  | stopBootstrapping d c hs hd =>
      exact hset rfl hd
        (BuilderMove.stopBootstrapping c hs (Function.update_self ..) (Function.update_self ..))
  | clearFast d hd => exact hset rfl hd BuilderMove.clearFast
  | clearFastStopped d hd => exact hset rfl hd BuilderMove.clearFastStopped
  | record d hd => exact hset rfl hd BuilderMove.record
  | install d c hd => exact hset rfl hd (BuilderMove.install c rfl)
  | storeFast d c hd => exact hset rfl hd (BuilderMove.storeFast c)
  | announce d c hd | announceUnheard d c hd => exact hset rfl hd (BuilderMove.announce c)
  | notify d c hd => exact hset rfl hd (BuilderMove.notify c)
  | _ => exact Or.inl rfl

/-!
# The moves of a listener
-/

inductive ListenerMove (s s' : State) (b : BuilderId) :
    Action -> Listener -> Listener -> Prop where
  | begun (a : Action) : b = s.builders -> s'.builders = s.builders + 1 ->
      s'.message b = false -> ListenerMove s s' b a .unborn .listening
  | receiveClose : s.message b = true ->
      ListenerMove s s' b (.receiveClose b) .listening .notified
  | hangup : s.phase b = .returned ->
      (forall c, c < s.connections -> s.owner c = b -> s.dropped c = true) ->
        ListenerMove s s' b (.hangup b) .listening .notified
  | stopListening : s.shutdown = true ->
      ListenerMove s s' b (.stopListening b) .listening .returned
  | clear : ListenerMove s s' b (.clear b) .notified .cleared
  | clearOther : ListenerMove s s' b (.clear b) .notified .returned
  | tell : ListenerMove s s' b (.notifyClosed b) .cleared .told
  | tellLast : ListenerMove s s' b (.notifyClosed b) .cleared .returned
  | beginAgain : ListenerMove s s' b (.beginAgain b) .told .returned

theorem listener_step (h : Step s a s') (hwf : s.WellFormed) (b : BuilderId) :
    s'.listener b = s.listener b ∨
      exists old new, s.listener b = old ∧ s'.listener b = new ∧
        ListenerMove s s' b a old new := by
  have hset : forall {t : State} {d : BuilderId} {old listener : Listener},
      t.listener = s.listener -> s.listener d = old -> ListenerMove s s' d a old listener ->
        (t.setListener d listener).listener b = s.listener b ∨
          exists old new, s.listener b = old ∧ (t.setListener d listener).listener b = new ∧
            ListenerMove s s' b a old new := by
    intro t d old listener ht hd hmove
    by_cases hb : b = d
    · subst hb
      rw [setListener_self]
      exact Or.inr ⟨old, listener, hd, rfl, hmove⟩
    · rw [setListener_ne t listener hb, ht]
      exact Or.inl rfl
  have hunborn := hwf.listener s.builders (Nat.le_refl _)
  cases h with
  | begin =>
      exact hset (t := s) rfl hunborn (ListenerMove.begun _ rfl rfl (Function.update_self ..))
  | beginAgain d hd =>
      by_cases hb : b = d
      · subst hb
        exact Or.inr ⟨_, _, hd, setListener_self _ _ _, ListenerMove.beginAgain⟩
      · rw [setListener_ne _ _ hb]
        exact hset (t := s) rfl hunborn (ListenerMove.begun _ rfl rfl (Function.update_self ..))
  | receiveClose d hd hmessage => exact hset rfl hd (ListenerMove.receiveClose hmessage)
  | hangup d hd hreturned hgone =>
      exact hset rfl hd (ListenerMove.hangup hreturned (fun c hlt ho => (hgone c hlt ho).1))
  | stopListening d hd hs => exact hset rfl hd (ListenerMove.stopListening hs)
  | clear d c hd => exact hset rfl hd ListenerMove.clear
  | clearOther d hd => exact hset rfl hd ListenerMove.clearOther
  | notifyClosed d listener hd hnext =>
      rcases hnext with rfl | rfl
      · exact hset rfl hd ListenerMove.tellLast
      · exact hset rfl hd ListenerMove.tell
  | begunAlready d hd => exact hset rfl hd ListenerMove.beginAgain
  | _ => exact Or.inl rfl

/-!
# What has begun
-/

theorem builders_step (h : Step s a s') (hwf : s.WellFormed) : s'.builders = s.builders ∨
    (s'.builders = s.builders + 1 ∧ s'.listener s.builders = .listening) := by
  have hself : s.beginClientBuild.listener s.builders = .listening := Function.update_self ..
  cases h with
  | begin => exact Or.inr ⟨rfl, hself⟩
  | beginAgain d hd =>
      have hne : s.builders ≠ d := by
        rintro rfl
        cases hd.symm.trans (hwf.listener _ (Nat.le_refl _))
      exact Or.inr ⟨rfl, (setListener_ne _ _ hne).trans hself⟩
  | _ => exact Or.inl rfl

theorem builders_le (h : Step s a s') (hwf : s.WellFormed) : s.builders ≤ s'.builders := by
  rcases builders_step h hwf with hsame | ⟨hnext, _⟩
  · exact Nat.le_of_eq hsame.symm
  · exact hnext ▸ Nat.le_succ _

/-- A babysitter that is not shut down was not shut down before. -/
theorem shutdown_mono (h : Step s a s') (hopen : s'.shutdown = false) :
    s.shutdown = false := by
  cases h with
  | closeCancel => cases hopen
  | _ => exact hopen

theorem shutdown_kept (h : Step s a s') (hshutdown : s.shutdown = true) :
    s'.shutdown = true := by
  cases h with
  | closeCancel => rfl
  | _ => exact hshutdown

theorem initial_wellFormed (onDemandConnect : Bool) : (initial onDemandConnect).WellFormed := by
  cases onDemandConnect with
  | true =>
      refine ⟨fun _ _ => rfl, fun _ _ => rfl, ?_, fun h => (h rfl).elim, ?_⟩
      · intro b hb
        exact (Nat.not_lt_zero b hb).elim
      · intro b hb
        cases hb
  | false =>
      have hne : forall b, 1 ≤ b -> b ≠ 0 := by
        rintro b hle rfl
        exact Nat.not_succ_le_zero _ hle
      constructor
      · intro b hle
        exact Function.update_of_ne (hne b hle) ..
      · intro b hle
        exact Function.update_of_ne (hne b hle) ..
      · intro b hb hunborn
        cases Nat.lt_one_iff.mp hb
        cases hunborn
      · intro hcloser
        exact (hcloser rfl).elim
      · intro b hb
        cases b with
        | _ => cases hb

section
variable (h : Step s a s') (hwf : s.WellFormed)
include h hwf

theorem wellFormed_phase_step (b : BuilderId) (hle : s'.builders ≤ b) :
    s'.phase b = .unborn := by
  have hunborn := hwf.phase b (Nat.le_trans (builders_le h hwf) hle)
  rcases builder_step h hwf b with hsame | ⟨old, new, hold, _, hmove⟩
  · exact hsame.trans hunborn
  · rw [hold] at hunborn
    cases hmove with
    | begun _ hb hnext =>
        rw [hb, hnext] at hle
        exact (Nat.not_succ_le_self _ hle).elim
    | _ => cases hunborn

theorem wellFormed_listener_step (b : BuilderId) (hle : s'.builders ≤ b) :
    s'.listener b = .unborn := by
  have hunborn := hwf.listener b (Nat.le_trans (builders_le h hwf) hle)
  rcases listener_step h hwf b with hsame | ⟨old, new, hold, _, hmove⟩
  · exact hsame.trans hunborn
  · rw [hold] at hunborn
    cases hmove with
    | begun _ hb hnext =>
        rw [hb, hnext] at hle
        exact (Nat.not_succ_le_self _ hle).elim
    | _ => cases hunborn

theorem wellFormed_listening_step (b : BuilderId) (hlt : b < s'.builders) :
    s'.listener b ≠ .unborn := by
  rcases listener_step h hwf b with hsame | ⟨old, new, _, hnew, hmove⟩
  · rcases builders_step h hwf with hbuilders | ⟨hbuilders, hlistening⟩
    · rw [hsame]
      exact hwf.listening b (hbuilders ▸ hlt)
    · rcases Nat.lt_succ_iff_lt_or_eq.mp (hbuilders ▸ hlt) with hlt | rfl
      · rw [hsame]
        exact hwf.listening b hlt
      · rw [hlistening]
        simp
  · rw [hnew]
    cases hmove with
    | _ => simp

theorem wellFormed_closer_step (hcloser : s'.closer ≠ .unborn) : s'.shutdown = true := by
  cases h with
  | closeCancel => rfl
  | closeTake hold | closeTaken _ _ _ hold | closedTaken _ _ _ hold | closeNone _ hold
  | closeNotify hold =>
      apply hwf.closer
      rw [hold]
      simp
  | _ => exact hwf.closer hcloser

theorem wellFormed_stopped_step (b : BuilderId) (hb : s'.phase b = .stopped) :
    s'.shutdown = true := by
  rcases builder_step h hwf b with hsame | ⟨old, new, _, hnew, hmove⟩
  · exact shutdown_kept h (hwf.stopped b (hsame.symm.trans hb))
  · rw [hnew] at hb
    cases hmove with
    | stopConnecting hs | stopBootstrapping _ hs => exact shutdown_kept h hs
    | _ => cases hb

theorem wellFormed_step : s'.WellFormed where
  phase := wellFormed_phase_step h hwf
  listener := wellFormed_listener_step h hwf
  listening := wellFormed_listening_step h hwf
  closer := wellFormed_closer_step h hwf
  stopped := wellFormed_stopped_step h hwf

end

theorem wellFormed_of_reach {guard : State -> Action -> Prop} {onDemandConnect : Bool}
    (hreach : StepFn.Reach step guard (initial onDemandConnect) s) : s.WellFormed :=
  hreach.invariant (initial_wellFormed onDemandConnect)
    (fun _ _ _ hwf _ hstep => wellFormed_step (step_inv hstep) hwf)

theorem closer_unborn (hwf : s.WellFormed) (hopen : s.shutdown = false) :
    s.closer = .unborn := by
  cases hcloser : s.closer with
  | unborn => rfl
  | _ =>
      have hshutdown := hwf.closer (by rw [hcloser]; simp)
      rw [hopen] at hshutdown
      cases hshutdown

end Babysitter
end CouchbaseSdk
