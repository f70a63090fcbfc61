import CouchbaseSdk.Babysitter.Clients
import CouchbaseSdk.Babysitter.Copies

/-!
# Dead clients are replaced

The end of a connection reaches the babysitter through the close task of the client, which
sends on `on_close` only if it is the one that sets `closed`, and through the listener of
the builder, which stops after the first message.
-/

namespace CouchbaseSdk
namespace Babysitter

open Foundation

variable {s s' : State} {a : Action}

/-- No task of the babysitter or of its clients has a step left to take. -/
structure AtRest (s : State) : Prop extends Quiescent s where
  messages : forall b, s.listener b = .listening -> s.message b = false
  claims : forall c, s.closeTask c ≠ .claimed
  tasks : forall c, c < s.connections -> s.closeTask c = .waiting -> s.ended c = false

/-- The clients that are handed out are alive. -/
structure HandsOutLive (s : State) : Prop where
  client : forall c, s.client = some c -> s.ended c = false
  fast : forall c, s.fastClient = some c -> s.ended c = false

/-- A listener takes the lock after its builder has installed a client, a client is copied
while the slow state still has it, and only the close task closes the current client. -/
def EndsHeard (s : State) : Action -> Prop
  | .clear b => (s.phase b).running = false
  | .storeFast b => forall c, s.phase b = .installed c -> s.client = some c
  | .closeByHolder c => s.client = some c -> s.closed c = true
  | _ => True

/-!
# Where the end of a connection is on its way
-/

/-- The connection has not been closed, or a listener will hear of it. -/
def State.Pending (s : State) (c : ClientId) : Prop :=
  s.closed c = false ∨ s.closeTask c = .claimed ∨ s.Heard (s.owner c)

/-- The client is the current one, or its builder may still install it. -/
def State.Current (s : State) (c : ClientId) : Prop :=
  s.client = some c ∨ (s.phase (s.owner c)).keeps c = true

/-- The listener has taken the lock. -/
def Listener.past : Listener -> Bool
  | .cleared | .told | .returned => true
  | _ => false

structure HeardInv (s : State) : Prop where
  fast : s.fastClient = none ∨ s.fastClient = s.client ∨ s.Copying
  pending : forall c, c < s.connections -> s.Current c -> s.Pending c
  past : forall b, (s.listener b).past = true -> (s.phase b).running = false ∧
    forall c, s.client = some c -> s.owner c ≠ b

/-!
# Sources
-/

theorem running_source (h : Step s a s') (hwf : s.WellFormed) {b : BuilderId}
    (hrunning : (s'.phase b).running = true) :
    (s.phase b).running = true ∨ b = s.builders := by
  rcases builder_step h hwf b with hsame | ⟨old, new, hold, hnew, hmove⟩
  · rw [hsame] at hrunning
    exact Or.inl hrunning
  · rw [hnew] at hrunning
    rw [hold]
    cases hmove with
    | begun _ hb => exact Or.inr hb
    | throttleStop | clearFastStopped | install | storeFast | announce | notify =>
        cases hrunning
    | _ => exact Or.inl rfl

theorem past_source (h : Step s a s') (hwf : s.WellFormed) (hopen : s.shutdown = false)
    {b : BuilderId} (hpast : (s'.listener b).past = true) :
    (s.listener b).past = true ∨ a = .clear b := by
  rcases listener_step h hwf b with hsame | ⟨old, new, hold, hnew, hmove⟩
  · rw [hsame] at hpast
    exact Or.inl hpast
  · rw [hnew] at hpast
    rw [hold]
    cases hmove with
    | begun | receiveClose | hangup => cases hpast
    | stopListening hshutdown =>
        rw [hopen] at hshutdown
        cases hshutdown
    | clear | clearOther => exact Or.inr rfl
    | tell | tellLast | beginAgain => exact Or.inl rfl

/-- A message stays until the listener receives it. -/
theorem message_kept (h : Step s a s') {b : BuilderId} (hborn : b < s.builders)
    (hmessage : s.message b = true) : s'.message b = true ∨ s'.listener b = .notified := by
  have hne : b ≠ s.builders := Nat.ne_of_lt hborn
  cases h with
  | begin | beginAgain => exact Or.inl ((Function.update_of_ne hne ..).trans hmessage)
  | sendOnClose => exact Or.inl (update_true_iff.mpr (Or.inr hmessage))
  | receiveClose d =>
      by_cases hb : b = d
      · subst hb
        exact Or.inr (setListener_self _ _ _)
      · exact Or.inl ((Function.update_of_ne hb ..).trans hmessage)
  | _ => exact Or.inl hmessage

/-- What a listener has heard it keeps until it takes the lock. -/
theorem heard_kept (h : Step s a s') (hwf : s.WellFormed) {b : BuilderId}
    (hborn : b < s.builders) (hheard : s.Heard b) :
    s'.Heard b ∨ a = .clear b := by
  rcases hheard with hmessage | hnotified
  · rcases message_kept h hborn hmessage with hkept | hreceived
    · exact Or.inl (Or.inl hkept)
    · exact Or.inl (Or.inr hreceived)
  · rcases listener_step h hwf b with hsame | ⟨old, new, hold, _, hmove⟩
    · exact Or.inl (Or.inr (hsame.trans hnotified))
    · rw [hold] at hnotified
      cases hmove with
      | clear | clearOther => exact Or.inr rfl
      | _ => cases hnotified

/-!
# A step keeps the end of a connection on its way
-/

section
variable (h : Step s a s') (hknown : ClientsInv s) (hinv : HeardInv s)
  (hopen : s'.shutdown = false) (hguard : EndsHeard s a)
include h hknown

theorem current_of_client {c : ClientId} (hclient : s'.client = some c) :
    c < s.connections ∧ s.Current c := by
  have hold : s.client = some c -> c < s.connections ∧ s.Current c :=
    fun hclient => ⟨hknown.valid c hclient, Or.inl hclient⟩
  cases h with
  | install b d hb =>
      cases hclient
      rcases hknown.hand b c (by rw [hb]; rfl) with ⟨howner, hlt⟩
      refine ⟨hlt, Or.inr ?_⟩
      rw [howner, hb]
      exact beq_self_eq_true c
  | clear | closeTake => cases hclient
  | _ => exact hold hclient

theorem current_source {c : ClientId} (hc : s'.Current c) :
    (c < s.connections ∧ s.Current c) ∨ c = s.connections := by
  rcases hc with hclient | hkeeps
  · exact Or.inl (current_of_client h hknown hclient)
  · rcases keeps_source h hknown.wellFormed hkeeps with hkept | ⟨_, hnew⟩
    · rcases hknown.hand _ c (client_of_keeps hkept) with ⟨howner, hlt⟩
      refine Or.inl ⟨hlt, Or.inr ?_⟩
      rw [← howner] at hkept
      exact hkept
    · exact Or.inr hnew

include hopen hguard in
theorem open_step {c : ClientId} (hc : s.Current c) (hclosed : s.closed c = false) :
    s'.closed c = false ∨ s'.closeTask c = .claimed ∨ ¬ s'.Current c := by
  have hshutdown := shutdown_mono h hopen
  have hset : forall {d : ClientId}, (d = c -> s'.closeTask c = .claimed ∨ ¬ s'.Current c) ->
      s'.closed = Function.update s.closed d true ->
        s'.closed c = false ∨ s'.closeTask c = .claimed ∨ ¬ s'.Current c := by
    intro d hd heq
    by_cases hdc : d = c
    · exact Or.inr (hd hdc)
    · rw [heq, Function.update_of_ne (Ne.symm hdc)]
      exact Or.inl hclosed
  cases h with
  | claimClose d =>
      refine hset (fun hd => ?_) rfl
      subst hd
      exact Or.inl (Function.update_self ..)
  | closeByHolder d _ _ hkeeps hd =>
      refine hset (fun hdc => ?_) rfl
      subst hdc
      rcases hc with hclient | hkept
      · rw [hguard hclient] at hd
        cases hd
      · rw [hkeeps] at hkept
        cases hkept
  | release d _ _ hclient _ _ hphase =>
      refine hset (fun hdc => ?_) rfl
      subst hdc
      rcases hc with hcurrent | hkept
      · exact (hclient hcurrent).elim
      · exact (hphase (client_of_keeps hkept)).elim
  | bootstrapFail b d hb =>
      refine hset (fun hdc => ?_) rfl
      subst hdc
      refine Or.inr ?_
      have howner : s.owner d = b := (hknown.hand b d (by rw [hb]; rfl)).1
      rintro (hclient | hkept)
      · exact hknown.apart b d (by rw [hb]; exact beq_self_eq_true d) hclient
      · have hself : (((s.dropClient d).setPhase b .failed).phase b).keeps d = true :=
          howner ▸ hkept
        rw [setPhase_self] at hself
        cases hself
  | stopBootstrapping _ _ hs =>
      rw [hshutdown] at hs
      cases hs
  | closeTaken _ _ _ hcloser =>
      rw [closer_unborn hknown.wellFormed hshutdown] at hcloser
      cases hcloser
  | _ => exact Or.inl hclosed

include hinv

/-- A send that fails comes too late: the listener was notified already. -/
theorem claimed_step {c : ClientId} (hlt : c < s.connections) (hc : s.Current c)
    (hclaimed : s.closeTask c = .claimed) :
    s'.closeTask c = .claimed ∨ s'.Heard (s.owner c) := by
  have hset : forall {d : ClientId}, s.closeTask d = .waiting ->
      forall task, Function.update s.closeTask d task c = .claimed := by
    intro d hd task
    rw [Function.update_of_ne]
    · exact hclaimed
    · rintro rfl
      cases hclaimed.symm.trans hd
  cases h with
  | claimClosed d hd | claimClose d hd => exact Or.inl (hset hd _)
  | sendOnClose d =>
      by_cases hdc : c = d
      · subst hdc
        exact Or.inr (Or.inl (Function.update_self ..))
      · exact Or.inl ((Function.update_of_ne hdc ..).trans hclaimed)
  | sendFailed d _ hlistener =>
      by_cases hdc : c = d
      · subst hdc
        refine Or.inr (Or.inr ?_)
        have hpast : (s.listener (s.owner c)).past ≠ true := by
          intro hpast
          rcases hinv.past _ hpast with ⟨hidle, hother⟩
          rcases hc with hclient | hkeeps
          · exact hother c hclient rfl
          · rw [running_of_keeps hkeeps] at hidle
            cases hidle
        cases hl : s.listener (s.owner c) with
        | unborn =>
            exact (hknown.wellFormed.listening _ (hknown.owner_begun hlt) hl).elim
        | listening => exact (hlistener hl).elim
        | notified => rfl
        | _ =>
            rw [hl] at hpast
            exact (hpast rfl).elim
      · exact Or.inl ((Function.update_of_ne hdc ..).trans hclaimed)
  | _ => exact Or.inl hclaimed

include hopen hguard

theorem pending_step (c : ClientId) (hlt' : c < s'.connections) (hc' : s'.Current c) :
    s'.Pending c := by
  rcases current_source h hknown hc' with ⟨hlt, hc⟩ | rfl
  · have howner := owner_kept h hlt
    unfold State.Pending
    rw [howner]
    rcases hinv.pending c hlt hc with hclosed | hclaimed | hheard
    · rcases open_step h hknown hopen hguard hc hclosed with hopen | hclaimed | hgone
      · exact Or.inl hopen
      · exact Or.inr (Or.inl hclaimed)
      · exact (hgone hc').elim
    · exact Or.inr (claimed_step h hknown hinv hlt hc hclaimed)
    · rcases heard_kept h hknown.wellFormed (hknown.owner_begun hlt) hheard with hheard' | rfl
      · exact Or.inr (Or.inr hheard')
      · exfalso
        rcases hc' with hclient | hkeeps
        · cases h with
          | clear => cases hclient
          | clearOther _ _ hother => exact hother c hclient rfl
        · rcases keeps_source h hknown.wellFormed hkeeps with hkept | ⟨hconnect, _⟩
          · rw [howner] at hkept
            cases hguard.symm.trans (running_of_keeps hkept)
          · cases hconnect
  · refine Or.inl (Bool.eq_false_iff.mpr (fun hclosed => ?_))
    rcases known_or_new h hlt' with hlt | ⟨_, b, _, _, rfl⟩
    · exact Nat.lt_irrefl _ hlt
    · exact Nat.lt_irrefl _ (hknown.fresh _ (Or.inl hclosed))

theorem past_step (b : BuilderId) (hpast : (s'.listener b).past = true) :
    (s'.phase b).running = false ∧ forall c, s'.client = some c -> s'.owner c ≠ b := by
  rcases past_source h hknown.wellFormed (shutdown_mono h hopen) hpast with hold | rfl
  · rcases hinv.past b hold with ⟨hidle, hother⟩
    constructor
    · refine Bool.eq_false_iff.mpr (fun hrunning => ?_)
      rcases running_source h hknown.wellFormed hrunning with hrunning | rfl
      · rw [hidle] at hrunning
        cases hrunning
      · rw [hknown.wellFormed.listener _ (Nat.le_refl _)] at hold
        cases hold
    · intro c hclient howner
      rcases current_of_client h hknown hclient with ⟨hlt, hcurrent⟩
      rw [owner_kept h hlt] at howner
      rcases hcurrent with hclient | hkeeps
      · exact hother c hclient howner
      · rw [howner] at hkeeps
        cases hidle.symm.trans (running_of_keeps hkeeps)
  · cases h with
    | clear =>
        refine ⟨hguard, fun c hclient => ?_⟩
        cases hclient
    | clearOther _ _ hother => exact ⟨hguard, hother⟩

theorem copied_step : s'.fastClient = none ∨ s'.fastClient = s'.client ∨ s'.Copying := by
  have hkept : s'.fastClient = s.fastClient -> s'.client = s.client ->
      (forall b, a ≠ .storeFast b) ->
        s'.fastClient = none ∨ s'.fastClient = s'.client ∨ s'.Copying := by
    intro hsame hclient hstore
    rw [hsame, hclient]
    rcases hinv.fast with hnone | heq | ⟨b, c, hphase, hcurrent⟩
    · exact Or.inl hnone
    · exact Or.inr (Or.inl heq)
    · rcases installed_kept h hknown.wellFormed hphase with hinstalled | rfl
      · exact Or.inr (Or.inr ⟨b, c, hinstalled, hclient.trans hcurrent⟩)
      · exact (hstore b rfl).elim
  cases h with
  | clearFast | clearFastStopped | clear => exact Or.inl rfl
  | install b c => exact Or.inr (Or.inr ⟨b, c, setPhase_self _ _ _, rfl⟩)
  | storeFast b c hphase => exact Or.inr (Or.inl (hguard c hphase).symm)
  | closeTake => exact Or.inl rfl
  | _ => exact hkept rfl rfl (by simp)

theorem HeardInv.step : HeardInv s' where
  fast := copied_step h hknown hinv hopen hguard
  pending := pending_step h hknown hinv hopen hguard
  past := past_step h hknown hinv hopen hguard

end

theorem initial_heardInv (onDemandConnect : Bool) : HeardInv (initial onDemandConnect) := by
  constructor
  · cases onDemandConnect with
    | _ => exact Or.inl rfl
  · intro c hlt
    cases onDemandConnect with
    | _ => exact (Nat.not_lt_zero c hlt).elim
  · intro b hpast
    cases onDemandConnect with
    | true => cases hpast
    | false =>
        cases b with
        | _ => cases hpast

theorem HeardInv.handsOutLive (h : HeardInv s) (hknown : ClientsInv s) (hrest : AtRest s) :
    HandsOutLive s := by
  have hclient : forall c, s.client = some c -> s.ended c = false := by
    intro c hclient
    have hlt := hknown.valid c hclient
    rcases h.pending c hlt (Or.inl hclient) with hclosed | hclaimed | hheard
    · refine hrest.tasks c hlt ?_
      by_contra hwoken
      rw [(hknown.woken c hwoken).2.1] at hclosed
      cases hclosed
    · exact (hrest.claims c hclaimed).elim
    · exfalso
      have hreturned : s.listener (s.owner c) ≠ .returned := by
        intro hreturned
        exact (h.past (s.owner c) (by rw [hreturned]; rfl)).2 c hclient rfl
      rcases hrest.listeners (s.owner c) with hl | hl | hl
      · exact hknown.wellFormed.listening _ (hknown.owner_begun hlt) hl
      · rcases hheard with hmessage | hnotified
        · rw [hrest.messages _ hl] at hmessage
          cases hmessage
        · cases hl.symm.trans hnotified
      · exact hreturned hl
  refine ⟨hclient, ?_⟩
  intro c hfast
  rcases h.fast with hnone | heq | ⟨b, d, hphase, _⟩
  · cases hnone.symm.trans hfast
  · exact hclient c (heq.symm.trans hfast)
  · rcases hrest.builders b with hb | hb
    · cases hb.symm.trans hphase
    · cases hb.symm.trans hphase

/-- Dead clients are not handed out at rest, in every run in which the listeners take the
lock after their builders are done, clients are copied while they are current, and holders
do not close the current client. -/
theorem handsOutLive_of_reach (onDemandConnect : Bool) (s : State)
    (hreach : StepFn.Reach step EndsHeard (initial onDemandConnect) s)
    (hopen : s.shutdown = false) (hrest : AtRest s) : HandsOutLive s := by
  have hinv : s.shutdown = false -> HeardInv s :=
    hreach.invariant_while (fun _ h => clientsInv_of_reach h)
      (fun _ _ _ h => shutdown_mono (step_inv h)) (initial_heardInv onDemandConnect)
      (fun _ _ _ hknown hinv hguard h hopen =>
        HeardInv.step (step_inv h) hknown hinv hopen hguard)
  exact (hinv hopen).handsOutLive (clientsInv_of_reach hreach) hrest

/-- The connection ends, and the listener has cleared the client. -/
theorem handsOutLive_clearedClient :
    exists s, StepFn.Reach step EndsHeard (initial true) s ∧ s.connections = 1 ∧
      s.ended 0 = true ∧ s.client = none ∧ HandsOutLive s := by
  have h₁ : StepFn.Reach step EndsHeard (initial true) _ :=
    StepFn.Reach.tail Action.getClient StepFn.Reach.refl trivial rfl
  have h₂ := StepFn.Reach.tail (Action.checkSlow 0) h₁ trivial rfl
  have h₃ := StepFn.Reach.tail (Action.subscribe 0) h₂ trivial rfl
  have h₄ := StepFn.Reach.tail (Action.begin 0) h₃ trivial rfl
  have h₅ := StepFn.Reach.tail (Action.throttle 0) h₄ trivial rfl
  have h₆ := StepFn.Reach.tail (Action.connect 0) h₅ trivial rfl
  have h₇ := StepFn.Reach.tail (Action.bootstrapOk 0) h₆ trivial rfl
  have h₈ := StepFn.Reach.tail (Action.install 0) h₇ trivial rfl
  have h₉ := StepFn.Reach.tail (Action.storeFast 0) h₈
    (fun _ hc => congrArg some (BuilderPhase.installed.inj hc)) rfl
  have h₁₀ := StepFn.Reach.tail (Action.announce 0) h₉ trivial rfl
  have h₁₁ := StepFn.Reach.tail (Action.notify 0) h₁₀ trivial rfl
  have h₁₂ := StepFn.Reach.tail (Action.endConnection 0) h₁₁ trivial rfl
  have h₁₃ := StepFn.Reach.tail (Action.claimClose 0) h₁₂ trivial rfl
  have h₁₄ := StepFn.Reach.tail (Action.sendOnClose 0) h₁₃ trivial rfl
  have h₁₅ := StepFn.Reach.tail (Action.receiveClose 0) h₁₄ trivial rfl
  have h₁₆ := StepFn.Reach.tail (Action.clear 0) h₁₅ rfl rfl
  have h₁₇ := StepFn.Reach.tail (Action.notifyClosed 0) h₁₆ trivial rfl
  refine ⟨_, h₁₇, rfl, rfl, rfl, handsOutLive_of_reach true _ h₁₇ rfl ?_⟩
  refine ⟨quiescent_first rfl (fun _ => rfl) (Or.inr rfl) (fun _ => rfl), ?_, ?_, ?_⟩
  · intro b hb
    cases b with
    | zero => cases hb
    | succ b => cases hb
  · intro c hc
    cases c with
    | zero => cases hc
    | succ c => cases hc
  · intro c hlt hc
    have hzero : c = 0 := Nat.lt_one_iff.mp hlt
    subst hzero
    cases hc

end Babysitter
end CouchbaseSdk
