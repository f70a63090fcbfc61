import CouchbaseSdk.Babysitter.DeadClients

/-!
# Dead clients for ever

A dead client whose end nobody will hear of stays the current one: callers take it from the
copy and never begin another.
-/

namespace CouchbaseSdk
namespace Babysitter

open Foundation

variable {s s' : State} {a : Action}

/-- The call may still begin a client. -/
def CallPhase.asks : CallPhase -> Bool
  | .subscribing | .beginning _ => true
  | _ => false

/-- The builder whose listener takes the step. -/
def Action.listener : Action -> Option BuilderId
  | .receiveClose b | .hangup b | .stopListening b | .clear b | .notifyClosed b
  | .beginAgain b => some b
  | _ => none

/-- The client that a step closes, or whose close task takes it. -/
def Action.closes : Action -> Option ClientId
  | .endConnection c | .claimClose c | .sendOnClose c | .closeByHolder c | .release c => some c
  | _ => none

/-- The current client is dead, nobody will hear of it, and nobody asks for another. -/
structure Stuck (c : ClientId) (s : State) : Prop where
  client : s.client = some c
  fast : s.fastClient = some c
  ended : s.ended c = true
  dropped : s.dropped c = false
  siblings : forall d, d < s.connections -> s.owner d = s.owner c ->
    s.closed d = true ∧ s.closeTask d ≠ .claimed
  silent : (s.listener (s.owner c) = .listening ∧ s.message (s.owner c) = false) ∨
    s.listener (s.owner c) = .returned
  builders : forall b, s.phase b = .unborn ∨ s.phase b = .returned
  listeners : forall b, s.listener b ≠ .cleared ∧ s.listener b ≠ .told
  calls : forall k, (s.calls k).phase.asks = false

theorem Stuck.setCall {c : ClientId} (hs : Stuck c s) (k : CallId) {phase : CallPhase}
    (hphase : phase.asks = false) : Stuck c (s.setCall k phase) where
  client := hs.client
  fast := hs.fast
  ended := hs.ended
  dropped := hs.dropped
  siblings := hs.siblings
  silent := hs.silent
  builders := hs.builders
  listeners := hs.listeners
  calls := (Function.forall_update_iff s.calls (fun _ (call : Call) => call.phase.asks = false)).mpr
    ⟨hphase, fun j _ => hs.calls j⟩

/-- The listener of another builder may go on. -/
theorem Stuck.setListener {c : ClientId} (hs : Stuck c s) {b : BuilderId}
    {listener : Listener} (hnext : listener ≠ .cleared ∧ listener ≠ .told)
    (hother : b ≠ s.owner c ∨ listener = .returned) : Stuck c (s.setListener b listener) where
  client := hs.client
  fast := hs.fast
  ended := hs.ended
  dropped := hs.dropped
  siblings := hs.siblings
  silent := by
    change ((s.setListener b listener).listener (s.owner c) = .listening ∧ _) ∨
      (s.setListener b listener).listener (s.owner c) = .returned
    by_cases hb : s.owner c = b
    · subst hb
      rw [setListener_self]
      exact Or.inr (hother.resolve_left (fun hne => hne rfl))
    · rw [setListener_ne s listener hb]
      exact hs.silent
  builders := hs.builders
  listeners := (Function.forall_update_iff s.listener
    (fun _ (l : Listener) => l ≠ .cleared ∧ l ≠ .told)).mpr
    ⟨hnext, fun d _ => hs.listeners d⟩
  calls := hs.calls

theorem Stuck.setMessage {c : ClientId} (hs : Stuck c s) {b : BuilderId} (message : Bool)
    (hother : b ≠ s.owner c) :
    Stuck c { s with message := Function.update s.message b message } where
  client := hs.client
  fast := hs.fast
  ended := hs.ended
  dropped := hs.dropped
  siblings := hs.siblings
  silent := by
    change (_ ∧ Function.update s.message b message (s.owner c) = false) ∨ _
    rw [Function.update_of_ne hother.symm]
    exact hs.silent
  builders := hs.builders
  listeners := hs.listeners
  calls := hs.calls

/-- Clients are closed and connections end, and the close tasks of the builder's own
clients stay silent. -/
theorem Stuck.setClients {c : ClientId} (hs : Stuck c s)
    {closed ended dropped : ClientId -> Bool} {closeTask : ClientId -> CloseTask}
    (hclosed : forall d, s.closed d = true -> closed d = true)
    (hended : ended c = true) (hdropped : dropped c = false)
    (htask : forall d, s.closed d = true -> closeTask d = .claimed -> s.closeTask d = .claimed) :
    Stuck c { s with
      closed := closed, ended := ended, dropped := dropped, closeTask := closeTask } where
  client := hs.client
  fast := hs.fast
  ended := hended
  dropped := hdropped
  siblings := by
    intro d hlt howner
    rcases hs.siblings d hlt howner with ⟨hd, hclaim⟩
    exact ⟨hclosed d hd, fun hclaimed => hclaim (htask d hd hclaimed)⟩
  silent := hs.silent
  builders := hs.builders
  listeners := hs.listeners
  calls := hs.calls

theorem Stuck.no_builder {c : ClientId} (hs : Stuck c s) {b : BuilderId}
    {phase : BuilderPhase} (hb : s.phase b = phase)
    (hphase : phase ≠ .unborn ∧ phase ≠ .returned) : False := by
  rcases hs.builders b with hunborn | hreturned
  · exact hphase.1 (hb.symm.trans hunborn)
  · exact hphase.2 (hb.symm.trans hreturned)

theorem Stuck.no_call {c : ClientId} (hs : Stuck c s) {k : CallId} {phase : CallPhase}
    (hk : (s.calls k).phase = phase) (hphase : phase.asks = true) : False := by
  have hasks := hs.calls k
  rw [hk, hphase] at hasks
  cases hasks

theorem Stuck.listener_step {c : ClientId} (hs : Stuck c s) (hlt : c < s.connections)
    (h : Step s a s') (hactor : exists b, a.listener = some b) : Stuck c s' := by
  cases h with
  | receiveClose b hlistening hmessage =>
      have hother : b ≠ s.owner c := by
        rintro rfl
        rcases hs.silent with ⟨_, hsilent⟩ | hreturned
        · rw [hmessage] at hsilent
          cases hsilent
        · cases hlistening.symm.trans hreturned
      exact (hs.setMessage false hother).setListener (by simp) (Or.inl hother)
  | hangup b _ _ hgone =>
      refine hs.setListener (by simp) (Or.inl ?_)
      rintro rfl
      cases (hgone c hlt rfl).1.symm.trans hs.dropped
  | stopListening b => exact hs.setListener (by simp) (Or.inr rfl)
  | clear b d hnotified hclient howner =>
      cases hs.client.symm.trans hclient
      rw [← howner] at hnotified
      rcases hs.silent with ⟨hlistening, _⟩ | hreturned
      · cases hlistening.symm.trans hnotified
      · cases hreturned.symm.trans hnotified
  | clearOther b =>
      have hflag : Stuck c { s with isBuilding := false } := ⟨hs.client, hs.fast, hs.ended,
        hs.dropped, hs.siblings, hs.silent, hs.builders, hs.listeners, hs.calls⟩
      exact hflag.setListener (by simp) (Or.inr rfl)
  | notifyClosed b _ hcleared => exact ((hs.listeners b).1 hcleared).elim
  | beginAgain b htold | begunAlready b htold => exact ((hs.listeners b).2 htold).elim
  | _ =>
      rcases hactor with ⟨b, hb⟩
      cases hb

theorem Stuck.client_step {c : ClientId} (hs : Stuck c s) (hknown : ClientsInv s)
    (h : Step s a s') (hactor : exists d, a.closes = some d) : Stuck c s' := by
  have hkept : forall d : ClientId, forall e, s.closed e = true ->
      Function.update s.closed d true e = true :=
    fun d e he => update_true_iff.mpr (Or.inr he)
  have hend : forall d : ClientId, Function.update s.ended d true c = true :=
    fun d => update_true_iff.mpr (Or.inr hs.ended)
  have hfinish : forall d e : ClientId, s.closed e = true ->
      Function.update s.closeTask d .finished e = .claimed -> s.closeTask e = .claimed := by
    intro d e _ he
    by_cases hde : e = d
    · subst hde
      rw [Function.update_self] at he
      cases he
    · rw [Function.update_of_ne hde] at he
      exact he
  cases h with
  | endConnection d => exact hs.setClients (fun _ => id) (hend d) hs.dropped (fun _ _ => id)
  | claimClosed d => exact hs.setClients (fun _ => id) hs.ended hs.dropped (hfinish d)
  | claimClose d _ _ _ hopen =>
      refine hs.setClients (hkept d) hs.ended hs.dropped ?_
      intro e he hclaimed
      rw [Function.update_of_ne] at hclaimed
      · exact hclaimed
      · rintro rfl
        cases hopen.symm.trans he
  | sendOnClose d hclaimed =>
      have hother : s.owner d ≠ s.owner c := by
        intro howner
        have hlt := (hknown.woken d (by rw [hclaimed]; simp)).1
        exact (hs.siblings d hlt howner).2 hclaimed
      exact (hs.setClients (fun _ => id) hs.ended hs.dropped (hfinish d)).setMessage true hother
  | sendFailed d => exact hs.setClients (fun _ => id) hs.ended hs.dropped (hfinish d)
  | closeByHolder d => exact hs.setClients (hkept d) (hend d) hs.dropped (fun _ _ => id)
  | closedBefore => exact hs
  | release d _ _ hclient =>
      refine hs.setClients (hkept d) (hend d) ?_ (fun _ _ => id)
      rw [Function.update_of_ne]
      · exact hs.dropped
      · rintro rfl
        exact hclient hs.client
  | _ =>
      rcases hactor with ⟨d, hd⟩
      cases hd

theorem Stuck.step {c : ClientId} (hs : Stuck c s) (hknown : ClientsInv s) (h : Step s a s')
    (hopen : s'.shutdown = false) : Stuck c s' := by
  have hcloser := closer_unborn hknown.wellFormed (shutdown_mono h hopen)
  have hclients := hs.client_step hknown h
  have hlisteners := hs.listener_step (hknown.valid c hs.client) h
  cases h with
  | getClient =>
      refine ⟨hs.client, hs.fast, hs.ended, hs.dropped, hs.siblings, hs.silent, hs.builders,
        hs.listeners, ?_⟩
      refine (Function.forall_update_iff s.calls
        (fun _ (call : Call) => call.phase.asks = false)).mpr ⟨?_, fun k _ => hs.calls k⟩
      rw [hs.fast]
      rfl
  | slowHit k | receive k | receiveNone k | giveUp k => exact hs.setCall k rfl
  | alreadyBuilding k seen hk => exact (hs.no_call hk rfl).elim
  | slowMiss k _ hclient => cases hs.client.symm.trans hclient
  | subscribe k hk | begin k _ hk => exact (hs.no_call hk rfl).elim
  | endConnection | claimClosed | claimClose | sendOnClose | sendFailed | closeByHolder
  | closedBefore | release => exact hclients ⟨_, rfl⟩
  | receiveClose | hangup | stopListening | clear | clearOther | notifyClosed | beginAgain
  | begunAlready => exact hlisteners ⟨_, rfl⟩
  | throttle b hb | throttleStop b hb | connect b hb | connectFail b hb | bootstrapOk b _ hb
  | bootstrapFail b _ hb | stopConnecting b _ hb | stopBootstrapping b _ _ hb
  | clearFast b hb | clearFastStopped b hb | record b hb | install b _ hb | storeFast b _ hb
  | announce b _ hb | announceUnheard b _ hb | notify b _ hb =>
      exact (hs.no_builder hb (by simp)).elim
  | closeCancel => cases hopen
  | closeTake hc | closeTaken _ _ _ hc | closedTaken _ _ _ hc | closeNone _ hc
  | closeNotify hc => cases hcloser.symm.trans hc

/-- A dead client that nobody will hear of is handed out until the babysitter is closed. -/
theorem stuck_of_reach {t : State} {guard : State -> Action -> Prop} {c : ClientId}
    (hknown : ClientsInv s) (hs : Stuck c s) (hreach : StepFn.Reach step guard s t)
    (hopen : t.shutdown = false) : Stuck c t :=
  hreach.invariant_while
    (fun _ h => h.invariant hknown (fun _ _ _ h _ hstep => h.step (step_inv hstep)))
    (fun _ _ _ h => shutdown_mono (step_inv h)) hs
    (fun _ _ _ hknown hs _ h hopen => hs.step hknown (step_inv h) hopen) hopen

theorem Stuck.not_handsOutLive {c : ClientId} (hs : Stuck c s) : ¬ HandsOutLive s := by
  intro hlive
  cases (hlive.client c hs.client).symm.trans hs.ended

/-- A holder closes the current client; the close task then finds it closed. -/
def closedByHolder : List Action :=
  [.throttle 0, .connect 0, .bootstrapOk 0, .install 0, .storeFast 0, .announce 0, .notify 0,
    .closeByHolder 0, .claimClose 0]

theorem closedByHolder_atRest :
    exists s, StepFn.run step (initial false) closedByHolder = some s ∧
      s.shutdown = false ∧ AtRest s ∧ Stuck 0 s := by
  refine ⟨_, rfl, rfl, ⟨?_, ?_, ?_, ?_⟩, ⟨rfl, rfl, rfl, rfl, ?_,
    Or.inl ⟨rfl, rfl⟩, ?_, ?_, fun k => rfl⟩⟩
  · exact quiescent_first rfl (fun _ => rfl) (Or.inl rfl) (fun _ => rfl)
  · intro b _
    cases b with
    | _ => rfl
  · intro c hc
    cases c with
    | _ => cases hc
  · intro c hlt hc
    cases Nat.lt_one_iff.mp hlt
    cases hc
  · intro d hlt _
    cases Nat.lt_one_iff.mp hlt
    exact ⟨rfl, nofun⟩
  · intro b
    cases b with
    | zero => exact Or.inr rfl
    | succ b => exact Or.inl rfl
  · intro b
    cases b with
    | _ => exact ⟨nofun, nofun⟩

theorem handsOutLive_fails :
    exists s, StepFn.run step (initial false) closedByHolder = some s ∧
      s.shutdown = false ∧ AtRest s ∧ ¬ HandsOutLive s ∧ s.ended 0 = true ∧
      forall t, StepFn.Reach step StepFn.Always s t -> t.shutdown = false ->
        t.client = some 0 ∧ t.fastClient = some 0 := by
  rcases closedByHolder_atRest with ⟨s, hrun, hopen, hrest, hs⟩
  refine ⟨s, hrun, hopen, hrest, hs.not_handsOutLive, hs.ended, ?_⟩
  intro t hreach hopen'
  have hstuck := stuck_of_reach (clientsInv_of_reach (StepFn.reach_of_run hrun)) hs hreach hopen'
  exact ⟨hstuck.client, hstuck.fast⟩

/-- The connection of the first attempt ends while it is bootstrapped.  The listener hears
of that and returns, and the client of the second attempt is left without one. -/
def listenerUsedUp : List Action :=
  [.throttle 0, .connect 0, .endConnection 0, .claimClose 0, .sendOnClose 0, .receiveClose 0,
    .clear 0, .bootstrapFail 0, .clearFast 0, .record 0, .throttle 0, .connect 0,
    .bootstrapOk 0, .install 0, .storeFast 0, .announce 0, .notify 0, .endConnection 1,
    .claimClose 1, .sendOnClose 1]

theorem listenerUsedUp_atRest :
    exists s, StepFn.run step (initial false) listenerUsedUp = some s ∧
      s.shutdown = false ∧ AtRest s ∧ Stuck 1 s := by
  refine ⟨_, rfl, rfl, ⟨?_, ?_, ?_, ?_⟩, ⟨rfl, rfl, rfl, rfl, ?_, Or.inr rfl, ?_, ?_,
    fun k => rfl⟩⟩
  · exact quiescent_first rfl (fun _ => rfl) (Or.inr rfl) (fun _ => rfl)
  · intro b hb
    cases b with
    | _ => cases hb
  · intro c hc
    rcases c with _ | _ | c
    · cases hc
    · cases hc
    · cases hc
  · intro c _ hc
    rcases c with _ | _ | c
    · cases hc
    · cases hc
    · rfl
  · intro d hlt _
    rcases d with _ | _ | d
    · exact ⟨rfl, nofun⟩
    · exact ⟨rfl, nofun⟩
    · exact (Nat.not_lt_zero d (Nat.lt_of_succ_lt_succ (Nat.lt_of_succ_lt_succ hlt))).elim
  · intro b
    cases b with
    | zero => exact Or.inr rfl
    | succ b => exact Or.inl rfl
  · intro b
    cases b with
    | _ => exact ⟨nofun, nofun⟩

end Babysitter
end CouchbaseSdk
