import CouchbaseSdk.Babysitter.Clients
import CouchbaseSdk.Babysitter.Copies

/-!
# Closing a babysitter

`close` cancels the token, takes the current client out of the slow state and closes it.
A builder whose attempt has just succeeded may miss the cancellation and install its client
afterwards.
-/

namespace CouchbaseSdk
namespace Babysitter

open Foundation

variable {s s' : State} {a : Action}

/-- `close` has taken the current client. -/
def Closer.hasTaken : Closer -> Bool
  | .taken _ | .notifying | .returned => true
  | _ => false

/-- Nothing is left of the clients. -/
structure ShutDown (s : State) : Prop where
  client : s.client = none
  fast : s.fastClient = none
  clients : forall c, c < s.connections -> s.closed c = true ∨ s.dropped c = true

/-- No call that started after `close` had returned has returned a client. -/
def LateUnserved (s : State) : Prop :=
  forall k c, (s.calls k).late = true -> (s.calls k).phase ≠ .returned (some c)

/-- A client is installed and copied before `close` takes it and announced before `close`
returns, and the slow state lets go of clients that were closed. -/
def ClosedInTime (s : State) : Action -> Prop
  | .install _ => s.closer.hasTaken = false ∧ forall c, s.client = some c -> s.closed c = true
  | .storeFast _ => s.closer.hasTaken = false
  | .announce _ => s.closer ≠ .returned
  | .clear b => forall c, s.client = some c -> s.owner c = b -> s.closed c = true
  | _ => True

/-!
# The invariant
-/

/-- A call that has not got a client, and that no message sent so far will get one. -/
def CallPhase.unserved (sends : Nat) : CallPhase -> Prop
  | .beginning seen | .waiting seen => seen = sends
  | .returned result => result = none
  | _ => True

structure ShutInv (s : State) : Prop where
  emptied : s.closer.hasTaken = true -> s.client = none ∧ s.fastClient = none
  held : forall c, c < s.connections -> s.closed c = true ∨
    (s.phase (s.owner c)).keeps c = true ∨ s.client = some c ∨ s.closer = .taken (some c)
  late : forall k, (s.calls k).late = true ->
    s.closer = .returned ∧ (s.calls k).phase.unserved s.sends

theorem closer_returned_kept (h : Step s a s') (hreturned : s.closer = .returned) :
    s'.closer = .returned := by
  cases h with
  | closeCancel hc | closeTake hc | closeTaken _ _ _ hc | closedTaken _ _ _ hc
  | closeNone _ hc | closeNotify hc => cases hreturned.symm.trans hc
  | _ => exact hreturned

theorem hasTaken_of_eq {closer : Closer} (hcloser : s.closer = closer)
    (htaken : closer.hasTaken = true) : s.closer.hasTaken = true := by
  rw [hcloser]
  exact htaken

theorem getClient_self : (getClient s).calls s.started =
    { late := s.closer = .returned
      phase := match s.fastClient with
        | some c => .returned (some c)
        | none => .checking } := by
  unfold getClient
  exact Function.update_self ..

section
variable (h : Step s a s') (hknown : ClientsInv s) (hinv : ShutInv s)
  (hguard : ClosedInTime s a)
include h hinv hguard

theorem emptied_step (htaken : s'.closer.hasTaken = true) :
    s'.client = none ∧ s'.fastClient = none := by
  have hold := hinv.emptied
  cases h with
  | closeCancel => cases htaken
  | closeTake => exact ⟨rfl, rfl⟩
  | closeTaken c _ _ hcloser | closedTaken c _ _ hcloser | closeNone _ hcloser
  | closeNotify hcloser => exact hold (hasTaken_of_eq hcloser rfl)
  | install => cases hguard.1.symm.trans htaken
  | storeFast => cases hguard.symm.trans htaken
  | clear => exact ⟨rfl, rfl⟩
  | clearFast | clearFastStopped => exact ⟨(hold htaken).1, rfl⟩
  | _ => exact hold htaken

include hknown in
theorem kept_step (c : ClientId) (hlt' : c < s'.connections) : s'.closed c = true ∨
    (s'.phase (s'.owner c)).keeps c = true ∨ s'.client = some c ∨
      s'.closer = .taken (some c) := by
  rcases known_or_new h hlt' with hlt | ⟨rfl, b, _, _, rfl⟩
  · rw [owner_kept h hlt]
    rcases hinv.held c hlt with hclosed | hkeeps | hclient | htaken
    · exact Or.inl (closed_step h hclosed)
    · rcases keeps_kept h hknown.wellFormed hkeeps with hkept | ⟨hclosed, _⟩ | hclient
      · exact Or.inr (Or.inl hkept)
      · exact Or.inl hclosed
      · exact Or.inr (Or.inr (Or.inl hclient))
    · cases h with
      | install => exact Or.inl (hguard.2 c hclient)
      | clear b d _ hd howner =>
          cases hclient.symm.trans hd
          exact Or.inl (hguard c hclient howner)
      | closeTake => exact Or.inr (Or.inr (Or.inr (congrArg Closer.taken hclient)))
      | _ => exact Or.inr (Or.inr (Or.inl hclient))
    · cases h with
      | closeTaken d _ _ hd =>
          cases htaken.symm.trans hd
          exact Or.inl (update_true_iff.mpr (Or.inl rfl))
      | closedTaken d _ _ hd _ hclosed =>
          cases htaken.symm.trans hd
          exact Or.inl hclosed
      | closeCancel hd | closeTake hd | closeNone _ hd | closeNotify hd =>
          cases htaken.symm.trans hd
      | _ => exact Or.inr (Or.inr (Or.inr htaken))
  · rw [openConnection_owner_self, openConnection_phase_self]
    exact Or.inr (Or.inl (beq_self_eq_true _))

theorem late_step (k : CallId) (hlate : (s'.calls k).late = true) :
    s'.closer = .returned ∧ (s'.calls k).phase.unserved s'.sends := by
  have hset : forall {t : State} {j : CallId} {phase : CallPhase},
      t.calls = s.calls -> (s.closer = .returned -> (s.calls j).phase.unserved s.sends ->
        phase.unserved s.sends) ->
        ((t.setCall j phase).calls k).late = true ->
          s.closer = .returned ∧ ((t.setCall j phase).calls k).phase.unserved s.sends := by
    intro t j phase ht hphase hlate
    by_cases hk : k = j
    · subst hk
      have hnew : (t.setCall k phase).calls k = { t.calls k with phase := phase } :=
        Function.update_self ..
      rw [hnew] at hlate ⊢
      rw [ht] at hlate
      rcases hinv.late k hlate with ⟨hcloser, hunserved⟩
      exact ⟨hcloser, hphase hcloser hunserved⟩
    · have hold : (t.setCall j phase).calls k = s.calls k := by
        rw [← ht]
        exact Function.update_of_ne hk ..
      rw [hold] at hlate ⊢
      exact hinv.late k hlate
  cases h with
  | getClient =>
      by_cases hk : k = s.started
      · subst hk
        rw [getClient_self] at hlate ⊢
        have hcloser : s.closer = .returned := of_decide_eq_true hlate
        have hempty := (hinv.emptied (hasTaken_of_eq hcloser rfl)).2
        rw [hempty]
        exact ⟨hcloser, trivial⟩
      · have hold : (getClient s).calls k = s.calls k := Function.update_of_ne hk ..
        rw [hold] at hlate ⊢
        exact hinv.late k hlate
  | slowHit j c _ hclient =>
      refine hset rfl (fun hcloser _ => ?_) hlate
      cases (hinv.emptied (hasTaken_of_eq hcloser rfl)).1.symm.trans hclient
  | slowMiss j => exact hset rfl (fun _ _ => trivial) hlate
  | subscribe j => exact hset rfl (fun _ _ => rfl) hlate
  | begin j seen hj | alreadyBuilding j seen hj =>
      refine hset rfl (fun _ hunserved => ?_) hlate
      rw [hj] at hunserved
      exact hunserved
  | receive j seen c hj hlt =>
      refine hset rfl (fun _ hunserved => ?_) hlate
      rw [hj] at hunserved
      exact (Nat.ne_of_lt hlt hunserved).elim
  | receiveNone j seen => exact hset rfl (fun _ _ => rfl) hlate
  | giveUp j => exact hset rfl (fun _ _ => rfl) hlate
  | announce => exact (hguard (hinv.late k hlate).1).elim
  | closeCancel hc | closeTake hc | closeTaken _ _ _ hc | closedTaken _ _ _ hc
  | closeNone _ hc | closeNotify hc => cases (hinv.late k hlate).1.symm.trans hc
  | _ => exact hinv.late k hlate

include hknown in
theorem ShutInv.step : ShutInv s' where
  emptied := emptied_step h hinv hguard
  held := kept_step h hknown hinv hguard
  late := late_step h hinv hguard

end

theorem initial_shutInv (onDemandConnect : Bool) : ShutInv (initial onDemandConnect) := by
  cases onDemandConnect with
  | _ => exact ⟨nofun, fun c hc => (Nat.not_lt_zero c hc).elim, fun k hk => nomatch hk⟩

theorem shutInv_of_reach {onDemandConnect : Bool}
    (hreach : StepFn.Reach step ClosedInTime (initial onDemandConnect) s) : ShutInv s :=
  hreach.invariant_with (fun _ h => clientsInv_of_reach h) (initial_shutInv onDemandConnect)
    (fun _ _ _ hknown hinv hguard h => hinv.step (step_inv h) hknown hguard)

theorem ShutInv.shutDown (h : ShutInv s) (hreturned : s.closer = .returned)
    (hquiescent : Quiescent s) : ShutDown s := by
  have hempty := h.emptied (hasTaken_of_eq hreturned rfl)
  refine ⟨hempty.1, hempty.2, fun c hlt => ?_⟩
  rcases h.held c hlt with hclosed | hkeeps | hclient | htaken
  · exact Or.inl hclosed
  · rcases hquiescent.builders (s.owner c) with hb | hb
    · rw [hb] at hkeeps
      cases hkeeps
    · rw [hb] at hkeeps
      cases hkeeps
  · cases hempty.1.symm.trans hclient
  · cases hreturned.symm.trans htaken

theorem ShutInv.lateUnserved (h : ShutInv s) : LateUnserved s := by
  intro k c hlate hphase
  have hunserved := (h.late k hlate).2
  rw [hphase] at hunserved
  cases hunserved

end Babysitter
end CouchbaseSdk
