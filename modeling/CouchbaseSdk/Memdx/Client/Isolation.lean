import CouchbaseSdk.Memdx.Client.Keys

/-!
# Giving up one operation

The read loop treats a response it cannot deliver as the end of the connection: it
stops and tells every other caller that the connection closed.  So giving up one
operation disturbs the others exactly when the read loop is left with a response
whose receiver is gone.  Runs in which that does not happen keep the loop running.
-/

namespace CouchbaseSdk
namespace Memdx
namespace Client

open Foundation

variable {cfg : Config} {s s' : State} {a : Action}

/-!
# The guarantee and its condition
-/

def ReadLoop.running : ReadLoop -> Bool
  | .closing | .draining _ | .panicked => false
  | _ => true

/-- The caller of a request gives it up. -/
def Action.givesUp (r : RequestId) : Action -> Bool
  | .abandonDispatch q _ | .dropOp q | .cancel q _ => q == r
  | _ => false

/-- A read error, the end of the stream, a decoder panic, or a call of `close`. -/
def Action.closes : Action -> Bool
  | .readClose | .readPanic | .close => true
  | _ => false

/-- The loop runs and the request was not told that the connection closed. -/
def Undisturbed (s : State) (r : RequestId) : Prop :=
  s.readLoop.running = true ∧
    ¬ .error (.cancelled .closedInFlight) ∈ (s.requests r).messages

/-- The read loop is never left with a response whose receiver is gone: none is taken
for a handler without a receiver, and no receiver goes away while the loop holds its
response.  `r` is the request that must not be disturbed. -/
def KeepsReceivers (cfg : Config) (r : RequestId) (s : State) : Action -> Prop
  | .readClose | .readPanic | .close => False
  | .readPacket packet => packet.magic ≠ .serverReq -> forall ctx,
      s.opaqueMap.lookup packet.opaqueId = some ctx ->
        s.receiving ctx.sender = true ∨ decompressed cfg packet = none
  | .abandonDispatch q _ | .writeErr q | .dropOp q => ¬ Held s q
  | .cancelSend q => forall ctx kind, (s.requests q).phase = .cancelling ctx kind ->
      s.receiving ctx.sender = false -> ¬ Held s q
  | .cancel q kind => kind = .closedInFlight ->
      forall ctx, (cancelOp s q).1 = some ctx -> ctx.sender ≠ r
  | _ => True

structure IsolationInv (r : RequestId) (s : State) : Prop where
  running : s.readLoop.running = true
  closer : s.closer = .notCalled
  held : forall q, Held s q -> s.receiving q = true
  cancelling : forall q ctx kind, (s.requests q).phase = .cancelling ctx kind ->
    kind = .closedInFlight -> ctx.sender ≠ r
  untold : ¬ .error (.cancelled .closedInFlight) ∈ (s.requests r).messages

/-!
# Steps under the condition
-/

theorem closer_step (hstep : Step cfg s a s') (haction : a ≠ .close)
    (h : s.closer = .notCalled) : s'.closer = .notCalled := by
  cases hstep with
  | dropOp r | cancelMissed r | cancelTaken r | cancelRefused r =>
      change (cancelOp s r).2.closer = _
      unfold cancelOp
      dsimp only
      split
      · exact h
      · exact h
  | orphan packet hloop hlookup =>
      unfold handleOrphan
      split
      · exact h
      · exact h
  | closeStarted | closeAgain => exact (haction rfl).elim
  | closeWriter ok hcloser =>
      rw [h] at hcloser
      cases hcloser
  | closeDrain hcloser | closeTold _ _ hcloser | closeSkipped _ _ hcloser
  | closeGivenUp hcloser | closeDropped _ hcloser =>
      rw [h] at hcloser
      cases hcloser
  | register | writeOk | writeErr | abandonDispatch | received | disconnected | cancelSent
  | abandonCancel | unsolicited | taken | reinserted | sent | refused | errorSent
  | errorRefused | readClose | readPanic | readDrain | readTold | readSkipped => exact h

theorem resolve_running (cfg : Config) (packet : ResponsePacket) (ctx : SenderContext) :
    (resolve cfg packet ctx).running = true := by
  rcases resolve_cases cfg packet ctx with herr | ⟨_, _, ⟨_, hre⟩ | hsend⟩
  · rw [herr]
    rfl
  · rw [hre]
    rfl
  · rw [hsend]
    rfl

theorem isolation_untold {r : RequestId} (hinv : IsolationInv r s) (hstep : Step cfg s a s') :
    ¬ .error (.cancelled .closedInFlight) ∈ (s'.requests r).messages := by
  intro hm
  have hrunning := hinv.running
  rcases message_source hstep hm with hold | hsource
  · exact hinv.untold hold
  · cases hsource with
    | readDrain senders hloop =>
        rw [hloop] at hrunning
        cases hrunning
    | closeDrain senders hcloser =>
        rw [hinv.closer] at hcloser
        cases hcloser
    | cancel q ctx _ hphase hctx => exact hinv.cancelling q ctx _ hphase rfl hctx

section

variable {r : RequestId} (hcoherent : Coherent s) (hinv : IsolationInv r s)
  (hguard : KeepsReceivers cfg r s a) (hstep : Step cfg s a s')

include hinv hguard hstep

theorem isolation_running : s'.readLoop.running = true := by
  have hrunning := hinv.running
  cases registry_step hstep with
  | same hmap hloop | register _ _ _ _ _ hmap hloop | erased _ hmap hloop
  | cleared hmap hloop =>
      rw [hloop]
      exact hrunning
  | taken packet ctx haction hmagic hselecting hlookup hmap hloop =>
      rw [hloop]
      exact resolve_running cfg packet ctx
  | reinserted resp ctx persistent hreturning hmap hloop =>
      rw [hloop]
      rfl
  | served hsending hmap hloop =>
      rw [hloop]
      rfl
  | refused resp ctx hsending hgone hmap hloop =>
      have hheld : Held s ctx.sender := by
        refine Or.inr ?_
        rw [Answering, hsending]
        rfl
      rw [hinv.held _ hheld] at hgone
      cases hgone
  | stopped haction hselecting hmap hloop =>
      rcases haction with rfl | rfl
      · exact hguard.elim
      · exact hguard.elim
  | drained senders hdrain hloop =>
      rcases hdrain with ⟨hclosing, _⟩ | ⟨⟨_, hclosing⟩, _⟩
      · rw [hclosing] at hrunning
        cases hrunning
      · rw [hclosing] at hrunning
        cases hrunning

theorem isolation_closer : s'.closer = .notCalled := by
  apply closer_step hstep _ hinv.closer
  rintro rfl
  exact hguard

theorem isolation_cancelling {q : RequestId} {ctx : SenderContext}
    {kind : CancellationErrorKind} (h : (s'.requests q).phase = .cancelling ctx kind)
    (hkind : kind = .closedInFlight) : ctx.sender ≠ r := by
  rcases cancelling_source hstep h with hold | ⟨_, rfl, hfound⟩
  · exact hinv.cancelling q ctx kind hold hkind
  · exact hguard hkind ctx hfound

include hcoherent

theorem isolation_held {q : RequestId} (h : Held s' q) : s'.receiving q = true := by
  have hbefore : q < s.dispatched ∧ s.receiving q = true ∧
      (Held s q ∨ exists packet, a = .readPacket packet) := by
    rcases held_source (registry_step hstep) h with
      hold | ⟨packet, ctx, rfl, hmagic, hlookup, rfl, hsome⟩
    · exact ⟨known_held hcoherent.ledger hold, hinv.held q hold, Or.inl hold⟩
    · refine ⟨known_entry hcoherent.ledger hlookup, ?_, Or.inr ⟨packet, rfl⟩⟩
      rcases hguard hmagic ctx hlookup with hrecv | hnone
      · exact hrecv
      · exact (hsome hnone).elim
  rcases hbefore with ⟨hborn, hrecv, hheld⟩
  by_contra hlost
  have hhangup := hangup_of_lost hstep hborn hrecv (Bool.eq_false_iff.mpr hlost)
  rcases hheld with hheld | ⟨packet, rfl⟩
  · cases hhangup with
    | abandoned buffered => exact hguard hheld
    | failed hmap hloop => exact hguard hheld
    | dropped hmap hloop => exact hguard hheld
    | refused ctx kind hphase hgone hmap hloop => exact hguard ctx kind hphase hgone hheld
  · cases hhangup

end

theorem IsolationInv.step {r : RequestId} (hcoherent : Coherent s) (h : IsolationInv r s)
    (hguard : KeepsReceivers cfg r s a) (hstep : Step cfg s a s') : IsolationInv r s' where
  running := isolation_running h hguard hstep
  closer := isolation_closer h hguard hstep
  held := fun _ => isolation_held hcoherent h hguard hstep
  cancelling := fun _ _ _ => isolation_cancelling h hguard hstep
  untold := isolation_untold h hstep

theorem initial_isolationInv (r : RequestId) : IsolationInv r initial where
  running := rfl
  closer := rfl
  held := by
    intro q h
    rcases h with h | h
    · cases h
    · cases h
  cancelling := by
    intro q ctx kind h
    cases h
  untold := by
    intro h
    cases h

/-!
# Isolation
-/

/-- In every run whose steps keep the receivers, the request is undisturbed. -/
theorem undisturbed_of_reach {r : RequestId}
    (hreach : StepFn.Reach (step cfg) (KeepsReceivers cfg r) initial s) :
    Undisturbed s r := by
  have hkeeps : forall t a u, Coherent t -> IsolationInv r t -> KeepsReceivers cfg r t a ->
      step cfg t a = some u -> IsolationInv r u :=
    fun _ _ _ hcoherent h hguard hstep => h.step hcoherent hguard (step_inv hstep)
  have hinv : IsolationInv r s :=
    hreach.invariant_with (fun _ hreach => reach_coherent hreach) (initial_isolationInv r)
      hkeeps
  exact ⟨hinv.running, hinv.untold⟩

/-- A run without a read error, the end of the stream or a close, in which nobody gave
the request up, and which disturbs it all the same. -/
def Disturbs (cfg : Config) (acts : List Action) (r : RequestId) : Prop :=
  (forall a, a ∈ acts -> a.closes = false ∧ a.givesUp r = false) ∧
    exists s, StepFn.run (step cfg) initial acts = some s ∧ ¬ Undisturbed s r

/-- The operation is dropped after its handler was taken and before the response is
sent. -/
def dropBeforeSend : List Action :=
  [.register getRequest false none, .writeOk 0, .register getRequest false none, .writeOk 1,
    .readPacket (getResponse 1), .dropOp 0, .readSend, .readDrain, .readDrainSend, .recv 1]

/-- The future of `dispatch` is dropped after its handler was registered. -/
def dropDispatch : List Action :=
  [.register getRequest false none, .abandonDispatch 0 true, .register getRequest false none,
    .writeOk 1, .readPacket (getResponse 1), .readSend, .readDrain, .readDrainSend, .recv 1]

theorem givingUp_disturbs :
    Disturbs Config.plain dropBeforeSend 1 ∧ Disturbs Config.plain dropDispatch 1 := by
  constructor
  · refine ⟨by decide, _, rfl, fun h => ?_⟩
    exact h.2 (List.mem_singleton_self _)
  · refine ⟨by decide, _, rfl, fun h => ?_⟩
    exact h.2 (List.mem_singleton_self _)

/-- An operation that is dropped while the loop is idle leaves the other one alone,
also when its response comes late. -/
theorem undisturbed_dropOp :
    exists s, StepFn.run (step Config.plain) initial
        [.register getRequest false none, .register getRequest false none, .writeOk 0,
          .writeOk 1, .dropOp 0, .readPacket (getResponse 1)] = some s ∧
      Undisturbed s 1 := by
  have hidle : forall t q, State.readLoop t = .selecting -> ¬ Held t q := by
    intro t q hloop h
    unfold Held Returning Answering at h
    rw [hloop] at h
    rcases h with h | h
    · cases h
    · cases h
  refine ⟨_, rfl, ?_⟩
  apply @undisturbed_of_reach Config.plain
  have h₁ : StepFn.Reach (step Config.plain) (KeepsReceivers Config.plain 1) initial _ :=
    StepFn.Reach.tail (Action.register getRequest false none) StepFn.Reach.refl trivial rfl
  have h₂ := StepFn.Reach.tail (Action.register getRequest false none) h₁ trivial rfl
  have h₃ := StepFn.Reach.tail (Action.writeOk 0) h₂ trivial rfl
  have h₄ := StepFn.Reach.tail (Action.writeOk 1) h₃ trivial rfl
  have h₅ := StepFn.Reach.tail (Action.dropOp 0) h₄ (hidle _ 0 rfl) rfl
  refine StepFn.Reach.tail (Action.readPacket (getResponse 1)) h₅ ?_ rfl
  intro _ ctx hlookup
  cases hlookup

end Client
end Memdx
end CouchbaseSdk
