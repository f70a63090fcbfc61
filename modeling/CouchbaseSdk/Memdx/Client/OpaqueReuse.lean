import CouchbaseSdk.Memdx.Client.Keys

/-!
# Opaques that come round again

The opaque counter has 32 bits and wraps, and nothing checks whether the next opaque
is still in use.  Two pending requests share an opaque exactly when a multiple of 2^32
registrations lies between them.
-/

namespace CouchbaseSdk
namespace Memdx
namespace Client

open Foundation

variable {cfg : Config} {s s' : State} {a : Action}

/-- The caller still waits for the request: a dispatch in progress, or an operation that
has not completed. -/
def Pending (s : State) (r : RequestId) : Prop :=
  s.receiving r = true ∧ (s.requests r).completed = false

/-- No request is registered a multiple of 2^32 registrations after one that is still
pending. -/
def Spaced (s : State) : Action -> Prop
  | .register _ _ _ => forall r, Pending s r -> (s.dispatched - r) % 2 ^ 32 ≠ 0
  | _ => True

/-!
# Pending requests are spaced
-/

theorem known_pending (hinv : Ledger.Inv s.ledger) {r : RequestId} (h : Pending s r) :
    r < s.dispatched := by
  apply Nat.lt_of_not_le
  intro hle
  have hunborn : s.requests r = Request.unborn := hinv.unborn r hle
  have hrecv := h.1
  unfold State.receiving at hrecv
  rw [hunborn] at hrecv
  cases hrecv

/-- A request never becomes pending again. -/
theorem Pending.before (hinv : Ledger.Inv s.ledger) (hstep : Step cfg s a s')
    {r : RequestId} (hborn : r < s.dispatched) (h : Pending s' r) : Pending s r := by
  have hlater := (step_later hinv hstep).2 r hborn
  refine ⟨hlater.receiving h.1, ?_⟩
  cases hdone : (s.requests r).completed with
  | false => rfl
  | true =>
      have hopen := h.2
      rw [hlater.completed hdone] at hopen
      cases hopen

/-- Pending requests are not a multiple of 2^32 registrations apart. -/
def PendingSpaced (s : State) : Prop :=
  forall r r', Pending s r -> Pending s r' -> r < r' -> (r' - r) % 2 ^ 32 ≠ 0

theorem PendingSpaced.step (hcoherent : Coherent s) (h : PendingSpaced s)
    (hguard : Spaced s a) (hstep : Step cfg s a s') : PendingSpaced s' := by
  intro r r' hr hr' hlt
  have hborn' := known_pending (hcoherent.step hstep).ledger hr'
  by_cases hold : r' < s.dispatched
  · have hborn : r < s.dispatched := hlt.trans hold
    exact h r r' (hr.before hcoherent.ledger hstep hborn)
      (hr'.before hcoherent.ledger hstep hold) hlt
  · rcases step_counters hstep with ⟨_, hsame⟩ | ⟨packet, isPersistent, context, rfl, rfl⟩
    · rw [hsame] at hborn'
      exact (hold hborn').elim
    · have hnew : r' = s.dispatched :=
        Nat.le_antisymm (Nat.le_of_lt_succ hborn') (Nat.le_of_not_lt hold)
      subst hnew
      exact hguard r (hr.before hcoherent.ledger hstep hlt)

theorem opaqueId_ne_of_spaced (hcoherent : Coherent s) (h : PendingSpaced s)
    {r r' : RequestId} (hr : Pending s r) (hr' : Pending s r') (hlt : r < r') :
    (s.requests r).opaqueId ≠ (s.requests r').opaqueId := by
  intro heq
  rw [(hcoherent.keyed.numbered r (known_pending hcoherent.ledger hr)).1,
    (hcoherent.keyed.numbered r' (known_pending hcoherent.ledger hr')).1] at heq
  exact h r r' hr hr' hlt (spaced_of_opaqueOf hlt heq)

/-!
# No pending handler is overwritten
-/

theorem opaques_distinct_of_reach (hreach : StepFn.Reach (step cfg) Spaced initial s) :
    (forall r r', Pending s r -> Pending s r' ->
      (s.requests r).opaqueId = (s.requests r').opaqueId -> r = r') ∧
    forall packet isPersistent context ctx, Spaced s (.register packet isPersistent context) ->
      s.opaqueMap.lookup s.currentOpaque = some ctx -> ¬ Pending s ctx.sender := by
  have hcoherent := reach_coherent hreach
  have hinit : PendingSpaced initial := by
    intro r r' h
    cases h.1
  have hkeeps : forall t a u, Coherent t -> PendingSpaced t -> Spaced t a ->
      step cfg t a = some u -> PendingSpaced u :=
    fun _ _ _ hcoherent h hguard hstep => h.step hcoherent hguard (step_inv hstep)
  have hspaced : PendingSpaced s :=
    hreach.invariant_with (fun _ hreach => reach_coherent hreach) hinit hkeeps
  constructor
  · intro r r' hr hr' heq
    rcases Nat.lt_trichotomy r r' with hlt | rfl | hlt
    · exact (opaqueId_ne_of_spaced hcoherent hspaced hr hr' hlt heq).elim
    · rfl
    · exact (opaqueId_ne_of_spaced hcoherent hspaced hr' hr hlt heq.symm).elim
  · intro packet isPersistent context ctx hguard hlookup hpending
    have hborn := known_entry hcoherent.ledger hlookup
    have hopaqueId : opaqueOf ctx.sender = opaqueOf s.dispatched := by
      rw [← (hcoherent.keyed.numbered _ hborn).1, ← hcoherent.keyed.current]
      exact hcoherent.keyed.entry _ ctx hlookup
    exact hguard ctx.sender hpending (spaced_of_opaqueOf hborn hopaqueId)

/-- Two requests that are pending at the same time. -/
theorem opaques_distinct_two :
    exists s, StepFn.run (step Config.plain) initial
        [.register getRequest false none, .register getRequest true none] = some s ∧
      Pending s 0 ∧ Pending s 1 ∧ (s.requests 0).opaqueId ≠ (s.requests 1).opaqueId := by
  have h₁ : StepFn.Reach (step Config.plain) Spaced initial _ :=
    StepFn.Reach.tail (Action.register getRequest false none) StepFn.Reach.refl
      (fun r h => by cases h.1) rfl
  have hguard : Spaced (registerHandler initial getRequest false none)
      (.register getRequest true none) := by
    intro r h
    have hr : r < 1 := known_pending (reach_coherent h₁).ledger h
    change (1 - r) % 2 ^ 32 ≠ 0
    rw [Nat.lt_one_iff.mp hr]
    decide
  have h₂ := StepFn.Reach.tail (Action.register getRequest true none) h₁ hguard rfl
  refine ⟨_, rfl, ⟨rfl, rfl⟩, ⟨rfl, rfl⟩, fun heq => ?_⟩
  cases (opaques_distinct_of_reach h₂).1 0 1 ⟨rfl, rfl⟩ ⟨rfl, rfl⟩ heq

/-!
# A request that outlives 2^32 others
-/

def longLived : SenderContext :=
  { sender := 0, isPersistent := true, context := none }

/-- One persistent request is pending, and `n` others were dispatched since. -/
structure Outlives (n : Nat) (s : State) : Prop where
  dispatched : s.dispatched = n + 1
  closer : s.closer = .notCalled
  phase : (s.requests 0).phase = .pending
  completed : (s.requests 0).completed = false
  handler : s.opaqueMap.lookup 1 = some longLived

/-- The packet of another request cannot be written. -/
theorem Outlives.next {n : Nat} (hcoherent : Coherent s) (h : Outlives n s)
    (hn : n + 1 < 2 ^ 32) :
    exists t, StepFn.Reach (step cfg) StepFn.Always s t ∧ Outlives (n + 1) t := by
  let t := registerHandler s getRequest false none
  let o := s.currentOpaque
  have hself : t.requests s.dispatched = _ := Function.update_self ..
  have hother : t.requests 0 = s.requests 0 :=
    Function.update_of_ne (by rw [h.dispatched]; exact (Nat.succ_ne_zero n).symm) ..
  have hopaqueId : (t.requests s.dispatched).opaqueId = o := by rw [hself]
  have hwrite : step cfg t (.writeErr s.dispatched) = some
      ((t.eraseOpaque o).setRequest s.dispatched
        { (t.requests s.dispatched).hangUp .failed with
          outcomes := (t.requests s.dispatched).outcomes ++
            [.error (.dispatch (t.requests s.dispatched).opaqueId
              (t.requests s.dispatched).packet.opCode)] }) := by
    change writeErr t s.dispatched = _
    unfold writeErr
    dsimp only
    rw [if_pos, hopaqueId]
    constructor
    · rw [hself]
    · change s.closer.holdsWriter = false
      rw [h.closer]
      rfl
  have hne : (1 : UInt32) ≠ o := by
    intro heq
    have hcurrent : opaqueOf 0 = opaqueOf (n + 1) := by
      rw [← h.dispatched, ← hcoherent.keyed.current]
      exact heq
    have hspaced := spaced_of_opaqueOf (Nat.succ_pos n) hcurrent
    omega
  refine ⟨_, StepFn.Reach.tail (Action.writeErr s.dispatched)
    (StepFn.Reach.tail (Action.register getRequest false none) StepFn.Reach.refl trivial rfl)
    trivial hwrite, ?_⟩
  have hzero : (0 : RequestId) ≠ s.dispatched := by
    rw [h.dispatched]
    exact (Nat.succ_ne_zero n).symm
  constructor
  case dispatched =>
      change s.dispatched + 1 = n + 1 + 1
      rw [h.dispatched]
  case closer => exact h.closer
  case phase =>
      rw [setRequest_requests_ne _ _ hzero]
      change (t.requests 0).phase = _
      rw [hother]
      exact h.phase
  case completed =>
      rw [setRequest_requests_ne _ _ hzero]
      change (t.requests 0).completed = _
      rw [hother]
      exact h.completed
  case handler =>
      change ((s.opaqueMap.insert o _).erase o).lookup 1 = _
      rw [AList.lookup_erase_ne hne, AList.lookup_insert_ne hne]
      exact h.handler

theorem exists_outlives (cfg : Config) (n : Nat) (hn : n < 2 ^ 32) :
    exists s, StepFn.Reach (step cfg) StepFn.Always initial s ∧ Outlives n s := by
  induction n with
  | zero =>
      have h₁ : StepFn.Reach (step cfg) StepFn.Always initial _ :=
        StepFn.Reach.tail (Action.register getRequest true none) StepFn.Reach.refl trivial rfl
      have h₂ := StepFn.Reach.tail (Action.writeOk 0) h₁ trivial rfl
      exact ⟨_, h₂, rfl, rfl, rfl, rfl, rfl⟩
  | succ n ih =>
      rcases ih (Nat.lt_of_succ_lt hn) with ⟨s, hreach, h⟩
      rcases h.next (reach_coherent hreach) hn with ⟨t, hnext, ht⟩
      exact ⟨t, hreach.trans hnext, ht⟩

/-- After 2^32 registrations the next one overwrites the handler of the first request,
which is still pending, and both hold the same opaque. -/
theorem opaque_reused :
    exists s t, StepFn.Reach (step Config.plain) StepFn.Always initial s ∧
      step Config.plain s (.register getRequest false none) = some t ∧
      Pending s 0 ∧ s.opaqueMap.lookup s.currentOpaque = some longLived ∧
      Pending t 0 ∧ Pending t (2 ^ 32) ∧
      (t.requests 0).opaqueId = (t.requests (2 ^ 32)).opaqueId := by
  rcases exists_outlives Config.plain (2 ^ 32 - 1) (by decide) with ⟨s, hreach, h⟩
  have hcoherent := reach_coherent hreach
  have hdispatched : s.dispatched = 2 ^ 32 := h.dispatched
  have hcurrent : s.currentOpaque = 1 := by
    rw [hcoherent.keyed.current, hdispatched]
    rfl
  have hpending : Pending s 0 := ⟨receiving_of_phase h.phase, h.completed⟩
  let t := registerHandler s getRequest false none
  have hself : t.requests s.dispatched = _ := Function.update_self ..
  have hold : t.requests 0 = s.requests 0 :=
    Function.update_of_ne (by rw [hdispatched]; decide) ..
  refine ⟨s, t, hreach, rfl, hpending, ?_, ?_, ?_, ?_⟩
  · rw [hcurrent]
    exact h.handler
  · unfold Pending State.receiving
    rw [hold]
    exact hpending
  · unfold Pending State.receiving
    rw [← hdispatched, hself]
    exact ⟨rfl, rfl⟩
  · rw [hold, ← hdispatched, hself, hcurrent]
    exact (hcoherent.keyed.numbered 0 (by rw [hdispatched]; decide)).1

end Client
end Memdx
end CouchbaseSdk
