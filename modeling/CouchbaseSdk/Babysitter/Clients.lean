import CouchbaseSdk.Babysitter.Tasks

/-!
# The clients of a babysitter

What is true of the clients in every run: where a client that is not closed can be, and
what its flags say about each other.
-/

namespace CouchbaseSdk
namespace Babysitter

open Foundation

variable {s s' : State} {a : Action}

/-!
# Flags
-/

theorem update_true_iff {f : Nat -> Bool} {c d : Nat} :
    Function.update f c true d = true <-> d = c ∨ f d = true := by
  by_cases h : d = c
  · subst h
    rw [Function.update_self]
    exact iff_of_true rfl (Or.inl rfl)
  · rw [Function.update_of_ne h]
    exact ⟨Or.inr, fun hd => hd.resolve_left h⟩

theorem closed_step (h : Step s a s') {c : ClientId} (hc : s.closed c = true) :
    s'.closed c = true := by
  cases h with
  | claimClose | closeByHolder | release | bootstrapFail | stopBootstrapping | closeTaken =>
      exact update_true_iff.mpr (Or.inr hc)
  | _ => exact hc

theorem ended_step (h : Step s a s') {c : ClientId} (hc : s.ended c = true) :
    s'.ended c = true := by
  cases h with
  | endConnection | closeByHolder | release | bootstrapFail | stopBootstrapping
  | closeTaken => exact update_true_iff.mpr (Or.inr hc)
  | _ => exact hc

theorem connections_step (h : Step s a s') :
    s'.connections = s.connections ∨
      exists b, a = .connect b ∧ s.phase b = .connecting ∧ s' = s.openConnection b := by
  cases h with
  | connect b hphase => exact Or.inr ⟨b, rfl, hphase, rfl⟩
  | _ => exact Or.inl rfl

theorem connections_le (h : Step s a s') : s.connections ≤ s'.connections := by
  rcases connections_step h with hsame | ⟨b, _, _, rfl⟩
  · exact Nat.le_of_eq hsame.symm
  · exact Nat.le_succ _

theorem known_or_new (h : Step s a s') {c : ClientId} (hc : c < s'.connections) :
    c < s.connections ∨ (c = s.connections ∧
      exists b, a = .connect b ∧ s.phase b = .connecting ∧ s' = s.openConnection b) := by
  rcases connections_step h with hsame | ⟨b, ha, hphase, hs'⟩
  · exact Or.inl (hsame ▸ hc)
  · rw [hs'] at hc
    rcases Nat.lt_succ_iff_lt_or_eq.mp hc with hlt | hnew
    · exact Or.inl hlt
    · exact Or.inr ⟨hnew, b, ha, hphase, hs'⟩

theorem owner_kept (h : Step s a s') {c : ClientId} (hc : c < s.connections) :
    s'.owner c = s.owner c := by
  cases h with
  | connect b => exact Function.update_of_ne (Nat.ne_of_lt hc) ..
  | _ => rfl

theorem openConnection_owner_self (s : State) (b : BuilderId) :
    (s.openConnection b).owner s.connections = b :=
  Function.update_self ..

theorem openConnection_phase_self (s : State) (b : BuilderId) :
    (s.openConnection b).phase b = .bootstrapping s.connections :=
  Function.update_self ..

/-!
# Clients in hand
-/

section
variable (h : Step s a s') (hwf : s.WellFormed) {b : BuilderId} {c : ClientId}
include h hwf

/-- A builder has a client that it had before, or the one it has just connected. -/
theorem client_source (hc : (s'.phase b).client = some c) :
    (s.phase b).client = some c ∨ (c = s.connections ∧ s' = s.openConnection b) := by
  rcases builder_step h hwf b with hsame | ⟨old, new, hold, hnew, hmove⟩
  · rw [hsame] at hc
    exact Or.inl hc
  · rw [hnew] at hc
    rw [hold]
    cases hmove with
    | connect hopen =>
        cases hc
        exact Or.inr ⟨rfl, hopen⟩
    | bootstrapOk | install | storeFast | announce => exact Or.inl hc
    | _ => cases hc

/-- A builder keeps its client until it has returned, or until it gives the client up. -/
theorem client_kept (hc : (s.phase b).client = some c) :
    (s'.phase b).client = some c ∨ s'.phase b = .returned ∨ s'.closed c = true := by
  rcases builder_step h hwf b with hsame | ⟨old, new, hold, hnew, hmove⟩
  · rw [hsame]
    exact Or.inl hc
  · rw [hold] at hc
    rw [hnew]
    cases hmove with
    | bootstrapOk | install | storeFast | announce => exact Or.inl hc
    | notify => exact Or.inr (Or.inl rfl)
    | bootstrapFail d hclosed | stopBootstrapping d _ hclosed =>
        cases hc
        exact Or.inr (Or.inr hclosed)
    | _ => cases hc

theorem returned_kept (hb : s.phase b = .returned) : s'.phase b = .returned := by
  rcases builder_step h hwf b with hsame | ⟨old, new, hold, _, hmove⟩
  · exact hsame.trans hb
  · rw [hold] at hb
    cases hmove with
    | _ => cases hb

theorem born_kept (hborn : s.phase b ≠ .unborn) : s'.phase b ≠ .unborn := by
  rcases builder_step h hwf b with hsame | ⟨old, new, _, hnew, hmove⟩
  · rw [hsame]
    exact hborn
  · rw [hnew]
    cases hmove with
    | _ => simp

end

/-!
# Clients that are kept back
-/

/-- The builder has begun and has neither installed a client nor been stopped. -/
def BuilderPhase.running : BuilderPhase -> Bool
  | .throttling | .connecting | .bootstrapping _ | .failed | .recording | .stopped
  | .built _ => true
  | _ => false

def State.Running (s : State) (b : BuilderId) : Prop :=
  (s.phase b).running = true

theorem running_of_phase {b : BuilderId} {phase : BuilderPhase} (hb : s.phase b = phase)
    (hrunning : phase.running = true) : s.Running b := by
  unfold State.Running
  rw [hb]
  exact hrunning

theorem running_of_keeps {b : BuilderId} {c : ClientId}
    (hkeeps : (s.phase b).keeps c = true) : s.Running b := by
  cases hphase : s.phase b with
  | bootstrapping | built => exact running_of_phase hphase rfl
  | _ =>
      rw [hphase] at hkeeps
      cases hkeeps

theorem client_of_keeps {phase : BuilderPhase} {c : ClientId} (hkeeps : phase.keeps c = true) :
    phase.client = some c := by
  cases phase with
  | bootstrapping d | built d =>
      rw [eq_of_beq hkeeps]
      rfl
  | _ => cases hkeeps

section
variable (h : Step s a s') (hwf : s.WellFormed) {b : BuilderId} {c : ClientId}
include h hwf

theorem keeps_source (hkeeps : (s'.phase b).keeps c = true) :
    (s.phase b).keeps c = true ∨ (a = .connect b ∧ c = s.connections) := by
  rcases builder_step h hwf b with hsame | ⟨old, new, hold, hnew, hmove⟩
  · rw [hsame] at hkeeps
    exact Or.inl hkeeps
  · rw [hnew] at hkeeps
    rw [hold]
    cases hmove with
    | connect => exact Or.inr ⟨rfl, eq_of_beq hkeeps⟩
    | bootstrapOk => exact Or.inl hkeeps
    | _ => cases hkeeps

/-- A builder gives the client up, or installs it. -/
theorem keeps_kept (hkeeps : (s.phase b).keeps c = true) :
    (s'.phase b).keeps c = true ∨ (s'.closed c = true ∧ s'.ended c = true) ∨
      s'.client = some c := by
  rcases builder_step h hwf b with hsame | ⟨old, new, hold, hnew, hmove⟩
  · rw [hsame]
    exact Or.inl hkeeps
  · rw [hold] at hkeeps
    rw [hnew]
    cases hmove with
    | bootstrapOk => exact Or.inl hkeeps
    | bootstrapFail d hclosed hended | stopBootstrapping d _ hclosed hended =>
        rw [eq_of_beq hkeeps]
        exact Or.inr (Or.inl ⟨hclosed, hended⟩)
    | install d hclient =>
        rw [eq_of_beq hkeeps]
        exact Or.inr (Or.inr hclient)
    | _ => cases hkeeps

end

/-!
# What a listener hears
-/

/-- The listener was told that a client was closed, or is about to be. -/
def State.Heard (s : State) (b : BuilderId) : Prop :=
  s.message b = true ∨ s.listener b = .notified

/-- A message is there, or was put there for a client of the builder. -/
theorem message_source (h : Step s a s') {b : BuilderId} (hmessage : s'.message b = true) :
    s.message b = true ∨ exists c, s.closeTask c = .claimed ∧ s.owner c = b := by
  have hreset : forall {d : BuilderId}, Function.update s.message d false b = true ->
      s.message b = true := by
    intro d hd
    by_cases hb : b = d
    · subst hb
      rw [Function.update_self] at hd
      cases hd
    · rw [Function.update_of_ne hb] at hd
      exact hd
  cases h with
  | begin | beginAgain | receiveClose => exact Or.inl (hreset hmessage)
  | sendOnClose c hclaimed =>
      rcases update_true_iff.mp hmessage with rfl | hold
      · exact Or.inr ⟨c, hclaimed, rfl⟩
      · exact Or.inl hold
  | _ => exact Or.inl hmessage

/-- A listener hears of a client of its builder, or that there is none left. -/
theorem heard_source (h : Step s a s') (hwf : s.WellFormed) {b : BuilderId}
    (hheard : s'.Heard b) :
    s.Heard b ∨ (exists c, s.closeTask c = .claimed ∧ s.owner c = b) ∨
      (s.phase b = .returned ∧
        forall c, c < s.connections -> s.owner c = b -> s.dropped c = true) := by
  rcases hheard with hmessage | hnotified
  · rcases message_source h hmessage with hold | hsent
    · exact Or.inl (Or.inl hold)
    · exact Or.inr (Or.inl hsent)
  · rcases listener_step h hwf b with hsame | ⟨old, new, _, hnew, hmove⟩
    · exact Or.inl (Or.inr (hsame.symm.trans hnotified))
    · rw [hnew] at hnotified
      cases hmove with
      | receiveClose hmessage => exact Or.inl (Or.inl hmessage)
      | hangup hreturned hgone => exact Or.inr (Or.inr ⟨hreturned, hgone⟩)
      | _ => cases hnotified

/-!
# The clients in every run
-/

structure ClientsInv (s : State) : Prop where
  wellFormed : s.WellFormed
  /-- A builder has a client of its own. -/
  hand : forall b c, (s.phase b).client = some c -> s.owner c = b ∧ c < s.connections
  valid : forall c, s.client = some c -> c < s.connections
  taken : forall c, s.closer = .taken (some c) -> c < s.connections
  /-- A client is not kept back any more once it was installed. -/
  apart : forall b c, (s.phase b).keeps c = true -> s.client ≠ some c
  fresh : forall c, s.closed c = true ∨ s.ended c = true -> c < s.connections
  born : forall c, c < s.connections -> s.phase (s.owner c) ≠ .unborn
  /-- A close task that has woken found its client closed, or closed it. -/
  woken : forall c, s.closeTask c ≠ .waiting ->
    c < s.connections ∧ s.closed c = true ∧ s.ended c = true
  dropped : forall c, s.dropped c = true -> s.closed c = true ∧ s.ended c = true
  /-- A client that is not closed is in the hand of its builder, or was handed out. -/
  accounted : forall c, c < s.connections -> s.closed c = false ->
    (s.phase (s.owner c)).client = some c ∨ s.phase (s.owner c) = .returned

theorem ClientsInv.owner_begun (h : ClientsInv s) {c : ClientId} (hlt : c < s.connections) :
    s.owner c < s.builders := by
  refine Nat.lt_of_not_le (fun hle => ?_)
  exact h.born c hlt (h.wellFormed.phase _ hle)

section
variable (h : ClientsInv s) (hstep : Step s a s')
include h hstep

theorem hand_step (b : BuilderId) (c : ClientId) (hc : (s'.phase b).client = some c) :
    s'.owner c = b ∧ c < s'.connections := by
  rcases client_source hstep h.wellFormed hc with hold | ⟨rfl, rfl⟩
  · rcases h.hand b c hold with ⟨howner, hlt⟩
    exact ⟨(owner_kept hstep hlt).trans howner, Nat.lt_of_lt_of_le hlt (connections_le hstep)⟩
  · exact ⟨openConnection_owner_self s b, Nat.lt_succ_self _⟩

theorem valid_step (c : ClientId) (hc : s'.client = some c) : c < s'.connections := by
  cases hstep with
  | install b d hphase =>
      cases hc
      exact (h.hand b c (by rw [hphase]; rfl)).2
  | clear | closeTake => cases hc
  | connect b => exact Nat.lt_succ_of_lt (h.valid c hc)
  | _ => exact h.valid c hc

theorem taken_step (c : ClientId) (hc : s'.closer = .taken (some c)) :
    c < s'.connections := by
  cases hstep with
  | closeTake => exact h.valid c (Closer.taken.inj hc)
  | closeTaken _ _ _ _ hnext | closedTaken _ _ _ _ hnext =>
      rcases hnext with rfl | rfl
      · cases hc
      · cases hc
  | closeCancel | closeNone | closeNotify => cases hc
  | connect => exact Nat.lt_succ_of_lt (h.taken c hc)
  | _ => exact h.taken c hc

theorem apart_step (b : BuilderId) (c : ClientId) (hkeeps : (s'.phase b).keeps c = true) :
    s'.client ≠ some c := by
  intro hclient
  rcases keeps_source hstep h.wellFormed hkeeps with hold | ⟨rfl, rfl⟩
  · cases hstep with
    | install d e hd =>
        have hbd : b = d := by
          cases hclient
          exact ((h.hand b c (client_of_keeps hold)).1.symm.trans
            (h.hand d c (by rw [hd]; rfl)).1)
        subst hbd
        rw [setPhase_self] at hkeeps
        cases hkeeps
    | clear | closeTake => cases hclient
    | _ => exact h.apart b c hold hclient
  · cases hstep with
    | connect => exact Nat.lt_irrefl _ (h.valid _ hclient)

theorem fresh_step (c : ClientId) (hc : s'.closed c = true ∨ s'.ended c = true) :
    c < s'.connections := by
  have hshut : forall {d : ClientId}, d < s.connections ->
      Function.update s.closed d true c = true ∨ Function.update s.ended d true c = true ->
        c < s.connections := by
    intro d hd hor
    rcases hor with hclosed | hended
    · rcases update_true_iff.mp hclosed with rfl | hold
      · exact hd
      · exact h.fresh c (Or.inl hold)
    · rcases update_true_iff.mp hended with rfl | hold
      · exact hd
      · exact h.fresh c (Or.inr hold)
  cases hstep with
  | endConnection d hd => exact hshut hd (hc.imp_left (update_true_iff.mpr ∘ Or.inr))
  | claimClose d _ _ hd => exact hshut hd (hc.imp_right (update_true_iff.mpr ∘ Or.inr))
  | closeByHolder d hd | release d hd => exact hshut hd hc
  | bootstrapFail b d hb | stopBootstrapping b d _ hb =>
      exact hshut (h.hand b d (by rw [hb]; rfl)).2 hc
  | closeTaken d _ _ htaken => exact hshut (h.taken d htaken) hc
  | connect => exact Nat.lt_succ_of_lt (h.fresh c hc)
  | _ => exact h.fresh c hc

theorem owner_born_step (c : ClientId) (hc : c < s'.connections) :
    s'.phase (s'.owner c) ≠ .unborn := by
  rcases known_or_new hstep hc with hlt | ⟨rfl, b, _, _, rfl⟩
  · rw [owner_kept hstep hlt]
    exact born_kept hstep h.wellFormed (h.born c hlt)
  · rw [openConnection_owner_self, openConnection_phase_self]
    simp

theorem woken_step (c : ClientId) (hc : s'.closeTask c ≠ .waiting) :
    c < s'.connections ∧ s'.closed c = true ∧ s'.ended c = true := by
  have hold : s.closeTask c ≠ .waiting ->
      c < s'.connections ∧ s'.closed c = true ∧ s'.ended c = true := by
    intro hwoken
    rcases h.woken c hwoken with ⟨hlt, hclosed, hended⟩
    exact ⟨Nat.lt_of_lt_of_le hlt (connections_le hstep), closed_step hstep hclosed,
      ended_step hstep hended⟩
  have hset : forall {d : ClientId} {task : CloseTask},
      Function.update s.closeTask d task c ≠ .waiting -> c = d ∨ s.closeTask c ≠ .waiting := by
    intro d task htask
    by_cases hd : c = d
    · exact Or.inl hd
    · rw [Function.update_of_ne hd] at htask
      exact Or.inr htask
  cases hstep with
  | claimClosed d _ hended hlt hclosed =>
      rcases hset hc with rfl | hwoken
      · exact ⟨hlt, hclosed, hended⟩
      · exact hold hwoken
  | claimClose d _ hended hlt =>
      rcases hset hc with rfl | hwoken
      · exact ⟨hlt, update_true_iff.mpr (Or.inl rfl), hended⟩
      · exact hold hwoken
  | sendOnClose d hclaimed | sendFailed d hclaimed =>
      rcases hset hc with rfl | hwoken
      · exact hold (by rw [hclaimed]; simp)
      · exact hold hwoken
  | _ => exact hold hc

theorem dropped_step (c : ClientId) (hc : s'.dropped c = true) :
    s'.closed c = true ∧ s'.ended c = true := by
  have hold : s.dropped c = true -> s'.closed c = true ∧ s'.ended c = true := by
    intro hdropped
    rcases h.dropped c hdropped with ⟨hclosed, hended⟩
    exact ⟨closed_step hstep hclosed, ended_step hstep hended⟩
  cases hstep with
  | release d | bootstrapFail _ d | stopBootstrapping _ d =>
      rcases update_true_iff.mp hc with rfl | hdropped
      · exact ⟨update_true_iff.mpr (Or.inl rfl), update_true_iff.mpr (Or.inl rfl)⟩
      · exact hold hdropped
  | _ => exact hold hc

theorem accounted_step (c : ClientId) (hc : c < s'.connections)
    (hopen : s'.closed c = false) :
    (s'.phase (s'.owner c)).client = some c ∨ s'.phase (s'.owner c) = .returned := by
  have hbefore : s.closed c = false := by
    cases hclosed : s.closed c with
    | false => rfl
    | true =>
        rw [closed_step hstep hclosed] at hopen
        cases hopen
  rcases known_or_new hstep hc with hlt | ⟨rfl, b, _, _, rfl⟩
  · rw [owner_kept hstep hlt]
    rcases h.accounted c hlt hbefore with hhand | hreturned
    · rcases client_kept hstep h.wellFormed hhand with hkept | hreturned | hclosed
      · exact Or.inl hkept
      · exact Or.inr hreturned
      · rw [hclosed] at hopen
        cases hopen
    · exact Or.inr (returned_kept hstep h.wellFormed hreturned)
  · rw [openConnection_owner_self, openConnection_phase_self]
    exact Or.inl rfl

theorem ClientsInv.step : ClientsInv s' where
  wellFormed := wellFormed_step hstep h.wellFormed
  hand := hand_step h hstep
  valid := valid_step h hstep
  taken := taken_step h hstep
  apart := apart_step h hstep
  fresh := fresh_step h hstep
  born := owner_born_step h hstep
  woken := woken_step h hstep
  dropped := dropped_step h hstep
  accounted := accounted_step h hstep

end

theorem initial_clientsInv (onDemandConnect : Bool) :
    ClientsInv (initial onDemandConnect) := by
  have hnone : (initial onDemandConnect).connections = 0 := by
    cases onDemandConnect with
    | _ => rfl
  have hlt : forall c, ¬ c < (initial onDemandConnect).connections := by
    intro c hc
    rw [hnone] at hc
    exact Nat.not_lt_zero c hc
  refine ⟨initial_wellFormed onDemandConnect, ?_, ?_, ?_, ?_, ?_,
    fun c hc => (hlt c hc).elim, ?_, ?_, fun c hc => (hlt c hc).elim⟩
  · intro b c hc
    cases onDemandConnect with
    | true => cases hc
    | false =>
        cases b with
        | zero => cases hc
        | succ b => cases hc
  · intro c hc
    cases onDemandConnect with
    | _ => cases hc
  · intro c hc
    cases onDemandConnect with
    | _ => cases hc
  · intro b c _ hc
    cases onDemandConnect with
    | _ => cases hc
  · intro c hc
    cases onDemandConnect with
    | _ => rcases hc with hc | hc <;> cases hc
  · intro c hc
    cases onDemandConnect with
    | _ => exact (hc rfl).elim
  · intro c hc
    cases onDemandConnect with
    | _ => cases hc

theorem clientsInv_of_reach {guard : State -> Action -> Prop} {onDemandConnect : Bool}
    (hreach : StepFn.Reach step guard (initial onDemandConnect) s) : ClientsInv s :=
  hreach.invariant (initial_clientsInv onDemandConnect)
    (fun _ _ _ h _ hstep => h.step (step_inv hstep))

end Babysitter
end CouchbaseSdk
