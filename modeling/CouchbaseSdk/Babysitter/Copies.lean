import CouchbaseSdk.Babysitter.Tasks

/-!
# The copies of the current client

The slow state has the current client.  It is copied to `fast_client`, and the owner of
the babysitter is told about it, after the lock was released: by the builder once it has
installed a client, and by the listener once it has cleared one.
-/

namespace CouchbaseSdk
namespace Babysitter

open Foundation

variable {s s' : State} {a : Action}

/-- What the owner was told last. -/
def State.reported (s : State) : Option ClientId :=
  s.sent.getLastD none

/-- No builder has a copy left to write, and no listener a message left to send. -/
structure Quiescent (s : State) : Prop where
  builders : forall b, s.phase b = .unborn ∨ s.phase b = .returned
  listeners : forall b, s.listener b = .unborn ∨ s.listener b = .listening ∨
    s.listener b = .returned

/-- Only the first builder has begun, and it has returned. -/
theorem quiescent_first (hreturned : s.phase 0 = .returned)
    (hunborn : forall b, s.phase (b + 1) = .unborn)
    (hfirst : s.listener 0 = .listening ∨ s.listener 0 = .returned)
    (hnone : forall b, s.listener (b + 1) = .unborn) : Quiescent s := by
  constructor
  · intro b
    cases b with
    | zero => exact Or.inr hreturned
    | succ b => exact Or.inl (hunborn b)
  · intro b
    cases b with
    | zero => exact Or.inr hfirst
    | succ b => exact Or.inl (hnone b)

/-- A copy is written, and a message is sent, while the slow state still has what is
written. -/
def WritesCurrent (s : State) : Action -> Prop
  | .storeFast b => forall c, s.phase b = .installed c -> s.client = some c
  | .notify b => forall c, s.phase b = .announced c -> s.client = some c
  | .notifyClosed _ => s.client = none
  | .clearFast _ => s.client = none
  | _ => True

/-!
# Copies on their way
-/

/-- The client that the builder has installed and is about to copy or to report. -/
def BuilderPhase.placed : BuilderPhase -> Option ClientId
  | .installed c | .stored c | .announced c => some c
  | _ => none

/-- A builder is about to copy the current client. -/
def State.Copying (s : State) : Prop :=
  exists b c, s.phase b = .installed c ∧ s.client = some c

/-- A builder or a listener is about to report the current client. -/
def State.Reporting (s : State) : Prop :=
  (exists b c, (s.phase b).placed = some c ∧ s.client = some c) ∨
    (s.client = none ∧ exists b, s.listener b = .cleared)

structure CopiesInv (s : State) : Prop where
  fast : s.fastClient = s.client ∨ s.Copying
  reported : s.reported = s.client ∨ s.Reporting

theorem reported_tell (s : State) (client : Option ClientId) :
    (s.tell client).reported = client := by
  unfold State.reported State.tell
  simp

section
variable (h : Step s a s') (hwf : s.WellFormed) {b : BuilderId} {c : ClientId}
include h hwf

/-- A builder that has installed its client goes on to copy and to report it. -/
theorem placed_kept (hplaced : (s.phase b).placed = some c) :
    (s'.phase b).placed = some c ∨ (a = .notify b ∧ s.phase b = .announced c) := by
  rcases builder_step h hwf b with hsame | ⟨old, new, hold, hnew, hmove⟩
  · rw [hsame]
    exact Or.inl hplaced
  · rw [hold] at hplaced ⊢
    rw [hnew]
    cases hmove with
    | storeFast | announce => exact Or.inl hplaced
    | notify d =>
        cases hplaced
        exact Or.inr ⟨rfl, rfl⟩
    | _ => cases hplaced

theorem installed_kept (hinstalled : s.phase b = .installed c) :
    s'.phase b = .installed c ∨ a = .storeFast b := by
  rcases builder_step h hwf b with hsame | ⟨old, new, hold, _, hmove⟩
  · exact Or.inl (hsame.trans hinstalled)
  · rw [hold] at hinstalled
    cases hmove with
    | storeFast => exact Or.inr rfl
    | _ => cases hinstalled

theorem cleared_kept (hcleared : s.listener b = .cleared) :
    s'.listener b = .cleared ∨ a = .notifyClosed b := by
  rcases listener_step h hwf b with hsame | ⟨old, new, hold, _, hmove⟩
  · exact Or.inl (hsame.trans hcleared)
  · rw [hold] at hcleared
    cases hmove with
    | tell | tellLast => exact Or.inr rfl
    | _ => cases hcleared

end

/-!
# The copies agree
-/

theorem fast_step (h : Step s a s') (hwf : s.WellFormed) (hopen : s'.shutdown = false)
    (hguard : WritesCurrent s a) (hfast : s.fastClient = s.client ∨ s.Copying) :
    s'.fastClient = s'.client ∨ s'.Copying := by
  have hkept : s'.fastClient = s.fastClient -> s'.client = s.client ->
      (forall b, a ≠ .storeFast b) -> s'.fastClient = s'.client ∨ s'.Copying := by
    intro hsame hclient hstore
    rcases hfast with heq | ⟨b, c, hphase, hcurrent⟩
    · rw [hsame, hclient]
      exact Or.inl heq
    · rcases installed_kept h hwf hphase with hinstalled | rfl
      · exact Or.inr ⟨b, c, hinstalled, hclient.trans hcurrent⟩
      · exact (hstore b rfl).elim
  cases h with
  | clearFast b | clearFastStopped b => exact Or.inl hguard.symm
  | install b c => exact Or.inr ⟨b, c, setPhase_self _ _ _, rfl⟩
  | storeFast b c hphase => exact Or.inl (hguard c hphase).symm
  | clear b c => exact Or.inl rfl
  | closeTake hcloser =>
      rw [closer_unborn hwf hopen] at hcloser
      cases hcloser
  | _ => exact hkept rfl rfl (by simp)

theorem reported_step (h : Step s a s') (hwf : s.WellFormed) (hopen : s'.shutdown = false)
    (hguard : WritesCurrent s a) (hreported : s.reported = s.client ∨ s.Reporting) :
    s'.reported = s'.client ∨ s'.Reporting := by
  have hunborn : s.closer = .unborn := closer_unborn hwf (shutdown_mono h hopen)
  have hkept : s'.reported = s.reported -> s'.client = s.client ->
      (forall b, a ≠ .notify b) -> (forall b, a ≠ .notifyClosed b) ->
        s'.reported = s'.client ∨ s'.Reporting := by
    intro hsame hclient hnotify hclosed
    rcases hreported with heq | ⟨b, c, hplaced, hcurrent⟩ | ⟨hnone, b, hcleared⟩
    · rw [hsame, hclient]
      exact Or.inl heq
    · rcases placed_kept h hwf hplaced with hplaced' | ⟨rfl, _⟩
      · exact Or.inr (Or.inl ⟨b, c, hplaced', hclient.trans hcurrent⟩)
      · exact (hnotify b rfl).elim
    · rcases cleared_kept h hwf hcleared with hcleared' | rfl
      · exact Or.inr (Or.inr ⟨hclient.trans hnone, b, hcleared'⟩)
      · exact (hclosed b rfl).elim
  cases h with
  | install b c =>
      refine Or.inr (Or.inl ⟨b, c, ?_, rfl⟩)
      rw [setPhase_self]
      rfl
  | notify b c hphase =>
      refine Or.inl ?_
      change (s.tell (some c)).reported = s.client
      rw [reported_tell, hguard c hphase]
  | clear b c => exact Or.inr (Or.inr ⟨rfl, b, setListener_self _ _ _⟩)
  | notifyClosed b listener =>
      refine Or.inl ?_
      change (s.tell none).reported = s.client
      rw [reported_tell]
      exact Eq.symm hguard
  | closeTake hcloser | closeNotify hcloser =>
      rw [hunborn] at hcloser
      cases hcloser
  | _ => exact hkept rfl rfl (by simp) (by simp)

theorem initial_copiesInv (onDemandConnect : Bool) : CopiesInv (initial onDemandConnect) := by
  cases onDemandConnect with
  | true => exact ⟨Or.inl rfl, Or.inl rfl⟩
  | false => exact ⟨Or.inl rfl, Or.inl rfl⟩

theorem copiesInv_of_reach {onDemandConnect : Bool}
    (hreach : StepFn.Reach step WritesCurrent (initial onDemandConnect) s) :
    s.shutdown = false -> CopiesInv s := by
  refine hreach.invariant_while (fun _ h => wellFormed_of_reach h)
    (fun _ _ _ hstep => shutdown_mono (step_inv hstep)) (initial_copiesInv onDemandConnect) ?_
  intro t a u hwf h hguard hstepEq hopen
  have hstep := step_inv hstepEq
  exact ⟨fast_step hstep hwf hopen hguard h.fast,
    reported_step hstep hwf hopen hguard h.reported⟩

theorem CopiesInv.agrees (h : CopiesInv s) (hquiescent : Quiescent s) :
    s.fastClient = s.client ∧ s.reported = s.client := by
  have hplaced : forall b c, (s.phase b).placed ≠ some c := by
    intro b c hb
    rcases hquiescent.builders b with hunborn | hreturned
    · rw [hunborn] at hb
      cases hb
    · rw [hreturned] at hb
      cases hb
  constructor
  · rcases h.fast with heq | ⟨b, c, hphase, _⟩
    · exact heq
    · exact (hplaced b c (by rw [hphase]; rfl)).elim
  · rcases h.reported with heq | ⟨b, c, hb, _⟩ | ⟨_, b, hcleared⟩
    · exact heq
    · exact (hplaced b c hb).elim
    · rcases hquiescent.listeners b with hl | hl | hl
      · exact absurd (hl.symm.trans hcleared) (by simp)
      · exact absurd (hl.symm.trans hcleared) (by simp)
      · exact absurd (hl.symm.trans hcleared) (by simp)

/-- A step reports at most once. -/
theorem sent_step (h : Step s a s') :
    s'.sent = s.sent ∨ exists client, s'.sent = s.sent ++ [client] := by
  cases h with
  | notify b c => exact Or.inr ⟨some c, rfl⟩
  | notifyClosed b listener => exact Or.inr ⟨none, rfl⟩
  | closeNotify => exact Or.inr ⟨none, rfl⟩
  | _ => exact Or.inl rfl

end Babysitter
end CouchbaseSdk
