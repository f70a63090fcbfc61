import CouchbaseSdk.Babysitter.Shutdown
import CouchbaseSdk.Pool.Copies

/-!
# Closing a pool

`close` empties the list of clients, drains the entries and closes their babysitters one by
one.  The state-change task may rebuild the list before the entries are drained.
-/

namespace CouchbaseSdk
namespace Pool

open Foundation
open Babysitter (ClientId)

variable {s s' : State} {a : Action} {numConnections : Nat} {onDemandConnect : Bool}

structure ShutDown (s : State) : Prop where
  fastMap : s.fastMap = []
  babysitters : forall i, i < s.size -> Babysitter.ShutDown (s.babysitters i)

/-- No call that started after `close` had returned has returned a client. -/
def LateUnserved (s : State) : Prop :=
  forall k client, (s.calls k).late = true -> (s.calls k).phase ≠ .returned (some client)

/-- Every babysitter is closed in time, and no list with a client in it is stored between
the swap and the drain. -/
def ClosedInTime (s : State) : Action -> Prop
  | .babysitter i b => Babysitter.ClosedInTime (s.babysitters i) b
  | .applyReport => s.closer = .swapped -> forall i client, s.stateTask = .holding i client ->
      rebuild (assign s.entries (i, client)) = []
  | _ => True

/-!
# The babysitters that are still to be closed
-/

/-- `close` has not drained the entries. -/
def Closer.early : Closer -> Bool
  | .unborn | .cancelled | .swapped => true
  | _ => false

structure Roster (s : State) : Prop where
  names : s.closer.early = true ->
    s.entries.map KvClientPoolEntry.babysitter = List.range s.size
  drained : s.closer.early = false -> s.entries = []
  closing : forall rest, s.closer = .closing rest ->
    forall i, i < s.size -> i ∈ rest ∨ (s.babysitters i).closer = .returned
  returned : s.closer = .returned ->
    forall i, i < s.size -> (s.babysitters i).closer = .returned

theorem assign_names (entries : List KvClientPoolEntry) (report : Nat × Option ClientId) :
    (assign entries report).map KvClientPoolEntry.babysitter =
      entries.map KvClientPoolEntry.babysitter := by
  unfold assign
  rw [List.map_map]
  apply List.map_congr_left
  intro entry _
  change (if _ then _ else _ : KvClientPoolEntry).babysitter = _
  split
  · rfl
  · rfl

theorem closer_kept (h : Step s a s') {i : Nat}
    (hreturned : (s.babysitters i).closer = .returned) :
    (s'.babysitters i).closer = .returned := by
  rcases babysitter_step h i with hsame | ⟨b, _, hstep⟩
  · rw [hsame]
    exact hreturned
  · exact Babysitter.closer_returned_kept (Babysitter.step_inv hstep) hreturned

theorem Roster.step (h : Step s a s') (hr : Roster s) : Roster s' := by
  have hclosing : forall rest, s.closer = .closing rest -> forall i, i < s.size ->
      i ∈ rest ∨ (s'.babysitters i).closer = .returned := by
    intro rest hcloser i hi
    exact (hr.closing rest hcloser i hi).imp_right (closer_kept h)
  have hreturned : s.closer = .returned -> forall i, i < s.size ->
      (s'.babysitters i).closer = .returned := by
    intro hcloser i hi
    exact closer_kept h (hr.returned hcloser i hi)
  cases h with
  | applyReport i client =>
      refine ⟨fun hearly => ?_, fun hlate => ?_, hr.closing, hr.returned⟩
      · exact (assign_names s.entries (i, client)).trans (hr.names hearly)
      · change assign s.entries (i, client) = []
        rw [hr.drained hlate]
        rfl
  | closeCancel hcloser | closeSwap hcloser =>
      refine ⟨fun _ => hr.names (by rw [hcloser]; rfl), nofun, nofun, nofun⟩
  | closeDrain hcloser =>
      have hnames := hr.names (by rw [hcloser]; rfl)
      refine ⟨nofun, fun _ => rfl, ?_, nofun⟩
      intro rest hrest i hi
      rw [← Closer.closing.inj hrest, hnames]
      exact Or.inl (List.mem_range.mpr hi)
  | closeNext j rest hcloser hdone =>
      refine ⟨nofun, fun _ => hr.drained (by rw [hcloser]; rfl), ?_, nofun⟩
      intro rest' hrest i hi
      rw [← Closer.closing.inj hrest]
      rcases hr.closing _ hcloser i hi with hmem | hdone'
      · rcases List.mem_cons.mp hmem with rfl | hmem
        · exact Or.inr hdone
        · exact Or.inl hmem
      · exact Or.inr hdone'
  | closeDone hcloser =>
      refine ⟨nofun, fun _ => hr.drained (by rw [hcloser]; rfl), nofun, fun _ i hi => ?_⟩
      exact (hr.closing _ hcloser i hi).resolve_left (List.not_mem_nil)
  | _ => exact ⟨hr.names, hr.drained, hclosing, hreturned⟩

theorem initial_roster : Roster (initial numConnections onDemandConnect) := by
  refine ⟨fun _ => ?_, nofun, nofun, nofun⟩
  change ((List.range numConnections).map _).map _ = List.range numConnections
  rw [List.map_map]
  exact List.map_id' _

theorem roster_of_reach {guard : State -> Action -> Prop}
    (hreach : StepFn.Reach step guard (initial numConnections onDemandConnect) s) : Roster s :=
  hreach.invariant initial_roster (fun _ _ _ hr _ h => hr.step (step_inv h))

/-!
# The list stays empty
-/

/-- `close` has emptied the list of clients. -/
def Closer.hasSwapped : Closer -> Bool
  | .unborn | .cancelled => false
  | _ => true

/-- A call that will meet the empty list of entries. -/
def CallPhase.unserved : CallPhase -> Bool
  | .slow | .panicked => true
  | _ => false

structure ShutInv (s : State) : Prop where
  fastMap : s.closer.hasSwapped = true -> s.fastMap = []
  late : forall k, (s.calls k).late = true ->
    s.closer = .returned ∧ (s.calls k).phase.unserved = true

theorem fastMap_step (h : Step s a s') (hr : Roster s) (hinv : ShutInv s)
    (hguard : ClosedInTime s a) (hswapped : s'.closer.hasSwapped = true) :
    s'.fastMap = [] := by
  cases h with
  | applyReport i client htask =>
      change rebuild (assign s.entries (i, client)) = []
      cases hcloser : s.closer with
      | swapped => exact hguard hcloser i client htask
      | closing | returned =>
          rw [hr.drained (by rw [hcloser]; rfl)]
          rfl
      | unborn | cancelled =>
          have hnot : s.closer.hasSwapped = true := hswapped
          rw [hcloser] at hnot
          cases hnot
  | closeCancel => cases hswapped
  | closeSwap => rfl
  | closeDrain hc | closeNext _ _ hc | closeDone hc => exact hinv.fastMap (by rw [hc]; rfl)
  | _ => exact hinv.fastMap hswapped

/-- A call that starts after `close` had returned finds both lists empty. -/
theorem late_start (hinv : ShutInv s) {phase : CallPhase} {k : CallId}
    (hphase : s.closer = .returned -> phase.unserved = true)
    (hlate : ((s.start phase).calls k).late = true) :
    s.closer = .returned ∧ ((s.start phase).calls k).phase.unserved = true := by
  by_cases hk : k = s.started
  · subst hk
    have hnew : (s.start phase).calls s.started =
        { late := s.closer = .returned, phase := phase } := Function.update_self ..
    rw [hnew] at hlate ⊢
    have hcloser : s.closer = .returned := of_decide_eq_true hlate
    exact ⟨hcloser, hphase hcloser⟩
  · have hold : (s.start phase).calls k = s.calls k := Function.update_of_ne hk ..
    rw [hold] at hlate ⊢
    exact hinv.late k hlate

theorem late_setCall (hinv : ShutInv s) {phase : CallPhase} {j k : CallId}
    (hphase : s.closer = .returned -> (s.calls j).phase.unserved = true ->
      phase.unserved = true) (hlate : ((s.setCall j phase).calls k).late = true) :
    s.closer = .returned ∧ ((s.setCall j phase).calls k).phase.unserved = true := by
  by_cases hk : k = j
  · subst hk
    have hnew : (s.setCall k phase).calls k = { s.calls k with phase := phase } :=
      Function.update_self ..
    rw [hnew] at hlate ⊢
    rcases hinv.late k hlate with ⟨hcloser, hunserved⟩
    exact ⟨hcloser, hphase hcloser hunserved⟩
  · have hold : (s.setCall j phase).calls k = s.calls k := Function.update_of_ne hk ..
    rw [hold] at hlate ⊢
    exact hinv.late k hlate

theorem late_step (h : Step s a s') (hr : Roster s) (hinv : ShutInv s) (k : CallId)
    (hlate : (s'.calls k).late = true) :
    s'.closer = .returned ∧ (s'.calls k).phase.unserved = true := by
  cases h with
  | fastHit client hmem =>
      refine late_start hinv (fun hcloser => ?_) hlate
      rw [hinv.fastMap (by rw [hcloser]; rfl)] at hmem
      cases hmem
  | fastMiss => exact late_start hinv (fun _ => rfl) hlate
  | ask j entry _ _ hmem =>
      refine late_setCall hinv (fun hcloser => ?_) hlate
      rw [hr.drained (by rw [hcloser]; rfl)] at hmem
      cases hmem
  | panic j => exact late_setCall hinv (fun _ _ => rfl) hlate
  | finish j i d result hasking =>
      refine late_setCall hinv (fun _ hunserved => ?_) hlate
      rw [hasking] at hunserved
      cases hunserved
  | closeCancel hc | closeSwap hc | closeDrain hc | closeNext _ _ hc | closeDone hc =>
      cases (hinv.late k hlate).1.symm.trans hc
  | _ => exact hinv.late k hlate

theorem shutInv_of_reach
    (hreach : StepFn.Reach step ClosedInTime (initial numConnections onDemandConnect) s) :
    ShutInv s :=
  hreach.invariant_with (fun _ h => roster_of_reach h) ⟨nofun, nofun⟩
    (fun _ _ _ hr hinv hguard h => ⟨fastMap_step (step_inv h) hr hinv hguard,
      late_step (step_inv h) hr hinv⟩)

theorem closedInTime_of_forwards {j : Nat} {b : Babysitter.Action}
    (hguard : ClosedInTime s a) (hforwards : Forwards s a j b) :
    Babysitter.ClosedInTime (s.babysitters j) b := by
  cases hforwards with
  | own => exact hguard
  | ask => trivial
  | close i rest b hcloser hcloses =>
      cases b with
      | closeCancel | closeTake | closeTaken | closeNotify => trivial
      | _ => cases hcloses

/-- Nothing is left once `close` has returned and the tasks are at rest, for a babysitter
and for a pool, in every run in which clients are installed, copied and announced in time. -/
theorem shutDown_of_reach (numConnections : Nat) (onDemandConnect : Bool) :
    (forall s, StepFn.Reach Babysitter.step Babysitter.ClosedInTime
        (Babysitter.initial onDemandConnect) s -> Babysitter.LateUnserved s ∧
      (s.closer = .returned -> Babysitter.Quiescent s -> Babysitter.ShutDown s)) ∧
    (forall s, StepFn.Reach step ClosedInTime (initial numConnections onDemandConnect) s ->
      LateUnserved s ∧ (s.closer = .returned ->
        (forall i, i < s.size -> Babysitter.Quiescent (s.babysitters i)) -> ShutDown s)) := by
  constructor
  · intro s hreach
    have hinv := Babysitter.shutInv_of_reach hreach
    exact ⟨hinv.lateUnserved, hinv.shutDown⟩
  · intro s hreach
    have hinv := shutInv_of_reach hreach
    constructor
    · intro k client hlate hphase
      have hunserved := (hinv.late k hlate).2
      rw [hphase] at hunserved
      cases hunserved
    · intro hreturned hquiescent
      refine ⟨hinv.fastMap (by rw [hreturned]; rfl), fun i hi => ?_⟩
      have hinner := reach_babysitter (fun _ _ _ _ => closedInTime_of_forwards) hreach i
      exact (Babysitter.shutInv_of_reach hinner).shutDown
        ((roster_of_reach hreach).returned hreturned i hi) (hquiescent i hi)

/-- A pool of one babysitter is closed after its client was recorded. -/
theorem shutDown_closedAfter :
    exists s, StepFn.Reach step ClosedInTime (initial 1 false) s ∧ s.closer = .returned ∧
      (s.babysitters 0).connections = 1 ∧ LateUnserved s ∧ ShutDown s ∧
      StepFn.Reach Babysitter.step Babysitter.ClosedInTime (Babysitter.initial false)
        (s.babysitters 0) ∧
      Babysitter.LateUnserved (s.babysitters 0) := by
  have h₁ : StepFn.Reach step ClosedInTime (initial 1 false) _ :=
    StepFn.Reach.tail (Action.babysitter 0 (.throttle 0)) StepFn.Reach.refl trivial rfl
  have h₂ := StepFn.Reach.tail (Action.babysitter 0 (.connect 0)) h₁ trivial rfl
  have h₃ := StepFn.Reach.tail (Action.babysitter 0 (.bootstrapOk 0)) h₂ trivial rfl
  have h₄ := StepFn.Reach.tail (Action.babysitter 0 (.install 0)) h₃
    ⟨rfl, fun _ hc => (Option.some_ne_none _ hc.symm).elim⟩ rfl
  have h₅ := StepFn.Reach.tail (Action.babysitter 0 (.storeFast 0)) h₄ rfl rfl
  have h₆ := StepFn.Reach.tail (Action.babysitter 0 (.announce 0)) h₅ nofun rfl
  have h₇ := StepFn.Reach.tail (Action.babysitter 0 (.notify 0)) h₆ trivial rfl
  have h₈ := StepFn.Reach.tail Action.receive h₇ trivial rfl
  have h₉ := StepFn.Reach.tail Action.applyReport h₈ nofun rfl
  have h₁₀ := StepFn.Reach.tail Action.closeCancel h₉ trivial rfl
  have h₁₁ := StepFn.Reach.tail Action.closeSwap h₁₀ trivial rfl
  have h₁₂ := StepFn.Reach.tail Action.closeDrain h₁₁ trivial rfl
  have h₁₃ := StepFn.Reach.tail (Action.closeBabysitter .closeCancel) h₁₂ trivial rfl
  have h₁₄ := StepFn.Reach.tail (Action.closeBabysitter .closeTake) h₁₃ trivial rfl
  have h₁₅ := StepFn.Reach.tail (Action.closeBabysitter (.closeTaken true)) h₁₄ trivial rfl
  have h₁₆ := StepFn.Reach.tail (Action.closeBabysitter .closeNotify) h₁₅ trivial rfl
  have h₁₇ := StepFn.Reach.tail Action.closeNext h₁₆ trivial rfl
  have h₁₈ := StepFn.Reach.tail Action.closeNext h₁₇ trivial rfl
  have hinner := reach_babysitter (fun _ _ _ _ => closedInTime_of_forwards) h₁₈ 0
  have hshut := (shutDown_of_reach 1 false).2 _ h₁₈
  refine ⟨_, h₁₈, rfl, rfl, hshut.1, hshut.2 rfl (fun i hi => ?_), hinner,
    ((shutDown_of_reach 1 false).1 _ hinner).1⟩
  have hzero : i = 0 := Nat.lt_one_iff.mp (show i < 1 from hi)
  subst hzero
  exact Babysitter.quiescent_first rfl (fun _ => rfl) (Or.inl rfl) (fun _ => rfl)

/-!
# Where it fails
-/

/-- The attempt succeeds as the token is cancelled, and the client is installed after
`close` has looked for one.  A call that starts afterwards finds it. -/
def installedLate : List Babysitter.Action :=
  [.throttle 0, .connect 0, .closeCancel, .bootstrapOk 0, .closeTake, .closeTaken true,
    .closeNotify, .install 0, .storeFast 0, .announce 0, .notify 0, .stopListening 0,
    .getClient]

/-- The report of the client is applied between the swap and the drain. -/
def rebuiltLate : List Action :=
  [.babysitter 0 (.throttle 0), .babysitter 0 (.connect 0), .babysitter 0 (.bootstrapOk 0),
    .babysitter 0 (.install 0), .babysitter 0 (.storeFast 0), .babysitter 0 (.announce 0),
    .babysitter 0 (.notify 0), .receive, .closeCancel, .closeSwap, .applyReport, .closeDrain,
    .closeBabysitter .closeCancel, .closeBabysitter .closeTake,
    .closeBabysitter (.closeTaken true), .closeBabysitter .closeNotify, .closeNext, .closeNext,
    .stopTask, .babysitter 0 (.stopListening 0), .getClient]

theorem shutDown_fails :
    (exists s, StepFn.run Babysitter.step (Babysitter.initial false) installedLate = some s ∧
      s.closer = .returned ∧ Babysitter.Quiescent s ∧ s.client = some 0 ∧
      s.fastClient = some 0 ∧ s.connections = 1 ∧ s.closed 0 = false ∧ s.dropped 0 = false ∧
      ¬ Babysitter.ShutDown s ∧ ¬ Babysitter.LateUnserved s) ∧
    (exists s, StepFn.run step (initial 1 false) rebuiltLate = some s ∧
      s.closer = .returned ∧ s.stateTask = .stopped ∧
      (forall i, i < s.size -> Babysitter.Quiescent (s.babysitters i)) ∧
      s.fastMap = [(0, 0)] ∧ ¬ ShutDown s ∧ ¬ LateUnserved s) := by
  constructor
  · refine ⟨_, rfl, rfl, ?_, rfl, rfl, rfl, rfl, rfl, ?_, ?_⟩
    · exact Babysitter.quiescent_first rfl (fun _ => rfl) (Or.inr rfl) (fun _ => rfl)
    · intro hshut
      cases hshut.client
    · intro hlate
      exact hlate 0 0 rfl rfl
  · refine ⟨_, rfl, rfl, rfl, ?_, rfl, ?_, ?_⟩
    · intro i hi
      have hzero : i = 0 := Nat.lt_one_iff.mp (show i < 1 from hi)
      subst hzero
      exact Babysitter.quiescent_first rfl (fun _ => rfl) (Or.inr rfl) (fun _ => rfl)
    · intro hshut
      cases hshut.fastMap
    · intro hlate
      exact hlate 0 (0, 0) rfl rfl

end Pool
end CouchbaseSdk
