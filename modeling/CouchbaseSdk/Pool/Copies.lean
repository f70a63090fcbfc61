import CouchbaseSdk.Babysitter.Copies
import CouchbaseSdk.Pool.Model

/-!
# The clients of a pool

The reports of the babysitters are applied in order, so an entry of the pool follows
what its babysitter has reported.  The list of clients is rebuilt from the entries each
time.
-/

namespace CouchbaseSdk
namespace Pool

open Foundation
open Babysitter (ClientId)

variable {s s' : State} {a : Action} {numConnections : Nat} {onDemandConnect : Bool}

/-- No babysitter is at work, and every report was applied. -/
structure Quiescent (s : State) : Prop where
  babysitters : forall i, i < s.size -> Babysitter.Quiescent (s.babysitters i)
  queue : s.queue = []
  stateTask : s.stateTask = .receiving

/-- One entry for each babysitter, in order. -/
def table (size : Nat) (client : Nat -> Option ClientId) : List KvClientPoolEntry :=
  (List.range size).map (fun i => { babysitter := i, client := client i })

/-- The copies of the current clients are the current clients. -/
structure Agrees (s : State) : Prop where
  fast : forall i, i < s.size -> (s.babysitters i).fastClient = (s.babysitters i).client
  entries : s.entries = table s.size (fun i => (s.babysitters i).client)
  fastMap : s.fastMap = (List.range s.size).filterMap
    (fun i => (s.babysitters i).client.map (fun c => (i, c)))

/-- Every babysitter writes its copies and sends its reports while they are current. -/
def WritesCurrent (s : State) : Action -> Prop
  | .babysitter i b => Babysitter.WritesCurrent (s.babysitters i) b
  | _ => True

/-!
# Entries
-/

theorem assign_table (size : Nat) (client : Nat -> Option ClientId) (i : Nat)
    (report : Option ClientId) :
    assign (table size client) (i, report) =
      table size (Function.update client i report) := by
  unfold assign table
  rw [List.map_map]
  apply List.map_congr_left
  intro j _
  by_cases hj : j = i
  · subst hj
    simp
  · simp [hj]

theorem rebuild_table (size : Nat) (client : Nat -> Option ClientId) :
    rebuild (table size client) =
      (List.range size).filterMap (fun i => (client i).map (fun c => (i, c))) := by
  unfold rebuild table
  rw [List.filterMap_map]
  rfl

/-!
# Reports
-/

def StateTask.held : StateTask -> List (Nat × Option ClientId)
  | .holding i client => [(i, client)]
  | _ => []

/-- The reports that are still to be applied, the next one first. -/
def State.pending (s : State) : List (Nat × Option ClientId) :=
  s.stateTask.held ++ s.queue

/-- Once they are applied, every entry has what its babysitter reported last. -/
def State.Follows (s : State) : Prop :=
  s.pending.foldl assign s.entries =
    table s.size (fun i => (s.babysitters i).reported)

theorem reported_advance_ne (i : Nat) (t : Babysitter.State) {j : Nat} (h : j ≠ i) :
    ((s.advance i t).babysitters j).reported = (s.babysitters j).reported := by
  rw [advance_ne s t h]

theorem follows_advance {i : Nat} {t : Babysitter.State} {b : Babysitter.Action}
    (hstep : Babysitter.Step (s.babysitters i) b t) (h : s.Follows) :
    (s.advance i t).Follows := by
  have hpending : (s.advance i t).pending = s.pending ++
      (t.sent.drop (s.babysitters i).sent.length).map (fun m => (i, m)) :=
    (List.append_assoc ..).symm
  unfold State.Follows at h ⊢
  rw [hpending, List.foldl_append]
  change List.foldl assign (s.pending.foldl assign s.entries) _ = table s.size _
  rw [h]
  rcases Babysitter.sent_step hstep with hsame | ⟨client, hsent⟩
  · rw [hsame, List.drop_length]
    change table s.size _ = table s.size _
    congr 1
    funext j
    by_cases hj : j = i
    · subst hj
      unfold Babysitter.State.reported
      rw [advance_self, hsame]
    · rw [reported_advance_ne i t hj]
  · rw [hsent, List.drop_left]
    change assign _ (i, client) = _
    rw [assign_table]
    congr 1
    funext j
    by_cases hj : j = i
    · subst hj
      unfold Babysitter.State.reported
      rw [Function.update_self, advance_self, hsent]
      simp
    · rw [Function.update_of_ne hj, reported_advance_ne i t hj]

theorem initial_follows : (initial numConnections onDemandConnect).Follows := by
  have hreported : (Babysitter.initial onDemandConnect).reported = none := by
    cases onDemandConnect with
    | _ => rfl
  unfold State.Follows
  change table numConnections (fun _ => none) = _
  congr 1
  funext i
  exact hreported.symm

/-- What holds as long as the pool is not being closed. -/
structure OpenInv (s : State) : Prop where
  closer : s.closer = .unborn
  babysitters : forall i, (s.babysitters i).shutdown = false
  follows : s.Follows
  fastMap : s.fastMap = rebuild s.entries

theorem shutdown_kept {t u : Babysitter.State} {b : Babysitter.Action}
    (h : Babysitter.Step t b u) (hcloses : closes b = false) : u.shutdown = t.shutdown := by
  cases h with
  | closeCancel => cases hcloses
  | _ => rfl

theorem OpenInv.advance (h : OpenInv s) {i : Nat} {t : Babysitter.State}
    {b : Babysitter.Action} (hstep : Babysitter.Step (s.babysitters i) b t)
    (hcloses : closes b = false) : OpenInv (s.advance i t) where
  closer := h.closer
  babysitters := by
    intro j
    by_cases hj : j = i
    · subst hj
      rw [advance_self, shutdown_kept hstep hcloses]
      exact h.babysitters j
    · rw [advance_ne s t hj]
      exact h.babysitters j
  follows := follows_advance hstep h.follows
  fastMap := h.fastMap

theorem OpenInv.step (h : OpenInv s) (hstep : Step s a s') (hopen : s'.shutdown = false) :
    OpenInv s' := by
  cases hstep with
  | babysitter i b t _ hcloses hinner => exact h.advance (Babysitter.step_inv hinner) hcloses
  | receive i client rest htask hqueue =>
      refine ⟨h.closer, h.babysitters, ?_, h.fastMap⟩
      have hpending : s.pending = (i, client) :: rest := by
        unfold State.pending
        rw [htask, hqueue]
        rfl
      have hfollows := h.follows
      unfold State.Follows at hfollows
      rw [hpending] at hfollows
      exact hfollows
  | applyReport i client htask =>
      refine ⟨h.closer, h.babysitters, ?_, rfl⟩
      have hpending : s.pending = (i, client) :: s.queue := by
        unfold State.pending
        rw [htask]
        rfl
      have hfollows := h.follows
      unfold State.Follows at hfollows
      rw [hpending] at hfollows
      exact hfollows
  | stopTask htask hshutdown =>
      have hfalse : s.shutdown = false := hopen
      rw [hfalse] at hshutdown
      cases hshutdown
  | ask k entry =>
      have hidx : OpenInv s.nextIdx := ⟨h.closer, h.babysitters, h.follows, h.fastMap⟩
      have hadvance : OpenInv (s.nextIdx.advance entry.babysitter
          (Babysitter.getClient (s.babysitters entry.babysitter))) :=
        hidx.advance Babysitter.Step.getClient rfl
      exact ⟨hadvance.closer, hadvance.babysitters, hadvance.follows, hadvance.fastMap⟩
  | closeCancel => cases hopen
  | closeSwap hcloser | closeDrain hcloser | closeBabysitter _ _ _ _ hcloser
  | closeNext _ _ hcloser | closeDone hcloser =>
      rw [h.closer] at hcloser
      cases hcloser
  | _ => exact ⟨h.closer, h.babysitters, h.follows, h.fastMap⟩

theorem initial_openInv : OpenInv (initial numConnections onDemandConnect) where
  closer := rfl
  babysitters := by
    intro i
    change (Babysitter.initial onDemandConnect).shutdown = false
    cases onDemandConnect with
    | _ => rfl
  follows := initial_follows
  fastMap := by
    change [] = rebuild (table numConnections (fun _ => none))
    rw [rebuild_table]
    simp

theorem shutdown_mono (h : Step s a s') (hopen : s'.shutdown = false) :
    s.shutdown = false := by
  cases h with
  | closeCancel => cases hopen
  | _ => exact hopen

theorem openInv_of_reach {guard : State -> Action -> Prop}
    (hreach : StepFn.Reach step guard (initial numConnections onDemandConnect) s) :
    s.shutdown = false -> OpenInv s :=
  hreach.invariant_while (fun _ _ => trivial)
    (fun _ _ _ hstep => shutdown_mono (step_inv hstep)) initial_openInv
    (fun _ _ _ _ h _ hstep => h.step (step_inv hstep))

theorem writesCurrent_of_forwards {j : Nat} {b : Babysitter.Action}
    (hguard : WritesCurrent s a) (hforwards : Forwards s a j b) :
    Babysitter.WritesCurrent (s.babysitters j) b := by
  cases hforwards with
  | own => exact hguard
  | ask => trivial
  | close i rest b hcloser hcloses =>
      cases b with
      | closeCancel | closeTake | closeTaken | closeNotify => trivial
      | _ => cases hcloses

/-- In every run in which copies are written and reports are sent while they are
current, the copies of a babysitter agree whenever it is quiescent, and so do the entries
and the clients of a quiescent pool. -/
theorem copies_of_reach (numConnections : Nat) (onDemandConnect : Bool)
    (hreach : StepFn.Reach step WritesCurrent (initial numConnections onDemandConnect) s) :
    (forall i, (s.babysitters i).shutdown = false -> Babysitter.Quiescent (s.babysitters i) ->
      (s.babysitters i).fastClient = (s.babysitters i).client) ∧
    (s.shutdown = false -> Quiescent s -> Agrees s) := by
  have hagrees : forall i, (s.babysitters i).shutdown = false ->
      Babysitter.Quiescent (s.babysitters i) ->
        (s.babysitters i).fastClient = (s.babysitters i).client ∧
          (s.babysitters i).reported = (s.babysitters i).client := by
    intro i hopen hquiescent
    have hinner := reach_babysitter (fun _ _ _ _ => writesCurrent_of_forwards) hreach i
    exact (Babysitter.copiesInv_of_reach hinner hopen).agrees hquiescent
  constructor
  · intro i hopen hquiescent
    exact (hagrees i hopen hquiescent).1
  · intro hopen hquiescent
    have h := openInv_of_reach hreach hopen
    have hcurrent : forall i, i < s.size ->
        (s.babysitters i).reported = (s.babysitters i).client := by
      intro i hi
      exact (hagrees i (h.babysitters i) (hquiescent.babysitters i hi)).2
    have hentries : s.entries = table s.size (fun i => (s.babysitters i).client) := by
      have hfollows := h.follows
      unfold State.Follows State.pending at hfollows
      rw [hquiescent.stateTask, hquiescent.queue] at hfollows
      refine Eq.trans hfollows ?_
      unfold table
      apply List.map_congr_left
      intro i hi
      exact congrArg (KvClientPoolEntry.mk i) (hcurrent i (List.mem_range.mp hi))
    constructor
    · intro i hi
      exact (hagrees i (h.babysitters i) (hquiescent.babysitters i hi)).1
    · exact hentries
    · rw [h.fastMap, hentries]
      exact rebuild_table s.size _

/-- A caller finds no client, and its babysitter connects one. -/
def connected : List Action :=
  [.getClient, .getClientSlow 0, .babysitter 0 (.checkSlow 0), .babysitter 0 (.subscribe 0),
    .babysitter 0 (.begin 0), .babysitter 0 (.throttle 0), .babysitter 0 (.connect 0),
    .babysitter 0 (.bootstrapOk 0), .babysitter 0 (.install 0)]

/-- The builder copies and reports the client, and the pool records it. -/
theorem copies_connected :
    exists s, StepFn.Reach step WritesCurrent (initial 1 true) s ∧
      s.fastMap = [(0, 0)] ∧ Agrees s := by
  have h₁ : StepFn.Reach step WritesCurrent (initial 1 true) _ :=
    StepFn.Reach.tail Action.getClient StepFn.Reach.refl trivial rfl
  have h₂ := StepFn.Reach.tail (Action.getClientSlow 0) h₁ trivial rfl
  have h₃ := StepFn.Reach.tail (Action.babysitter 0 (.checkSlow 0)) h₂ trivial rfl
  have h₄ := StepFn.Reach.tail (Action.babysitter 0 (.subscribe 0)) h₃ trivial rfl
  have h₅ := StepFn.Reach.tail (Action.babysitter 0 (.begin 0)) h₄ trivial rfl
  have h₆ := StepFn.Reach.tail (Action.babysitter 0 (.throttle 0)) h₅ trivial rfl
  have h₇ := StepFn.Reach.tail (Action.babysitter 0 (.connect 0)) h₆ trivial rfl
  have h₈ := StepFn.Reach.tail (Action.babysitter 0 (.bootstrapOk 0)) h₇ trivial rfl
  have h₉ := StepFn.Reach.tail (Action.babysitter 0 (.install 0)) h₈ trivial rfl
  have h₁₀ := StepFn.Reach.tail (Action.babysitter 0 (.storeFast 0)) h₉
    (fun _ hc => congrArg some (Babysitter.BuilderPhase.installed.inj hc)) rfl
  have h₁₁ := StepFn.Reach.tail (Action.babysitter 0 (.announce 0)) h₁₀ trivial rfl
  have h₁₂ := StepFn.Reach.tail (Action.babysitter 0 (.notify 0)) h₁₁
    (fun _ hc => congrArg some (Babysitter.BuilderPhase.announced.inj hc)) rfl
  have h₁₃ := StepFn.Reach.tail Action.receive h₁₂ trivial rfl
  have h₁₄ := StepFn.Reach.tail Action.applyReport h₁₃ trivial rfl
  refine ⟨_, h₁₄, rfl, (copies_of_reach 1 true h₁₄).2 rfl ⟨fun i hi => ?_, rfl, rfl⟩⟩
  have hzero : i = 0 := Nat.lt_one_iff.mp (show i < 1 from hi)
  subst hzero
  exact Babysitter.quiescent_first rfl (fun _ => rfl) (Or.inl rfl) (fun _ => rfl)

/-- The connection ends after the client was installed; the listener clears and reports
it before the builder has copied it. -/
def clearedFirst : List Action :=
  connected ++
  [.babysitter 0 (.endConnection 0), .babysitter 0 (.claimClose 0),
    .babysitter 0 (.sendOnClose 0), .babysitter 0 (.receiveClose 0), .babysitter 0 (.clear 0),
    .babysitter 0 (.notifyClosed 0), .babysitter 0 (.storeFast 0), .babysitter 0 (.announce 0),
    .babysitter 0 (.notify 0), .receive, .applyReport, .receive, .applyReport]

theorem clearedFirst_disagrees :
    exists s, StepFn.run step (initial 1 true) clearedFirst = some s ∧
      s.shutdown = false ∧ Quiescent s ∧ (s.babysitters 0).client = none ∧
      (s.babysitters 0).fastClient = some 0 ∧ s.fastMap = [(0, 0)] := by
  refine ⟨_, rfl, rfl, ⟨fun i hi => ?_, rfl, rfl⟩, rfl, rfl, rfl⟩
  have hzero : i = 0 := Nat.lt_one_iff.mp (show i < 1 from hi)
  subst hzero
  exact Babysitter.quiescent_first rfl (fun _ => rfl) (Or.inr rfl) (fun _ => rfl)

end Pool
end CouchbaseSdk
