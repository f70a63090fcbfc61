import CouchbaseSdk.Babysitter.Model
import Mathlib.Algebra.Group.Nat.Defs

/-!
# The client pool

A pool owns a number of babysitters.  They report their clients on one channel, and a
task of the pool records each report in the entry of its babysitter and rebuilds the
list of clients that callers take from.

The lock of the entries is held across an `await` by `close` only; every other critical
section is one step.
-/

namespace CouchbaseSdk
namespace Pool

open Foundation
open Babysitter (ClientId)

/-- A client, by its babysitter's place in the pool and its name there. -/
abbrev PoolClient := Nat × ClientId

/-- A call of `get_client`, by its place in the order of their starts. -/
abbrev CallId := Nat

/-- A babysitter is named by its place in the pool. -/
structure KvClientPoolEntry where
  babysitter : Nat
  client : Option ClientId
deriving DecidableEq

/-- Where the state-change task stands. -/
inductive StateTask where
  | receiving
  /-- It has a report; the lock comes next. -/
  | holding (babysitter : Nat) (client : Option ClientId)
  | stopped
deriving DecidableEq

inductive CallPhase where
  | unborn
  /-- `get_client_slow` awaits the lock. -/
  | slow
  /-- The call of the babysitter's `get_client` is under way. -/
  | asking (babysitter : Nat) (k : Babysitter.CallId)
  | returned (result : Option PoolClient)
  | panicked
deriving DecidableEq

structure Call where
  /-- The call started after `close` had returned. -/
  late : Bool
  phase : CallPhase

/-- Where `close` stands. -/
inductive Closer where
  | unborn
  | cancelled
  | swapped
  /-- The entries are drained; the first babysitter of the rest is being closed. -/
  | closing (rest : List Nat)
  | returned
deriving DecidableEq

structure State where
  babysitters : Nat -> Babysitter.State
  size : Nat
  entries : List KvClientPoolEntry
  fastMap : List PoolClient
  /-- What was sent to the state-change task and not received. -/
  queue : List (Nat × Option ClientId)
  stateTask : StateTask
  clientIdx : Nat
  shutdown : Bool
  calls : CallId -> Call
  started : Nat
  closer : Closer

def initial (numConnections : Nat) (onDemandConnect : Bool) : State :=
  { babysitters := fun _ => Babysitter.initial onDemandConnect
    size := numConnections
    entries := (List.range numConnections).map (fun i => { babysitter := i, client := none })
    fastMap := []
    queue := []
    stateTask := .receiving
    clientIdx := 0
    shutdown := false
    calls := fun _ => { late := false, phase := .unborn }
    started := 0
    closer := .unborn }

/-- `close` holds the lock of the entries. -/
def State.locked (s : State) : Bool :=
  match s.closer with
  | .closing _ => true
  | _ => false

def State.setCall (s : State) (k : CallId) (phase : CallPhase) : State :=
  { s with calls := Function.update s.calls k { s.calls k with phase := phase } }

/-!
# Babysitters
-/

/-- What a babysitter sends goes to the end of the queue. -/
def State.advance (s : State) (i : Nat) (t : Babysitter.State) : State :=
  { s with
    babysitters := Function.update s.babysitters i t
    queue := s.queue ++ (t.sent.drop (s.babysitters i).sent.length).map (fun m => (i, m)) }

def closes : Babysitter.Action -> Bool
  | .closeCancel | .closeTake | .closeTaken _ | .closeNotify => true
  | _ => false

/-- A step of a babysitter other than one of its `close`. -/
def babysitter (s : State) (i : Nat) (a : Babysitter.Action) : Option State :=
  if i < s.size && !closes a then
    (Babysitter.step (s.babysitters i) a).map (s.advance i)
  else none

/-!
# State changes
-/

def receive (s : State) : Option State :=
  match s.stateTask, s.queue with
  | .receiving, (i, client) :: rest =>
      some { s with stateTask := .holding i client, queue := rest }
  | _, _ => none

def assign (entries : List KvClientPoolEntry) (report : Nat × Option ClientId) :
    List KvClientPoolEntry :=
  entries.map (fun entry =>
    if entry.babysitter = report.1 then { entry with client := report.2 } else entry)

def rebuild (entries : List KvClientPoolEntry) : List PoolClient :=
  entries.filterMap (fun entry => entry.client.map (fun c => (entry.babysitter, c)))

def applyReport (s : State) : Option State :=
  match s.stateTask with
  | .holding i client =>
      if s.locked then none
      else
        let entries := assign s.entries (i, client)
        some { s with
          entries := entries
          fastMap := rebuild entries
          stateTask := .receiving }
  | _ => none

def stopTask (s : State) : Option State :=
  match s.stateTask with
  | .receiving => if s.shutdown then some { s with stateTask := .stopped } else none
  | _ => none

/-!
# Callers
-/

/-- `fetch_add` on an `AtomicUsize`. -/
def State.nextIdx (s : State) : State :=
  { s with clientIdx := (s.clientIdx + 1) % 2 ^ 64 }

def State.start (s : State) (phase : CallPhase) : State :=
  { s with
    calls := Function.update s.calls s.started
      { late := s.closer = .returned, phase := phase }
    started := s.started + 1 }

def getClient (s : State) : State :=
  if h : 0 < s.fastMap.length then
    let client := s.fastMap.get ⟨s.clientIdx % s.fastMap.length, Nat.mod_lt _ h⟩
    s.nextIdx.start (.returned (some client))
  else s.start .slow

/-- The critical section of `get_client_slow`, and the first poll of the babysitter's
`get_client`.  The remainder by the length of an empty list panics. -/
def getClientSlow (s : State) (k : CallId) : Option State :=
  match (s.calls k).phase with
  | .slow =>
      if s.locked then none
      else if h : 0 < s.entries.length then
        let entry := s.entries.get ⟨s.clientIdx % s.entries.length, Nat.mod_lt _ h⟩
        let i := entry.babysitter
        let t := s.babysitters i
        some ((s.nextIdx.advance i (Babysitter.getClient t)).setCall k (.asking i t.started))
      else some (s.nextIdx.setCall k .panicked)
  | _ => none

def finish (s : State) (k : CallId) : Option State :=
  match (s.calls k).phase with
  | .asking i d =>
      match ((s.babysitters i).calls d).phase with
      | .returned result => some (s.setCall k (.returned (result.map (fun c => (i, c)))))
      | _ => none
  | _ => none

/-!
# Closing the pool
-/

def closeCancel (s : State) : Option State :=
  match s.closer with
  | .unborn => some { s with shutdown := true, closer := .cancelled }
  | _ => none

def closeSwap (s : State) : Option State :=
  match s.closer with
  | .cancelled => some { s with fastMap := [], closer := .swapped }
  | _ => none

/-- `close` takes the lock and drains the entries. -/
def closeDrain (s : State) : Option State :=
  match s.closer with
  | .swapped =>
      some { s with
        entries := []
        closer := .closing (s.entries.map KvClientPoolEntry.babysitter) }
  | _ => none

/-- A step of the `close` of the babysitter at hand. -/
def closeBabysitter (s : State) (a : Babysitter.Action) : Option State :=
  match s.closer with
  | .closing (i :: _) =>
      if closes a then (Babysitter.step (s.babysitters i) a).map (s.advance i) else none
  | _ => none

def closeNext (s : State) : Option State :=
  match s.closer with
  | .closing (i :: rest) =>
      match (s.babysitters i).closer with
      | .returned => some { s with closer := .closing rest }
      | _ => none
  | .closing [] => some { s with closer := .returned }
  | _ => none

/-!
# Steps
-/

inductive Action where
  | babysitter (i : Nat) (a : Babysitter.Action)
  | receive
  | applyReport
  | stopTask
  | getClient
  | getClientSlow (k : CallId)
  | finish (k : CallId)
  | closeCancel
  | closeSwap
  | closeDrain
  | closeBabysitter (a : Babysitter.Action)
  | closeNext

def step : StepFn State Action
  | s, .babysitter i a => babysitter s i a
  | s, .receive => receive s
  | s, .applyReport => applyReport s
  | s, .stopTask => stopTask s
  | s, .getClient => some (getClient s)
  | s, .getClientSlow k => getClientSlow s k
  | s, .finish k => finish s k
  | s, .closeCancel => closeCancel s
  | s, .closeSwap => closeSwap s
  | s, .closeDrain => closeDrain s
  | s, .closeBabysitter a => closeBabysitter s a
  | s, .closeNext => closeNext s

/-!
# What a step of the pool can do

The step function is inverted once.  What a run of the pool does to one of its
babysitters is a run of that babysitter.
-/

open Babysitter (ClientId)

inductive Step (s : State) : Action -> State -> Prop where
  | babysitter (i : Nat) (b : Babysitter.Action) (t : Babysitter.State) :
      i < s.size -> closes b = false -> Babysitter.step (s.babysitters i) b = some t ->
        Step s (.babysitter i b) (s.advance i t)
  | receive (i : Nat) (client : Option ClientId) (rest : List (Nat × Option ClientId)) :
      s.stateTask = .receiving -> s.queue = (i, client) :: rest ->
        Step s .receive { s with stateTask := .holding i client, queue := rest }
  | applyReport (i : Nat) (client : Option ClientId) :
      s.stateTask = .holding i client -> s.locked = false ->
        Step s .applyReport
          { s with
            entries := assign s.entries (i, client)
            fastMap := rebuild (assign s.entries (i, client))
            stateTask := .receiving }
  | stopTask : s.stateTask = .receiving -> s.shutdown = true ->
      Step s .stopTask { s with stateTask := .stopped }
  | fastHit (client : PoolClient) : client ∈ s.fastMap ->
      Step s .getClient (s.nextIdx.start (.returned (some client)))
  | fastMiss : s.fastMap = [] -> Step s .getClient (s.start .slow)
  | ask (k : CallId) (entry : KvClientPoolEntry) : (s.calls k).phase = .slow ->
      s.locked = false -> entry ∈ s.entries ->
        Step s (.getClientSlow k)
          ((s.nextIdx.advance entry.babysitter
            (Babysitter.getClient (s.babysitters entry.babysitter))).setCall k
              (.asking entry.babysitter (s.babysitters entry.babysitter).started))
  | panic (k : CallId) : (s.calls k).phase = .slow -> s.locked = false -> s.entries = [] ->
      Step s (.getClientSlow k) (s.nextIdx.setCall k .panicked)
  | finish (k : CallId) (i : Nat) (d : Babysitter.CallId) (result : Option ClientId) :
      (s.calls k).phase = .asking i d ->
        ((s.babysitters i).calls d).phase = .returned result ->
          Step s (.finish k) (s.setCall k (.returned (result.map (fun c => (i, c)))))
  | closeCancel : s.closer = .unborn ->
      Step s .closeCancel { s with shutdown := true, closer := .cancelled }
  | closeSwap : s.closer = .cancelled ->
      Step s .closeSwap { s with fastMap := [], closer := .swapped }
  | closeDrain : s.closer = .swapped ->
      Step s .closeDrain
        { s with
          entries := []
          closer := .closing (s.entries.map KvClientPoolEntry.babysitter) }
  | closeBabysitter (i : Nat) (rest : List Nat) (b : Babysitter.Action)
      (t : Babysitter.State) :
      s.closer = .closing (i :: rest) -> closes b = true ->
        Babysitter.step (s.babysitters i) b = some t ->
          Step s (.closeBabysitter b) (s.advance i t)
  | closeNext (i : Nat) (rest : List Nat) : s.closer = .closing (i :: rest) ->
      (s.babysitters i).closer = .returned ->
        Step s .closeNext { s with closer := .closing rest }
  | closeDone : s.closer = .closing [] -> Step s .closeNext { s with closer := .returned }

section
variable {s s' : State} {k : CallId}

theorem babysitter_inv {i : Nat} {b : Babysitter.Action} (h : babysitter s i b = some s') :
    Step s (.babysitter i b) s' := by
  unfold babysitter at h
  split at h
  · rename_i hcond
    simp only [Bool.and_eq_true, decide_eq_true_eq, Bool.not_eq_true'] at hcond
    rcases Option.map_eq_some_iff.mp h with ⟨t, hstep, rfl⟩
    exact Step.babysitter i b t hcond.1 hcond.2 hstep
  · cases h

theorem receive_inv (h : receive s = some s') : Step s .receive s' := by
  unfold receive at h
  split at h
  · rename_i i client rest htask hqueue
    cases h
    exact Step.receive i client rest htask hqueue
  · cases h

theorem applyReport_inv (h : applyReport s = some s') : Step s .applyReport s' := by
  unfold applyReport at h
  split at h
  · rename_i i client htask
    split at h
    · cases h
    · rename_i hlocked
      cases h
      exact Step.applyReport i client htask (Bool.eq_false_iff.mpr hlocked)
  · cases h

theorem stopTask_inv (h : stopTask s = some s') : Step s .stopTask s' := by
  unfold stopTask at h
  split at h
  · rename_i htask
    split at h
    · rename_i hshutdown
      cases h
      exact Step.stopTask htask hshutdown
    · cases h
  · cases h

theorem getClient_inv (h : some (getClient s) = some s') : Step s .getClient s' := by
  unfold getClient at h
  split at h
  · cases h
    exact Step.fastHit _ (List.get_mem _ _)
  · rename_i hempty
    cases h
    exact Step.fastMiss (List.eq_nil_of_length_eq_zero (Nat.eq_zero_of_not_pos hempty))

theorem getClientSlow_inv (h : getClientSlow s k = some s') :
    Step s (.getClientSlow k) s' := by
  unfold getClientSlow at h
  split at h
  · rename_i hslow
    split at h
    · cases h
    · rename_i hlocked
      split at h
      · cases h
        exact Step.ask k _ hslow (Bool.eq_false_iff.mpr hlocked) (List.get_mem _ _)
      · rename_i hempty
        cases h
        exact Step.panic k hslow (Bool.eq_false_iff.mpr hlocked)
          (List.eq_nil_of_length_eq_zero (Nat.eq_zero_of_not_pos hempty))
  · cases h

theorem finish_inv (h : finish s k = some s') : Step s (.finish k) s' := by
  unfold finish at h
  split at h
  · rename_i i d hasking
    split at h
    · rename_i result hreturned
      cases h
      exact Step.finish k i d result hasking hreturned
    · cases h
  · cases h

theorem closeCancel_inv (h : closeCancel s = some s') : Step s .closeCancel s' := by
  unfold closeCancel at h
  split at h
  · rename_i hcloser
    cases h
    exact Step.closeCancel hcloser
  · cases h

theorem closeSwap_inv (h : closeSwap s = some s') : Step s .closeSwap s' := by
  unfold closeSwap at h
  split at h
  · rename_i hcloser
    cases h
    exact Step.closeSwap hcloser
  · cases h

theorem closeDrain_inv (h : closeDrain s = some s') : Step s .closeDrain s' := by
  unfold closeDrain at h
  split at h
  · rename_i hcloser
    cases h
    exact Step.closeDrain hcloser
  · cases h

theorem closeBabysitter_inv {b : Babysitter.Action} (h : closeBabysitter s b = some s') :
    Step s (.closeBabysitter b) s' := by
  unfold closeBabysitter at h
  split at h
  · rename_i i rest hcloser
    split at h
    · rename_i hcloses
      rcases Option.map_eq_some_iff.mp h with ⟨t, hstep, rfl⟩
      exact Step.closeBabysitter i rest b t hcloser hcloses hstep
    · cases h
  · cases h

theorem closeNext_inv (h : closeNext s = some s') : Step s .closeNext s' := by
  unfold closeNext at h
  split at h
  · rename_i i rest hcloser
    split at h
    · rename_i hreturned
      cases h
      exact Step.closeNext i rest hcloser hreturned
    · cases h
  · rename_i hcloser
    cases h
    exact Step.closeDone hcloser
  · cases h

end

variable {s s' : State} {a : Action}

theorem step_inv (h : step s a = some s') : Step s a s' := by
  cases a with
  | babysitter i b => exact babysitter_inv h
  | receive => exact receive_inv h
  | applyReport => exact applyReport_inv h
  | stopTask => exact stopTask_inv h
  | getClient => exact getClient_inv h
  | getClientSlow k => exact getClientSlow_inv h
  | finish k => exact finish_inv h
  | closeCancel => exact closeCancel_inv h
  | closeSwap => exact closeSwap_inv h
  | closeDrain => exact closeDrain_inv h
  | closeBabysitter b => exact closeBabysitter_inv h
  | closeNext => exact closeNext_inv h

/-!
# Runs of a babysitter
-/

/-- The action that a step of the pool is for one of its babysitters. -/
inductive Forwards (s : State) : Action -> Nat -> Babysitter.Action -> Prop where
  | own (i : Nat) (b : Babysitter.Action) : Forwards s (.babysitter i b) i b
  | ask (k : CallId) (i : Nat) : Forwards s (.getClientSlow k) i .getClient
  | close (i : Nat) (rest : List Nat) (b : Babysitter.Action) :
      s.closer = .closing (i :: rest) -> closes b = true ->
        Forwards s (.closeBabysitter b) i b

theorem advance_self (s : State) (i : Nat) (t : Babysitter.State) :
    (s.advance i t).babysitters i = t := by
  unfold State.advance
  exact Function.update_self ..

theorem advance_ne (s : State) {i j : Nat} (t : Babysitter.State) (h : j ≠ i) :
    (s.advance i t).babysitters j = s.babysitters j := by
  unfold State.advance
  exact Function.update_of_ne h ..

theorem babysitter_step (h : Step s a s') (j : Nat) :
    s'.babysitters j = s.babysitters j ∨
      exists b, Forwards s a j b ∧
        Babysitter.step (s.babysitters j) b = some (s'.babysitters j) := by
  have hadvance : forall {i : Nat} {t : Babysitter.State} {b : Babysitter.Action},
      Forwards s a i b -> Babysitter.step (s.babysitters i) b = some t ->
        (s.advance i t).babysitters j = s.babysitters j ∨
          exists b, Forwards s a j b ∧
            Babysitter.step (s.babysitters j) b = some ((s.advance i t).babysitters j) := by
    intro i t b hforwards hstep
    by_cases hj : j = i
    · subst hj
      rw [advance_self]
      exact Or.inr ⟨b, hforwards, hstep⟩
    · exact Or.inl (advance_ne s t hj)
  cases h with
  | babysitter i b t _ _ hstep => exact hadvance (Forwards.own i b) hstep
  | ask k entry => exact hadvance (Forwards.ask k entry.babysitter) rfl
  | closeBabysitter i rest b t hcloser hcloses hstep =>
      exact hadvance (Forwards.close i rest b hcloser hcloses) hstep
  | _ => exact Or.inl rfl

/-- A run of the pool is a run of each of its babysitters. -/
theorem reach_babysitter {guard : State -> Action -> Prop}
    {inner : Babysitter.State -> Babysitter.Action -> Prop} {numConnections : Nat}
    {onDemandConnect : Bool}
    (hguard : forall s a j b, guard s a -> Forwards s a j b -> inner (s.babysitters j) b)
    (hreach : StepFn.Reach step guard (initial numConnections onDemandConnect) s) (j : Nat) :
    StepFn.Reach Babysitter.step inner (Babysitter.initial onDemandConnect)
      (s.babysitters j) := by
  induction hreach with
  | refl => exact StepFn.Reach.refl
  | tail a _ hg hstep ih =>
      rcases babysitter_step (step_inv hstep) j with hsame | ⟨b, hforwards, hinner⟩
      · rw [hsame]
        exact ih
      · exact StepFn.Reach.tail b ih (hguard _ _ j b hg hforwards) hinner

end Pool
end CouchbaseSdk
