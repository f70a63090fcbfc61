import CouchbaseSdk.Foundation.Largest
import CouchbaseSdk.Foundation.Transition
import CouchbaseSdk.Memdx.Codec
import CouchbaseSdk.Memdx.ResExtFrames

/-!
# Orphaned responses

A handler is called with every response nobody waits for.  It looks at the sample of the slowest
responses under a read lock, and changes it under a write lock, between which other calls may
change it.
-/

namespace CouchbaseSdk
namespace OrphanReporter

open Foundation
open Memdx (ResponsePacket OpCode)

theorem asNanos_injective : Function.Injective Duration.asNanos := by
  rintro ⟨n, hn⟩ ⟨m, hm⟩ h
  cases h
  rfl

instance durationOrder : LinearOrder Duration :=
  LinearOrder.lift' Duration.asNanos asNanos_injective

structure OrphanContext where
  clientId : String
  localAddr : String
  peerAddr : String

structure OrphanLogItem where
  connectionId : String
  operationId : String
  remoteSocket : String
  localSocket : String
  serverDuration : Duration
  totalServerDuration : Duration
  operationName : String
deriving DecidableEq

/-- One call of the handler. -/
structure Call where
  msg : ResponsePacket
  ctx : OrphanContext

structure OrphanLogJsonEntry where
  count : UInt64
  topItems : List OrphanLogItem

/-- What all calls of a handler share: how durations are read and operations are named, and the
size of the sample. -/
structure Handler where
  overflowChecks : Bool
  durationOf : UInt32 -> Duration
  opName : OpCode -> String
  sampleSize : Nat

namespace Handler

variable (handler : Handler)

/-- The duration that the server reports; there may be none, or none that can be read. -/
def serverDur (msg : ResponsePacket) : Exec Empty Duration :=
  match msg.framingExtras with
  | none => .ok (Duration.fromNanos 0)
  | some f =>
      match Memdx.decodeResExtFrames handler.overflowChecks handler.durationOf f with
      | .ok (some d) => .ok d
      | .ok none => .ok (Duration.fromNanos 0)
      | .err _ => .ok (Duration.fromNanos 0)
      | .panic => .panic

def item (call : Call) (serverDur : Duration) : OrphanLogItem where
  connectionId := call.ctx.clientId
  operationId := "0x" ++ String.ofList (Nat.toDigits 16 call.msg.opaqueId.toNat)
  remoteSocket := call.ctx.peerAddr
  localSocket := call.ctx.localAddr
  serverDuration := serverDur
  totalServerDuration := serverDur
  operationName := handler.opName call.msg.opCode

end Handler

/-- The heap is ordered by the total duration, the least at its root.  Which of several least
items that is, is left open. -/
def IsRoot (heap : Multiset OrphanLogItem) (root : OrphanLogItem) : Prop :=
  root ∈ heap ∧ forall item, item ∈ heap -> root.totalServerDuration ≤ item.totalServerDuration

instance decidableIsRoot (heap : Multiset OrphanLogItem) (root : OrphanLogItem) :
    Decidable (IsRoot heap root) :=
  inferInstanceAs (Decidable (_ ∧ _))

/-- A call has been counted, has seen that it has to write, or is over. -/
inductive Phase where
  | notStarted
  | counted (serverDur : Duration)
  | needsWrite (serverDur : Duration)
  | finished (serverDur : Duration)
  | crashed
deriving DecidableEq

/-- A duration that cannot be read without an overflow ends the call. -/
def Handler.behindCount (handler : Handler) (call : Call) : Phase :=
  match handler.serverDur call.msg with
  | .ok serverDur => .counted serverDur
  | .err _ => .crashed
  | .panic => .crashed

structure State (n : Nat) where
  heap : Multiset OrphanLogItem
  totalCount : UInt64
  phase : Fin n -> Phase

/-- A call starts, has its read lock, or has its write lock.  The last two see the root of the
heap, if there is one. -/
inductive Action (n : Nat) where
  | start (i : Fin n)
  | check (i : Fin n) (root : Option OrphanLogItem)
  | update (i : Fin n) (root : Option OrphanLogItem)

/-- `BinaryHeap::peek` -/
def Peeks (heap : Multiset OrphanLogItem) : Option OrphanLogItem -> Prop
  | none => heap = 0
  | some root => IsRoot heap root

instance decidablePeeks (heap : Multiset OrphanLogItem) :
    (root : Option OrphanLogItem) -> Decidable (Peeks heap root)
  | none => inferInstanceAs (Decidable (heap = 0))
  | some root => inferInstanceAs (Decidable (IsRoot heap root))

namespace State

variable {n : Nat} (handler : Handler) (calls : Fin n -> Call)

def setPhase (st : State n) (i : Fin n) (phase : Phase) : State n :=
  { st with phase := Function.update st.phase i phase }

def started (st : State n) (i : Fin n) : State n :=
  { st with totalCount := st.totalCount + 1 }.setPhase i (handler.behindCount (calls i))

/-- Whether the write lock is worth taking. -/
def needsWrite (st : State n) (root : Option OrphanLogItem) (serverDur : Duration) : Bool :=
  st.heap.card < handler.sampleSize ||
    (root.map fun root => decide (root.totalServerDuration < serverDur)).getD false

/-- The heap after the write lock. -/
def updated (st : State n) (root : Option OrphanLogItem) (item : OrphanLogItem) :
    Multiset OrphanLogItem :=
  if st.heap.card < handler.sampleSize then item ::ₘ st.heap
  else
    match root with
    | none => st.heap
    | some min =>
        if min.totalServerDuration < item.totalServerDuration then item ::ₘ st.heap.erase min
        else st.heap

def step : StepFn (State n) (Action n) := fun st action =>
  match action with
  | .start i =>
      match st.phase i with
      | .notStarted => some (st.started handler calls i)
      | _ => none
  | .check i root =>
      match st.phase i with
      | .counted serverDur =>
          if Peeks st.heap root then
            some (st.setPhase i
              (if st.needsWrite handler root serverDur then .needsWrite serverDur
              else .finished serverDur))
          else none
      | _ => none
  | .update i root =>
      match st.phase i with
      | .needsWrite serverDur =>
          if Peeks st.heap root then
            let item := handler.item (calls i) serverDur
            some ({ st with heap := st.updated handler root item }.setPhase i (.finished serverDur))
          else none
      | _ => none

end State

/-- The heap holds its items in reversed order. -/
structure Reverse where
  item : OrphanLogItem

def Reverse.Le (a b : Reverse) : Prop :=
  b.item.totalServerDuration ≤ a.item.totalServerDuration

/-- `BinaryHeap::into_sorted_vec`, which leaves the order of equal items open. -/
def SortedVec (heap : Multiset OrphanLogItem) (items : List Reverse) : Prop :=
  (items.map Reverse.item : Multiset OrphanLogItem) = heap ∧ items.Pairwise Reverse.Le

def createLogObject (service : String) (items : List Reverse) (count : UInt64) :
    List (String × OrphanLogJsonEntry) :=
  [(service, ⟨count, items.map Reverse.item⟩)]

/-- A tick of the reporter takes the sample, unless nothing was counted. -/
def Reports {n : Nat} (st : State n) (obj : List (String × OrphanLogJsonEntry))
    (st' : State n) : Prop :=
  st.totalCount ≠ 0 ∧
    (exists items, SortedVec st.heap items ∧ obj = createLogObject "kv" items st.totalCount) ∧
    st' = { st with heap := 0, totalCount := 0 }

/-!
# The sample of the slowest responses

What a call sees under the read lock may be old when it has the write lock.  It looks again there,
and a call that does not take the write lock is over with what it has seen.
-/

variable {n : Nat} {handler : Handler} {calls : Fin n -> Call}

/-- The duration of a call that is over. -/
def Phase.durations : Phase -> Multiset Duration
  | .finished serverDur => {serverDur}
  | _ => 0

def Phase.count : Phase -> UInt64
  | .notStarted => 0
  | _ => 1

/-- The duration that a call goes on with. -/
def Phase.serverDur? : Phase -> Option Duration
  | .counted serverDur => some serverDur
  | .needsWrite serverDur => some serverDur
  | .finished serverDur => some serverDur
  | _ => none

/-- The durations of the calls that are over. -/
def durationsOf (phase : Fin n -> Phase) : Multiset Duration :=
  Finset.univ.sum fun i => (phase i).durations

/-- The number of calls that have been counted. -/
def countOf (phase : Fin n -> Phase) : UInt64 :=
  Finset.univ.sum fun i => (phase i).count

theorem durationsOf_update {phase : Fin n -> Phase} {i : Fin n} (h : (phase i).durations = 0)
    (next : Phase) :
    durationsOf (Function.update phase i next) = next.durations + durationsOf phase := by
  have hsum := sum_update (fun _ => Phase.durations) phase i next
  rw [h, add_zero, add_comm] at hsum
  exact hsum

theorem countOf_update (phase : Fin n -> Phase) (i : Fin n) (next : Phase) :
    countOf (Function.update phase i next) + (phase i).count = countOf phase + next.count :=
  sum_update (fun _ => Phase.count) phase i next

/-- Every call goes on with the duration it has read. -/
def Reads (handler : Handler) (calls : Fin n -> Call) (phase : Fin n -> Phase) : Prop :=
  forall i serverDur, (phase i).serverDur? = some serverDur ->
    handler.serverDur (calls i).msg = .ok serverDur

theorem Reads.update {phase : Fin n -> Phase} (h : Reads handler calls phase) {i : Fin n}
    {next : Phase} (hnext : forall serverDur, next.serverDur? = some serverDur ->
      handler.serverDur (calls i).msg = .ok serverDur) :
    Reads handler calls (Function.update phase i next) := by
  intro j serverDur hj
  by_cases hij : j = i
  · rw [hij, Function.update_self] at hj
    rw [hij]
    exact hnext serverDur hj
  · rw [Function.update_of_ne hij] at hj
    exact h j serverDur hj

def sampleOf (heap : Multiset OrphanLogItem) : Multiset Duration :=
  heap.map OrphanLogItem.totalServerDuration

/-- Of the calls that are over, the heap holds the slowest. -/
structure Sampled (handler : Handler) (calls : Fin n -> Call) (count : UInt64) (st : State n) :
    Prop where
  slowest : KeepsLargest handler.sampleSize (sampleOf st.heap) (durationsOf st.phase)
  items : forall item, item ∈ st.heap -> item.serverDuration = item.totalServerDuration
  count : st.totalCount = count + countOf st.phase
  reads : Reads handler calls st.phase

/-- Nobody has called yet. -/
structure Initial (st : State n) : Prop where
  heap : st.heap = 0
  phase : st.phase = fun _ => .notStarted

theorem sampled_initial {st : State n} (h : Initial st) :
    Sampled handler calls st.totalCount st := by
  constructor
  · have hdurations : durationsOf st.phase = 0 := by
      rw [h.phase]
      exact Finset.sum_const_zero
    rw [hdurations, h.heap]
    exact KeepsLargest.empty _
  · intro item hitem
    rw [h.heap] at hitem
    exact absurd hitem (Multiset.notMem_zero item)
  · have hcount : countOf st.phase = 0 := by
      rw [h.phase]
      exact Finset.sum_const_zero
    rw [hcount, add_zero]
  · intro i serverDur hphase
    rw [h.phase] at hphase
    cases hphase

/-!
# One step
-/

theorem behindCount_cases (call : Call) :
    (handler.behindCount call).durations = 0 ∧ (handler.behindCount call).count = 1 ∧
      forall serverDur, (handler.behindCount call).serverDur? = some serverDur ->
        handler.serverDur call.msg = .ok serverDur := by
  unfold Handler.behindCount
  cases handler.serverDur call.msg with
  | ok d =>
      refine ⟨rfl, rfl, ?_⟩
      intro serverDur hd
      injection hd with heq
      rw [heq]
  | err e => exact e.elim
  | panic =>
      refine ⟨rfl, rfl, ?_⟩
      intro serverDur hd
      cases hd

theorem Sampled.started {count : UInt64} {st : State n} (h : Sampled handler calls count st)
    {i : Fin n} (hphase : st.phase i = .notStarted) :
    Sampled handler calls count (st.started handler calls i) := by
  have hold : (st.phase i).durations = 0 ∧ (st.phase i).count = 0 := by
    rw [hphase]
    exact ⟨rfl, rfl⟩
  rcases @behindCount_cases handler (calls i) with ⟨hdurations, hcount, hreads⟩
  constructor
  · have hsame := durationsOf_update hold.1 (handler.behindCount (calls i))
    rw [hdurations, zero_add] at hsame
    exact hsame ▸ h.slowest
  · exact h.items
  · have hmore := countOf_update st.phase i (handler.behindCount (calls i))
    rw [hold.2, add_zero, hcount] at hmore
    have htotal : st.totalCount + 1 = count + (countOf st.phase + 1) := by
      rw [h.count, add_assoc]
    exact htotal.trans (congrArg (count + ·) hmore.symm)
  · exact h.reads.update hreads

/-- A call that has been counted goes on with its duration. -/
theorem Sampled.goesOn {count : UInt64} {st : State n} (h : Sampled handler calls count st)
    {i : Fin n} {next : Phase} {heap : Multiset OrphanLogItem} (hcount : (st.phase i).count = 1)
    (hnext : next.count = 1) (hread : next.serverDur? = (st.phase i).serverDur?)
    (hslowest : KeepsLargest handler.sampleSize (sampleOf heap)
      (durationsOf (Function.update st.phase i next)))
    (hitems : forall item, item ∈ heap -> item.serverDuration = item.totalServerDuration) :
    Sampled handler calls count ({ st with heap := heap }.setPhase i next) where
  slowest := hslowest
  items := hitems
  count := by
    have hsame := countOf_update st.phase i next
    rw [hcount, hnext] at hsame
    exact h.count.trans (congrArg (count + ·) (add_right_cancel hsame).symm)
  reads := by
    apply h.reads.update
    intro serverDur hd
    rw [hread] at hd
    exact h.reads i serverDur hd

theorem card_sampleOf (heap : Multiset OrphanLogItem) : (sampleOf heap).card = heap.card :=
  Multiset.card_map _ _

/-- What is no longer than the root is no longer than any item. -/
theorem le_sampleOf {heap : Multiset OrphanLogItem} {root : Option OrphanLogItem} {d : Duration}
    (hpeek : Peeks heap root)
    (hle : forall min, root = some min -> d ≤ min.totalServerDuration) :
    forall x, x ∈ sampleOf heap -> d ≤ x := by
  intro x hx
  rcases Multiset.mem_map.mp hx with ⟨item, hitem, rfl⟩
  cases root with
  | none =>
      rw [show heap = 0 from hpeek] at hitem
      exact absurd hitem (Multiset.notMem_zero item)
  | some min => exact le_trans (hle min rfl) (hpeek.2 item hitem)

/-- A call that does not need to write would not change the sample. -/
theorem slowest_of_not_needsWrite {st : State n} {root : Option OrphanLogItem} {d : Duration}
    {all : Multiset Duration} (h : KeepsLargest handler.sampleSize (sampleOf st.heap) all)
    (hpeek : Peeks st.heap root) (hneeds : ¬ st.needsWrite handler root d = true) :
    KeepsLargest handler.sampleSize (sampleOf st.heap) (d ::ₘ all) := by
  unfold State.needsWrite at hneeds
  rw [Bool.or_eq_true, not_or, decide_eq_true_iff] at hneeds
  apply h.skip
  · rw [card_sampleOf]
    exact Nat.le_of_not_lt hneeds.1
  · apply le_sampleOf hpeek
    intro min hmin
    rw [hmin] at hneeds
    exact not_lt.mp fun hless => hneeds.2 (decide_eq_true hless)

/-- The write lock keeps the slowest, whatever has been seen before. -/
theorem slowest_updated {st : State n} {root : Option OrphanLogItem} {item : OrphanLogItem}
    {all : Multiset Duration} (h : KeepsLargest handler.sampleSize (sampleOf st.heap) all)
    (hpeek : Peeks st.heap root) :
    KeepsLargest handler.sampleSize (sampleOf (st.updated handler root item))
      (item.totalServerDuration ::ₘ all) := by
  unfold State.updated
  by_cases hroom : st.heap.card < handler.sampleSize
  · rw [if_pos hroom, sampleOf, Multiset.map_cons]
    exact h.push (by rwa [card_sampleOf]) _
  · have hfull : handler.sampleSize ≤ (sampleOf st.heap).card := by
      rw [card_sampleOf]
      exact Nat.le_of_not_lt hroom
    rw [if_neg hroom]
    cases root with
    | none =>
        apply h.skip hfull
        apply le_sampleOf hpeek
        intro min hmin
        cases hmin
    | some min =>
        dsimp only
        by_cases hless : min.totalServerDuration < item.totalServerDuration
        · have hheap : sampleOf st.heap =
              min.totalServerDuration ::ₘ sampleOf (st.heap.erase min) := by
            rw [sampleOf, sampleOf, ← Multiset.map_cons, Multiset.cons_erase hpeek.1]
          rw [hheap] at h hfull
          rw [if_pos hless, sampleOf, Multiset.map_cons]
          apply h.replace hfull _ hless
          intro x hx
          rcases Multiset.mem_map.mp hx with ⟨other, hother, rfl⟩
          exact hpeek.2 other (Multiset.mem_of_mem_erase hother)
        · rw [if_neg hless]
          apply h.skip hfull
          apply le_sampleOf hpeek
          intro other hother
          injection hother with heq
          rw [← heq]
          exact not_lt.mp hless

theorem mem_updated {st : State n} {root : Option OrphanLogItem} {item other : OrphanLogItem}
    (h : other ∈ st.updated handler root item) : other = item ∨ other ∈ st.heap := by
  unfold State.updated at h
  split at h
  · exact Multiset.mem_cons.mp h
  · split at h
    · exact Or.inr h
    · split at h
      · rcases Multiset.mem_cons.mp h with heq | hmem
        · exact Or.inl heq
        · exact Or.inr (Multiset.mem_of_mem_erase hmem)
      · exact Or.inr h

theorem step_sampled {count : UInt64} {st st' : State n} {action : Action n}
    (h : Sampled handler calls count st) (hstep : st.step handler calls action = some st') :
    Sampled handler calls count st' := by
  unfold State.step at hstep
  cases action with
  | start i =>
      dsimp only at hstep
      split at hstep
      · next hphase =>
          injection hstep with heq
          rw [← heq]
          exact h.started hphase
      · cases hstep
  | check i root =>
      dsimp only at hstep
      split at hstep
      · next d hphase =>
          split at hstep
          · next hpeek =>
              injection hstep with heq
              rw [← heq]
              have hold : (st.phase i).durations = 0 := by
                rw [hphase]
                rfl
              have hcount : (st.phase i).count = 1 := by
                rw [hphase]
                rfl
              by_cases hneeds : st.needsWrite handler root d = true
              · rw [if_pos hneeds]
                apply h.goesOn hcount rfl
                · rw [hphase]
                  rfl
                · rw [durationsOf_update hold]
                  exact (zero_add (durationsOf st.phase)).symm ▸ h.slowest
                · exact h.items
              · rw [if_neg hneeds]
                apply h.goesOn hcount rfl
                · rw [hphase]
                  rfl
                · rw [durationsOf_update hold]
                  exact slowest_of_not_needsWrite h.slowest hpeek hneeds
                · exact h.items
          · cases hstep
      · cases hstep
  | update i root =>
      dsimp only at hstep
      split at hstep
      · next d hphase =>
          split at hstep
          · next hpeek =>
              injection hstep with heq
              rw [← heq]
              have hold : (st.phase i).durations = 0 := by
                rw [hphase]
                rfl
              have hcount : (st.phase i).count = 1 := by
                rw [hphase]
                rfl
              apply h.goesOn hcount rfl
              · rw [hphase]
                rfl
              · rw [durationsOf_update hold]
                exact slowest_updated h.slowest hpeek
              · intro item hitem
                rcases mem_updated hitem with rfl | hmem
                · rfl
                · exact h.items item hmem
          · cases hstep
      · cases hstep

/-!
# Whole runs
-/

/-- The duration that a call reports. -/
def Handler.duration (handler : Handler) (call : Call) : Duration :=
  match handler.serverDur call.msg with
  | .ok serverDur => serverDur
  | .err _ => Duration.fromNanos 0
  | .panic => Duration.fromNanos 0

/-- All calls are over, and none has crashed. -/
def AllFinished (st : State n) : Prop :=
  forall i, exists serverDur, st.phase i = .finished serverDur

theorem durationsOf_finished {phase : Fin n -> Phase} (hreads : Reads handler calls phase)
    (h : forall i, exists serverDur, phase i = .finished serverDur) :
    durationsOf phase = Finset.univ.val.map fun i => handler.duration (calls i) := by
  have hphase : forall i, (phase i).durations = {handler.duration (calls i)} := by
    intro i
    rcases h i with ⟨d, hd⟩
    have hread : handler.serverDur (calls i).msg = .ok d := by
      apply hreads i d
      rw [hd]
      rfl
    rw [hd, Handler.duration, hread]
    rfl
  unfold durationsOf
  rw [Finset.sum_congr rfl fun i _ => hphase i]
  have hmap := Multiset.sum_map_singleton
    (Finset.univ.val.map fun i => handler.duration (calls i))
  rw [Multiset.map_map] at hmap
  exact hmap

theorem nsmul_one_eq (n : Nat) : n • (1 : UInt64) = UInt64.ofNat n := by
  induction n with
  | zero => exact zero_nsmul 1
  | succ n ih =>
      rw [succ_nsmul, ih]
      exact (UInt64.ofNat_add n 1).symm

theorem countOf_finished {phase : Fin n -> Phase}
    (h : forall i, exists serverDur, phase i = .finished serverDur) :
    countOf phase = UInt64.ofNat n := by
  have hcount : forall i, (phase i).count = 1 := by
    intro i
    rcases h i with ⟨d, hd⟩
    rw [hd]
    rfl
  unfold countOf
  rw [Finset.sum_congr rfl fun i _ => hcount i, Finset.sum_const, Finset.card_univ,
    Fintype.card_fin]
  exact nsmul_one_eq n

/-- The sample, the count and the next report of a run in which all calls are over. -/
structure SamplesSlowest (handler : Handler) (calls : Fin n -> Call) (start st : State n) :
    Prop where
  sample : st.heap.map OrphanLogItem.serverDuration =
    largest handler.sampleSize (Finset.univ.val.map fun i => handler.duration (calls i))
  count : st.totalCount = start.totalCount + UInt64.ofNat n
  report : forall obj st', Reports st obj st' -> exists items,
    obj = [("kv", ⟨st.totalCount, items⟩)] ∧ (items : Multiset OrphanLogItem) = st.heap ∧
      items.Pairwise fun a b => b.serverDuration ≤ a.serverDuration

theorem report_sorted {st st' : State n} {obj : List (String × OrphanLogJsonEntry)}
    (hitems : forall item, item ∈ st.heap -> item.serverDuration = item.totalServerDuration)
    (h : Reports st obj st') :
    exists items, obj = [("kv", ⟨st.totalCount, items⟩)] ∧
      (items : Multiset OrphanLogItem) = st.heap ∧
      items.Pairwise fun a b => b.serverDuration ≤ a.serverDuration := by
  rcases h with ⟨_, ⟨items, ⟨hheap, hsorted⟩, hobj⟩, _⟩
  refine ⟨items.map Reverse.item, hobj, hheap, ?_⟩
  have hmem : forall a, a ∈ items -> a.item.serverDuration = a.item.totalServerDuration := by
    intro a ha
    apply hitems
    rw [← hheap]
    exact Multiset.mem_coe.mpr (List.mem_map_of_mem ha)
  rw [List.pairwise_map]
  apply hsorted.imp_of_mem
  intro a b ha hb hle
  rw [hmem a ha, hmem b hb]
  exact hle

/-- The first response reports no duration, the second one a microsecond. -/
def twoCalls : Fin 2 -> Call
  | 0 => ⟨⟨.res, .get, 0, .success, 7, none, none, none, none, none, none⟩, ⟨"", "", ""⟩⟩
  | 1 => ⟨⟨.res, .get, 0, .success, 8, none, none, none, none, none, some [2, 0, 1]⟩, ⟨"", "", ""⟩⟩

def oneSlowest : Handler where
  overflowChecks := true
  durationOf enc := Duration.fromNanos (if enc = 0 then 0 else 1000)
  opName _ := "Get"
  sampleSize := 1

def noCalls : State 2 :=
  ⟨0, 0, fun _ => .notStarted⟩

/-- Both calls see the empty heap, and both have to write. -/
def bothSeeNothing : List (Action 2) :=
  [.start 0, .start 1, .check 0 none, .check 1 none, .update 0 none,
    .update 1 (some (oneSlowest.item (twoCalls 0) (Duration.fromNanos 0)))]

theorem bothSeeNothing_finish :
    exists st, StepFn.run (State.step oneSlowest twoCalls) noCalls bothSeeNothing = some st ∧
      AllFinished st := by
  refine ⟨_, rfl, ?_⟩
  intro i
  match i with
  | 0 => exact ⟨Duration.fromNanos 0, rfl⟩
  | 1 => exact ⟨Duration.fromNanos 1000, rfl⟩

end OrphanReporter
end CouchbaseSdk
