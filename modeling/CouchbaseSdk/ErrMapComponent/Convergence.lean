import CouchbaseSdk.ErrMapComponent.Model

/-!
# Which error map is stored

A swap that finds the map it has loaded is an improvement, since the map that was loaded
is older.  A call that loses its swap gives up, and one that has found no map stores its
own without looking again; neither goes wrong where no newer map is lost by it.
-/

namespace CouchbaseSdk
namespace ErrMapComponent

open Foundation

variable {fromSlice : SerdeJson} {s s' : State} {a : Action}

/-- The stored map is not older in the second state. -/
def NotOlder (s t : State) : Prop :=
  forall before, s.errMap = some before ->
    exists after, t.errMap = some after ∧ before.map.revision ≤ after.map.revision

/-- The stored map is at least as new as the map of this call. -/
def State.Covers (s : State) (call : Call) : Prop :=
  exists stored, s.errMap = some stored ∧ call.newErrMap.map.revision ≤ stored.map.revision

def State.AllReturned (s : State) : Prop :=
  forall call, call ∈ s.calls -> call.phase = .returned

/-- The stored map has the maximum revision among those of the calls. -/
structure State.Converged (s : State) : Prop where
  maximum : forall call, call ∈ s.calls -> s.Covers call
  attained : forall stored, s.errMap = some stored ->
    exists call, call ∈ s.calls ∧ call.newErrMap = stored

/-- A call swaps while the map it has loaded is the stored one, or one is stored that is not
older than its own.  A call that has found no map stores its own over no newer one. -/
def KeepsNewest (s : State) : Action -> Prop
  | .compareAndSwap k =>
      forall call current, s.calls[k]? = some call -> call.phase = .swapping current ->
        s.errMap.map Shared.call = some current.call ∨ s.Covers call
  | .store k =>
      forall call stored, s.calls[k]? = some call -> s.errMap = some stored ->
        stored.map.revision ≤ call.newErrMap.map.revision
  | _ => True

/-- A map of one of the calls. -/
def State.Shares (s : State) (shared : Shared) : Prop :=
  exists call, call ∈ s.calls ∧ call.newErrMap = shared

structure ErrMapInv (s : State) : Prop where
  own : forall k, forall call : Call, s.calls[k]? = some call -> call.newErrMap.call = k
  stored : forall stored, s.errMap = some stored -> s.Shares stored
  current : forall call current, call ∈ s.calls -> call.phase = .swapping current ->
    s.Shares current ∧ current.map.revision < call.newErrMap.map.revision
  returned : forall call, call ∈ s.calls -> call.phase = .returned -> s.Covers call

/-!
# The maps of the calls
-/

theorem shares_eq (hinv : ErrMapInv s) {shared shared' : Shared} (h : s.Shares shared)
    (h' : s.Shares shared') (hcall : shared.call = shared'.call) : shared = shared' := by
  rcases h with ⟨call, hmem, rfl⟩
  rcases h' with ⟨call', hmem', rfl⟩
  rcases List.mem_iff_getElem?.mp hmem with ⟨k, hk⟩
  rcases List.mem_iff_getElem?.mp hmem' with ⟨k', hk'⟩
  have hkk : k = k' := by
    rw [← hinv.own k call hk, ← hinv.own k' call' hk']
    exact hcall
  rw [hkk, hk'] at hk
  cases hk
  rfl

section
variable {k : Nat} {call : Call} (hcall : s.calls[k]? = some call) (phase : Phase)

theorem mem_setPhase {other : Call} (h : other ∈ (s.setPhase k call phase).calls) :
    other ∈ s.calls ∨ other = { call with phase := phase } :=
  List.mem_or_eq_of_mem_set h

include hcall

theorem setPhase_getElem (i : Nat) : (s.setPhase k call phase).calls[i]? =
    if i = k then some { call with phase := phase } else s.calls[i]? := by
  have hlength : k < s.calls.length := (List.getElem?_eq_some_iff.mp hcall).1
  show (s.calls.set k _)[i]? = _
  rw [List.getElem?_set]
  split
  · rename_i hki
    rw [if_pos hki.symm]
  · rename_i hki
    rw [if_neg (fun h => hki h.symm)]

theorem shares_setPhase {shared : Shared} (h : s.Shares shared) :
    (s.setPhase k call phase).Shares shared := by
  rcases h with ⟨other, hmem, hshared⟩
  rcases List.mem_iff_getElem?.mp hmem with ⟨i, hi⟩
  have hset := setPhase_getElem hcall phase i
  by_cases hik : i = k
  · rw [if_pos hik] at hset
    rw [hik, hcall] at hi
    cases hi
    exact ⟨_, List.mem_of_getElem? hset, hshared⟩
  · rw [if_neg hik, hi] at hset
    exact ⟨other, List.mem_of_getElem? hset, hshared⟩

theorem own_setPhase (hinv : ErrMapInv s) (i : Nat) (other : Call)
    (h : (s.setPhase k call phase).calls[i]? = some other) : other.newErrMap.call = i := by
  rw [setPhase_getElem hcall phase] at h
  split at h
  · rename_i hik
    cases h
    exact hik ▸ hinv.own k call hcall
  · exact hinv.own i other h

/-- A call moves on, and with it the stored map may, though not to an older one. -/
theorem errMapInv_setPhase (hinv : ErrMapInv s) {errMap : Option Shared}
    (hnewer : NotOlder s { s.setPhase k call phase with errMap := errMap })
    (hstored : forall stored, errMap = some stored -> s.Shares stored)
    (hcurrent : forall current, phase = .swapping current ->
      s.Shares current ∧ current.map.revision < call.newErrMap.map.revision)
    (hreturned : phase = .returned ->
      exists stored, errMap = some stored ∧
        call.newErrMap.map.revision ≤ stored.map.revision) :
    ErrMapInv { s.setPhase k call phase with errMap := errMap } := by
  constructor
  · exact own_setPhase hcall phase hinv
  · intro stored h
    exact shares_setPhase hcall phase (hstored stored h)
  · intro other current hmem hphase
    rcases mem_setPhase phase hmem with hold | rfl
    · rcases hinv.current other current hold hphase with ⟨hshares, hrev⟩
      exact ⟨shares_setPhase hcall phase hshares, hrev⟩
    · rcases hcurrent current hphase with ⟨hshares, hrev⟩
      exact ⟨shares_setPhase hcall phase hshares, hrev⟩
  · intro other hmem hphase
    rcases mem_setPhase phase hmem with hold | rfl
    · rcases hinv.returned other hold hphase with ⟨before, hbefore, hrev⟩
      rcases hnewer before hbefore with ⟨after, hafter, hle⟩
      exact ⟨after, hafter, Int.le_trans hrev hle⟩
    · exact hreturned hphase

end

/-!
# Steps
-/

theorem notOlder_refl (s : State) : NotOlder s s :=
  fun before h => ⟨before, h, Int.le_refl _⟩

theorem NotOlder.trans {t u : State} (h : NotOlder s t) (h' : NotOlder t u) : NotOlder s u := by
  intro before hbefore
  rcases h before hbefore with ⟨between, hbetween, hle⟩
  rcases h' between hbetween with ⟨after, hafter, hle'⟩
  exact ⟨after, hafter, Int.le_trans hle hle'⟩

theorem notOlder_step (h : Step fromSlice s a s') (hinv : ErrMapInv s)
    (hguard : KeepsNewest s a) : NotOlder s s' := by
  cases h with
  | begun | unparsable | kept | older | empty | lost => exact notOlder_refl s
  | swapped k call current stored hcall hphase hstored hsame =>
      rcases hinv.current call current (List.mem_of_getElem? hcall) hphase with ⟨hshares, hrev⟩
      have heq : stored = current := shares_eq hinv (hinv.stored stored hstored) hshares hsame
      intro before hbefore
      cases hstored.symm.trans hbefore
      exact ⟨call.newErrMap, rfl, heq ▸ Int.le_of_lt hrev⟩
  | stored k call hcall hphase =>
      intro before hbefore
      exact ⟨call.newErrMap, rfl, hguard call before hcall hbefore⟩

theorem errMapInv_begun (hinv : ErrMapInv s) (map : ErrMap) :
    ErrMapInv { s with
      calls := s.calls ++ [{ newErrMap := { call := s.calls.length, map := map }
                             phase := .looping }] } := by
  have hshares : forall {shared}, s.Shares shared -> State.Shares { s with
      calls := s.calls ++ [{ newErrMap := { call := s.calls.length, map := map }
                             phase := .looping }] } shared := by
    rintro shared ⟨call, hmem, h⟩
    exact ⟨call, List.mem_append_left _ hmem, h⟩
  constructor
  · intro k call hcall
    rw [List.getElem?_append] at hcall
    split at hcall
    · exact hinv.own k call hcall
    · rename_i hlength
      rcases List.getElem?_eq_some_iff.mp hcall with ⟨hlt, hget⟩
      have hk : k = s.calls.length := by
        simp only [List.length_singleton] at hlt
        omega
      rw [List.getElem_singleton] at hget
      rw [← hget]
      exact hk.symm
  · intro stored hstored
    exact hshares (hinv.stored stored hstored)
  · intro call current hmem hphase
    rcases List.mem_append.mp hmem with hold | hnew
    · rcases hinv.current call current hold hphase with ⟨h, hrev⟩
      exact ⟨hshares h, hrev⟩
    · cases List.mem_singleton.mp hnew
      cases hphase
  · intro call hmem hphase
    rcases List.mem_append.mp hmem with hold | hnew
    · exact hinv.returned call hold hphase
    · cases List.mem_singleton.mp hnew
      cases hphase

theorem errMapInv_step (h : Step fromSlice s a s') (hinv : ErrMapInv s)
    (hguard : KeepsNewest s a) : ErrMapInv s' := by
  have hnewer := notOlder_step h hinv hguard
  cases h with
  | begun errMap map hparse => exact errMapInv_begun hinv map
  | unparsable => exact hinv
  | kept k call cem hcall hphase hstored hrev =>
      refine errMapInv_setPhase hcall .returned hinv hnewer hinv.stored nofun ?_
      intro _
      exact ⟨cem, hstored, hrev⟩
  | older k call cem hcall hphase hstored hrev =>
      refine errMapInv_setPhase hcall (.swapping cem) hinv hnewer hinv.stored ?_ nofun
      intro current hcurrent
      cases hcurrent
      exact ⟨hinv.stored cem hstored, hrev⟩
  | empty k call hcall hphase hstored =>
      exact errMapInv_setPhase hcall .storing hinv hnewer hinv.stored nofun nofun
  | swapped k call current stored hcall hphase hstored hsame =>
      refine errMapInv_setPhase hcall .looping hinv hnewer ?_ nofun nofun
      rintro _ ⟨⟩
      exact ⟨call, List.mem_of_getElem? hcall, rfl⟩
  | lost k call current hcall hphase hlost =>
      refine errMapInv_setPhase hcall .returned hinv hnewer hinv.stored nofun ?_
      intro _
      rcases hguard call current hcall hphase with hsame | hcovers
      · exact absurd hsame hlost
      · exact hcovers
  | stored k call hcall hphase =>
      refine errMapInv_setPhase hcall .returned hinv hnewer ?_ nofun ?_
      · rintro _ ⟨⟩
        exact ⟨call, List.mem_of_getElem? hcall, rfl⟩
      · intro _
        exact ⟨call.newErrMap, rfl, Int.le_refl _⟩

/-- A step that goes wrong loses a newer map: it puts an older one in its place, or ends
the call of a map that is newer than the stored one. -/
theorem loses_of_not_keepsNewest (h : Step fromSlice s a s') (hguard : ¬ KeepsNewest s a) :
    ¬ NotOlder s s' ∨
      exists call, call ∈ s'.calls ∧ call.phase = .returned ∧ ¬ s'.Covers call := by
  cases h with
  | begun | unparsable | kept | older | empty => exact absurd trivial hguard
  | swapped k call current stored hcall hphase hstored hsame =>
      refine absurd ?_ hguard
      intro call' current' hcall' hphase'
      cases hcall.symm.trans hcall'
      cases hphase.symm.trans hphase'
      left
      rw [hstored, ← hsame]
      rfl
  | lost k call current hcall hphase hlost =>
      right
      have hset := setPhase_getElem hcall .returned k
      rw [if_pos rfl] at hset
      refine ⟨_, List.mem_of_getElem? hset, rfl, ?_⟩
      intro hcovers
      refine hguard ?_
      intro call' current' hcall' _
      cases hcall.symm.trans hcall'
      exact Or.inr hcovers
  | stored k call hcall hphase =>
      left
      intro hnewer
      refine hguard ?_
      intro call' stored hcall' hstored
      cases hcall.symm.trans hcall'
      rcases hnewer stored hstored with ⟨_, ⟨⟩, hle⟩
      exact hle

/-!
# Runs
-/

theorem errMapInv_new : ErrMapInv new := by
  constructor <;> nofun

theorem errMapInv_of_reach (h : StepFn.Reach (step fromSlice) KeepsNewest s s')
    (hinv : ErrMapInv s) : ErrMapInv s' := by
  refine h.invariant hinv ?_
  intro t a u ht hguard hstep
  exact errMapInv_step (step_inv hstep) ht hguard

theorem notOlder_of_reach (h : StepFn.Reach (step fromSlice) KeepsNewest s s')
    (hinv : ErrMapInv s) : NotOlder s s' := by
  refine h.invariant_with (fun t ht => errMapInv_of_reach ht hinv)
    (notOlder_refl s) ?_
  intro t a u ht hnewer hguard hstep
  exact hnewer.trans (notOlder_step (step_inv hstep) ht hguard)

theorem converged_of_returned (hinv : ErrMapInv s) (hreturned : s.AllReturned) :
    s.Converged := by
  constructor
  · intro call hmem
    exact hinv.returned call hmem (hreturned call hmem)
  · intro stored hstored
    exact hinv.stored stored hstored

/-- What is retried once all calls have returned is up to a map of the highest revision. -/
theorem shouldRetry_of_converged (h : s.Converged) {call : Call} (hmem : call ∈ s.calls) :
    exists newest, newest ∈ s.calls ∧
      (forall other, other ∈ s.calls ->
        other.newErrMap.map.revision ≤ newest.newErrMap.map.revision) ∧
      forall status, s.shouldRetry status = newest.newErrMap.map.shouldRetry status := by
  rcases h.maximum call hmem with ⟨stored, hstored, _⟩
  rcases h.attained stored hstored with ⟨newest, hnewest, rfl⟩
  refine ⟨newest, hnewest, ?_, ?_⟩
  · intro other hother
    rcases h.maximum other hother with ⟨stored', hstored', hle⟩
    cases hstored.symm.trans hstored'
    exact hle
  · intro status
    unfold State.shouldRetry
    rw [hstored]

/-- The stored map never gets older, and is the newest once all calls have returned. -/
theorem converges_of_reach (fromSlice : SerdeJson) (s t : State)
    (hs : StepFn.Reach (step fromSlice) KeepsNewest new s)
    (ht : StepFn.Reach (step fromSlice) KeepsNewest s t) :
    NotOlder s t ∧ (t.AllReturned -> t.Converged) := by
  have hinv : ErrMapInv s := errMapInv_of_reach hs errMapInv_new
  exact ⟨notOlder_of_reach ht hinv, converged_of_returned (errMapInv_of_reach ht hinv)⟩

def ascii (text : String) : List UInt8 :=
  text.toList.map fun c => UInt8.ofNat c.toNat

/-- An error map without errors, of a revision of one digit. -/
def revisionText (revision : UInt8) : List UInt8 :=
  ascii "\x7b\"version\":1,\"revision\":" ++ (48 + revision) ::
    ascii ",\"errors\":\x7b\x7d\x7d"

/-- What `serde_json` reads in such a text. -/
def revisionReader : SerdeJson := fun mapBytes =>
  match (List.range 10).find? fun digit => mapBytes = revisionText (UInt8.ofNat digit) with
  | some digit => .ok { version := 1, revision := digit, errors := [] }
  | none => .error "expected value at line 1 column 1"

def revisionMap (revision : Int) : ErrMap :=
  { version := 1, revision := revision, errors := ∅ }

/-- A component whose only call has stored the first map. -/
def firstStored : State :=
  { errMap := some { call := 0, map := revisionMap 1 }
    calls := [{ newErrMap := { call := 0, map := revisionMap 1 }, phase := .returned }] }

/-- The second map is swapped in for the first. -/
theorem converges_inTurn :
    StepFn.run (step revisionReader) new [.onErrMap (revisionText 1), .load 0, .store 0] =
        some firstStored ∧
      exists t, StepFn.run (step revisionReader) firstStored
        [.onErrMap (revisionText 2), .load 1, .compareAndSwap 1, .load 1] = some t ∧
      NotOlder firstStored t ∧ (t.AllReturned -> t.Converged) := by
  have h₀ : StepFn.Reach (step revisionReader) KeepsNewest new new := StepFn.Reach.refl
  have h₁ := StepFn.Reach.tail (Action.onErrMap (revisionText 1)) h₀ trivial rfl
  have h₂ := StepFn.Reach.tail (Action.load 0) h₁ trivial rfl
  have h₃ := StepFn.Reach.tail (Action.store 0) h₂ (by rintro _ _ _ ⟨⟩) rfl
  have h₄ : StepFn.Reach (step revisionReader) KeepsNewest firstStored firstStored :=
    StepFn.Reach.refl
  have h₅ := StepFn.Reach.tail (Action.onErrMap (revisionText 2)) h₄ trivial rfl
  have h₆ := StepFn.Reach.tail (Action.load 1) h₅ trivial rfl
  have h₇ := StepFn.Reach.tail (Action.compareAndSwap 1) h₆
    (by rintro _ _ ⟨⟩ ⟨⟩; exact Or.inl rfl) rfl
  have h₈ := StepFn.Reach.tail (Action.load 1) h₇ trivial rfl
  exact ⟨rfl, _, rfl, converges_of_reach revisionReader firstStored _ h₃ h₈⟩

/-- Of two calls that have loaded the same map the one with the newer map loses its swap and
gives up; of two that have found none the one with the older map stores it last. -/
theorem races_notConverged :
    (exists t, StepFn.run (step revisionReader) new
        [.onErrMap (revisionText 1), .load 0, .store 0, .onErrMap (revisionText 2),
          .onErrMap (revisionText 3), .load 1, .load 2, .compareAndSwap 1, .compareAndSwap 2,
          .load 1] = some t ∧
      t.AllReturned ∧ ¬ t.Converged) ∧
    exists s t, StepFn.run (step revisionReader) new
        [.onErrMap (revisionText 5), .onErrMap (revisionText 1), .load 0, .load 1, .store 0] =
          some s ∧
      StepFn.run (step revisionReader) s [.store 1] = some t ∧ ¬ NotOlder s t := by
  constructor
  · refine ⟨_, rfl, ?_, ?_⟩
    · intro call hmem
      rcases List.mem_iff_getElem?.mp hmem with ⟨k, hk⟩
      match k, hk with
      | 0, hk | 1, hk | 2, hk =>
          cases hk
          rfl
    · intro hconverged
      rcases hconverged.maximum _ (List.mem_of_getElem? (i := 2) rfl) with ⟨stored, ⟨⟩, hle⟩
      revert hle
      decide
  · refine ⟨_, _, rfl, rfl, ?_⟩
    intro hnewer
    rcases hnewer _ rfl with ⟨after, ⟨⟩, hle⟩
    revert hle
    decide

end ErrMapComponent
end CouchbaseSdk
