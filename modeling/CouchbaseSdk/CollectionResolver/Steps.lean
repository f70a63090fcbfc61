import CouchbaseSdk.CollectionResolver.Model

/-!
# What a step of the resolver can do

The step function is inverted once, and what a step does to the phases of the calls
and to the slow map is read off from its cases: where a phase or an entry of the
state after the step came from, and what can take it away.
-/

namespace CouchbaseSdk
namespace CollectionResolver

open Foundation

variable {cause : Type}

/-!
# Reading updated states
-/

theorem setPhase_calls_self (s : State cause) (c : CallId) (phase : Phase cause) :
    (s.setPhase c phase).calls c = { s.calls c with phase := phase } := by
  unfold State.setPhase
  exact Function.update_self ..

theorem setPhase_calls_ne (s : State cause) {c d : CallId} (phase : Phase cause)
    (h : d ≠ c) : (s.setPhase c phase).calls d = s.calls d := by
  unfold State.setPhase
  exact Function.update_of_ne h ..

@[simp] theorem setPhase_phase_self (s : State cause) (c : CallId) (phase : Phase cause) :
    (s.setPhase c phase).phase c = phase := by
  unfold State.phase
  rw [setPhase_calls_self]

theorem setPhase_phase_ne (s : State cause) {c d : CallId} (phase : Phase cause)
    (h : d ≠ c) : (s.setPhase c phase).phase d = s.phase d := by
  unfold State.phase
  rw [setPhase_calls_ne s phase h]

@[simp] theorem setPhase_key (s : State cause) (c d : CallId) (phase : Phase cause) :
    (s.setPhase c phase).key d = s.key d := by
  unfold State.key
  by_cases h : d = c
  · subst h
    rw [setPhase_calls_self]
    rfl
  · rw [setPhase_calls_ne s phase h]

@[simp] theorem setPhase_slowMap (s : State cause) (c : CallId) (phase : Phase cause) :
    (s.setPhase c phase).slowMap = s.slowMap := rfl

@[simp] theorem setPhase_poisoned (s : State cause) (c : CallId) (phase : Phase cause) :
    (s.setPhase c phase).poisoned = s.poisoned := rfl

theorem start_calls_self (s : State cause) (scopeName collectionName : String)
    (phase : Phase cause) :
    (s.start scopeName collectionName phase).calls s.started =
      { scopeName := scopeName, collectionName := collectionName, phase := phase } := by
  unfold State.start
  exact Function.update_self ..

theorem start_calls_ne (s : State cause) (scopeName collectionName : String)
    (phase : Phase cause) {d : CallId} (h : d ≠ s.started) :
    (s.start scopeName collectionName phase).calls d = s.calls d := by
  unfold State.start
  exact Function.update_of_ne h ..

@[simp] theorem start_phase_self (s : State cause) (scopeName collectionName : String)
    (phase : Phase cause) :
    (s.start scopeName collectionName phase).phase s.started = phase := by
  unfold State.phase
  rw [start_calls_self]

theorem start_phase_ne (s : State cause) (scopeName collectionName : String)
    (phase : Phase cause) {d : CallId} (h : d ≠ s.started) :
    (s.start scopeName collectionName phase).phase d = s.phase d := by
  unfold State.phase
  rw [start_calls_ne s scopeName collectionName phase h]

theorem start_key_ne (s : State cause) (scopeName collectionName : String)
    (phase : Phase cause) {d : CallId} (h : d ≠ s.started) :
    (s.start scopeName collectionName phase).key d = s.key d := by
  unfold State.key
  rw [start_calls_ne s scopeName collectionName phase h]

@[simp] theorem notifyWaiters_slowMap (s : State cause) (pending : Option NotifyId) :
    (s.notifyWaiters pending).slowMap = s.slowMap := by
  cases pending with
  | none => rfl
  | some n => rfl

@[simp] theorem notifyWaiters_poisoned (s : State cause) (pending : Option NotifyId) :
    (s.notifyWaiters pending).poisoned = s.poisoned := by
  cases pending with
  | none => rfl
  | some n => rfl

@[simp] theorem notifyWaiters_started (s : State cause) (pending : Option NotifyId) :
    (s.notifyWaiters pending).started = s.started := by
  cases pending with
  | none => rfl
  | some n => rfl

@[simp] theorem notifyWaiters_key (s : State cause) (pending : Option NotifyId)
    (c : CallId) : (s.notifyWaiters pending).key c = s.key c := by
  cases pending with
  | none => rfl
  | some n => rfl

/-- Only waiting calls are touched, and only those that wait on the `Notify`. -/
theorem notifyWaiters_phase (s : State cause) (pending : Option NotifyId) (c : CallId) :
    ((s.notifyWaiters pending).phase c = s.phase c ∧
        forall n, pending = some n -> s.phase c ≠ .waiting n) ∨
      (exists n, pending = some n ∧ s.phase c = .waiting n ∧
        (s.notifyWaiters pending).phase c = .woken) := by
  cases pending with
  | none =>
      refine Or.inl ⟨rfl, ?_⟩
      intro n h
      cases h
  | some n =>
      by_cases hwait : s.phase c = .waiting n
      · refine Or.inr ⟨n, rfl, hwait, ?_⟩
        change (s.phase c).notified n = .woken
        rw [hwait]
        exact if_pos rfl
      · refine Or.inl ⟨?_, ?_⟩
        · change (s.phase c).notified n = s.phase c
          cases hphase : s.phase c with
          | waiting m =>
              have hne : m ≠ n := by
                rintro rfl
                exact hwait hphase
              exact if_neg hne
          | _ => rfl
        · intro m hm
          cases hm
          exact hwait

/-!
# The acting call
-/

@[simp] theorem insertPending_phase_self (s : State cause) (c : CallId) :
    (insertPending s c).phase c = .leading :=
  setPhase_phase_self s c .leading

@[simp] theorem insertPending_key (s : State cause) (c d : CallId) :
    (insertPending s c).key d = s.key d :=
  setPhase_key s c d .leading

theorem insertPending_entry (s : State cause) (c : CallId) :
    (insertPending s c).entry c = some (.opened s.notifies) := by
  unfold State.entry
  rw [insertPending_key]
  exact AList.lookup_insert s.slowMap

@[simp] theorem missingEntry_phase_self (s : State cause) (c : CallId) :
    (missingEntry s c).phase c = .panicked :=
  setPhase_phase_self s c .panicked

@[simp] theorem invalidateEntry_phase_self (s : State cause) (c : CallId) :
    (invalidateEntry s c).phase c = .invalidated :=
  setPhase_phase_self s c .invalidated

@[simp] theorem completeOk_phase_self (s : State cause) (c : CallId)
    (entry : CollectionCacheEntry) (collectionId : UInt32) (manifestRev : UInt64) :
    (completeOk s c entry collectionId manifestRev).phase c =
      .returned (.ok (collectionId, manifestRev)) :=
  setPhase_phase_self ..

@[simp] theorem completeErr_phase_self (s : State cause) (c : CallId)
    (entry : CollectionCacheEntry) (e : cause) :
    (completeErr s c entry e).phase c = .returned (.error (.resolver e)) :=
  setPhase_phase_self ..

@[simp] theorem completeOk_slowMap (s : State cause) (c : CallId)
    (entry : CollectionCacheEntry) (collectionId : UInt32) (manifestRev : UInt64) :
    (completeOk s c entry collectionId manifestRev).slowMap =
      s.slowMap.insert (s.key c) (.resolved collectionId manifestRev) := by
  unfold completeOk
  rw [setPhase_slowMap, notifyWaiters_slowMap]

@[simp] theorem completeErr_slowMap (s : State cause) (c : CallId)
    (entry : CollectionCacheEntry) (e : cause) :
    (completeErr s c entry e).slowMap = s.slowMap.erase (s.key c) := by
  unfold completeErr
  rw [setPhase_slowMap, notifyWaiters_slowMap]

@[simp] theorem completeOk_poisoned (s : State cause) (c : CallId)
    (entry : CollectionCacheEntry) (collectionId : UInt32) (manifestRev : UInt64) :
    (completeOk s c entry collectionId manifestRev).poisoned = s.poisoned := by
  unfold completeOk
  rw [setPhase_poisoned, notifyWaiters_poisoned]

@[simp] theorem completeOk_started (s : State cause) (c : CallId)
    (entry : CollectionCacheEntry) (collectionId : UInt32) (manifestRev : UInt64) :
    (completeOk s c entry collectionId manifestRev).started = s.started :=
  notifyWaiters_started ..

@[simp] theorem completeErr_started (s : State cause) (c : CallId)
    (entry : CollectionCacheEntry) (e : cause) :
    (completeErr s c entry e).started = s.started :=
  notifyWaiters_started ..

@[simp] theorem completeErr_poisoned (s : State cause) (c : CallId)
    (entry : CollectionCacheEntry) (e : cause) :
    (completeErr s c entry e).poisoned = s.poisoned := by
  unfold completeErr
  rw [setPhase_poisoned, notifyWaiters_poisoned]

/-!
# Steps
-/

inductive Step (s : State cause) : Action cause -> State cause -> Prop where
  | hit (scopeName collectionName : String) (entry : CollectionsFastCacheEntry)
      (hfast : s.fastCache.lookup (fullKeyPath scopeName collectionName) = some entry) :
      Step s (.resolveCollectionId scopeName collectionName)
        (s.start scopeName collectionName
          (.returned (.ok (entry.collectionId, entry.manifestRev))))
  | miss (scopeName collectionName : String)
      (hfast : s.fastCache.lookup (fullKeyPath scopeName collectionName) = none) :
      Step s (.resolveCollectionId scopeName collectionName)
        (s.start scopeName collectionName .checking)
  | checkPoisoned (c : CallId) (hhead : (s.phase c).atLoopHead = true)
      (hpoisoned : s.poisoned = true) :
      Step s (.checkSlowMap c) (s.setPhase c .panicked)
  | found (c : CallId) (entry : CollectionCacheEntry) (n : NotifyId)
      (hhead : (s.phase c).atLoopHead = true) (hsound : s.poisoned = false)
      (hentry : s.entry c = some entry) (hpending : entry.pending = some n) :
      Step s (.checkSlowMap c) (s.setPhase c (.found n))
  | cached (c : CallId) (entry : CollectionCacheEntry)
      (hhead : (s.phase c).atLoopHead = true) (hsound : s.poisoned = false)
      (hentry : s.entry c = some entry) (hpending : entry.pending = none) :
      Step s (.checkSlowMap c)
        (s.setPhase c (.returned (.ok (entry.collectionId, entry.manifestRev))))
  | lead (c : CallId) (hhead : (s.phase c).atLoopHead = true)
      (hsound : s.poisoned = false) (hentry : s.entry c = none) :
      Step s (.checkSlowMap c) (insertPending s c)
  | listen (c : CallId) (n : NotifyId) (hphase : s.phase c = .found n) :
      Step s (.listen c) (s.setPhase c (.waiting n))
  | completePoisoned (c : CallId) (resp : Except cause (UInt32 × UInt64))
      (hphase : s.phase c = .leading) (hpoisoned : s.poisoned = true) :
      Step s (.complete c resp) (s.setPhase c .panicked)
  | missing (c : CallId) (resp : Except cause (UInt32 × UInt64))
      (hphase : s.phase c = .leading) (hsound : s.poisoned = false)
      (hentry : s.entry c = none) :
      Step s (.complete c resp) (missingEntry s c)
  | completeOk (c : CallId) (entry : CollectionCacheEntry) (collectionId : UInt32)
      (manifestRev : UInt64) (hphase : s.phase c = .leading)
      (hsound : s.poisoned = false) (hentry : s.entry c = some entry) :
      Step s (.complete c (.ok (collectionId, manifestRev)))
        (completeOk s c entry collectionId manifestRev)
  | completeErr (c : CallId) (entry : CollectionCacheEntry) (e : cause)
      (hphase : s.phase c = .leading) (hsound : s.poisoned = false)
      (hentry : s.entry c = some entry) :
      Step s (.complete c (.error e)) (completeErr s c entry e)
  | joinError (c : CallId) (text : String) (hphase : s.phase c = .leading) :
      Step s (.joinError c text)
        (s.setPhase c (.returned (.error
          (.message ("failed to join resolve collection id task: " ++ text)))))
  | invalidate (scopeName collectionName : String) :
      Step s (.invalidateCollectionId scopeName collectionName)
        (s.start scopeName collectionName .invalidating)
  | removePoisoned (c : CallId) (hphase : s.phase c = .invalidating)
      (hpoisoned : s.poisoned = true) :
      Step s (.removeEntry c) (s.setPhase c .panicked)
  | removeEntry (c : CallId) (hphase : s.phase c = .invalidating)
      (hsound : s.poisoned = false) :
      Step s (.removeEntry c) (invalidateEntry s c)
  | cancel (c : CallId) (hawaits : (s.phase c).awaits = true) :
      Step s (.cancel c) (s.setPhase c .cancelled)

variable {s s' : State cause} {a : Action cause}

theorem checkSlowMap_inv {c : CallId} (h : checkSlowMap s c = some s') :
    Step s (.checkSlowMap c) s' := by
  unfold checkSlowMap at h
  split at h
  · rename_i hhead
    split at h
    · rename_i hpoisoned
      cases h
      exact Step.checkPoisoned c hhead hpoisoned
    · rename_i hsound
      have hsound : s.poisoned = false := Bool.eq_false_iff.mpr hsound
      split at h
      · rename_i entry hentry
        split at h
        · rename_i n hpending
          cases h
          exact Step.found c entry n hhead hsound hentry hpending
        · rename_i hpending
          cases h
          exact Step.cached c entry hhead hsound hentry hpending
      · rename_i hentry
        cases h
        exact Step.lead c hhead hsound hentry
  · cases h

theorem complete_inv {c : CallId} {resp : Except cause (UInt32 × UInt64)}
    (h : complete s c resp = some s') : Step s (.complete c resp) s' := by
  unfold complete at h
  split at h
  · rename_i hphase
    split at h
    · rename_i hpoisoned
      cases h
      exact Step.completePoisoned c resp hphase hpoisoned
    · rename_i hsound
      have hsound : s.poisoned = false := Bool.eq_false_iff.mpr hsound
      split at h
      · rename_i hentry
        cases h
        exact Step.missing c resp hphase hsound hentry
      · rename_i entry hentry
        split at h
        · rename_i collectionId manifestRev
          cases h
          exact Step.completeOk c entry collectionId manifestRev hphase hsound hentry
        · rename_i e
          cases h
          exact Step.completeErr c entry e hphase hsound hentry
  · cases h

theorem removeEntry_inv {c : CallId} (h : removeEntry s c = some s') :
    Step s (.removeEntry c) s' := by
  unfold removeEntry at h
  split at h
  · rename_i hphase
    split at h
    · rename_i hpoisoned
      cases h
      exact Step.removePoisoned c hphase hpoisoned
    · rename_i hsound
      cases h
      exact Step.removeEntry c hphase (Bool.eq_false_iff.mpr hsound)
  · cases h

theorem resolveCollectionId_inv (s : State cause) (scopeName collectionName : String) :
    Step s (.resolveCollectionId scopeName collectionName)
      (resolveCollectionId s scopeName collectionName) := by
  unfold resolveCollectionId
  split
  · rename_i entry hfast
    exact Step.hit scopeName collectionName entry hfast
  · rename_i hfast
    exact Step.miss scopeName collectionName hfast

/-- Every enabled action is one of the cases of `Step`. -/
theorem step_inv (h : step s a = some s') : Step s a s' := by
  cases a with
  | resolveCollectionId scopeName collectionName =>
      cases h
      exact resolveCollectionId_inv s scopeName collectionName
  | checkSlowMap c => exact checkSlowMap_inv h
  | listen c =>
      change listen s c = some s' at h
      unfold listen at h
      split at h
      · rename_i n hphase
        cases h
        exact Step.listen c n hphase
      · cases h
  | complete c resp => exact complete_inv h
  | joinError c text =>
      change joinError s c text = some s' at h
      unfold joinError at h
      split at h
      · rename_i hphase
        cases h
        exact Step.joinError c text hphase
      · cases h
  | invalidateCollectionId scopeName collectionName =>
      cases h
      exact Step.invalidate scopeName collectionName
  | removeEntry c => exact removeEntry_inv h
  | cancel c =>
      change cancel s c = some s' at h
      unfold cancel at h
      split at h
      · rename_i hawaits
        cases h
        exact Step.cancel c hawaits
      · cases h

/-!
# Phases across a step

One call acts in a step.  The others keep their phase, unless they are woken.
-/

def Action.actor (s : State cause) : Action cause -> CallId
  | .resolveCollectionId _ _ | .invalidateCollectionId _ _ => s.started
  | .checkSlowMap c | .listen c | .complete c _ | .joinError c _ | .removeEntry c
  | .cancel c => c

/-- The call is as it was, or it waited and was woken. -/
def Idle (s s' : State cause) (d : CallId) : Prop :=
  s'.key d = s.key d ∧
    (s'.phase d = s.phase d ∨ ((exists n, s.phase d = .waiting n) ∧ s'.phase d = .woken))

theorem idle_setPhase (s : State cause) {c d : CallId} (phase : Phase cause)
    (hne : d ≠ c) : Idle s (s.setPhase c phase) d :=
  ⟨setPhase_key s c d phase, Or.inl (setPhase_phase_ne s phase hne)⟩

theorem idle_start (s : State cause) (scopeName collectionName : String)
    (phase : Phase cause) {d : CallId} (hne : d ≠ s.started) :
    Idle s (s.start scopeName collectionName phase) d :=
  ⟨start_key_ne s scopeName collectionName phase hne,
    Or.inl (start_phase_ne s scopeName collectionName phase hne)⟩

theorem idle_notifyWaiters (s : State cause) (pending : Option NotifyId) {c d : CallId}
    (phase : Phase cause) (hne : d ≠ c) :
    Idle s ((s.notifyWaiters pending).setPhase c phase) d := by
  refine ⟨by rw [setPhase_key, notifyWaiters_key], ?_⟩
  rw [setPhase_phase_ne _ phase hne]
  rcases notifyWaiters_phase s pending d with ⟨hsame, _⟩ | ⟨n, _, hwait, hwoken⟩
  · exact Or.inl hsame
  · exact Or.inr ⟨⟨n, hwait⟩, hwoken⟩

theorem idle_of_ne_actor (h : Step s a s') {d : CallId} (hne : d ≠ a.actor s) :
    Idle s s' d := by
  cases h with
  | hit scopeName collectionName entry hfast => exact idle_start s _ _ _ hne
  | miss scopeName collectionName hfast => exact idle_start s _ _ _ hne
  | lead c hhead hsound hentry => exact idle_setPhase s .leading hne
  | completeOk c entry collectionId manifestRev hphase hsound hentry =>
      exact idle_notifyWaiters { s with slowMap := _, fastCache := _ } entry.pending _ hne
  | completeErr c entry e hphase hsound hentry =>
      exact idle_notifyWaiters { s with slowMap := _ } entry.pending _ hne
  | invalidate scopeName collectionName => exact idle_start s _ _ _ hne
  | removeEntry c hphase hsound => exact idle_setPhase s .invalidated hne
  | missing c resp hphase hsound hentry => exact idle_setPhase s .panicked hne
  | _ => exact idle_setPhase s _ hne

/-- A leading call led before, or it has just inserted its entry. -/
theorem leading_source (h : Step s a s') {d : CallId} (hphase : s'.phase d = .leading) :
    (s.phase d = .leading ∧ d ≠ a.actor s ∧ s'.key d = s.key d) ∨
      (a = .checkSlowMap d ∧ s.entry d = none ∧ s' = insertPending s d) := by
  by_cases hactor : d = a.actor s
  · subst hactor
    cases h with
    | lead c hhead hsound hentry => exact Or.inr ⟨rfl, hentry, rfl⟩
    | _ => simp [Action.actor] at hphase
  · rcases idle_of_ne_actor h hactor with ⟨hkey, hsame | ⟨_, hwoken⟩⟩
    · exact Or.inl ⟨hsame ▸ hphase, hactor, hkey⟩
    · rw [hwoken] at hphase
      cases hphase

/-- A call panics because the lock is poisoned, or because its entry is missing. -/
theorem panicked_source (h : Step s a s') {d : CallId} (hphase : s'.phase d = .panicked) :
    s.phase d = .panicked ∨ s.poisoned = true ∨
      (s.phase d = .leading ∧ s.entry d = none) := by
  by_cases hactor : d = a.actor s
  · subst hactor
    cases h with
    | checkPoisoned c hhead hpoisoned => exact Or.inr (Or.inl hpoisoned)
    | completePoisoned c resp hlead hpoisoned => exact Or.inr (Or.inl hpoisoned)
    | removePoisoned c hinv hpoisoned => exact Or.inr (Or.inl hpoisoned)
    | missing c resp hlead hsound hentry => exact Or.inr (Or.inr ⟨hlead, hentry⟩)
    | _ => simp [Action.actor] at hphase
  · rcases idle_of_ne_actor h hactor with ⟨_, hsame | ⟨_, hwoken⟩⟩
    · exact Or.inl (hsame ▸ hphase)
    · rw [hwoken] at hphase
      cases hphase

/-- The lock is poisoned by a leader whose entry is missing. -/
theorem poisoned_source (h : Step s a s') (hpoisoned : s'.poisoned = true) :
    s.poisoned = true ∨ exists c, s.phase c = .leading ∧ s.entry c = none := by
  cases h with
  | missing c resp hlead hsound hentry => exact Or.inr ⟨c, hlead, hentry⟩
  | completeOk c entry collectionId manifestRev hlead hsound hentry =>
      rw [completeOk_poisoned] at hpoisoned
      exact Or.inl hpoisoned
  | completeErr c entry e hlead hsound hentry =>
      rw [completeErr_poisoned] at hpoisoned
      exact Or.inl hpoisoned
  | _ => exact Or.inl hpoisoned

/-- A leading call leads on, or it completes, fails to join or is dropped. -/
theorem leading_kept (h : Step s a s') {c : CallId} (hphase : s.phase c = .leading)
    (hborn : c ≠ s.started) :
    (s'.phase c = .leading ∧ s'.key c = s.key c) ∨ (exists resp, a = .complete c resp) ∨
      (exists text, a = .joinError c text) ∨ a = .cancel c := by
  by_cases hactor : c = a.actor s
  · subst hactor
    cases h with
    | hit scopeName collectionName entry hfast => exact (hborn rfl).elim
    | miss scopeName collectionName hfast => exact (hborn rfl).elim
    | invalidate scopeName collectionName => exact (hborn rfl).elim
    | completePoisoned c resp => exact Or.inr (Or.inl ⟨resp, rfl⟩)
    | missing c resp => exact Or.inr (Or.inl ⟨resp, rfl⟩)
    | completeOk c entry collectionId manifestRev => exact Or.inr (Or.inl ⟨_, rfl⟩)
    | completeErr c entry e => exact Or.inr (Or.inl ⟨_, rfl⟩)
    | joinError c text => exact Or.inr (Or.inr (Or.inl ⟨text, rfl⟩))
    | cancel c => exact Or.inr (Or.inr (Or.inr rfl))
    | listen c n hfound => exact absurd (hphase.symm.trans hfound) (by simp)
    | removePoisoned c hinv => exact absurd (hphase.symm.trans hinv) (by simp)
    | removeEntry c hinv => exact absurd (hphase.symm.trans hinv) (by simp)
    | checkPoisoned c hhead | found c entry n hhead | cached c entry hhead
    | lead c hhead =>
        change (s.phase c).atLoopHead = true at hhead
        change s.phase c = .leading at hphase
        rw [hphase] at hhead
        cases hhead
  · rcases idle_of_ne_actor h hactor with ⟨hkey, hsame | ⟨⟨n, hwait⟩, _⟩⟩
    · exact Or.inl ⟨hsame.trans hphase, hkey⟩
    · rw [hwait] at hphase
      cases hphase

theorem started_le (h : Step s a s') : s.started ≤ s'.started := by
  cases h with
  | hit => exact Nat.le_succ s.started
  | miss => exact Nat.le_succ s.started
  | invalidate => exact Nat.le_succ s.started
  | completeOk c entry collectionId manifestRev =>
      rw [completeOk_started]
  | completeErr c entry e => rw [completeErr_started]
  | _ => exact Nat.le_refl s.started

/-- The calls that have started. -/
def State.Born (s : State cause) (c : CallId) : Prop :=
  s.phase c ≠ .unborn -> c < s.started

/-- Only a call that has started acts, or the one that starts. -/
theorem actor_started (h : Step s a s') :
    (a.actor s = s.started ∧ s.started < s'.started) ∨ s.phase (a.actor s) ≠ .unborn := by
  cases h with
  | hit => exact Or.inl ⟨rfl, Nat.lt_succ_self s.started⟩
  | miss => exact Or.inl ⟨rfl, Nat.lt_succ_self s.started⟩
  | invalidate => exact Or.inl ⟨rfl, Nat.lt_succ_self s.started⟩
  | cancel c hawaits =>
      refine Or.inr (fun hphase => ?_)
      change s.phase c = .unborn at hphase
      rw [hphase] at hawaits
      cases hawaits
  | checkPoisoned c hhead | found c entry n hhead | cached c entry hhead
  | lead c hhead =>
      refine Or.inr (fun hphase => ?_)
      change s.phase c = .unborn at hphase
      rw [hphase] at hhead
      cases hhead
  | listen c n hphase | completePoisoned c resp hphase | missing c resp hphase
  | completeOk c entry collectionId manifestRev hphase | completeErr c entry e hphase
  | joinError c text hphase | removePoisoned c hphase | removeEntry c hphase =>
      refine Or.inr (fun hunborn => ?_)
      exact absurd (hphase.symm.trans hunborn) (by simp)

theorem born_step (h : Step s a s') (hborn : forall d, s.Born d) (d : CallId) :
    s'.Born d := by
  intro hphase
  have hle := started_le h
  by_cases hactor : d = a.actor s
  · rcases actor_started h with ⟨hself, hlt⟩ | hacts
    · rw [hactor, hself]
      exact hlt
    · rw [hactor]
      exact Nat.lt_of_lt_of_le (hborn _ hacts) hle
  · rcases idle_of_ne_actor h hactor with ⟨_, hsame | ⟨⟨n, hwait⟩, _⟩⟩
    · rw [hsame] at hphase
      exact Nat.lt_of_lt_of_le (hborn d hphase) hle
    · refine Nat.lt_of_lt_of_le (hborn d ?_) hle
      rw [hwait]
      simp

/-- The `Notify` a follower waits on or is about to wait on. -/
def Phase.awaited : Phase cause -> Option NotifyId
  | .found n | .waiting n => some n
  | _ => none

/-- A follower followed before, or it has just found a pending entry. -/
theorem awaited_source (h : Step s a s') {d : CallId} {n : NotifyId}
    (hphase : (s'.phase d).awaited = some n) :
    ((s.phase d).awaited = some n ∧ s'.key d = s.key d) ∨
      (s' = s.setPhase d (.found n) ∧
        exists e, s.entry d = some e ∧ e.pending = some n) := by
  by_cases hactor : d = a.actor s
  · subst hactor
    cases h with
    | found c entry m hhead hsound hentry hpending =>
        change ((s.setPhase c (.found m)).phase c).awaited = some n at hphase
        rw [setPhase_phase_self] at hphase
        cases hphase
        exact Or.inr ⟨rfl, entry, hentry, hpending⟩
    | listen c m hfound =>
        change ((s.setPhase c (.waiting m)).phase c).awaited = some n at hphase
        rw [setPhase_phase_self] at hphase
        cases hphase
        refine Or.inl ⟨?_, setPhase_key s c c _⟩
        change (s.phase c).awaited = some n
        rw [hfound]
        rfl
    | _ => simp [Action.actor, Phase.awaited] at hphase
  · rcases idle_of_ne_actor h hactor with ⟨hkey, hsame | ⟨_, hwoken⟩⟩
    · exact Or.inl ⟨hsame ▸ hphase, hkey⟩
    · rw [hwoken] at hphase
      cases hphase

/-!
# Entries across a step
-/

/-- An entry stays as it is, or its key is completed or invalidated. -/
theorem entry_kept (h : Step s a s') {k : String} {e : CollectionCacheEntry}
    (hentry : s.slowMap.lookup k = some e) :
    s'.slowMap.lookup k = some e ∨
      (exists c resp, a = .complete c resp ∧ s.phase c = .leading ∧ s.key c = k) ∨
      (exists c, a = .removeEntry c ∧ s.key c = k) := by
  cases h with
  | lead c hhead hsound hnone =>
      have hne : k ≠ s.key c := by
        rintro rfl
        exact absurd (hentry.symm.trans hnone) (by simp)
      exact Or.inl ((AList.lookup_insert_ne hne).trans hentry)
  | completeOk c entry collectionId manifestRev hlead =>
      by_cases hk : k = s.key c
      · exact Or.inr (Or.inl ⟨c, _, rfl, hlead, hk.symm⟩)
      · rw [completeOk_slowMap, AList.lookup_insert_ne hk]
        exact Or.inl hentry
  | completeErr c entry err hlead =>
      by_cases hk : k = s.key c
      · exact Or.inr (Or.inl ⟨c, _, rfl, hlead, hk.symm⟩)
      · rw [completeErr_slowMap, AList.lookup_erase_ne hk]
        exact Or.inl hentry
  | removeEntry c hinv =>
      by_cases hk : k = s.key c
      · exact Or.inr (Or.inr ⟨c, rfl, hk.symm⟩)
      · exact Or.inl ((AList.lookup_erase_ne hk).trans hentry)
  | _ => exact Or.inl hentry

/-- An entry was there before, or its leader has just inserted it, or it is resolved. -/
theorem entry_source (h : Step s a s') {k : String} {e : CollectionCacheEntry}
    (hentry : s'.slowMap.lookup k = some e) :
    s.slowMap.lookup k = some e ∨ (exists c, s.key c = k ∧ s' = insertPending s c) ∨
      e.pending = none := by
  cases h with
  | lead c hhead hsound hnone =>
      rcases FiniteMap.lookup_insert_some hentry with ⟨hk, _⟩ | ⟨_, hold⟩
      · exact Or.inr (Or.inl ⟨c, hk.symm, rfl⟩)
      · exact Or.inl hold
  | completeOk c entry collectionId manifestRev hlead =>
      rw [completeOk_slowMap] at hentry
      rcases FiniteMap.lookup_insert_some hentry with ⟨_, rfl⟩ | ⟨_, hold⟩
      · exact Or.inr (Or.inr rfl)
      · exact Or.inl hold
  | completeErr c entry err hlead =>
      rw [completeErr_slowMap] at hentry
      exact Or.inl (FiniteMap.lookup_erase_some hentry).2
  | removeEntry c hinv => exact Or.inl (FiniteMap.lookup_erase_some hentry).2
  | _ => exact Or.inl hentry

/-- Whatever the answer, a completion leaves no pending entry under its key. -/
theorem complete_clears {c : CallId} {resp : Except cause (UInt32 × UInt64)}
    (h : Step s (.complete c resp) s') (hsound : s.poisoned = false)
    {e : CollectionCacheEntry} (hentry : s'.slowMap.lookup (s.key c) = some e) :
    e.pending = none := by
  cases h with
  | completePoisoned _ _ _ hpoisoned =>
      rw [hsound] at hpoisoned
      cases hpoisoned
  | missing _ _ _ _ hnone => exact absurd (hentry.symm.trans hnone) (by simp)
  | completeOk _ entry collectionId manifestRev =>
      rw [completeOk_slowMap, AList.lookup_insert] at hentry
      cases hentry
      rfl
  | completeErr _ entry err =>
      rw [completeErr_slowMap, AList.lookup_erase] at hentry
      cases hentry

/-- Whatever the answer, a completion wakes the calls that wait on its entry. -/
theorem complete_wakes {c w : CallId} {resp : Except cause (UInt32 × UInt64)}
    {e : CollectionCacheEntry} {n : NotifyId} (h : Step s (.complete c resp) s')
    (hsound : s.poisoned = false) (hentry : s.entry c = some e)
    (hpending : e.pending = some n) (hwait : s.phase w = .waiting n) :
    s'.phase w = .woken := by
  have hwoken : forall (t : State cause) (phase : Phase cause),
      t.phase w = .waiting n -> s.phase c = .leading ->
      ((t.notifyWaiters e.pending).setPhase c phase).phase w = .woken := by
    intro t phase ht hlead
    have hne : w ≠ c := by
      rintro rfl
      rw [hwait] at hlead
      cases hlead
    rw [setPhase_phase_ne _ phase hne]
    rcases notifyWaiters_phase t e.pending w with ⟨_, hnot⟩ | ⟨_, _, _, hwoken⟩
    · exact (hnot n hpending ht).elim
    · exact hwoken
  cases h with
  | completePoisoned _ _ _ hpoisoned =>
      rw [hsound] at hpoisoned
      cases hpoisoned
  | missing _ _ _ _ hnone => exact absurd (hentry.symm.trans hnone) (by simp)
  | completeOk _ entry collectionId manifestRev hlead _ hfound =>
      rw [hentry] at hfound
      cases hfound
      exact hwoken _ _ hwait hlead
  | completeErr _ entry err hlead _ hfound =>
      rw [hentry] at hfound
      cases hfound
      exact hwoken _ _ hwait hlead

end CollectionResolver
end CouchbaseSdk
