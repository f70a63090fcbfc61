import CouchbaseSdk.CollectionResolver.Steps

/-!
# The fast cache and the slow map

The fast cache is a copy of the resolved entries of the slow map.  It is rebuilt when
a resolution succeeds and when an entry is invalidated, and not when a resolution
fails: the leader takes the entry it removes for its own, which was never resolved.
-/

namespace CouchbaseSdk
namespace CollectionResolver

open Foundation

variable {cause : Type} {s s' : State cause} {a : Action cause}

/-- The same collection id and the same manifest revision. -/
def CollectionsFastCacheEntry.copies (f : CollectionsFastCacheEntry)
    (e : CollectionCacheEntry) : Prop :=
  f.collectionId = e.collectionId ∧ f.manifestRev = e.manifestRev

/-- The fast path answers what the slow path would answer. -/
structure FastAgrees (s : State cause) : Prop where
  sound : forall k f, s.fastCache.lookup k = some f ->
    exists e, s.slowMap.lookup k = some e ∧ e.pending = none ∧ f.copies e
  complete : forall k e, s.slowMap.lookup k = some e -> e.pending = none ->
    e.collectionId > 0 -> exists f, s.fastCache.lookup k = some f ∧ f.copies e

/-- A resolution fails only while the entry under its key has no collection id. -/
def FailsUnresolved (s : State cause) : Action cause -> Prop
  | .complete c (.error _) => forall e, s.entry c = some e -> ¬ e.collectionId > 0
  | _ => True

/-!
# What a rebuild keeps
-/

/-- What the fast cache keeps of an entry. -/
def CollectionCacheEntry.fast (e : CollectionCacheEntry) : Option CollectionsFastCacheEntry :=
  if e.collectionId > 0 then
    some { collectionId := e.collectionId, manifestRev := e.manifestRev }
  else none

theorem fast_some {e : CollectionCacheEntry} {f : CollectionsFastCacheEntry}
    (h : e.fast = some f) : e.collectionId > 0 ∧ f.copies e := by
  unfold CollectionCacheEntry.fast at h
  split at h
  · rename_i hid
    cases h
    exact ⟨hid, rfl, rfl⟩
  · cases h

theorem fast_of_pos {e : CollectionCacheEntry} (h : e.collectionId > 0) :
    exists f, e.fast = some f ∧ f.copies e := by
  unfold CollectionCacheEntry.fast
  rw [if_pos h]
  exact ⟨_, rfl, rfl, rfl⟩

theorem fast_of_not_pos {e : CollectionCacheEntry} (h : ¬ e.collectionId > 0) :
    e.fast = none :=
  if_neg h

theorem lookup_rebuild (slowMap : CollectionResolverSlowMap) (k : String) :
    (rebuildFastCacheLocked slowMap).lookup k =
      (slowMap.lookup k).bind CollectionCacheEntry.fast := by
  have hstep : rebuildFastCacheLocked slowMap =
      slowMap.entries.foldl (FiniteMap.collectStep CollectionCacheEntry.fast) ∅ := by
    unfold rebuildFastCacheLocked
    congr 1
    funext collections item
    unfold FiniteMap.collectStep CollectionCacheEntry.fast
    split
    · rfl
    · rfl
  rw [hstep]
  exact FiniteMap.lookup_collect CollectionCacheEntry.fast slowMap k

/-!
# The copy
-/

structure FastCopy (s : State cause) : Prop where
  copy : forall k, s.fastCache.lookup k =
    (s.slowMap.lookup k).bind CollectionCacheEntry.fast
  pending : forall k e n, s.slowMap.lookup k = some e -> e.pending = some n ->
    e.fast = none

theorem initial_fastCopy : FastCopy (initial : State cause) where
  copy := fun _ => rfl
  pending := by
    intro k e n h
    cases h

theorem completeOk_fastCache (s : State cause) (c : CallId) (entry : CollectionCacheEntry)
    (collectionId : UInt32) (manifestRev : UInt64) :
    (completeOk s c entry collectionId manifestRev).fastCache =
      rebuildFastCacheLocked
        (s.slowMap.insert (s.key c) (.resolved collectionId manifestRev)) := by
  unfold completeOk
  cases entry.pending with
  | none => rfl
  | some n => rfl

theorem completeErr_fastCache (s : State cause) (c : CallId) (entry : CollectionCacheEntry)
    (e : cause) : (completeErr s c entry e).fastCache = s.fastCache := by
  unfold completeErr
  cases entry.pending with
  | none => rfl
  | some n => rfl

section
variable (hcopy : FastCopy s) (hguard : FailsUnresolved s a) (hstep : Step s a s')
include hcopy hstep

/-- An entry that awaits its resolution has no collection id. -/
theorem fastCopy_pending (k : String) (e : CollectionCacheEntry) (n : NotifyId)
    (hentry : s'.slowMap.lookup k = some e) (hpending : e.pending = some n) :
    e.fast = none := by
  rcases entry_source hstep hentry with hold | ⟨c, hkey, rfl⟩ | hnone
  · exact hcopy.pending k e n hold hpending
  · rcases FiniteMap.lookup_insert_some hentry with ⟨_, rfl⟩ | ⟨_, hold⟩
    · rfl
    · exact hcopy.pending k e n hold hpending
  · rw [hpending] at hnone
    cases hnone

include hguard

theorem fastCopy_copy (k : String) :
    s'.fastCache.lookup k = (s'.slowMap.lookup k).bind CollectionCacheEntry.fast := by
  cases hstep with
  | lead c hhead hsound hentry =>
      change s.fastCache.lookup k =
        ((s.slowMap.insert (s.key c) (.opened s.notifies)).lookup k).bind _
      rw [hcopy.copy k]
      by_cases hk : k = s.key c
      · subst hk
        have hnone : s.slowMap.lookup (s.key c) = none := hentry
        rw [hnone, AList.lookup_insert]
        rfl
      · rw [AList.lookup_insert_ne hk]
  | completeOk c entry collectionId manifestRev =>
      rw [completeOk_fastCache, completeOk_slowMap]
      exact lookup_rebuild _ k
  | completeErr c entry e hlead hsound hentry =>
      -- The fast cache is left alone, so the erased entry must not be in it.
      rw [completeErr_fastCache, completeErr_slowMap, hcopy.copy k]
      by_cases hk : k = s.key c
      · subst hk
        have hsome : s.slowMap.lookup (s.key c) = some entry := hentry
        rw [hsome, AList.lookup_erase]
        exact fast_of_not_pos (hguard entry hentry)
      · rw [AList.lookup_erase_ne hk]
  | removeEntry c => exact lookup_rebuild _ k
  | _ => exact hcopy.copy k

theorem FastCopy.step : FastCopy s' where
  copy := fastCopy_copy hcopy hguard hstep
  pending := fastCopy_pending hcopy hstep

end

theorem fastCopy_of_reach (hreach : StepFn.Reach step FailsUnresolved initial s) :
    FastCopy s :=
  hreach.invariant initial_fastCopy
    (fun _ _ _ hcopy hguard hstep => hcopy.step hguard (step_inv hstep))

/-!
# Agreement
-/

theorem FastCopy.agrees (h : FastCopy s) : FastAgrees s := by
  constructor
  · intro k f hf
    rw [h.copy k] at hf
    rcases Option.bind_eq_some_iff.mp hf with ⟨e, hentry, hfast⟩
    refine ⟨e, hentry, ?_, (fast_some hfast).2⟩
    cases hpending : e.pending with
    | none => rfl
    | some n =>
        rw [h.pending k e n hentry hpending] at hfast
        cases hfast
  · intro k e hentry _ hid
    rcases fast_of_pos hid with ⟨f, hfast, hsame⟩
    refine ⟨f, ?_, hsame⟩
    rw [h.copy k, hentry]
    exact hfast

/-- In every run in which no resolution fails over an entry that another one resolved,
the fast path agrees with the slow path. -/
theorem fastAgrees_of_reach (hreach : StepFn.Reach step FailsUnresolved initial s) :
    FastAgrees s :=
  (fastCopy_of_reach hreach).agrees

/-- One collection is resolved, and the resolution of another fails. -/
def resolvedAndFailed : List (Action String) :=
  [.resolveCollectionId "app" "users", .checkSlowMap 0, .complete 0 (.ok (8, 1)),
    .resolveCollectionId "app" "orders", .checkSlowMap 1,
    .complete 1 (.error "unknown collection")]

theorem fastAgrees_resolvedAndFailed :
    exists s, StepFn.run step initial resolvedAndFailed = some s ∧
      s.fastCache.lookup "app.users" = some { collectionId := 8, manifestRev := 1 } ∧
      FastAgrees s := by
  refine ⟨_, rfl, rfl, ?_⟩
  apply fastAgrees_of_reach
  have h₁ : StepFn.Reach step FailsUnresolved (initial : State String) _ :=
    StepFn.Reach.tail (Action.resolveCollectionId "app" "users") StepFn.Reach.refl trivial rfl
  have h₂ := StepFn.Reach.tail (Action.checkSlowMap 0) h₁ trivial rfl
  have h₃ := StepFn.Reach.tail (Action.complete 0 (.ok (8, 1))) h₂ trivial rfl
  have h₄ := StepFn.Reach.tail (Action.resolveCollectionId "app" "orders") h₃ trivial rfl
  have h₅ := StepFn.Reach.tail (Action.checkSlowMap 1) h₄ trivial rfl
  refine StepFn.Reach.tail (Action.complete 1 (.error "unknown collection")) h₅ ?_ rfl
  intro e hentry
  cases hentry
  decide

/-- A failure that does meet such an entry always leaves it behind in the fast cache. -/
theorem disagrees_of_failure {c : CallId} {entry : CollectionCacheEntry}
    (hagrees : FastAgrees s) (hlead : s.phase c = .leading) (hsound : s.poisoned = false)
    (hentry : s.entry c = some entry) (hresolved : entry.pending = none)
    (hid : entry.collectionId > 0) (e : cause) :
    exists s', step s (.complete c (.error e)) = some s' ∧ ¬ FastAgrees s' := by
  have hstep : step s (.complete c (.error e)) = some (completeErr s c entry e) := by
    change complete s c (.error e) = _
    unfold complete
    rw [hlead, hsound, hentry]
    rfl
  refine ⟨_, hstep, fun h => ?_⟩
  rcases hagrees.complete (s.key c) entry hentry hresolved hid with ⟨f, hfast, _⟩
  rw [← completeErr_fastCache s c entry e] at hfast
  rcases h.sound (s.key c) f hfast with ⟨e', hslow, _⟩
  rw [completeErr_slowMap, AList.lookup_erase] at hslow
  cases hslow

/-- The entry of a resolution in flight is invalidated, another resolution of the
collection succeeds, and then the first one fails. -/
def failsOverResolved : List (Action String) :=
  [.resolveCollectionId "app" "users", .checkSlowMap 0,
    .invalidateCollectionId "app" "users", .removeEntry 1,
    .resolveCollectionId "app" "users", .checkSlowMap 2, .complete 2 (.ok (8, 1)),
    .complete 0 (.error "unknown collection")]

theorem failsOverResolved_disagrees :
    exists s, StepFn.run step initial failsOverResolved = some s ∧
      s.fastCache.lookup "app.users" = some { collectionId := 8, manifestRev := 1 } ∧
      s.slowMap.lookup "app.users" = none ∧ ¬ FastAgrees s := by
  refine ⟨_, rfl, rfl, rfl, fun h => ?_⟩
  rcases h.sound "app.users" _ rfl with ⟨e, hslow, _⟩
  cases hslow

end CollectionResolver
end CouchbaseSdk
