import CouchbaseSdk.CollectionResolver.Steps

/-!
# Panics of the leader

A leader releases the lock of the slow map while it awaits the underlying resolver,
and expects to find its entry when it comes back.  It does as long as no invalidation
of its key takes effect in between; one that does makes the leader panic with the lock
held.
-/

namespace CouchbaseSdk
namespace CollectionResolver

open Foundation

variable {cause : Type} {s s' : State cause} {a : Action cause}

/-- The lock is not poisoned, no call has panicked, and every answer of the underlying
resolver that may still come is handed to its caller. -/
structure PanicFree (s : State cause) : Prop where
  unpoisoned : s.poisoned = false
  calm : forall c, s.phase c ≠ .panicked
  processed : forall c, s.phase c = .leading -> forall resp,
    exists s', step s (.complete c resp) = some s' ∧ s'.poisoned = false ∧
      s'.phase c = .returned (resp.mapError .resolver)

/-- An invalidation takes effect only while no resolution of its key is in flight. -/
def InvalidatesIdle (s : State cause) : Action cause -> Prop
  | .removeEntry c => forall d, s.phase d = .leading -> s.key d ≠ s.key c
  | _ => True

/-!
# One leader, one entry
-/

structure Led (s : State cause) : Prop where
  unpoisoned : s.poisoned = false
  calm : forall c, s.phase c ≠ .panicked
  entry : forall c, s.phase c = .leading -> exists e, s.entry c = some e
  unique : forall c d, s.phase c = .leading -> s.phase d = .leading -> s.key c = s.key d ->
    c = d

theorem initial_led : Led (initial : State cause) where
  unpoisoned := rfl
  calm := by
    intro c h
    cases h
  entry := by
    intro c h
    cases h
  unique := by
    intro c d h
    cases h

section
variable (hled : Led s) (hguard : InvalidatesIdle s a) (hstep : Step s a s')
include hled hstep

theorem led_unpoisoned : s'.poisoned = false := by
  apply Bool.eq_false_iff.mpr
  intro hpoisoned
  rcases poisoned_source hstep hpoisoned with hbefore | ⟨c, hlead, hnone⟩
  · rw [hled.unpoisoned] at hbefore
    cases hbefore
  · rcases hled.entry c hlead with ⟨e, he⟩
    rw [hnone] at he
    cases he

theorem led_calm (c : CallId) : s'.phase c ≠ .panicked := by
  intro hphase
  rcases panicked_source hstep hphase with hbefore | hpoisoned | ⟨hlead, hnone⟩
  · exact hled.calm c hbefore
  · rw [hled.unpoisoned] at hpoisoned
    cases hpoisoned
  · rcases hled.entry c hlead with ⟨e, he⟩
    rw [hnone] at he
    cases he

omit hstep in
/-- A call that finds no entry under its key is alone with the key. -/
theorem led_alone {c d : CallId} (hnone : s.entry c = none) (hlead : s.phase d = .leading) :
    s.key c ≠ s.key d := by
  intro hkey
  rcases hled.entry d hlead with ⟨e, he⟩
  unfold State.entry at he hnone
  rw [← hkey, hnone] at he
  cases he

theorem led_unique (c d : CallId) (hc : s'.phase c = .leading) (hd : s'.phase d = .leading)
    (hkey : s'.key c = s'.key d) : c = d := by
  rcases leading_source hstep hc with ⟨hlc, _, hkc⟩ | ⟨hca, hnc, rfl⟩
  · rcases leading_source hstep hd with ⟨hld, _, hkd⟩ | ⟨_, hnd, rfl⟩
    · exact hled.unique c d hlc hld (hkc.symm.trans (hkey.trans hkd))
    · rw [insertPending_key, insertPending_key] at hkey
      exact (led_alone hled hnd hlc hkey.symm).elim
  · rcases leading_source hstep hd with ⟨hld, _, _⟩ | ⟨hda, _, _⟩
    · rw [insertPending_key, insertPending_key] at hkey
      exact (led_alone hled hnc hld hkey).elim
    · rw [hca] at hda
      exact Action.checkSlowMap.inj hda

include hguard

/-- Between its insertion and its completion nobody touches the entry of a leader. -/
theorem leading_entry {c : CallId} (hc : s'.phase c = .leading) :
    (s.phase c = .leading ∧ s'.entry c = s.entry c) ∨ s' = insertPending s c := by
  rcases leading_source hstep hc with ⟨hlead, hne, hkey⟩ | ⟨_, _, hinsert⟩
  · refine Or.inl ⟨hlead, ?_⟩
    rcases hled.entry c hlead with ⟨e, he⟩
    rcases entry_kept hstep he with
      hkept | ⟨d, resp, rfl, hd, hsame⟩ | ⟨d, rfl, hsame⟩
    · rw [he]
      unfold State.entry
      rw [hkey]
      exact hkept
    · exact (hne (hled.unique c d hlead hd hsame.symm)).elim
    · exact (hguard c hlead hsame.symm).elim
  · exact Or.inr hinsert

theorem led_entry (c : CallId) (hc : s'.phase c = .leading) :
    exists e, s'.entry c = some e := by
  rcases leading_entry hled hguard hstep hc with ⟨hlead, hsame⟩ | rfl
  · rw [hsame]
    exact hled.entry c hlead
  · exact ⟨_, insertPending_entry s c⟩

theorem Led.step : Led s' where
  unpoisoned := led_unpoisoned hled hstep
  calm := led_calm hled hstep
  entry := led_entry hled hguard hstep
  unique := led_unique hled hstep

end

theorem led_of_reach (hreach : StepFn.Reach step InvalidatesIdle initial s) : Led s :=
  hreach.invariant initial_led
    (fun _ _ _ hled hguard hstep => hled.step hguard (step_inv hstep))

/-!
# No panic
-/

/-- With its entry in place a leader hands out the answer. -/
theorem processed_of_entry {c : CallId} {e : CollectionCacheEntry}
    (hlead : s.phase c = .leading) (hsound : s.poisoned = false)
    (hentry : s.entry c = some e) (resp : Except cause (UInt32 × UInt64)) :
    exists s', step s (.complete c resp) = some s' ∧ s'.poisoned = false ∧
      s'.phase c = .returned (resp.mapError .resolver) := by
  have hcomplete : step s (.complete c resp) = complete s c resp := rfl
  unfold complete at hcomplete
  rw [hlead, hsound, hentry] at hcomplete
  cases resp with
  | ok value =>
      refine ⟨completeOk s c e value.1 value.2, hcomplete, ?_, completeOk_phase_self ..⟩
      rw [completeOk_poisoned]
      exact hsound
  | error err =>
      refine ⟨completeErr s c e err, hcomplete, ?_, completeErr_phase_self ..⟩
      rw [completeErr_poisoned]
      exact hsound

/-- In every run in which no invalidation meets a resolution of its key in flight,
nothing panics. -/
theorem panicFree_of_reach (hreach : StepFn.Reach step InvalidatesIdle initial s) :
    PanicFree s := by
  have hled := led_of_reach hreach
  constructor
  · exact hled.unpoisoned
  · exact hled.calm
  · intro c hlead resp
    rcases hled.entry c hlead with ⟨e, he⟩
    exact processed_of_entry hlead hled.unpoisoned he resp

/-- A follower is woken by the answer, an invalidation comes between two resolutions, and
the second of them fails. -/
def invalidatedBetween : List (Action String) :=
  [.resolveCollectionId "app" "users", .checkSlowMap 0, .resolveCollectionId "app" "users",
    .checkSlowMap 1, .listen 1, .complete 0 (.ok (8, 1)),
    .invalidateCollectionId "app" "users", .removeEntry 2, .checkSlowMap 1,
    .complete 1 (.error "unknown collection")]

theorem panicFree_invalidatedBetween :
    exists s, StepFn.run step initial invalidatedBetween = some s ∧ PanicFree s := by
  refine ⟨_, rfl, ?_⟩
  apply panicFree_of_reach
  have h₁ : StepFn.Reach step InvalidatesIdle (initial : State String) _ :=
    StepFn.Reach.tail (Action.resolveCollectionId "app" "users") StepFn.Reach.refl trivial rfl
  have h₂ := StepFn.Reach.tail (Action.checkSlowMap 0) h₁ trivial rfl
  have h₃ := StepFn.Reach.tail (Action.resolveCollectionId "app" "users") h₂ trivial rfl
  have h₄ := StepFn.Reach.tail (Action.checkSlowMap 1) h₃ trivial rfl
  have h₅ := StepFn.Reach.tail (Action.listen 1) h₄ trivial rfl
  have h₆ := StepFn.Reach.tail (Action.complete 0 (.ok (8, 1))) h₅ trivial rfl
  have h₇ := StepFn.Reach.tail (Action.invalidateCollectionId "app" "users") h₆ trivial rfl
  have h₈ := StepFn.Reach.tail (Action.removeEntry 2) h₇
    (by
      intro d hd
      match d with
      | 0 => cases hd
      | 1 => cases hd
      | 2 => cases hd
      | d + 3 => cases hd) rfl
  have h₉ := StepFn.Reach.tail (Action.checkSlowMap 1) h₈ trivial rfl
  exact StepFn.Reach.tail (Action.complete 1 (.error "unknown collection")) h₉ trivial rfl

/-- An invalidation that does meet one leaves its leader without an entry: whatever the
underlying resolver answers next, the leader panics and poisons the lock. -/
theorem poisoned_of_removeEntry {c d : CallId} (hsound : s.poisoned = false)
    (hinv : s.phase c = .invalidating) (hlead : s.phase d = .leading)
    (hkey : s.key d = s.key c) (resp : Except cause (UInt32 × UInt64)) :
    exists s', StepFn.run step s [.removeEntry c, .complete d resp] = some s' ∧
      s'.phase d = .panicked ∧ s'.poisoned = true := by
  have hne : d ≠ c := by
    rintro rfl
    rw [hinv] at hlead
    cases hlead
  have hremove : step s (.removeEntry c) = some (invalidateEntry s c) := by
    change removeEntry s c = _
    unfold removeEntry
    rw [hinv, hsound]
    rfl
  have hleads : (invalidateEntry s c).phase d = .leading :=
    (setPhase_phase_ne s .invalidated hne).trans hlead
  have hentry : (invalidateEntry s c).entry d = none := by
    have hkeep : (invalidateEntry s c).key d = s.key c :=
      (setPhase_key s c d .invalidated).trans hkey
    unfold State.entry
    rw [hkeep]
    exact AList.lookup_erase _ s.slowMap
  have hcomplete : step (invalidateEntry s c) (.complete d resp) =
      some (missingEntry (invalidateEntry s c) d) := by
    have hstill : (invalidateEntry s c).poisoned = false := hsound
    change complete (invalidateEntry s c) d resp = _
    unfold complete
    rw [hleads, hstill, hentry]
    rfl
  refine ⟨missingEntry (invalidateEntry s c) d, ?_, missingEntry_phase_self _ d, rfl⟩
  simp only [StepFn.run, hremove, hcomplete, Option.bind_some]

/-- Two callers were given an id that the server has dropped, and both invalidate it; a
third caller resolves the collection again in between. -/
def invalidatedTwice (resp : Except String (UInt32 × UInt64)) : List (Action String) :=
  [.resolveCollectionId "app" "users", .checkSlowMap 0, .complete 0 (.ok (8, 1)),
    .resolveCollectionId "app" "users",
    .invalidateCollectionId "app" "users", .removeEntry 2,
    .resolveCollectionId "app" "users", .checkSlowMap 3,
    .invalidateCollectionId "app" "users", .removeEntry 4, .complete 3 resp]

theorem invalidatedTwice_panics :
    (exists s, StepFn.run step initial (invalidatedTwice (.ok (9, 2))) = some s ∧
        s.phase 3 = .panicked ∧ s.poisoned = true) ∧
      exists s, StepFn.run step initial (invalidatedTwice (.error "unknown collection")) =
          some s ∧ s.phase 3 = .panicked ∧ s.poisoned = true := by
  constructor
  · exact ⟨_, rfl, rfl, rfl⟩
  · exact ⟨_, rfl, rfl, rfl⟩

end CollectionResolver
end CouchbaseSdk
