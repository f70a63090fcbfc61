import CouchbaseSdk.CollectionResolver.Panics

/-!
# Invalidations and results in flight

A cached result is as old as the request the underlying resolver answered with it.
The cache does not store that age, so a run is recorded: when each resolution was
sent, when each invalidation took effect, and how old the results in the two caches
are.  The record is written along a run and never read by it.
-/

namespace CouchbaseSdk
namespace CollectionResolver

open Foundation

variable {cause : Type}

/-!
# The record of a run
-/

/-- Times are numbers of steps. -/
structure History where
  clock : Nat
  /-- When the call sent its resolution to the underlying resolver. -/
  sentAt : CallId -> Nat
  /-- When the call of `resolve_collection_id` started. -/
  startedAt : CallId -> Nat
  /-- The invalidations that have returned, with the key and the time of each. -/
  invalidated : List (String × Nat)
  /-- When the resolution was sent whose result the slow map holds under the key. -/
  slowSent : String -> Option Nat
  /-- The same for the fast cache. -/
  fastSent : String -> Option Nat
  /-- The key and the age of the cached result that was served to the call. -/
  served : CallId -> Option (String × Nat)

namespace History

def start : History :=
  { clock := 0
    sentAt := fun _ => 0
    startedAt := fun _ => 0
    invalidated := []
    slowSent := fun _ => none
    fastSent := fun _ => none
    served := fun _ => none }

def begin (h : History) (d : CallId) : History :=
  { h with startedAt := Function.update h.startedAt d h.clock }

def send (h : History) (c : CallId) : History :=
  { h with sentAt := Function.update h.sentAt c h.clock }

def serve (h : History) (d : CallId) (k : String) (age : Option Nat) : History :=
  { h with served := Function.update h.served d (age.map fun t => (k, t)) }

/-- The slow map takes the result of a resolution, and the fast cache is rebuilt. -/
def store (h : History) (k : String) (c : CallId) : History :=
  let slowSent := Function.update h.slowSent k (some (h.sentAt c))
  { h with slowSent := slowSent, fastSent := slowSent }

/-- The slow map drops its entry, and the fast cache stays as it is. -/
def forget (h : History) (k : String) : History :=
  { h with slowSent := Function.update h.slowSent k none }

/-- The slow map drops its entry, and the fast cache is rebuilt. -/
def invalidate (h : History) (k : String) : History :=
  let slowSent := Function.update h.slowSent k none
  { h with
    invalidated := (k, h.clock) :: h.invalidated
    slowSent := slowSent
    fastSent := slowSent }

def tick (h : History) : History :=
  { h with clock := h.clock + 1 }

end History

/-- What the action does in the state, as the record sees it. -/
def note (s : State cause) (h : History) : Action cause -> History
  | .resolveCollectionId scopeName collectionName =>
      let k := fullKeyPath scopeName collectionName
      (h.begin s.started).serve s.started k
        (if (s.fastCache.lookup k).isSome then h.fastSent k else none)
  | .checkSlowMap c =>
      if s.poisoned then h
      else
        match s.entry c with
        | none => h.send c
        | some entry =>
            match entry.pending with
            | some _ => h
            | none => h.serve c (s.key c) (h.slowSent (s.key c))
  | .complete c (.ok _) =>
      if s.poisoned ∨ s.entry c = none then h else h.store (s.key c) c
  | .complete c (.error _) =>
      if s.poisoned ∨ s.entry c = none then h else h.forget (s.key c)
  | .removeEntry c => if s.poisoned then h else h.invalidate (s.key c)
  | _ => h

/-- A run together with its record. -/
def tracedStep : StepFn (State cause × History) (Action cause) :=
  StepFn.traced step (fun s a h => (note s h a).tick)

/-- The record restricts nothing: every run has one. -/
theorem recorded_of_reach {guard : State cause -> Action cause -> Prop} {s : State cause}
    (hreach : StepFn.Reach step guard initial s) :
    exists h, StepFn.Reach tracedStep (fun p a => guard p.1 a)
      (initial, History.start) (s, h) :=
  hreach.exists_traced History.start

/-!
# Invalidations that are kept
-/

/-- No result of a resolution that was sent before an invalidation of its key is in a
cache after the invalidation, or was served from one to a call that started after it. -/
structure InvalidationsKept (h : History) : Prop where
  slow : forall k t sent, (k, t) ∈ h.invalidated -> h.slowSent k = some sent -> ¬ sent < t
  fast : forall k t sent, (k, t) ∈ h.invalidated -> h.fastSent k = some sent -> ¬ sent < t
  served : forall k t sent d, (k, t) ∈ h.invalidated -> h.served d = some (k, sent) ->
    t < h.startedAt d -> ¬ sent < t

/-- The result was asked for after every invalidation of the key. -/
def History.Fresh (h : History) (k : String) (sent : Nat) : Prop :=
  forall t, (k, t) ∈ h.invalidated -> t < sent

/-- The ages in the record are right about the invalidations in it. -/
structure History.Inv (h : History) : Prop where
  past : forall k t, (k, t) ∈ h.invalidated -> t < h.clock
  begun : forall d, h.startedAt d ≤ h.clock
  slow : forall k sent, h.slowSent k = some sent -> h.Fresh k sent
  fast : forall k sent, h.fastSent k = some sent -> h.Fresh k sent
  served : forall d k sent, h.served d = some (k, sent) ->
    forall t, (k, t) ∈ h.invalidated -> t < h.startedAt d -> t < sent

namespace History

variable {h : History}

theorem start_inv : Inv start where
  past := by
    intro k t h
    cases h
  begun := fun _ => Nat.le_refl 0
  slow := by
    intro k sent h
    cases h
  fast := by
    intro k sent h
    cases h
  served := by
    intro d k sent h
    cases h

theorem Inv.kept (hinv : Inv h) : InvalidationsKept h where
  slow := fun k t sent hmem hslow => Nat.not_lt_of_gt (hinv.slow k sent hslow t hmem)
  fast := fun k t sent hmem hfast => Nat.not_lt_of_gt (hinv.fast k sent hfast t hmem)
  served := fun k t sent d hmem hserved hlate =>
    Nat.not_lt_of_gt (hinv.served d k sent hserved t hmem hlate)

theorem Inv.tick (hinv : Inv h) : Inv h.tick where
  past := fun k t hmem => Nat.lt_succ_of_lt (hinv.past k t hmem)
  begun := fun d => Nat.le_succ_of_le (hinv.begun d)
  slow := hinv.slow
  fast := hinv.fast
  served := hinv.served

theorem Inv.send (hinv : Inv h) (c : CallId) : Inv (h.send c) where
  past := hinv.past
  begun := hinv.begun
  slow := hinv.slow
  fast := hinv.fast
  served := hinv.served

/-- What is served is fresh when it is served. -/
theorem Inv.serve (hinv : Inv h) (d : CallId) {k : String} {age : Option Nat}
    (hage : forall sent, age = some sent -> h.Fresh k sent) : Inv (h.serve d k age) where
  past := hinv.past
  begun := hinv.begun
  slow := hinv.slow
  fast := hinv.fast
  served := by
    intro d' k' sent hserved t hmem hlate
    change Function.update h.served d (age.map fun t => (k, t)) d' = some (k', sent) at hserved
    by_cases hd : d' = d
    · rw [hd, Function.update_self] at hserved
      rcases Option.map_eq_some_iff.mp hserved with ⟨sent', hsent, heq⟩
      cases heq
      exact hage sent hsent t hmem
    · rw [Function.update_of_ne hd] at hserved
      exact hinv.served d' k' sent hserved t hmem hlate

/-- A call that starts now comes after every invalidation. -/
theorem Inv.begin (hinv : Inv h) (d : CallId) {k : String} {age : Option Nat}
    (hage : forall sent, age = some sent -> h.Fresh k sent) :
    Inv ((h.begin d).serve d k age) where
  past := hinv.past
  begun := by
    intro d'
    change Function.update h.startedAt d h.clock d' ≤ h.clock
    by_cases hd : d' = d
    · rw [hd, Function.update_self]
    · rw [Function.update_of_ne hd]
      exact hinv.begun d'
  slow := hinv.slow
  fast := hinv.fast
  served := by
    intro d' k' sent hserved t hmem hlate
    by_cases hd : d' = d
    · change Function.update h.served d (age.map fun t => (k, t)) d' = some (k', sent)
        at hserved
      rw [hd, Function.update_self] at hserved
      rcases Option.map_eq_some_iff.mp hserved with ⟨sent', hsent, heq⟩
      cases heq
      exact hage sent hsent t hmem
    · have hlate' : t < h.startedAt d' := by
        change t < Function.update h.startedAt d h.clock d' at hlate
        rw [Function.update_of_ne hd] at hlate
        exact hlate
      exact (hinv.serve d hage).served d' k' sent hserved t hmem hlate'

theorem Inv.store (hinv : Inv h) (k : String) (c : CallId)
    (hfresh : h.Fresh k (h.sentAt c)) : Inv (h.store k c) := by
  have hslow : forall k' sent,
      Function.update h.slowSent k (some (h.sentAt c)) k' = some sent -> h.Fresh k' sent := by
    intro k' sent hsent
    by_cases hk : k' = k
    · rw [hk, Function.update_self] at hsent
      cases hsent
      rw [hk]
      exact hfresh
    · rw [Function.update_of_ne hk] at hsent
      exact hinv.slow k' sent hsent
  exact ⟨hinv.past, hinv.begun, hslow, hslow, hinv.served⟩

theorem Inv.forget (hinv : Inv h) (k : String) : Inv (h.forget k) where
  past := hinv.past
  begun := hinv.begun
  slow := by
    intro k' sent hsent
    change Function.update h.slowSent k none k' = some sent at hsent
    by_cases hk : k' = k
    · rw [hk, Function.update_self] at hsent
      cases hsent
    · rw [Function.update_of_ne hk] at hsent
      exact hinv.slow k' sent hsent
  fast := hinv.fast
  served := hinv.served

theorem Inv.invalidate (hinv : Inv h) (k : String) : Inv ((h.invalidate k).tick) := by
  have hslow : forall k' sent, Function.update h.slowSent k none k' = some sent ->
      (h.invalidate k).Fresh k' sent := by
    intro k' sent hsent t hmem
    by_cases hk : k' = k
    · rw [hk, Function.update_self] at hsent
      cases hsent
    · rw [Function.update_of_ne hk] at hsent
      rcases List.mem_cons.mp hmem with heq | hold
      · exact (hk (congrArg Prod.fst heq)).elim
      · exact hinv.slow k' sent hsent t hold
  constructor
  · intro k' t hmem
    rcases List.mem_cons.mp hmem with heq | hold
    · cases heq
      exact Nat.lt_succ_self h.clock
    · exact Nat.lt_succ_of_lt (hinv.past k' t hold)
  · exact fun d => Nat.le_succ_of_le (hinv.begun d)
  · exact hslow
  · exact hslow
  · intro d k' sent hserved t hmem hlate
    rcases List.mem_cons.mp hmem with heq | hold
    · -- Whoever has started by now was not started after this invalidation.
      cases heq
      exact absurd hlate (Nat.not_lt_of_le (hinv.begun d))
    · exact hinv.served d k' sent hserved t hold hlate

end History

/-!
# Runs without an invalidation under a resolution in flight
-/

structure FreshInv (s : State cause) (h : History) : Prop where
  record : h.Inv
  leading : forall c, s.phase c = .leading -> h.Fresh (s.key c) (h.sentAt c)

variable {s s' : State cause} {h : History} {a : Action cause}

theorem note_completed {c : CallId} {e : CollectionCacheEntry} (hsound : s.poisoned = false)
    (hentry : s.entry c = some e) : ¬ (s.poisoned = true ∨ s.entry c = none) := by
  rintro (hpoisoned | hnone)
  · rw [hsound] at hpoisoned
    cases hpoisoned
  · rw [hentry] at hnone
    cases hnone

theorem note_inv (hinv : FreshInv s h) (hstep : Step s a s') : (note s h a).tick.Inv := by
  cases hstep with
  | hit scopeName collectionName entry hfast =>
      refine (hinv.record.begin s.started ?_).tick
      intro sent hsent
      rw [hfast] at hsent
      exact hinv.record.fast _ sent hsent
  | miss scopeName collectionName hfast =>
      refine (hinv.record.begin s.started ?_).tick
      intro sent hsent
      rw [hfast] at hsent
      cases hsent
  | checkPoisoned c hhead hpoisoned =>
      have hnote : note s h (.checkSlowMap c) = h := if_pos hpoisoned
      rw [hnote]
      exact hinv.record.tick
  | found c entry n hhead hsound hentry hpending =>
      have hnote : note s h (.checkSlowMap c) = h := by
        simp [note, hsound, hentry, hpending]
      rw [hnote]
      exact hinv.record.tick
  | cached c entry hhead hsound hentry hpending =>
      have hnote : note s h (.checkSlowMap c) =
          h.serve c (s.key c) (h.slowSent (s.key c)) := by
        simp [note, hsound, hentry, hpending]
      rw [hnote]
      exact (hinv.record.serve c (hinv.record.slow _)).tick
  | lead c hhead hsound hentry =>
      have hnote : note s h (.checkSlowMap c) = h.send c := by
        simp [note, hsound, hentry]
      rw [hnote]
      exact (hinv.record.send c).tick
  | completePoisoned c resp hphase hpoisoned =>
      have hnote : note s h (.complete c resp) = h := by
        cases resp with
        | ok value => exact if_pos (Or.inl hpoisoned)
        | error e => exact if_pos (Or.inl hpoisoned)
      rw [hnote]
      exact hinv.record.tick
  | missing c resp hphase hsound hentry =>
      have hnote : note s h (.complete c resp) = h := by
        cases resp with
        | ok value => exact if_pos (Or.inr hentry)
        | error e => exact if_pos (Or.inr hentry)
      rw [hnote]
      exact hinv.record.tick
  | completeOk c entry collectionId manifestRev hphase hsound hentry =>
      have hnote : note s h (.complete c (.ok (collectionId, manifestRev))) =
          h.store (s.key c) c := if_neg (note_completed hsound hentry)
      rw [hnote]
      exact (hinv.record.store (s.key c) c (hinv.leading c hphase)).tick
  | completeErr c entry e hphase hsound hentry =>
      have hnote : note s h (.complete c (.error e)) = h.forget (s.key c) :=
        if_neg (note_completed hsound hentry)
      rw [hnote]
      exact (hinv.record.forget (s.key c)).tick
  | removePoisoned c hphase hpoisoned =>
      have hnote : note s h (.removeEntry c) = h := if_pos hpoisoned
      rw [hnote]
      exact hinv.record.tick
  | removeEntry c hphase hsound =>
      have hnote : note s h (.removeEntry c) = h.invalidate (s.key c) :=
        if_neg (Bool.eq_false_iff.mp hsound)
      rw [hnote]
      exact hinv.record.invalidate (s.key c)
  | listen | joinError | invalidate | cancel => exact hinv.record.tick

theorem note_sentAt (s : State cause) (h : History) (a : Action cause) {d : CallId}
    (hne : d ≠ a.actor s) : (note s h a).sentAt d = h.sentAt d := by
  have hsend : forall c, d ≠ c -> (h.send c).sentAt d = h.sentAt d :=
    fun c hne => Function.update_of_ne hne ..
  cases a with
  | checkSlowMap c =>
      unfold note
      dsimp only
      split
      · rfl
      · split
        · exact hsend c hne
        · split
          · rfl
          · rfl
  | complete c resp =>
      unfold note
      cases resp with
      | ok value =>
          dsimp only
          split
          · rfl
          · rfl
      | error e =>
          dsimp only
          split
          · rfl
          · rfl
  | removeEntry c =>
      unfold note
      dsimp only
      split
      · rfl
      · rfl
  | _ => rfl

theorem note_invalidated {k : String} {t : Nat} (hmem : (k, t) ∈ (note s h a).invalidated) :
    (k, t) ∈ h.invalidated ∨ exists c, a = .removeEntry c ∧ k = s.key c := by
  cases a with
  | checkSlowMap c =>
      unfold note at hmem
      dsimp only at hmem
      split at hmem
      · exact Or.inl hmem
      · split at hmem
        · exact Or.inl hmem
        · split at hmem
          · exact Or.inl hmem
          · exact Or.inl hmem
  | complete c resp =>
      unfold note at hmem
      cases resp with
      | ok value =>
          dsimp only at hmem
          split at hmem
          · exact Or.inl hmem
          · exact Or.inl hmem
      | error e =>
          dsimp only at hmem
          split at hmem
          · exact Or.inl hmem
          · exact Or.inl hmem
  | removeEntry c =>
      unfold note at hmem
      dsimp only at hmem
      split at hmem
      · exact Or.inl hmem
      · rcases List.mem_cons.mp hmem with heq | hold
        · exact Or.inr ⟨c, rfl, congrArg Prod.fst heq⟩
        · exact Or.inl hold
  | _ => exact Or.inl hmem

theorem FreshInv.step (hled : Led s) (hinv : FreshInv s h) (hguard : InvalidatesIdle s a)
    (hstep : Step s a s') : FreshInv s' (note s h a).tick where
  record := note_inv hinv hstep
  leading := by
    intro d hlead t hmem
    rcases leading_source hstep hlead with ⟨hold, hne, hkey⟩ | ⟨rfl, hentry, rfl⟩
    · change t < (note s h a).sentAt d
      rw [note_sentAt s h a hne]
      rw [hkey] at hmem
      rcases note_invalidated hmem with hbefore | ⟨c, rfl, hsame⟩
      · exact hinv.leading d hold t hbefore
      · exact (hguard d hold hsame).elim
    · have hnote : note s h (.checkSlowMap d) = h.send d := by
        simp [note, hled.unpoisoned, hentry]
      rw [hnote] at hmem ⊢
      have hsent : (h.send d).tick.sentAt d = h.clock := Function.update_self ..
      rw [hsent]
      exact hinv.record.past _ t hmem

theorem start_freshInv : FreshInv (initial : State cause) History.start where
  record := History.start_inv
  leading := by
    intro c h
    cases h

theorem freshInv_of_reach {p : State cause × History}
    (hreach : StepFn.Reach tracedStep (fun p a => InvalidatesIdle p.1 a)
      (initial, History.start) p) : FreshInv p.1 p.2 := by
  apply hreach.invariant_with (fun _ hreach => led_of_reach (StepFn.Reach.of_traced hreach))
    start_freshInv
  intro q a q' hled hinv hguard hstep
  rcases Option.map_eq_some_iff.mp hstep with ⟨s', hstep', rfl⟩
  exact hinv.step hled hguard (step_inv hstep')

/-- In every run in which no invalidation meets a resolution of its key in flight, no
invalidation is lost. -/
theorem invalidationsKept_of_reach {p : State cause × History}
    (hreach : StepFn.Reach tracedStep (fun p a => InvalidatesIdle p.1 a)
      (initial, History.start) p) : InvalidationsKept p.2 :=
  (freshInv_of_reach hreach).record.kept

/-- A collection is resolved, invalidated, and resolved again for two callers. -/
def resolvedAfresh : List (Action String) :=
  [.resolveCollectionId "app" "users", .checkSlowMap 0, .complete 0 (.ok (8, 1)),
    .invalidateCollectionId "app" "users", .removeEntry 1,
    .resolveCollectionId "app" "users", .checkSlowMap 2, .complete 2 (.ok (9, 2)),
    .resolveCollectionId "app" "users"]

theorem invalidationsKept_resolvedAfresh :
    exists p, StepFn.run tracedStep (initial, History.start) resolvedAfresh = some p ∧
      p.2.invalidated = [("app.users", 4)] ∧ p.2.served 3 = some ("app.users", 6) ∧
      InvalidationsKept p.2 := by
  refine ⟨_, rfl, rfl, rfl, ?_⟩
  apply @invalidationsKept_of_reach String
  have h₁ : StepFn.Reach tracedStep (fun p a => InvalidatesIdle p.1 a)
      ((initial : State String), History.start) _ :=
    StepFn.Reach.tail (Action.resolveCollectionId "app" "users") StepFn.Reach.refl trivial rfl
  have h₂ := StepFn.Reach.tail (Action.checkSlowMap 0) h₁ trivial rfl
  have h₃ := StepFn.Reach.tail (Action.complete 0 (.ok (8, 1))) h₂ trivial rfl
  have h₄ := StepFn.Reach.tail (Action.invalidateCollectionId "app" "users") h₃ trivial rfl
  have h₅ := StepFn.Reach.tail (Action.removeEntry 1) h₄
    (by
      intro d hd
      match d with
      | 0 => cases hd
      | 1 => cases hd
      | d + 2 => cases hd) rfl
  have h₆ := StepFn.Reach.tail (Action.resolveCollectionId "app" "users") h₅ trivial rfl
  have h₇ := StepFn.Reach.tail (Action.checkSlowMap 2) h₆ trivial rfl
  have h₈ := StepFn.Reach.tail (Action.complete 2 (.ok (9, 2))) h₇ trivial rfl
  exact StepFn.Reach.tail (Action.resolveCollectionId "app" "users") h₈ trivial rfl

/-- A resolution is in flight when its collection is invalidated, a newer one inserts its
entry, and the answer to the first is stored in it and served to a later call. -/
def overtaken : List (Action String) :=
  [.resolveCollectionId "app" "users", .checkSlowMap 0,
    .invalidateCollectionId "app" "users", .removeEntry 1,
    .resolveCollectionId "app" "users", .checkSlowMap 2, .complete 0 (.ok (8, 1)),
    .resolveCollectionId "app" "users"]

theorem invalidation_lost :
    exists p, StepFn.run tracedStep (initial, History.start) overtaken = some p ∧
      p.1.phase 3 = .returned (.ok (8, 1)) ∧ ¬ InvalidationsKept p.2 := by
  refine ⟨_, rfl, rfl, fun h => ?_⟩
  have hmem : ("app.users", 3) ∈ [("app.users", 3)] := List.mem_singleton_self _
  exact h.served "app.users" 3 1 3 hmem rfl (by decide) (by decide)

end CollectionResolver
end CouchbaseSdk
