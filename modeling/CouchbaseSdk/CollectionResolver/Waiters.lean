import CouchbaseSdk.CollectionResolver.Panics

/-!
# Waiters

A follower waits on the `Notify` of a pending entry, and the leader of that entry is
the only one to notify it.  The wait ends as long as the leader comes back to an entry
that is still its own, and every follower that found the `Notify` listens by then.
-/

namespace CouchbaseSdk
namespace CollectionResolver

open Foundation

variable {cause : Type} {s s' : State cause} {a : Action cause}

/-- The call runs a resolution whose end, whatever the answer, wakes the waiters of `n`. -/
def WillNotify (s : State cause) (c : CallId) (n : NotifyId) : Prop :=
  s.phase c = .leading ∧ forall resp, exists s', step s (.complete c resp) = some s' ∧
    forall w, s.phase w = .waiting n -> s'.phase w = .woken

/-- The call runs a resolution whose end, whatever the answer, leaves no pending entry
under the key. -/
def WillClear (s : State cause) (c : CallId) (k : String) : Prop :=
  s.phase c = .leading ∧ forall resp, exists s', step s (.complete c resp) = some s' ∧
    forall e, s'.slowMap.lookup k = some e -> e.pending = none

/-- Nobody waits for a notification that can no longer come. -/
structure Served (s : State cause) : Prop where
  waiting : forall w n, s.phase w = .waiting n -> exists c, WillNotify s c n
  pending : forall k e n, s.slowMap.lookup k = some e -> e.pending = some n ->
    exists c, WillClear s c k

/-- No leader is dropped or fails to join, no invalidation takes effect while a
resolution of its key is in flight, and no resolution completes while a call has found
the `Notify` of its key and does not listen yet. -/
def KeepsLeaders (s : State cause) : Action cause -> Prop
  | .removeEntry c => forall d, s.phase d = .leading -> s.key d ≠ s.key c
  | .complete c _ => forall w n, s.phase w = .found n -> s.key w ≠ s.key c
  | .joinError _ _ => False
  | .cancel c => s.phase c ≠ .leading
  | _ => True

theorem KeepsLeaders.invalidatesIdle (h : KeepsLeaders s a) : InvalidatesIdle s a := by
  cases a with
  | removeEntry c => exact h
  | _ => trivial

/-!
# Pending entries are led, followers hold on to pending entries
-/

structure Attended (s : State cause) : Prop where
  born : forall c, s.Born c
  leader : forall k e n, s.slowMap.lookup k = some e -> e.pending = some n ->
    exists c, s.phase c = .leading ∧ s.key c = k
  pending : forall c, s.phase c = .leading ->
    exists e n, s.entry c = some e ∧ e.pending = some n
  follower : forall w n, (s.phase w).awaited = some n ->
    exists e, s.entry w = some e ∧ e.pending = some n

theorem initial_attended : Attended (initial : State cause) where
  born := by
    intro c h
    exact (h rfl).elim
  leader := by
    intro k e n h
    cases h
  pending := by
    intro c h
    cases h
  follower := by
    intro w n h
    cases h

section
variable (hled : Led s) (hinv : Attended s) (hguard : KeepsLeaders s a)
  (hstep : Step s a s')
include hled hinv hguard hstep

theorem attended_leader {k : String} {e : CollectionCacheEntry} {n : NotifyId}
    (hentry : s'.slowMap.lookup k = some e) (hpending : e.pending = some n) :
    exists c, s'.phase c = .leading ∧ s'.key c = k := by
  rcases entry_source hstep hentry with hold | ⟨c, hkey, rfl⟩ | hnone
  · rcases hinv.leader k e n hold hpending with ⟨c, hlead, hkey⟩
    have hborn : c < s.started := by
      apply hinv.born c
      rw [hlead]
      simp
    rcases leading_kept hstep hlead (Nat.ne_of_lt hborn) with
      ⟨hleads, hkeep⟩ | ⟨resp, rfl⟩ | ⟨text, rfl⟩ | rfl
    · exact ⟨c, hleads, hkeep.trans hkey⟩
    · rw [← hkey] at hentry
      have hclear := complete_clears hstep hled.unpoisoned hentry
      rw [hpending] at hclear
      cases hclear
    · exact hguard.elim
    · exact (hguard hlead).elim
  · exact ⟨c, insertPending_phase_self s c, (insertPending_key s c c).trans hkey⟩
  · rw [hpending] at hnone
    cases hnone

theorem attended_pending {c : CallId} (hc : s'.phase c = .leading) :
    exists e n, s'.entry c = some e ∧ e.pending = some n := by
  rcases leading_entry hled hguard.invalidatesIdle hstep hc with ⟨hlead, hsame⟩ | rfl
  · rw [hsame]
    exact hinv.pending c hlead
  · exact ⟨_, s.notifies, insertPending_entry s c, rfl⟩

theorem attended_follower {w : CallId} {n : NotifyId}
    (hphase : (s'.phase w).awaited = some n) :
    exists e, s'.entry w = some e ∧ e.pending = some n := by
  rcases awaited_source hstep hphase with ⟨hbefore, hkey⟩ | ⟨rfl, e, hentry, hpending⟩
  · rcases hinv.follower w n hbefore with ⟨e, hentry, hpending⟩
    rcases entry_kept hstep hentry with
      hkept | ⟨c, resp, rfl, hlead, hsame⟩ | ⟨c, rfl, hsame⟩
    · refine ⟨e, ?_, hpending⟩
      unfold State.entry
      rw [hkey]
      exact hkept
    · have hshared : s.entry c = some e := by
        unfold State.entry
        rw [hsame]
        exact hentry
      cases hfollows : s.phase w with
      | found m => exact (hguard w m hfollows hsame.symm).elim
      | waiting m =>
          rw [hfollows] at hbefore
          cases hbefore
          rw [complete_wakes hstep hled.unpoisoned hshared hpending hfollows] at hphase
          cases hphase
      | _ =>
          rw [hfollows] at hbefore
          cases hbefore
    · rcases hinv.leader _ e n hentry hpending with ⟨d, hlead, hled⟩
      exact (hguard d hlead (hled.trans hsame.symm)).elim
  · refine ⟨e, ?_, hpending⟩
    unfold State.entry
    rw [setPhase_key]
    exact hentry

theorem Attended.step : Attended s' where
  born := born_step hstep hinv.born
  leader := fun _ _ _ hentry hpending =>
    attended_leader hled hinv hguard hstep hentry hpending
  pending := fun _ hlead => attended_pending hled hinv hguard hstep hlead
  follower := fun _ _ hphase => attended_follower hled hinv hguard hstep hphase

end

theorem KeepsLeaders.led (hreach : StepFn.Reach step KeepsLeaders initial s) : Led s :=
  led_of_reach (hreach.weaken (fun _ _ => KeepsLeaders.invalidatesIdle))

theorem attended_of_reach (hreach : StepFn.Reach step KeepsLeaders initial s) :
    Attended s :=
  hreach.invariant_with (fun _ => KeepsLeaders.led) initial_attended
    (fun _ _ _ hled hinv hguard hstep => hinv.step hled hguard (step_inv hstep))

/-!
# Every waiter is served
-/

/-- The completion of a leader clears its pending entry and wakes those who wait on it. -/
theorem will_of_pending {c : CallId} {e : CollectionCacheEntry} {n : NotifyId}
    (hsound : s.poisoned = false) (hlead : s.phase c = .leading)
    (hentry : s.entry c = some e) (hpending : e.pending = some n) :
    WillNotify s c n ∧ WillClear s c (s.key c) := by
  constructor
  · refine ⟨hlead, fun resp => ?_⟩
    rcases processed_of_entry hlead hsound hentry resp with ⟨s', hstep, _, _⟩
    exact ⟨s', hstep, fun _ => complete_wakes (step_inv hstep) hsound hentry hpending⟩
  · refine ⟨hlead, fun resp => ?_⟩
    rcases processed_of_entry hlead hsound hentry resp with ⟨s', hstep, _, _⟩
    exact ⟨s', hstep, fun _ => complete_clears (step_inv hstep) hsound⟩

/-- In every run that keeps the leaders, no waiter is stranded. -/
theorem served_of_reach (hreach : StepFn.Reach step KeepsLeaders initial s) : Served s := by
  have hsound := (KeepsLeaders.led hreach).unpoisoned
  have hinv := attended_of_reach hreach
  have hentryOf : forall {c : CallId} {k : String} {e : CollectionCacheEntry},
      s.slowMap.lookup k = some e -> s.key c = k -> s.entry c = some e := by
    rintro c _ e hentry rfl
    exact hentry
  constructor
  · intro w n hwait
    have hawaited : (s.phase w).awaited = some n := by
      rw [hwait]
      rfl
    rcases hinv.follower w n hawaited with ⟨e, hentry, hpending⟩
    rcases hinv.leader _ e n hentry hpending with ⟨c, hlead, hkey⟩
    exact ⟨c, (will_of_pending hsound hlead (hentryOf hentry hkey) hpending).1⟩
  · intro k e n hentry hpending
    rcases hinv.leader k e n hentry hpending with ⟨c, hlead, rfl⟩
    exact ⟨c, (will_of_pending hsound hlead hentry hpending).2⟩

/-- A follower gives up, the leader fails, and the follower that was woken leads the next
resolution, on which another one waits. -/
def failedOver : List (Action String) :=
  [.resolveCollectionId "app" "users", .checkSlowMap 0, .resolveCollectionId "app" "users",
    .checkSlowMap 1, .listen 1, .resolveCollectionId "app" "users", .checkSlowMap 2,
    .listen 2, .cancel 2, .complete 0 (.error "timeout"), .checkSlowMap 1,
    .resolveCollectionId "app" "users", .checkSlowMap 3, .listen 3]

theorem served_failedOver :
    exists s, StepFn.run step initial failedOver = some s ∧ s.phase 3 = .waiting 1 ∧
      Served s := by
  refine ⟨_, rfl, rfl, ?_⟩
  apply served_of_reach
  have h₁ : StepFn.Reach step KeepsLeaders (initial : State String) _ :=
    StepFn.Reach.tail (Action.resolveCollectionId "app" "users") StepFn.Reach.refl trivial rfl
  have h₂ := StepFn.Reach.tail (Action.checkSlowMap 0) h₁ trivial rfl
  have h₃ := StepFn.Reach.tail (Action.resolveCollectionId "app" "users") h₂ trivial rfl
  have h₄ := StepFn.Reach.tail (Action.checkSlowMap 1) h₃ trivial rfl
  have h₅ := StepFn.Reach.tail (Action.listen 1) h₄ trivial rfl
  have h₆ := StepFn.Reach.tail (Action.resolveCollectionId "app" "users") h₅ trivial rfl
  have h₇ := StepFn.Reach.tail (Action.checkSlowMap 2) h₆ trivial rfl
  have h₈ := StepFn.Reach.tail (Action.listen 2) h₇ trivial rfl
  have h₉ := StepFn.Reach.tail (Action.cancel 2) h₈ (by intro h; cases h) rfl
  have h₁₀ := StepFn.Reach.tail (Action.complete 0 (.error "timeout")) h₉
    (by
      intro w n hw
      match w with
      | 0 => cases hw
      | 1 => cases hw
      | 2 => cases hw
      | w + 3 => cases hw) rfl
  have h₁₁ := StepFn.Reach.tail (Action.checkSlowMap 1) h₁₀ trivial rfl
  have h₁₂ := StepFn.Reach.tail (Action.resolveCollectionId "app" "users") h₁₁ trivial rfl
  have h₁₃ := StepFn.Reach.tail (Action.checkSlowMap 3) h₁₂ trivial rfl
  exact StepFn.Reach.tail (Action.listen 3) h₁₃ trivial rfl

/-!
# Stranded waiters
-/

/-- A leader that leaves without completing leaves a pending entry that nobody clears. -/
theorem stranded_of_left {c : CallId} {e : CollectionCacheEntry} {n : NotifyId}
    {phase : Phase cause} (hled : Led s) (hlead : s.phase c = .leading)
    (hentry : s.entry c = some e) (hpending : e.pending = some n)
    (hleft : phase ≠ .leading) : ¬ Served (s.setPhase c phase) := by
  intro hserved
  rcases hserved.pending (s.key c) e n hentry hpending with ⟨d, hd, hclears⟩
  have hne : d ≠ c := by
    rintro rfl
    rw [setPhase_phase_self] at hd
    exact hleft hd
  rw [setPhase_phase_ne s phase hne] at hd
  rcases hclears (.ok (0, 0)) with ⟨s', hstep, hclear⟩
  rcases entry_kept (step_inv hstep) hentry with
    hkept | ⟨d', resp, haction, _, hkey⟩ | ⟨d', haction, _⟩
  · have hnone := hclear e hkept
    rw [hpending] at hnone
    cases hnone
  · cases haction
    rw [setPhase_key] at hkey
    exact hne (hled.unique d c hd hlead hkey)
  · cases haction

/-- A leader that is dropped, or whose task fails to join, always strands its key. -/
theorem leader_lost_strands (hreach : StepFn.Reach step KeepsLeaders initial s)
    {c : CallId} (hlead : s.phase c = .leading) :
    (exists s', step s (.cancel c) = some s' ∧ ¬ Served s') ∧
      forall text, exists s', step s (.joinError c text) = some s' ∧ ¬ Served s' := by
  have hled := KeepsLeaders.led hreach
  rcases (attended_of_reach hreach).pending c hlead with ⟨e, n, hentry, hpending⟩
  have hstrands : forall phase : Phase cause, phase ≠ .leading ->
      ¬ Served (s.setPhase c phase) :=
    fun _ => stranded_of_left hled hlead hentry hpending
  constructor
  · refine ⟨s.setPhase c .cancelled, ?_, hstrands _ (by simp)⟩
    change cancel s c = _
    unfold cancel
    rw [hlead]
    rfl
  · intro text
    refine ⟨s.setPhase c (.returned (.error (.message
      ("failed to join resolve collection id task: " ++ text)))), ?_, hstrands _ (by simp)⟩
    change joinError s c text = _
    unfold joinError
    rw [hlead]

def Strands (acts : List (Action String)) : Prop :=
  exists s, StepFn.run step initial acts = some s ∧ ¬ Served s

/-- The future of the leader is dropped while a follower waits. -/
def leaderDropped : List (Action String) :=
  [.resolveCollectionId "app" "users", .checkSlowMap 0, .resolveCollectionId "app" "users",
    .checkSlowMap 1, .listen 1, .cancel 0]

/-- The leader completes after the follower found the `Notify` and before it listens. -/
def lostWakeup : List (Action String) :=
  [.resolveCollectionId "app" "users", .checkSlowMap 0, .resolveCollectionId "app" "users",
    .checkSlowMap 1, .complete 0 (.ok (8, 1)), .listen 1]

/-- The entry is invalidated under the leader, which panics when it completes. -/
def leaderInvalidated : List (Action String) :=
  [.resolveCollectionId "app" "users", .checkSlowMap 0, .resolveCollectionId "app" "users",
    .checkSlowMap 1, .listen 1, .invalidateCollectionId "app" "users", .removeEntry 2,
    .complete 0 (.ok (8, 1))]

theorem waiters_stranded :
    Strands leaderDropped ∧ Strands lostWakeup ∧ Strands leaderInvalidated := by
  have hstrands : forall s : State String, s.phase 1 = .waiting 0 ->
      (forall c, s.phase c ≠ .leading) -> ¬ Served s := by
    intro s hwait hnobody hserved
    rcases hserved.waiting 1 0 hwait with ⟨c, hlead, _⟩
    exact hnobody c hlead
  refine ⟨⟨_, rfl, hstrands _ rfl ?_⟩, ⟨_, rfl, hstrands _ rfl ?_⟩, ⟨_, rfl, hstrands _ rfl ?_⟩⟩
  · intro c h
    match c with
    | 0 => cases h
    | 1 => cases h
    | c + 2 => cases h
  · intro c h
    match c with
    | 0 => cases h
    | 1 => cases h
    | c + 2 => cases h
  · intro c h
    match c with
    | 0 => cases h
    | 1 => cases h
    | 2 => cases h
    | c + 3 => cases h

end CollectionResolver
end CouchbaseSdk
