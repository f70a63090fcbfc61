import CouchbaseSdk.ConfigWatcher.Model

/-!
# The polls are fair

A sleep stands between two polls, the loop goes on without either for two iterations at most,
and an endpoint is asked a third time only after all those that stayed in the list.
-/

namespace CouchbaseSdk
namespace ConfigWatcher

open Foundation
open ConfigManager (ConfigVersion ParsedConfig)

variable {endpoints : List String} {latestVersion : ConfigVersion} {shown : List Event}
  {s t : State} {endpoint : String}

/-!
# Sleeps between polls
-/

/-- The loop is at a poll, or in the sleep that follows it. -/
def Phase.IsBusy : Phase -> Prop
  | .polling _ | .pausing | .exited => True
  | _ => False

/-- The loop leaves a poll through a sleep. -/
theorem busy_or_slept (h : ObservedFn.Run step s shown t) (hbusy : s.phase.IsBusy) :
    .slept ∈ shown ∨ t.phase.IsBusy := by
  refine h.invariant (I := fun shown t => .slept ∈ shown ∨ t.phase.IsBusy) (Or.inr hbusy) ?_
  intro shown t a e u hinv hstep
  rcases hinv with hslept | hphase
  · exact Or.inl (List.mem_append_left _ hslept)
  · cases step_cases hstep with
    | reconfigure | publish => exact Or.inr hphase
    | answer | shutdown => exact Or.inr trivial
    | wake | recovered => exact Or.inl (List.mem_append_right _ (List.mem_singleton_self _))
    | iterate hat | wait hat | recover _ hat | restart _ hat | poll _ _ _ hat =>
        rw [hat] at hphase
        exact hphase.elim

/-- A poll starts in an iteration, and the endpoint is a recent one after it. -/
theorem polled_cases {version : ConfigVersion} {a : Action}
    (h : step s a = some (some (.polled endpoint version), t)) :
    endpoint ∉ s.recentEndpoints ∧ endpoint ∈ t.recentEndpoints ∧
      t.endpoints = s.endpoints ∧ t.phase = .polling endpoint ∧ ¬ s.phase.IsBusy := by
  generalize he : some (Event.polled endpoint version) = e at h
  cases step_cases h with
  | poll listed first rest hphase hremaining =>
      cases he
      have hmem : endpoint ∈ s.remainingEndpoints listed := by
        rw [hremaining]
        exact List.mem_cons_self
      have hnot := (List.mem_filter.mp hmem).2
      refine ⟨?_, List.mem_append_right _ (List.mem_singleton_self _), rfl, rfl, ?_⟩
      · simpa using hnot
      · rw [hphase]
        exact id
  | answer _ config =>
      cases config with
      | none => cases he
      | some config => cases he
  | _ => cases he

/-- Between two calls of `poll_one` the polling period goes by. -/
def RestsBetweenPolls (shown : List Event) : Prop :=
  forall front endpoint version between endpoint' version' back,
    shown = front ++ .polled endpoint version ::
      (between ++ .polled endpoint' version' :: back) -> .slept ∈ between

theorem rests_between (h : Run endpoints latestVersion shown s) : RestsBetweenPolls shown := by
  intro front endpoint version between endpoint' version' back hshown
  rw [hshown] at h
  rcases h.split with ⟨before, a, after, _, hfirst, hrest⟩
  rcases hrest.split with ⟨t, b, u, hbetween, hsecond, _⟩
  have hbusy : after.phase.IsBusy := by
    rw [(polled_cases hfirst).2.2.2.1]
    trivial
  exact (busy_or_slept hbetween hbusy).resolve_right (polled_cases hsecond).2.2.2.2

/-!
# Iterations without a wait
-/

def Event.isWait : Event -> Bool
  | .polled .. | .slept => true
  | _ => false

def Event.isIterated : Event -> Bool
  | .iterated => true
  | _ => false

/-- The iterations since the last poll or sleep. -/
def spins (shown : List Event) : Nat :=
  shown.foldl (fun n e => if e.isWait then 0 else if e.isIterated then n + 1 else n) 0

theorem spins_snoc (shown : List Event) (e : Event) :
    spins (shown ++ [e]) =
      if e.isWait then 0 else if e.isIterated then spins shown + 1 else spins shown := by
  unfold spins
  rw [List.foldl_append]
  rfl

theorem spins_append (front : List Event) {between : List Event}
    (h : forall e, e ∈ between -> e.isWait = false) :
    spins (front ++ between) = spins front + between.countP Event.isIterated := by
  induction between generalizing front with
  | nil => rw [List.append_nil, List.countP_nil, Nat.add_zero]
  | cons e between ih =>
      have hrest := ih (front ++ [e]) fun x hx => h x (List.mem_cons_of_mem e hx)
      rw [List.append_assoc, List.singleton_append, spins_snoc, h e List.mem_cons_self] at hrest
      rw [hrest, List.countP_cons]
      cases e.isIterated with
      | true =>
          simp only [Bool.false_eq_true, if_false, if_true]
          omega
      | false => simp

/-- There is nothing recent in the second iteration, so that it does not end in a third. -/
def Spun (n : Nat) (s : State) : Prop :=
  match s.phase with
  | .starting => n = 0 ∨ (n = 1 ∧ s.recentEndpoints = [])
  | .iterating _ => n ≤ 1 ∨ (n = 2 ∧ s.recentEndpoints = [])
  | _ => n ≤ 2

theorem Spun.le {n : Nat} (h : Spun n s) : n ≤ 2 := by
  unfold Spun at h
  split at h
  · omega
  · omega
  · exact h

theorem remaining_of_not_recent {listed : List String} (hmem : endpoint ∈ listed)
    (hrecent : endpoint ∉ s.recentEndpoints) : s.remainingEndpoints listed ≠ [] := by
  have hkept : endpoint ∈ s.remainingEndpoints listed :=
    List.mem_filter.mpr ⟨hmem, by simpa using hrecent⟩
  exact List.ne_nil_of_mem hkept

theorem spun (h : Run endpoints latestVersion shown s) : Spun (spins shown) s := by
  refine h.invariant (I := fun shown s => Spun (spins shown) s) (Or.inl rfl) ?_
  intro shown t a e u hspun hstep
  cases step_cases hstep with
  | reconfigure listed =>
      rw [Option.toList_some, spins_snoc]
      exact hspun
  | publish =>
      rw [Option.toList_none, List.append_nil]
      exact hspun
  | iterate hphase =>
      rw [Option.toList_some, spins_snoc]
      unfold Spun at hspun
      rw [hphase] at hspun
      rcases hspun with hzero | ⟨hone, hrecent⟩
      · exact Or.inl (by rw [hzero]; exact Nat.le_refl 1)
      · exact Or.inr ⟨by rw [hone]; rfl, hrecent⟩
  | wait | recover | shutdown =>
      rw [Option.toList_none, List.append_nil]
      exact hspun.le
  | restart listed hphase hne hremaining =>
      rw [Option.toList_none, List.append_nil]
      unfold Spun at hspun
      rw [hphase] at hspun
      rcases hspun with hone | ⟨_, hrecent⟩
      · exact (Nat.le_one_iff_eq_zero_or_eq_one.mp hone).imp id fun h => ⟨h, rfl⟩
      · rcases List.exists_mem_of_ne_nil listed hne with ⟨first, hfirst⟩
        have hnot : first ∉ t.recentEndpoints := by
          rw [hrecent]
          exact List.not_mem_nil
        exact absurd hremaining (remaining_of_not_recent hfirst hnot)
  | poll =>
      rw [Option.toList_some, spins_snoc]
      exact Nat.zero_le 2
  | answer endpoint config =>
      cases config with
      | none =>
          rw [Option.map_none, Option.toList_none, List.append_nil]
          exact hspun.le
      | some config =>
          rw [Option.map_some, Option.toList_some, spins_snoc]
          exact hspun.le
  | wake | recovered =>
      rw [Option.toList_some, spins_snoc]
      exact Or.inl rfl

/-- At most two iterations begin in a part of the run that has neither a poll nor a sleep. -/
def NeverSpins (shown : List Event) : Prop :=
  forall front between back, shown = front ++ between ++ back ->
    (forall e, e ∈ between -> e.isWait = false) -> between.countP Event.isIterated ≤ 2

theorem never_spins (h : Run endpoints latestVersion shown s) : NeverSpins shown := by
  intro front between back hshown hwaits
  rw [hshown] at h
  rcases h.exists_prefix with ⟨t, hprefix⟩
  have hle := (spun hprefix).le
  rw [spins_append front hwaits] at hle
  omega

/-!
# The rotation
-/

/-- The list of endpoints after these events. -/
def listed (endpoints : List String) (shown : List Event) : List String :=
  shown.foldl (fun current e =>
    match e with
    | .reconfigured new => new
    | _ => current) endpoints

theorem listed_snoc (endpoints : List String) (shown : List Event) (e : Event) :
    listed endpoints (shown ++ [e]) =
      match e with
      | .reconfigured new => new
      | _ => listed endpoints shown := by
  unfold listed
  rw [List.foldl_append]
  rfl

theorem endpoints_eq (h : Run endpoints latestVersion shown s) :
    s.endpoints = listed endpoints shown := by
  refine h.invariant (I := fun shown s => s.endpoints = listed endpoints shown) rfl ?_
  intro shown t a e u heq hstep
  cases step_cases hstep with
  | reconfigure new =>
      rw [Option.toList_some, listed_snoc]
      rfl
  | publish | wait | recover | restart | shutdown =>
      rw [Option.toList_none, List.append_nil]
      exact heq
  | answer endpoint config =>
      cases config with
      | none =>
          rw [Option.map_none, Option.toList_none, List.append_nil]
          exact heq
      | some config =>
          rw [Option.map_some, Option.toList_some, listed_snoc]
          exact heq
  | iterate | poll | wake | recovered =>
      rw [Option.toList_some, listed_snoc]
      exact heq

/-- The endpoint is in every list that comes. -/
def Stays (endpoint : String) (shown : List Event) : Prop :=
  forall new, .reconfigured new ∈ shown -> endpoint ∈ new

def Polled (endpoint : String) (shown : List Event) : Prop :=
  exists version, .polled endpoint version ∈ shown

def Event.polls (endpoint : String) : Event -> Bool
  | .polled other _ => other == endpoint
  | _ => false

/-- The endpoint that stays is in the list that the loop works with, too. -/
structure Kept (endpoint : String) (s : State) : Prop where
  shared : endpoint ∈ s.endpoints
  read : forall new, s.phase = .iterating new -> endpoint ∈ new
  failed : s.phase = .recovering -> endpoint ∈ s.recentEndpoints

/-- What `again` and `endpoint` are since a poll of `again`, with `n` more of them and none of
`endpoint`: before the end of a cycle, or in the next one, which does not end. -/
def Awaits (endpoint again : String) (n : Nat) (s : State) : Prop :=
  (n = 0 ∧ (again ∈ s.recentEndpoints ∨ endpoint ∉ s.recentEndpoints)) ∨
    (n = 1 ∧ again ∈ s.recentEndpoints ∧ endpoint ∉ s.recentEndpoints)

theorem recent_of_remaining {new : List String} (hremaining : s.remainingEndpoints new = [])
    (hmem : endpoint ∈ new) : endpoint ∈ s.recentEndpoints := by
  by_contra hnot
  exact remaining_of_not_recent hmem hnot hremaining

theorem Kept.step {a : Action} {e : Option Event} (h : Kept endpoint s)
    (hstep : step s a = some (e, t)) (hstays : Stays endpoint e.toList) : Kept endpoint t := by
  cases step_cases hstep with
  | reconfigure new => exact ⟨hstays new (List.mem_singleton_self _), h.read, h.failed⟩
  | publish => exact ⟨h.shared, h.read, h.failed⟩
  | iterate =>
      refine ⟨h.shared, fun new hnew => ?_, fun hphase => (by cases hphase)⟩
      cases hnew
      exact h.shared
  | recover new hphase hremaining =>
      refine ⟨h.shared, fun new hnew => (by cases hnew), fun _ => ?_⟩
      exact recent_of_remaining hremaining (h.read new hphase)
  | wait | restart | poll | answer | wake | recovered | shutdown =>
      exact ⟨h.shared, fun new hnew => (by cases hnew), fun hphase => (by cases hphase)⟩

/-- The end of a cycle in which the endpoint was asked. -/
theorem Awaits.restart {again : String} {n : Nat} (h : Awaits endpoint again n s)
    (hrecent : endpoint ∈ s.recentEndpoints) : Awaits endpoint again n s.restart := by
  rcases h with ⟨hn, _⟩ | ⟨_, _, hnot⟩
  · exact Or.inl ⟨hn, Or.inr List.not_mem_nil⟩
  · exact absurd hrecent hnot

theorem Awaits.poll {again first : String} {n : Nat} (h : Awaits endpoint again n s)
    (hfirst : first ∉ s.recentEndpoints) (hne : endpoint ≠ first)
    (ht : t.recentEndpoints = s.recentEndpoints ++ [first]) :
    Awaits endpoint again (n + if first = again then 1 else 0) t := by
  have hkeeps : endpoint ∉ s.recentEndpoints -> endpoint ∉ t.recentEndpoints := by
    intro hnot
    rw [ht]
    simpa using ⟨hnot, hne⟩
  by_cases hsame : first = again
  · rw [if_pos hsame]
    rw [hsame] at hfirst
    rcases h with ⟨hn, hagain | hnot⟩ | ⟨_, hagain, _⟩
    · exact absurd hagain hfirst
    · refine Or.inr ⟨by rw [hn], ?_, hkeeps hnot⟩
      rw [ht, hsame]
      exact List.mem_append_right _ (List.mem_singleton_self _)
    · exact absurd hagain hfirst
  · rw [if_neg hsame, Nat.add_zero]
    have hstill : again ∈ s.recentEndpoints -> again ∈ t.recentEndpoints := by
      intro hagain
      rw [ht]
      exact List.mem_append_left _ hagain
    exact h.imp (fun ⟨hn, hcases⟩ => ⟨hn, hcases.imp hstill hkeeps⟩)
      fun ⟨hn, hagain, hnot⟩ => ⟨hn, hstill hagain, hkeeps hnot⟩

theorem Awaits.step {again : String} {n : Nat} {a : Action} {e : Option Event}
    (h : Awaits endpoint again n s) (hkept : Kept endpoint s)
    (hstep : step s a = some (e, t)) (hpolled : ¬ Polled endpoint e.toList) :
    Awaits endpoint again (n + e.toList.countP (Event.polls again)) t := by
  cases step_cases hstep with
  | reconfigure | publish | iterate | wait | recover | wake | shutdown => exact h
  | answer _ config =>
      cases config with
      | none => exact h
      | some config => exact h
  | restart new hphase _ hremaining =>
      exact h.restart (recent_of_remaining hremaining (hkept.read new hphase))
  | recovered hphase => exact h.restart (hkept.failed hphase)
  | poll new first rest hphase hremaining =>
      have hne : endpoint ≠ first := by
        intro heq
        exact hpolled ⟨s.latestVersion, by rw [heq]; exact List.mem_singleton_self _⟩
      have hcount : [Event.polled first s.latestVersion].countP (Event.polls again) =
          if first = again then 1 else 0 := by
        rw [List.countP_singleton]
        simp [Event.polls]
      rw [Option.toList_some, hcount]
      exact h.poll (polled_cases hstep).1 hne rfl

/-- No endpoint is asked a third time before one that stays in the list has been asked. -/
theorem awaits_of_run {again : String} (h : ObservedFn.Run step s shown t)
    (hkept : Kept endpoint s) (hagain : again ∈ s.recentEndpoints)
    (hstays : Stays endpoint shown) (hpolled : ¬ Polled endpoint shown) :
    Awaits endpoint again (shown.countP (Event.polls again)) t := by
  have hboth : Stays endpoint shown -> ¬ Polled endpoint shown ->
      Kept endpoint t ∧ Awaits endpoint again (shown.countP (Event.polls again)) t := by
    refine h.invariant
      (I := fun shown t => Stays endpoint shown -> ¬ Polled endpoint shown ->
        Kept endpoint t ∧ Awaits endpoint again (shown.countP (Event.polls again)) t)
      (fun _ _ => ⟨hkept, Or.inl ⟨rfl, Or.inl hagain⟩⟩) ?_
    intro shown t a e u hinv hstep hstays hpolled
    have hbefore := hinv (fun new hnew => hstays new (List.mem_append_left _ hnew))
      fun ⟨version, hmem⟩ => hpolled ⟨version, List.mem_append_left _ hmem⟩
    have hsteps := hbefore.2.step hbefore.1 hstep
      fun ⟨version, hmem⟩ => hpolled ⟨version, List.mem_append_right _ hmem⟩
    rw [List.countP_append]
    exact ⟨hbefore.1.step hstep fun new hnew => hstays new (List.mem_append_right _ hnew), hsteps⟩
  exact (hboth hstays hpolled).2

/-- An endpoint that is in the list from a poll of another one on is asked before this is asked
a third time. -/
def Rotates (endpoints : List String) (shown : List Event) : Prop :=
  forall front again v first v' second v'' back endpoint,
    shown = front ++ .polled again v :: (first ++ .polled again v' ::
      (second ++ .polled again v'' :: back)) ->
    endpoint ∈ listed endpoints front -> Stays endpoint first -> Stays endpoint second ->
      Polled endpoint (.polled again v :: (first ++ .polled again v' :: second))

theorem rotates (h : Run endpoints latestVersion shown s) : Rotates endpoints shown := by
  intro front again v first v' second v'' back endpoint hshown hlisted hfirst hsecond
  by_contra hnot
  rw [hshown] at h
  rcases h.split with ⟨before, a, after, hfront, hpoll, hrest⟩
  rcases polled_cases hpoll with ⟨_, hagain, hsame, hphase, _⟩
  have hkept : Kept endpoint after := by
    refine ⟨?_, fun new hnew => ?_, fun hrecovering => ?_⟩
    · rw [hsame, endpoints_eq hfront]
      exact hlisted
    · rw [hphase] at hnew
      cases hnew
    · rw [hphase] at hrecovering
      cases hrecovering
  have hshape : first ++ .polled again v' :: (second ++ .polled again v'' :: back) =
      (first ++ .polled again v' :: second) ++ .polled again v'' :: back := by
    simp
  rw [hshape] at hrest
  rcases hrest.split with ⟨third, b, u, hmiddle, hthird, _⟩
  have hawaits := awaits_of_run hmiddle hkept hagain
    (fun new hnew => by
      rcases List.mem_append.mp hnew with hin | hin
      · exact hfirst new hin
      · rcases List.mem_cons.mp hin with heq | hin
        · cases heq
        · exact hsecond new hin)
    (fun ⟨version, hmem⟩ => hnot ⟨version, List.mem_cons_of_mem _ hmem⟩)
  have hfresh := (polled_cases hthird).1
  rcases hawaits with ⟨hzero, _⟩ | ⟨_, hrecent, _⟩
  · rw [List.countP_eq_zero] at hzero
    have hpolls := hzero (.polled again v')
      (List.mem_append_right _ List.mem_cons_self)
    simp [Event.polls] at hpolls
  · exact hfresh hrecent

/-!
# Every run
-/

/-- The polls of every run are apart, go on, and go round, however the list is changed. -/
theorem watch_fair (h : Run endpoints latestVersion shown s) :
    RestsBetweenPolls shown ∧ NeverSpins shown ∧ Rotates endpoints shown :=
  ⟨rests_between h, never_spins h, rotates h⟩

/-- Two endpoints of which the second fails, and a third that is listed while they are asked. -/
theorem watch_fair_reconfigured :
    exists shown s, Run ["a", "b", "a"] ⟨1, 7⟩ shown s ∧
      shown = [.iterated, .polled "a" ⟨1, 7⟩, .slept, .iterated, .polled "b" ⟨1, 7⟩,
        .reconfigured ["c", "a", "b"], .slept, .iterated, .polled "c" ⟨1, 7⟩, .slept, .iterated,
        .iterated, .polled "c" ⟨1, 7⟩] ∧
      RestsBetweenPolls shown ∧ NeverSpins shown ∧ Rotates ["a", "b", "a"] shown := by
  have hrun : ObservedFn.perform step (initial ["a", "b", "a"] ⟨1, 7⟩)
      [.iterate, .turn, .answer (some none), .wake, .iterate, .turn,
        .reconfigure ["c", "a", "b"], .answer none, .wake, .iterate, .turn, .answer (some none),
        .wake, .iterate, .turn, .iterate, .turn] = some _ := rfl
  exact ⟨_, _, ObservedFn.run_of_perform hrun, rfl, watch_fair (ObservedFn.run_of_perform hrun)⟩

end ConfigWatcher
end CouchbaseSdk
