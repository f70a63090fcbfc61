import CouchbaseSdk.Ensure.Runs

/-!
# Waiting for resources

The search helper is right in every run.  The others are right while no target has been found
before, and the components while the nodes of a poll are found together.
-/

namespace CouchbaseSdk
namespace Ensure

/-!
# Refreshes
-/

namespace SearchIndex

def missAt : Event Error -> Option Nat
  | .missed _ now => some now
  | _ => none

def refreshOf : Event Error -> Option String
  | .refreshed endpoint => some endpoint
  | _ => none

/-- The time of the first miss. -/
def firstMiss (events : List (Event Error)) : Option Nat :=
  events.findSome? missAt

def refreshes (events : List (Event Error)) : List String :=
  events.filterMap refreshOf

/-- The node has missed five seconds after the first miss, or later. -/
def LateMiss (events : List (Event Error)) (endpoint : String) : Prop :=
  exists first now, firstMiss events = some first ∧ .missed endpoint now ∈ events ∧
    first + fiveSeconds ≤ now

/-- A node with a late miss is refreshed once, and no other is refreshed. -/
structure RefreshesOnce (events : List (Event Error)) : Prop where
  once : (refreshes events).Nodup
  late : forall endpoint, endpoint ∈ refreshes events <-> LateMiss events endpoint

/-- The state of a helper behind the events. -/
structure Keeps (events : List (Event Error)) (s : State) : Prop where
  first : s.firstRefreshPoll = firstMiss events
  refreshed : s.refreshedEndpoints = refreshes events
  right : RefreshesOnce events

theorem keeps_new : Keeps [] State.new where
  first := rfl
  refreshed := rfl
  right :=
    { once := List.nodup_nil
      late := fun endpoint =>
        ⟨fun h => absurd h List.not_mem_nil, fun ⟨_, _, h, _⟩ => (by cases h)⟩ }

theorem firstMiss_append (events more : List (Event Error)) :
    firstMiss (events ++ more) = (firstMiss events).or (firstMiss more) := by
  unfold firstMiss
  rw [List.findSome?_append]

theorem refreshes_append (events more : List (Event Error)) :
    refreshes (events ++ more) = refreshes events ++ refreshes more :=
  List.filterMap_append

theorem firstMiss_ne_none {events : List (Event Error)} {endpoint : String} {now : Nat}
    (h : .missed endpoint now ∈ events) : firstMiss events ≠ none := by
  intro hnone
  have hmiss := List.findSome?_eq_none_iff.mp hnone _ h
  cases hmiss

/-- An answer of a node changes nothing. -/
theorem Keeps.asked {events : List (Event Error)} {s : State} (h : Keeps events s)
    (endpoint : String) (a : Except Error Bool) : Keeps (events ++ [.asked endpoint a]) s := by
  have hfirst : firstMiss (events ++ [.asked endpoint a]) = firstMiss events := by
    rw [firstMiss_append]
    exact Option.or_none
  have hrefreshes : refreshes (events ++ [.asked endpoint a]) = refreshes events := by
    rw [refreshes_append]
    exact List.append_nil _
  refine ⟨h.first.trans hfirst.symm, h.refreshed.trans hrefreshes.symm, ?_⟩
  refine ⟨hrefreshes.symm ▸ h.right.once, ?_⟩
  intro other
  rw [hrefreshes, h.right.late]
  unfold LateMiss
  rw [hfirst]
  simp

theorem lateMiss_missed {events more : List (Event Error)} {endpoint : String} {first now : Nat}
    (hfirst : firstMiss events = some first) (hmore : firstMiss more = none) (other : String) :
    LateMiss (events ++ .missed endpoint now :: more) other <->
      LateMiss events other ∨ (other = endpoint ∧ first + fiveSeconds ≤ now) := by
  have hsame : firstMiss (events ++ .missed endpoint now :: more) = some first := by
    rw [firstMiss_append, hfirst]
    rfl
  unfold LateMiss
  rw [hsame, hfirst]
  constructor
  · rintro ⟨first', now', hfirst', hmem, hlate⟩
    rcases List.mem_append.mp hmem with hold | hnew
    · exact Or.inl ⟨first', now', hfirst', hold, hlate⟩
    · rcases List.mem_cons.mp hnew with hthis | hbehind
      · cases hthis
        cases hfirst'
        exact Or.inr ⟨rfl, hlate⟩
      · exact absurd hmore (firstMiss_ne_none hbehind)
  · rintro (⟨first', now', hfirst', hmem, hlate⟩ | ⟨hother, hlate⟩)
    · exact ⟨first', now', hfirst', List.mem_append_left _ hmem, hlate⟩
    · rw [hother]
      exact ⟨first, now, rfl, List.mem_append_right _ List.mem_cons_self, hlate⟩

/-- The first miss is not late. -/
theorem not_lateMiss_first {events : List (Event Error)} {endpoint : String} {now : Nat}
    (hnone : firstMiss events = none) (other : String) :
    ¬ LateMiss (events ++ [.missed endpoint now]) other := by
  rintro ⟨first, now', hfirst, hmem, hlate⟩
  rw [firstMiss_append, hnone] at hfirst
  cases hfirst
  rcases List.mem_append.mp hmem with hold | hnew
  · exact firstMiss_ne_none hold hnone
  · cases List.mem_singleton.mp hnew
    have hpos : 0 < fiveSeconds := by decide
    omega

/-- A miss is recorded when it is the first, and refreshes its node when it is the first late
one of it. -/
theorem Keeps.missed {events : List (Event Error)} {s : State} (h : Keeps events s)
    (endpoint : String) (now : Nat) :
    Keeps (events ++ .missed endpoint now :: (maybeRefreshOne s endpoint now).2)
      (maybeRefreshOne s endpoint now).1 := by
  unfold maybeRefreshOne
  cases hpoll : s.firstRefreshPoll with
  | none =>
      have hnone : firstMiss events = none := h.first.symm.trans hpoll
      have hrefreshes : refreshes (events ++ [.missed endpoint now]) = refreshes events := by
        rw [refreshes_append]
        exact List.append_nil _
      have hfirst : firstMiss (events ++ [.missed endpoint now]) = some now := by
        rw [firstMiss_append, hnone]
        rfl
      refine ⟨hfirst.symm, h.refreshed.trans hrefreshes.symm, hrefreshes.symm ▸ h.right.once, ?_⟩
      intro other
      rw [hrefreshes, h.right.late]
      refine iff_of_false ?_ (not_lateMiss_first hnone other)
      rintro ⟨first, now', hsome, _⟩
      rw [hnone] at hsome
      cases hsome
  | some first =>
      have hsome : firstMiss events = some first := h.first.symm.trans hpoll
      have hfirst : forall more,
          firstMiss (events ++ .missed endpoint now :: more) = some first := by
        intro more
        rw [firstMiss_append, hsome]
        rfl
      have hsame : refreshes (events ++ [.missed endpoint now]) = refreshes events := by
        rw [refreshes_append]
        exact List.append_nil _
      dsimp only
      by_cases hearly : now < first + fiveSeconds
      · rw [if_pos hearly]
        refine ⟨hpoll.trans (hfirst []).symm, h.refreshed.trans hsame.symm,
          hsame.symm ▸ h.right.once, ?_⟩
        intro other
        rw [hsame, h.right.late, lateMiss_missed hsome rfl]
        exact (or_iff_left fun hlate => Nat.not_le_of_lt hearly hlate.2).symm
      · have hlate : first + fiveSeconds ≤ now := Nat.le_of_not_lt hearly
        rw [if_neg hearly]
        by_cases hcontains : s.refreshedEndpoints.contains endpoint = true
        · rw [if_pos hcontains]
          have hmem : LateMiss events endpoint := by
            rw [← h.right.late, ← h.refreshed]
            exact List.contains_iff_mem.mp hcontains
          refine ⟨hpoll.trans (hfirst []).symm, h.refreshed.trans hsame.symm,
            hsame.symm ▸ h.right.once, ?_⟩
          intro other
          rw [hsame, h.right.late, lateMiss_missed hsome rfl]
          exact (or_iff_left_of_imp fun hother => hother.1 ▸ hmem).symm
        · rw [if_neg hcontains]
          have hnew : refreshes (events ++ [.missed endpoint now, .refreshed endpoint]) =
              refreshes events ++ [endpoint] := by
            rw [refreshes_append]
            rfl
          have hnot : endpoint ∉ refreshes events := by
            rw [← h.refreshed]
            exact fun hmem => hcontains (List.contains_iff_mem.mpr hmem)
          refine ⟨(hfirst [.refreshed endpoint]).symm, ?_, ?_, ?_⟩
          · rw [hnew, ← h.refreshed]
          · rw [hnew]
            exact List.nodup_append.mpr ⟨h.right.once, List.nodup_singleton endpoint,
              fun a ha b hb => (by
                rw [List.mem_singleton.mp hb]
                exact fun heq => hnot (heq ▸ ha))⟩
          · intro other
            rw [hnew, lateMiss_missed hsome rfl, List.mem_append, h.right.late,
              List.mem_singleton]
            exact or_congr Iff.rfl (and_iff_left hlate).symm

theorem refreshed_of_mem {s : State} {endpoint : String} {now : Nat} {event : Event Error}
    (h : event ∈ (maybeRefreshOne s endpoint now).2) : event = .refreshed endpoint := by
  unfold maybeRefreshOne at h
  split at h
  · split at h
    · cases h
    · split at h
      · cases h
      · exact List.mem_singleton.mp h
  · cases h

theorem asked_askCreated (call : Call Reply) (s : State) (endpoint other : String)
    (a : Except Error Bool) :
    .asked other a ∈ (askCreated call s endpoint).events <->
      other = endpoint ∧ (a = (askCreated call s endpoint).answer ∨
        (pollOne (call.reply endpoint).first = .ok false ∧ a = .ok false)) := by
  unfold askCreated
  dsimp only
  split
  · next hfirst =>
      dsimp only
      constructor
      · intro hmem
        rcases List.mem_cons.mp hmem with heq | hmem
        · cases heq
          exact ⟨rfl, Or.inr ⟨hfirst, rfl⟩⟩
        · rcases List.mem_cons.mp hmem with heq | hmem
          · cases heq
          · rcases List.mem_append.mp hmem with hrefresh | hagain
            · cases refreshed_of_mem hrefresh
            · cases List.mem_singleton.mp hagain
              exact ⟨rfl, Or.inl rfl⟩
      · rintro ⟨hother, ha | ⟨_, ha⟩⟩
        · rw [hother, ha]
          simp
        · rw [hother, ha]
          exact List.mem_cons_self
  · next hnot =>
      dsimp only
      rw [List.mem_singleton, Event.asked.injEq]
      apply and_congr Iff.rfl
      constructor
      · exact Or.inl
      · rintro (ha | ⟨hfirst, _⟩)
        · exact ha
        · exact absurd hfirst hnot

theorem asks_ask (desiredState : DesiredState) (call : Call Reply) :
    Asks (ask desiredState call) fun endpoint => answer desiredState (call.reply endpoint) := by
  cases desiredState with
  | created =>
      have hanswer : forall s endpoint, (askCreated call s endpoint).answer =
          answer .created (call.reply endpoint) := by
        intro s endpoint
        unfold askCreated answer
        dsimp only
        split
        · rfl
        · rfl
      refine ⟨hanswer, ?_, ?_⟩
      · intro s endpoint other a hmem
        exact ((asked_askCreated call s endpoint other a).mp hmem).1
      · intro s endpoint
        rw [show ask .created call s endpoint = askCreated call s endpoint from rfl,
          asked_askCreated, hanswer]
        simp [eq_comm]
  | deleted =>
      refine ⟨fun _ _ => rfl, ?_, ?_⟩
      · intro s endpoint other a hmem
        cases List.mem_singleton.mp hmem
        rfl
      · intro s endpoint
        rw [show (ask .deleted call s endpoint).events =
          [.asked endpoint (answer .deleted (call.reply endpoint))] from rfl, List.mem_singleton]
        constructor
        · intro heq
          exact (Event.asked.inj heq).2.symm
        · intro heq
          rw [heq]

/-- A turn keeps the misses and the refreshes. -/
theorem Keeps.ask {desiredState : DesiredState} {call : Call Reply} {events : List (Event Error)}
    {s : State} (h : Keeps events s) (endpoint : String) :
    Keeps (events ++ (ask desiredState call s endpoint).events)
      (ask desiredState call s endpoint).state := by
  cases desiredState with
  | created =>
      show Keeps (events ++ (askCreated call s endpoint).events) (askCreated call s endpoint).state
      unfold askCreated
      dsimp only
      split
      · have hmiss := ((h.asked endpoint (.ok false)).missed endpoint
          (call.reply endpoint).now).asked endpoint (pollOne (call.reply endpoint).again)
        simpa using hmiss
      · exact h.asked endpoint _
  | deleted => exact h.asked endpoint _

theorem polls_refreshesOnce (desiredState : DesiredState) (calls : List (Call Reply)) :
    RefreshesOnce ((polls (poll desiredState) (Helper.new State.new) calls).flatMap
      Polled.events) := by
  have hpoll : forall events (helper : Helper State) (call : Call Reply),
      Keeps events helper.own ->
        Keeps (events ++ (poll desiredState helper call).1.events)
          (poll desiredState helper call).2.own := by
    intro events helper call h
    unfold poll
    rw [events_pollListed, own_pollListed]
    exact forEach_keeps (fun events s endpoint h => h.ask endpoint) _ h
  rcases @polls_keep Reply State Error (poll desiredState) Keeps hpoll calls
    (Helper.new State.new) [] keeps_new with ⟨s, hs⟩
  exact hs.right

theorem poll_right (desiredState : DesiredState) (calls : List (Call Reply)) :
    RightPolls (polls (poll desiredState) (Helper.new State.new) calls) := by
  intro front p later hps
  refine @polls_right Reply State Error (poll desiredState) (fun _ _ => True) ?_ calls
    (Helper.new State.new) [] (tracks_new State.new) trivial front later p hps
  intro earlier helper call rest htracks _
  have hright := @pollFiltered_right State Error _ _ helper call.targets earlier
    (asks_ask desiredState call) htracks
  exact ⟨hright.1, fun b hresult => ⟨hright.2 b hresult, trivial⟩⟩

end SearchIndex

/-!
# The helpers and the components
-/

theorem ensureWith_all_right {reply error : Type} (answer : reply -> Except error Bool)
    {attempts : List (Except error (Call reply))} (h : Together answer (callsOf attempts)) :
    RightWait (ensureWith (pollAll answer) (Helper.new ()) attempts).1
      (ensureWith (pollAll answer) (Helper.new ()) attempts).2 :=
  ensureResource_right (apart_new (fun call => asks_askOnce answer call) ()) h

theorem ensureWith_search_right (desiredState : DesiredState)
    {attempts : List (Except SearchIndex.Error (Call SearchIndex.Reply))}
    (h : Together (SearchIndex.answer desiredState) (callsOf attempts)) :
    RightWait (ensureWith (SearchIndex.poll desiredState) (Helper.new SearchIndex.State.new)
        attempts).1
      (ensureWith (SearchIndex.poll desiredState) (Helper.new SearchIndex.State.new)
        attempts).2 := by
  have hpoll : forall call, (SearchIndex.poll desiredState (Helper.new SearchIndex.State.new)
      call).1 = (pollListed (SearchIndex.ask desiredState call) call.targets
        (Helper.new SearchIndex.State.new) call.targets).1 := by
    intro call
    unfold SearchIndex.poll
    rw [filteredTargets_new]
  unfold ensureWith
  simp only [hpoll]
  exact ensureResource_right (apart_new (SearchIndex.asks_ask desiredState) SearchIndex.State.new) h

namespace Resource

variable {error : Type}

/-- The calls of a helper that asks all its targets find none of them twice. -/
def Polls : (r : Resource error) -> List (Call r.Reply) -> Prop
  | searchIndex _, _ => True
  | queryIndex indexName desiredState, calls =>
      Fresh (QueryIndex.answer indexName desiredState) calls
  | bucket bucketUuid wantMissing, calls => Fresh (Bucket.pollOne bucketUuid wantMissing) calls
  | manifest manifestUid, calls => Fresh (Manifest.pollOne manifestUid) calls
  | user wantMissing, calls => Fresh (User.pollOne wantMissing) calls
  | group wantMissing, calls => Fresh (Group.pollOne wantMissing) calls

/-- The search helper refreshes the nodes with a late miss, each of them once. -/
def Refreshes : (r : Resource error) -> List (Call r.Reply) -> Prop
  | searchIndex desiredState, calls =>
      SearchIndex.RefreshesOnce
        ((polls (SearchIndex.poll desiredState) (Helper.new SearchIndex.State.new) calls).flatMap
          Polled.events)
  | _, _ => True

/-- The polls of the helper and the wait of the component are right. -/
structure EnsuresRight (r : Resource error) (calls : List (Call r.Reply))
    (attempts : List (Except r.Failure (Call r.Reply))) : Prop where
  polls : RightPolls (r.helperPolls calls)
  refreshes : r.Refreshes calls
  wait : RightWait (r.ensure attempts).1 (r.ensure attempts).2

end Resource

/-!
# A user on two nodes
-/

/-- The users of the nodes: on the first, and on the second if it is told. -/
def userCall (second : Bool) : Call (Except Mgmtx.Error Unit) where
  targets := ["first:8091", "second:8091"]
  distinct := by decide
  reply := fun endpoint =>
    if endpoint = "first:8091" ∨ second then .ok () else .error (.server .userNotFound)

theorem found_userCall (endpoint : String) :
    Found (User.pollOne false) (userCall true) endpoint := by
  unfold Found userCall
  simp [User.pollOne, shownUnless]

/-- A call that finds all its targets agrees with itself. -/
theorem together_single {reply error : Type} {answer : reply -> Except error Bool}
    {call : Call reply} (h : forall endpoint, Found answer call endpoint) :
    Together answer [call] := by
  intro earlier c later hcalls _ endpoint _
  have hmem : c ∈ [call] := by
    rw [hcalls]
    exact List.mem_append_right _ List.mem_cons_self
  rw [List.mem_singleton.mp hmem]
  exact h endpoint

/-- The first node has the user, and the second has not. -/
def onFirst : List (Event Mgmtx.Error) :=
  [.asked "first:8091" (.ok true), .asked "second:8091" (.ok false)]

end Ensure
end CouchbaseSdk
