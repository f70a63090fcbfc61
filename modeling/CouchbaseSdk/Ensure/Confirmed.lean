import Mathlib.Logic.Basic
import Mathlib.Data.List.Basic

/-!
# Polls of a wait

A helper waits until every node shows a resource in the desired state.  A poll asks nodes in
turn, as far as the first error, and keeps the endpoints of those that have shown it.
-/

namespace CouchbaseSdk
namespace Ensure

/-- What happens at a node in a poll.  The answer is whether it is in the desired state. -/
inductive Event (error : Type) where
  | asked (endpoint : String) (answer : Except error Bool)
  | missed (endpoint : String) (now : Nat)
  | refreshed (endpoint : String)

/-- One turn of the loop over the targets. -/
structure Turn (state error : Type) where
  events : List (Event error)
  answer : Except error Bool
  state : state

/-- The loop when it is left: the endpoints that have shown the desired state, or an error. -/
structure Looped (state error : Type) where
  events : List (Event error)
  success : Except error (List String)
  state : state

def forEach {state error : Type} (turn : state -> String -> Turn state error) :
    state -> List String -> Looped state error
  | s, [] => { events := [], success := .ok [], state := s }
  | s, endpoint :: rest =>
      let t := turn s endpoint
      match t.answer with
      | .error e => { events := t.events, success := .error e, state := t.state }
      | .ok desired =>
          let l := forEach turn t.state rest
          { events := t.events ++ l.events
            success := l.success.map fun endpoints =>
              if desired then endpoint :: endpoints else endpoints
            state := l.state }

/-- The confirmed endpoints, and what else a helper keeps from poll to poll. -/
structure Helper (state : Type) where
  confirmedEndpoints : List String
  own : state

namespace Helper

variable {state : Type}

def new (own : state) : Helper state where
  confirmedEndpoints := []
  own := own

def filteredTargets (helper : Helper state) (targets : List String) : List String :=
  targets.filter fun endpoint => !helper.confirmedEndpoints.contains endpoint

end Helper

/-- A poll that was made. -/
structure Polled (error : Type) where
  targets : List String
  events : List (Event error)
  result : Except error Bool

/-- `poll`, with the loop over the listed targets. -/
def pollListed {state error : Type} (turn : state -> String -> Turn state error)
    (listed : List String) (helper : Helper state) (targets : List String) :
    Polled error × Helper state :=
  let l := forEach turn helper.own listed
  match l.success with
  | .error e =>
      ({ targets := targets, events := l.events, result := .error e },
        { helper with own := l.state })
  | .ok successEndpoints =>
      ({ targets := targets
         events := l.events
         result := .ok (successEndpoints.length == (helper.filteredTargets targets).length) },
        { confirmedEndpoints := helper.confirmedEndpoints ++ successEndpoints
          own := l.state })

/-- A call of `poll`: the targets, and what the node at each endpoint replies to it. -/
structure Call (reply : Type) where
  targets : List String
  distinct : targets.Nodup
  reply : String -> reply

section Runs

variable {reply state error : Type}

/-- The polls of a wait, which ends with the first error. -/
def polls (poll : Helper state -> Call reply -> Polled error × Helper state) :
    Helper state -> List (Call reply) -> List (Polled error)
  | _, [] => []
  | helper, call :: rest =>
      let p := poll helper call
      match p.1.result with
      | .error _ => [p.1]
      | .ok _ => p.1 :: polls poll p.2 rest

/-- `ensure_resource`: the polls that are made, and what the call returns unless it still
waits.  An attempt fails if there are no targets to be had. -/
def ensureResource (pollFn : Call reply -> Polled error) :
    List (Except error (Call reply)) -> List (Polled error) × Option (Except error Unit)
  | [] => ([], none)
  | .error e :: _ => ([], some (.error e))
  | .ok call :: rest =>
      let p := pollFn call
      match p.result with
      | .error e => ([p], some (.error e))
      | .ok true => ([p], some (.ok ()))
      | .ok false =>
          let later := ensureResource pollFn rest
          (p :: later.1, later.2)

/-- The `ensure_...` of a component.  Each attempt polls with a clone of the helper. -/
def ensureWith (poll : Helper state -> Call reply -> Polled error × Helper state)
    (helper : Helper state) (attempts : List (Except error (Call reply))) :
    List (Polled error) × Option (Except error Unit) :=
  ensureResource (fun call => (poll helper call).1) attempts

end Runs

/-!
# Confirmed nodes

A node is confirmed by the poll that has seen it in the desired state.  A poll is to succeed
when all its targets are confirmed, and is not to ask for what is confirmed.
-/

section Polls

variable {error : Type}

namespace Polled

def Asked (p : Polled error) (endpoint : String) : Prop :=
  exists answer, .asked endpoint answer ∈ p.events

def Confirms (p : Polled error) (endpoint : String) : Prop :=
  .asked endpoint (.ok true) ∈ p.events

end Polled

def Confirmed (ps : List (Polled error)) (endpoint : String) : Prop :=
  exists p, p ∈ ps ∧ p.Confirms endpoint

/-- Every target has been seen in the desired state, in the poll or in an earlier one. -/
def AllConfirmed (earlier : List (Polled error)) (p : Polled error) : Prop :=
  forall endpoint, endpoint ∈ p.targets -> p.Confirms endpoint ∨ Confirmed earlier endpoint

structure RightPoll (earlier : List (Polled error)) (p : Polled error) : Prop where
  result : p.result = .ok true <-> AllConfirmed earlier p
  asked : forall endpoint, p.Asked endpoint -> ¬ Confirmed earlier endpoint

def RightPolls (ps : List (Polled error)) : Prop :=
  forall earlier p later, ps = earlier ++ p :: later -> RightPoll earlier p

/-- The wait returns at the first poll after which all its targets are confirmed. -/
structure RightWait (made : List (Polled error)) (returned : Option (Except error Unit)) :
    Prop where
  returns : forall earlier p later, made = earlier ++ p :: later -> AllConfirmed earlier p ->
    later = [] ∧ returned = some (.ok ())
  only : returned = some (.ok ()) ->
    exists earlier p, made = earlier ++ [p] ∧ AllConfirmed earlier p

theorem confirmed_snoc (earlier : List (Polled error)) (p : Polled error) (endpoint : String) :
    Confirmed (earlier ++ [p]) endpoint <-> Confirmed earlier endpoint ∨ p.Confirms endpoint := by
  constructor
  · rintro ⟨q, hq, hconfirms⟩
    rcases List.mem_append.mp hq with hold | hnew
    · exact Or.inl ⟨q, hold, hconfirms⟩
    · exact Or.inr (List.mem_singleton.mp hnew ▸ hconfirms)
  · rintro (⟨q, hq, hconfirms⟩ | hconfirms)
    · exact ⟨q, List.mem_append_left _ hq, hconfirms⟩
    · exact ⟨p, List.mem_append_right _ (List.mem_singleton_self p), hconfirms⟩

end Polls

/-!
# Loops
-/

section Loops

variable {state error : Type} {turn : state -> String -> Turn state error}
  {answer : String -> Except error Bool}

/-- The turns ask for their own endpoint, and answer what it answers in the end. -/
structure Asks (turn : state -> String -> Turn state error)
    (answer : String -> Except error Bool) : Prop where
  ends : forall s endpoint, (turn s endpoint).answer = answer endpoint
  own : forall s endpoint other a, .asked other a ∈ (turn s endpoint).events -> other = endpoint
  shows : forall s endpoint,
    .asked endpoint (.ok true) ∈ (turn s endpoint).events <-> answer endpoint = .ok true

def isShown : Except error Bool -> Bool
  | .ok desired => desired
  | .error _ => false

theorem isShown_iff (a : Except error Bool) : isShown a = true <-> a = .ok true := by
  cases a with
  | ok desired => simp [isShown]
  | error e => simp [isShown]

theorem asked_forEach (h : Asks turn answer) {endpoint : String} {a : Except error Bool}
    (s : state) (listed : List String)
    (hasked : .asked endpoint a ∈ (forEach turn s listed).events) :
    endpoint ∈ listed := by
  induction listed generalizing s with
  | nil => cases hasked
  | cons head rest ih =>
      unfold forEach at hasked
      dsimp only at hasked
      split at hasked
      · exact (h.own s head endpoint a hasked) ▸ List.mem_cons_self
      · rcases List.mem_append.mp hasked with hhead | hrest
        · exact (h.own s head endpoint a hhead) ▸ List.mem_cons_self
        · exact List.mem_cons_of_mem head (ih _ hrest)

theorem shown_of_asked (h : Asks turn answer) {endpoint : String} (s : state)
    (listed : List String)
    (hasked : .asked endpoint (.ok true) ∈ (forEach turn s listed).events) :
    answer endpoint = .ok true := by
  induction listed generalizing s with
  | nil => cases hasked
  | cons head rest ih =>
      have hturn : .asked endpoint (.ok true) ∈ (turn s head).events ->
          answer endpoint = .ok true := by
        intro hhead
        have hown := h.own s head endpoint _ hhead
        rw [hown] at hhead ⊢
        exact (h.shows s head).mp hhead
      unfold forEach at hasked
      dsimp only at hasked
      split at hasked
      · exact hturn hasked
      · rcases List.mem_append.mp hasked with hhead | hrest
        · exact hturn hhead
        · exact ih _ hrest

/-- The loop comes to its end with the endpoints that show the desired state, or to an error
of one. -/
theorem forEach_cases (h : Asks turn answer) (s : state) (listed : List String) :
    ((forEach turn s listed).success = .ok (listed.filter fun e => isShown (answer e)) ∧
        forall endpoint, endpoint ∈ listed -> answer endpoint = .ok true ->
          .asked endpoint (.ok true) ∈ (forEach turn s listed).events) ∨
      (exists e endpoint, (forEach turn s listed).success = .error e ∧ endpoint ∈ listed ∧
        answer endpoint ≠ .ok true) := by
  induction listed generalizing s with
  | nil => exact Or.inl ⟨rfl, fun _ hmem => absurd hmem List.not_mem_nil⟩
  | cons head rest ih =>
      unfold forEach
      dsimp only
      rw [h.ends s head]
      cases hanswer : answer head with
      | error e =>
          refine Or.inr ⟨e, head, rfl, List.mem_cons_self, ?_⟩
          rw [hanswer]
          intro heq
          cases heq
      | ok desired =>
          dsimp only
          rcases ih (turn s head).state with ⟨hsuccess, hasked⟩ | ⟨e, endpoint, herror, hmem, hne⟩
          · refine Or.inl ⟨?_, ?_⟩
            · rw [hsuccess, List.filter_cons, hanswer]
              cases desired with
              | true => rfl
              | false => rfl
            · intro endpoint hmem hshown
              rcases List.mem_cons.mp hmem with hhead | hrest
              · rw [hhead] at hshown ⊢
                exact List.mem_append_left _ ((h.shows s head).mpr hshown)
              · exact List.mem_append_right _ (hasked endpoint hrest hshown)
          · refine Or.inr ⟨e, endpoint, ?_, List.mem_cons_of_mem head hmem, hne⟩
            rw [herror]
            rfl

/-- What every turn keeps, a loop keeps. -/
theorem forEach_keeps {inv : List (Event error) -> state -> Prop}
    (hturn : forall events s endpoint, inv events s ->
      inv (events ++ (turn s endpoint).events) (turn s endpoint).state)
    (listed : List String) {events : List (Event error)} {s : state} (h : inv events s) :
    inv (events ++ (forEach turn s listed).events) (forEach turn s listed).state := by
  induction listed generalizing events s with
  | nil =>
      rw [forEach, List.append_nil]
      exact h
  | cons head rest ih =>
      have hhead := hturn events s head h
      unfold forEach
      dsimp only
      split
      · exact hhead
      · have hrest := ih hhead
        rw [List.append_assoc] at hrest
        exact hrest

end Loops

/-!
# Polls that ask for what is not confirmed
-/

section Filtered

variable {state error : Type} {turn : state -> String -> Turn state error}
  {answer : String -> Except error Bool} {helper : Helper state} {targets : List String}
  {earlier : List (Polled error)}

/-- The helper knows the endpoints that earlier polls have confirmed. -/
def Tracks (earlier : List (Polled error)) (helper : Helper state) : Prop :=
  forall endpoint, endpoint ∈ helper.confirmedEndpoints <-> Confirmed earlier endpoint

theorem tracks_new (own : state) : Tracks ([] : List (Polled error)) (Helper.new own) := by
  intro endpoint
  constructor
  · intro h
    exact absurd h List.not_mem_nil
  · rintro ⟨p, hp, _⟩
    exact absurd hp List.not_mem_nil

theorem mem_filteredTargets {endpoint : String} :
    endpoint ∈ helper.filteredTargets targets <->
      endpoint ∈ targets ∧ endpoint ∉ helper.confirmedEndpoints := by
  simp [Helper.filteredTargets]

theorem filteredTargets_eq
    (h : forall endpoint, endpoint ∈ targets -> endpoint ∉ helper.confirmedEndpoints) :
    helper.filteredTargets targets = targets := by
  apply List.filter_eq_self.mpr
  intro endpoint hmem
  simpa using h endpoint hmem

theorem filteredTargets_new (own : state) (targets : List String) :
    (Helper.new own).filteredTargets targets = targets :=
  filteredTargets_eq fun _ _ => List.not_mem_nil

theorem targets_pollListed (turn : state -> String -> Turn state error) (listed : List String)
    (helper : Helper state) (targets : List String) :
    (pollListed turn listed helper targets).1.targets = targets := by
  unfold pollListed
  dsimp only
  split
  · rfl
  · rfl

theorem events_pollListed (turn : state -> String -> Turn state error) (listed : List String)
    (helper : Helper state) (targets : List String) :
    (pollListed turn listed helper targets).1.events =
      (forEach turn helper.own listed).events := by
  unfold pollListed
  dsimp only
  split
  · rfl
  · rfl

theorem own_pollListed (turn : state -> String -> Turn state error) (listed : List String)
    (helper : Helper state) (targets : List String) :
    (pollListed turn listed helper targets).2.own =
      (forEach turn helper.own listed).state := by
  unfold pollListed
  dsimp only
  split
  · rfl
  · rfl

theorem confirms_pollListed (h : Asks turn answer) {listed : List String} {endpoint : String}
    (hconfirms : (pollListed turn listed helper targets).1.Confirms endpoint) :
    endpoint ∈ listed ∧ answer endpoint = .ok true := by
  unfold Polled.Confirms at hconfirms
  rw [events_pollListed] at hconfirms
  exact ⟨asked_forEach h _ _ hconfirms, shown_of_asked h _ _ hconfirms⟩

/-- Without an error, all that show the desired state are seen in it. -/
theorem confirms_of_found (h : Asks turn answer) {listed : List String}
    (hall : forall endpoint, endpoint ∈ listed -> answer endpoint = .ok true) :
    forall endpoint, endpoint ∈ listed ->
      (pollListed turn listed helper targets).1.Confirms endpoint := by
  intro endpoint hmem
  unfold Polled.Confirms
  rw [events_pollListed]
  rcases forEach_cases h helper.own listed with ⟨_, hasked⟩ | ⟨e, other, _, hother, hne⟩
  · exact hasked endpoint hmem (hall endpoint hmem)
  · exact absurd (hall other hother) hne

/-- A poll of the targets that are not confirmed is right, and the helper knows what it has
confirmed unless it fails. -/
theorem pollFiltered_right (h : Asks turn answer) (htracks : Tracks earlier helper) :
    RightPoll earlier (pollListed turn (helper.filteredTargets targets) helper targets).1 ∧
      forall b,
        (pollListed turn (helper.filteredTargets targets) helper targets).1.result = .ok b ->
        Tracks (earlier ++ [(pollListed turn (helper.filteredTargets targets) helper targets).1])
          (pollListed turn (helper.filteredTargets targets) helper targets).2 := by
  have hasked : forall endpoint a, .asked endpoint a ∈
      (forEach turn helper.own (helper.filteredTargets targets)).events ->
        ¬ Confirmed earlier endpoint := by
    intro endpoint a ha hconfirmed
    exact (mem_filteredTargets.mp (asked_forEach h _ _ ha)).2 ((htracks endpoint).mpr hconfirmed)
  rcases forEach_cases h helper.own (helper.filteredTargets targets) with
    ⟨hsuccess, hshown⟩ | ⟨e, endpoint, herror, hmem, hne⟩
  · have hpoll : pollListed turn (helper.filteredTargets targets) helper targets =
        ({ targets := targets
           events := (forEach turn helper.own (helper.filteredTargets targets)).events
           result := .ok
            (((helper.filteredTargets targets).filter fun e => isShown (answer e)).length ==
              (helper.filteredTargets targets).length) },
          { confirmedEndpoints := helper.confirmedEndpoints ++
              (helper.filteredTargets targets).filter fun e => isShown (answer e)
            own := (forEach turn helper.own (helper.filteredTargets targets)).state }) := by
      unfold pollListed
      dsimp only
      rw [hsuccess]
    rw [hpoll]
    have hconfirms : forall endpoint, endpoint ∈ helper.filteredTargets targets ->
        (.asked endpoint (.ok true) ∈
            (forEach turn helper.own (helper.filteredTargets targets)).events <->
          answer endpoint = .ok true) := by
      intro endpoint hmem
      exact ⟨shown_of_asked h _ _, hshown endpoint hmem⟩
    refine ⟨⟨?_, ?_⟩, ?_⟩
    · have hlength : (Except.ok
          (((helper.filteredTargets targets).filter fun e => isShown (answer e)).length ==
            (helper.filteredTargets targets).length) : Except error Bool) = .ok true <->
          forall endpoint, endpoint ∈ helper.filteredTargets targets ->
            isShown (answer endpoint) = true := by
        simp
      rw [hlength]
      constructor
      · intro hall endpoint htarget
        by_cases hconfirmed : endpoint ∈ helper.confirmedEndpoints
        · exact Or.inr ((htracks endpoint).mp hconfirmed)
        · have hmem := mem_filteredTargets.mpr ⟨htarget, hconfirmed⟩
          exact Or.inl ((hconfirms endpoint hmem).mpr ((isShown_iff _).mp (hall endpoint hmem)))
      · intro hall endpoint hmem
        rcases mem_filteredTargets.mp hmem with ⟨htarget, hnot⟩
        rcases hall endpoint htarget with hpoll | hold
        · exact (isShown_iff _).mpr ((hconfirms endpoint hmem).mp hpoll)
        · exact absurd ((htracks endpoint).mpr hold) hnot
    · rintro endpoint ⟨a, ha⟩
      exact hasked endpoint a ha
    · intro b _ endpoint
      rw [confirmed_snoc, List.mem_append, htracks endpoint, List.mem_filter]
      apply or_congr Iff.rfl
      constructor
      · rintro ⟨hmem, his⟩
        exact (hconfirms endpoint hmem).mpr ((isShown_iff _).mp his)
      · intro hpoll
        have hmem := asked_forEach h _ _ hpoll
        exact ⟨hmem, (isShown_iff _).mpr ((hconfirms endpoint hmem).mp hpoll)⟩
  · have hpoll : pollListed turn (helper.filteredTargets targets) helper targets =
        ({ targets := targets
           events := (forEach turn helper.own (helper.filteredTargets targets)).events
           result := .error e },
          { helper with
            own := (forEach turn helper.own (helper.filteredTargets targets)).state }) := by
      unfold pollListed
      dsimp only
      rw [herror]
    rw [hpoll]
    refine ⟨⟨iff_of_false (fun heq => (by cases heq)) ?_, ?_⟩, fun b heq => (by cases heq)⟩
    · intro hall
      rcases mem_filteredTargets.mp hmem with ⟨htarget, hnot⟩
      rcases hall endpoint htarget with hpoll | hold
      · exact hne (shown_of_asked h _ _ hpoll)
      · exact hnot ((htracks endpoint).mpr hold)
    · rintro other ⟨a, ha⟩
      exact hasked other a ha

end Filtered

end Ensure
end CouchbaseSdk
