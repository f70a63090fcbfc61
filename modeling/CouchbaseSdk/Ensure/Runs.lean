import CouchbaseSdk.Ensure.Confirmed
import CouchbaseSdk.Ensure.Helpers

/-!
# Runs of polls

From what one poll does to all the polls of a wait: those of one helper, and those of a
component that polls with a new helper each time.
-/

namespace CouchbaseSdk
namespace Ensure

/-!
# Polls of one helper
-/

section Polls

variable {reply state error : Type}
  {poll : Helper state -> Call reply -> Polled error × Helper state}

/-- Polls are right, each behind the others, if each is right for a helper that tracks those
before it. -/
theorem polls_right {good : Helper state -> List (Call reply) -> Prop}
    (hstep : forall earlier helper call rest, Tracks earlier helper ->
      good helper (call :: rest) ->
        RightPoll earlier (poll helper call).1 ∧
          forall b, (poll helper call).1.result = .ok b ->
            Tracks (earlier ++ [(poll helper call).1]) (poll helper call).2 ∧
              good (poll helper call).2 rest)
    (calls : List (Call reply)) {helper : Helper state} {earlier : List (Polled error)}
    (htracks : Tracks earlier helper) (hgood : good helper calls)
    {front later : List (Polled error)} {p : Polled error}
    (hps : polls poll helper calls = front ++ p :: later) : RightPoll (earlier ++ front) p := by
  induction calls generalizing helper earlier front with
  | nil =>
      rw [polls] at hps
      exact absurd hps.symm (List.append_ne_nil_of_right_ne_nil _ (List.cons_ne_nil _ _))
  | cons call rest ih =>
      rcases hstep earlier helper call rest htracks hgood with ⟨hright, hnext⟩
      unfold polls at hps
      dsimp only at hps
      cases hresult : (poll helper call).1.result with
      | error e =>
          rw [hresult] at hps
          cases front with
          | nil =>
              cases hps
              rw [List.append_nil]
              exact hright
          | cons q front => simp at hps
      | ok b =>
          rw [hresult] at hps
          cases front with
          | nil =>
              cases hps
              rw [List.append_nil]
              exact hright
          | cons q front =>
              rw [List.cons_append] at hps
              cases (List.cons.inj hps).1
              rcases hnext b hresult with ⟨htracks', hgood'⟩
              have htail := ih htracks' hgood' (List.cons.inj hps).2
              rw [List.append_assoc] at htail
              exact htail

/-- What every poll keeps of the events before it, a run keeps. -/
theorem polls_keep {inv : List (Event error) -> state -> Prop}
    (hpoll : forall events helper call, inv events helper.own ->
      inv (events ++ (poll helper call).1.events) (poll helper call).2.own)
    (calls : List (Call reply)) {helper : Helper state} {events : List (Event error)}
    (h : inv events helper.own) :
    exists s, inv (events ++ (polls poll helper calls).flatMap Polled.events) s := by
  induction calls generalizing helper events with
  | nil =>
      refine ⟨helper.own, ?_⟩
      rw [polls, List.flatMap_nil, List.append_nil]
      exact h
  | cons call rest ih =>
      have hnext := hpoll events helper call h
      unfold polls
      dsimp only
      split
      · refine ⟨(poll helper call).2.own, ?_⟩
        rw [List.flatMap_singleton]
        exact hnext
      · rcases ih hnext with ⟨s, hs⟩
        refine ⟨s, ?_⟩
        rw [List.flatMap_cons, ← List.append_assoc]
        exact hs

end Polls

/-!
# Helpers that ask all the targets
-/

section All

variable {reply error : Type} {answer : reply -> Except error Bool}

theorem asks_askOnce (answer : reply -> Except error Bool) (call : Call reply) :
    Asks (askOnce answer call) fun endpoint => answer (call.reply endpoint) where
  ends := fun _ _ => rfl
  own := by
    intro s endpoint other a h
    rw [askOnce, List.mem_singleton] at h
    cases h
    rfl
  shows := by
    intro s endpoint
    rw [askOnce, List.mem_singleton]
    constructor
    · intro h
      exact (Event.asked.inj h).2.symm
    · intro h
      rw [h]

/-- A node that is a target of both calls, and was found by the first. -/
def FoundBefore (answer : reply -> Except error Bool) (call later : Call reply) : Prop :=
  exists endpoint, endpoint ∈ later.targets ∧ endpoint ∈ call.targets ∧
    answer (call.reply endpoint) = .ok true

/-- No call has a target that an earlier one found in the desired state. -/
def Fresh (answer : reply -> Except error Bool) (calls : List (Call reply)) : Prop :=
  calls.Pairwise fun call later => ¬ FoundBefore answer call later

theorem pollAll_right (calls : List (Call reply)) (h : Fresh answer calls) :
    RightPolls (polls (pollAll answer) (Helper.new ()) calls) := by
  intro front p later hps
  let good : Helper Unit -> List (Call reply) -> Prop := fun helper calls =>
    (forall call, call ∈ calls -> forall endpoint, endpoint ∈ call.targets ->
      endpoint ∉ helper.confirmedEndpoints) ∧ Fresh answer calls
  have hnew : good (Helper.new ()) calls :=
    ⟨fun _ _ _ _ hmem => List.not_mem_nil hmem, h⟩
  refine @polls_right reply Unit error (pollAll answer) good ?_ calls (Helper.new ()) []
    (tracks_new ()) hnew front later p hps
  intro earlier helper call rest htracks hgood
  rcases hgood with ⟨hunconfirmed, hfresh⟩
  rcases List.pairwise_cons.mp hfresh with ⟨hcall, hrest⟩
  have hasks := asks_askOnce answer call
  have hfiltered := filteredTargets_eq (hunconfirmed call List.mem_cons_self)
  have hright := @pollFiltered_right Unit error _ _ helper call.targets earlier hasks htracks
  rw [hfiltered] at hright
  refine ⟨hright.1, ?_⟩
  intro b hresult
  have htracks' := hright.2 b hresult
  refine ⟨htracks', ?_, hrest⟩
  intro later hlater endpoint hmem hconfirmed
  rcases (confirmed_snoc earlier _ endpoint).mp ((htracks' endpoint).mp hconfirmed) with
    hold | hnew
  · exact hunconfirmed later (List.mem_cons_of_mem call hlater) endpoint hmem
      ((htracks endpoint).mpr hold)
  · rcases confirms_pollListed hasks hnew with ⟨htarget, hfound⟩
    exact hcall later hlater ⟨endpoint, hmem, htarget, hfound⟩

end All

/-!
# Waits of a component
-/

section Waits

variable {reply error : Type} {answer : reply -> Except error Bool}
  {pollFn : Call reply -> Polled error}

/-- The node is found by the call. -/
def Found (answer : reply -> Except error Bool) (call : Call reply) (endpoint : String) : Prop :=
  answer (call.reply endpoint) = .ok true

/-- When all targets of a call have been found by it or by earlier ones, it has found them
all itself. -/
def Together (answer : reply -> Except error Bool) (calls : List (Call reply)) : Prop :=
  forall earlier call later, calls = earlier ++ call :: later ->
    (forall endpoint, endpoint ∈ call.targets -> Found answer call endpoint ∨
      exists c, c ∈ earlier ∧ endpoint ∈ c.targets ∧ Found answer c endpoint) ->
    forall endpoint, endpoint ∈ call.targets -> Found answer call endpoint

/-- The calls of the attempts, up to one that has no targets. -/
def callsOf : List (Except error (Call reply)) -> List (Call reply)
  | .ok call :: rest => call :: callsOf rest
  | _ => []

/-- A poll that knows nothing of others: it succeeds when it finds all its targets. -/
structure Apart (answer : reply -> Except error Bool) (pollFn : Call reply -> Polled error) :
    Prop where
  targets : forall call, (pollFn call).targets = call.targets
  result : forall call, (pollFn call).result = .ok true <->
    forall endpoint, endpoint ∈ call.targets -> Found answer call endpoint
  found : forall call endpoint, (pollFn call).Confirms endpoint ->
    endpoint ∈ call.targets ∧ Found answer call endpoint
  confirms : forall call, (pollFn call).result = .ok true ->
    forall endpoint, endpoint ∈ call.targets -> (pollFn call).Confirms endpoint

/-- Behind calls that agree with it, a poll succeeds when all its targets are confirmed. -/
theorem result_iff_allConfirmed (h : Apart answer pollFn) {done later : List (Call reply)}
    {call : Call reply} (htogether : Together answer (done ++ call :: later)) :
    (pollFn call).result = .ok true <-> AllConfirmed (done.map pollFn) (pollFn call) := by
  constructor
  · intro hresult endpoint hmem
    rw [h.targets call] at hmem
    exact Or.inl (h.confirms call hresult endpoint hmem)
  · intro hall
    rw [h.result call]
    apply htogether done call later rfl
    intro endpoint hmem
    rcases hall endpoint ((h.targets call).symm ▸ hmem) with hpoll | ⟨p, hp, hconfirms⟩
    · exact Or.inl (h.found call endpoint hpoll).2
    · rcases List.mem_map.mp hp with ⟨c, hc, hcall⟩
      rw [← hcall] at hconfirms
      rcases h.found c endpoint hconfirms with ⟨htarget, hfound⟩
      exact Or.inr ⟨c, hc, htarget, hfound⟩

/-- The wait behind calls that are done. -/
structure RightBehind (done : List (Polled error)) (made : List (Polled error))
    (returned : Option (Except error Unit)) : Prop where
  returns : forall earlier p later, made = earlier ++ p :: later ->
    AllConfirmed (done ++ earlier) p -> later = [] ∧ returned = some (.ok ())
  only : returned = some (.ok ()) ->
    exists earlier p, made = earlier ++ [p] ∧ AllConfirmed (done ++ earlier) p

theorem rightBehind_nil {done : List (Polled error)} {returned : Option (Except error Unit)}
    (h : returned ≠ some (.ok ())) : RightBehind done [] returned where
  returns := by
    intro earlier p later hmade
    exact absurd hmade.symm (List.append_ne_nil_of_right_ne_nil _ (List.cons_ne_nil _ _))
  only := fun hreturned => absurd hreturned h

/-- A wait that ends with the poll. -/
theorem rightBehind_last {done : List (Polled error)} {p : Polled error}
    {returned : Option (Except error Unit)}
    (h : AllConfirmed done p <-> returned = some (.ok ())) : RightBehind done [p] returned where
  returns := by
    intro earlier q later hmade hall
    cases earlier with
    | nil =>
        cases hmade
        rw [List.append_nil] at hall
        exact ⟨rfl, h.mp hall⟩
    | cons _ _ => simp at hmade
  only := by
    intro hreturned
    refine ⟨[], p, rfl, ?_⟩
    rw [List.append_nil]
    exact h.mpr hreturned

theorem rightBehind_cons {done made : List (Polled error)} {p : Polled error}
    {returned : Option (Except error Unit)} (hnot : ¬ AllConfirmed done p)
    (h : RightBehind (done ++ [p]) made returned) : RightBehind done (p :: made) returned where
  returns := by
    intro earlier q later hmade hall
    cases earlier with
    | nil =>
        cases hmade
        rw [List.append_nil] at hall
        exact absurd hall hnot
    | cons q' earlier =>
        cases (List.cons.inj hmade).1
        apply h.returns earlier q later (List.cons.inj hmade).2
        rw [List.append_assoc]
        exact hall
  only := by
    intro hreturned
    rcases h.only hreturned with ⟨earlier, q, hmade, hall⟩
    refine ⟨p :: earlier, q, congrArg _ hmade, ?_⟩
    rw [List.append_assoc] at hall
    exact hall

theorem ensureResource_behind (h : Apart answer pollFn)
    (attempts : List (Except error (Call reply))) {done : List (Call reply)}
    (htogether : Together answer (done ++ callsOf attempts)) :
    RightBehind (done.map pollFn) (ensureResource pollFn attempts).1
      (ensureResource pollFn attempts).2 := by
  induction attempts generalizing done with
  | nil => exact rightBehind_nil fun heq => (by cases heq)
  | cons attempt rest ih =>
      cases attempt with
      | error e => exact rightBehind_nil fun heq => (by cases heq)
      | ok call =>
          have hiff := result_iff_allConfirmed h htogether
          unfold ensureResource
          dsimp only
          cases hresult : (pollFn call).result with
          | error e =>
              rw [hresult] at hiff
              apply rightBehind_last
              rw [← hiff]
              exact iff_of_false (fun heq => (by cases heq)) fun heq => (by cases heq)
          | ok b =>
              cases b with
              | true =>
                  apply rightBehind_last
                  rw [← hiff]
                  exact iff_of_true hresult rfl
              | false =>
                  have hnot : ¬ AllConfirmed (done.map pollFn) (pollFn call) := by
                    rw [← hiff, hresult]
                    intro heq
                    cases heq
                  apply rightBehind_cons hnot
                  have htail := @ih (done ++ [call]) (by
                    rw [List.append_assoc]
                    exact htogether)
                  rw [List.map_append] at htail
                  exact htail

theorem ensureResource_right (h : Apart answer pollFn)
    {attempts : List (Except error (Call reply))} (htogether : Together answer (callsOf attempts)) :
    RightWait (ensureResource pollFn attempts).1 (ensureResource pollFn attempts).2 := by
  have hbehind := @ensureResource_behind reply error answer pollFn h attempts [] htogether
  exact ⟨hbehind.returns, hbehind.only⟩

/-- A clone of a new helper knows nothing of other polls. -/
theorem apart_new {state : Type} {turn : Call reply -> state -> String -> Turn state error}
    (h : forall call, Asks (turn call) fun endpoint => answer (call.reply endpoint)) (own : state) :
    Apart answer fun call =>
      (pollListed (turn call) call.targets (Helper.new own) call.targets).1 := by
  have hright : forall call, RightPoll []
      (pollListed (turn call) call.targets (Helper.new own) call.targets).1 := by
    intro call
    have hpoll := (@pollFiltered_right state error _ _ _ call.targets [] (h call) (tracks_new own)).1
    rw [filteredTargets_new] at hpoll
    exact hpoll
  have hall : forall call : Call reply,
      AllConfirmed [] (pollListed (turn call) call.targets (Helper.new own) call.targets).1 <->
        forall endpoint, endpoint ∈ call.targets -> Found answer call endpoint := by
    intro call
    constructor
    · intro hconfirmed endpoint hmem
      rcases hconfirmed endpoint ((targets_pollListed ..).symm ▸ hmem) with hpoll | ⟨p, hp, _⟩
      · exact (confirms_pollListed (h call) hpoll).2
      · exact absurd hp List.not_mem_nil
    · intro hfound endpoint hmem
      rw [targets_pollListed] at hmem
      exact Or.inl (confirms_of_found (h call) hfound endpoint hmem)
  refine ⟨fun call => targets_pollListed .., ?_, ?_, ?_⟩
  · intro call
    exact (hright call).result.trans (hall call)
  · intro call endpoint hpoll
    exact confirms_pollListed (h call) hpoll
  · intro call hresult endpoint hmem
    have hfound := (hall call).mp ((hright call).result.mp hresult)
    exact confirms_of_found (h call) hfound endpoint hmem

end Waits

end Ensure
end CouchbaseSdk
