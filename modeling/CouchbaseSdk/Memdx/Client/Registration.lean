import CouchbaseSdk.Memdx.Client.Keys

/-!
# Every handler has a caller

A handler in the map should belong to a caller that waits for it, and once the map
was drained nothing written afterwards should wait for an answer that cannot come.
Three things break this: a future of `dispatch` that is dropped with its handler
registered, a receiver that goes away while the read loop holds its handler outside
the map, and a write that succeeds after the drain.
-/

namespace CouchbaseSdk
namespace Memdx
namespace Client

open Foundation

variable {cfg : Config} {s s' : State} {a : Action}

/-!
# The guarantee and its condition
-/

/-- The map was drained, by the read loop or by `close`. -/
def Drained (s : State) : Prop :=
  (exists senders, s.readLoop = .draining senders) ∨
    exists senders, s.closer = .draining senders

/-- The caller has the operation in its hands. -/
def InOp (s : State) (r : RequestId) : Prop :=
  (s.requests r).phase = .pending ∨
    exists ctx kind, (s.requests r).phase = .cancelling ctx kind

def Unanswered (messages : List Message) : Prop :=
  forall resp, ¬ .ok resp ∈ messages

/-- Nobody is left who could answer the request, and it was not answered. -/
structure Settled (s : State) (r : RequestId) : Prop where
  registered : ¬ Registered s r
  held : ¬ Held s r
  channel : Unanswered (s.requests r).channel

/-- No handler is left behind, and nothing is written for a request that is still
registered, or being answered, after the map was drained. -/
def KeepsHandlers (s : State) : Action -> Prop
  | .abandonDispatch r _ => ¬ Registered s r ∧ ¬ Returning s r
  | .writeErr r | .dropOp r => ¬ Returning s r
  | .cancelSend r => forall ctx kind, (s.requests r).phase = .cancelling ctx kind ->
      s.receiving ctx.sender = false -> ¬ Returning s r
  | .writeOk r => Drained s -> Settled s r
  | _ => True

/-- What holds of the handlers in a state, and of the requests dispatched after it. -/
structure HandlersKept (cfg : Config) (guard : State -> Action -> Prop) (s : State) :
    Prop where
  /-- The caller of a registered request waits for it. -/
  waiting : forall r, Registered s r -> s.receiving r = true
  /-- After the read loop ended, only a dispatch in progress is registered. -/
  ended : forall r, (exists senders, s.readLoop = .draining senders) -> Registered s r ->
    (s.requests r).phase = .dispatching
  /-- A dispatch started after a drain gets no response, and what it waits for is an
  error: a message in its channel, a closed channel, or a sender that only sends
  errors. -/
  late : Drained s -> forall t r, StepFn.Reach (step cfg) guard s t -> s.dispatched ≤ r ->
    Unanswered (t.requests r).outcomes ∧ (InOp t r -> Settled t r) ∧
      ((t.requests r).phase = .pending -> (exists u, step cfg t (.recv r) = some u) ∨
        exists ctx, ctx ∈ t.readLoop.senders ++ (t.closer.senders ++ t.cancelSenders) ∧
          ctx.sender = r)

/-!
# One request in one step
-/

theorem outcome_of_setRequest {r r' : RequestId} {q : Request} {m : Message}
    (hm : m ∈ ((s.setRequest r' q).requests r).outcomes) :
    m ∈ (s.requests r).outcomes ∨ (r = r' ∧ m ∈ q.outcomes) := by
  by_cases hr : r = r'
  · subst hr
    rw [setRequest_requests_self] at hm
    exact Or.inr ⟨rfl, hm⟩
  · rw [setRequest_requests_ne s q hr] at hm
    exact Or.inl hm

theorem push_outcomes (s : State) (r r' : RequestId) (m : Message) :
    ((s.push r m).requests r').outcomes = (s.requests r').outcomes := by
  by_cases hr : r' = r
  · subst hr
    rw [push_requests_self]
  · rw [push_requests_ne s m hr]

theorem setPhase_outcomes (s : State) (r r' : RequestId) (phase : Phase) :
    ((setPhase s r phase).requests r').outcomes = (s.requests r').outcomes := by
  by_cases hr : r' = r
  · subst hr
    rw [setPhase_requests_self]
  · rw [setPhase_requests_ne s phase hr]

theorem dropPending_outcomes (s : State) (r r' : RequestId) :
    ((dropPending s r).requests r').outcomes = (s.requests r').outcomes := by
  rw [dropPending_requests]
  by_cases hr : r' = r
  · subst hr
    rw [Function.update_self]
    rfl
  · rw [Function.update_of_ne hr]

/-- A response is only ever received from the channel of a pending operation. -/
theorem outcome_source {r : RequestId} {resp : ClientResponse} (hstep : Step cfg s a s')
    (hm : .ok resp ∈ (s'.requests r).outcomes) :
    .ok resp ∈ (s.requests r).outcomes ∨
      ((s.requests r).phase = .pending ∧ .ok resp ∈ (s.requests r).channel) := by
  cases hstep with
  | register packet isPersistent context =>
      by_cases hr : r = s.dispatched
      · subst hr
        have hself : (registerHandler s packet isPersistent context).requests s.dispatched =
            _ := Function.update_self ..
        rw [hself] at hm
        cases hm
      · have hother : (registerHandler s packet isPersistent context).requests r =
            s.requests r := Function.update_of_ne hr ..
        rw [hother] at hm
        exact Or.inl hm
  | writeErr q hphase =>
      rcases outcome_of_setRequest hm with hold | ⟨rfl, hnew⟩
      · exact Or.inl hold
      · rcases List.mem_append.mp hnew with hold | hnew
        · exact Or.inl hold
        · cases List.mem_singleton.mp hnew
  | abandonDispatch q buffered hphase =>
      rcases outcome_of_setRequest hm with hold | ⟨rfl, hnew⟩
      · exact Or.inl hold
      · exact Or.inl hnew
  | received q m rest hphase hchannel =>
      rcases outcome_of_setRequest hm with hold | ⟨rfl, hnew⟩
      · exact Or.inl hold
      · rcases List.mem_append.mp hnew with hold | hnew
        · exact Or.inl hold
        · refine Or.inr ⟨hphase, ?_⟩
          rw [hchannel, List.mem_singleton.mp hnew]
          exact List.mem_cons_self
  | disconnected q hphase hchannel hclosed =>
      rcases outcome_of_setRequest hm with hold | ⟨rfl, hnew⟩
      · exact Or.inl hold
      · exact Or.inl hnew
  | dropOp q | cancelRefused q =>
      rw [dropPending_outcomes] at hm
      exact Or.inl hm
  | cancelMissed q kind hphase hnone =>
      rw [cancelOp_requests] at hm
      exact Or.inl hm
  | cancelTaken q kind ctx hphase hsome =>
      rw [setPhase_outcomes, cancelOp_requests] at hm
      exact Or.inl hm
  | cancelSent q ctx kind hphase hrecv hroom =>
      rw [push_outcomes, setPhase_outcomes] at hm
      exact Or.inl hm
  | writeOk q hphase =>
      have hsame := setPhase_outcomes s q r .pending
      rw [← hsame]
      exact Or.inl hm
  | abandonCancel q ctx kind hphase =>
      rw [setPhase_outcomes] at hm
      exact Or.inl hm
  | orphan packet hloop hlookup =>
      unfold handleOrphan at hm
      split at hm
      · exact Or.inl hm
      · exact Or.inl hm
  | sent resp' ctx =>
      rw [← push_outcomes s ctx.sender r (.ok resp')]
      exact Or.inl hm
  | errorSent ctx =>
      rw [← push_outcomes s ctx.sender r (.error .decompression)]
      exact Or.inl hm
  | readTold ctx | closeTold ctx =>
      rw [← push_outcomes s ctx.sender r (.error (.cancelled .closedInFlight))]
      exact Or.inl hm
  | unsolicited | taken | reinserted | refused | errorRefused | readClose | readPanic
  | readDrain | readSkipped | closeStarted | closeAgain | closeWriter | closeDrain
  | closeSkipped | closeGivenUp | closeDropped => exact Or.inl hm

/-- A step on an operation that was already written leaves this request alone. -/
theorem requests_of_written {r q : RequestId} {phase : Phase} {t : Request}
    (h : (s.requests r).phase = .dispatching) (hq : (s.requests q).phase = phase)
    (hphase : phase ≠ .dispatching) :
    Function.update s.requests q t r = s.requests r := by
  apply Function.update_of_ne
  rintro rfl
  rw [h] at hq
  exact hphase hq.symm

/-- A dispatch in progress goes on, is written, or ends without a receiver. -/
theorem dispatching_step {r : RequestId} (hstep : Step cfg s a s')
    (hborn : r < s.dispatched) (h : (s.requests r).phase = .dispatching) :
    (s'.requests r).phase = .dispatching ∨ a = .writeOk r ∨ s'.receiving r = false := by
  have hkept : s'.requests r = s.requests r -> (s'.requests r).phase = .dispatching := by
    intro hsame
    rw [hsame]
    exact h
  cases hstep with
  | register packet isPersistent context =>
      exact Or.inl (hkept (Function.update_of_ne (Nat.ne_of_lt hborn) ..))
  | writeOk q hphase =>
      by_cases hr : r = q
      · subst hr
        exact Or.inr (Or.inl rfl)
      · exact Or.inl (hkept (setPhase_requests_ne s _ hr))
  | writeErr q hphase =>
      by_cases hr : r = q
      · subst hr
        refine Or.inr (Or.inr ?_)
        unfold State.receiving
        rw [setRequest_requests_self]
        rfl
      · exact Or.inl (hkept (setRequest_requests_ne (s.eraseOpaque _) _ hr))
  | abandonDispatch q buffered hphase =>
      by_cases hr : r = q
      · subst hr
        refine Or.inr (Or.inr ?_)
        change ((s.setRequest r _).requests r).phase.receiving = false
        rw [setRequest_requests_self]
        rfl
      · exact Or.inl (hkept (setRequest_requests_ne s _ hr))
  | received q m rest hphase hchannel => exact Or.inl (hkept (requests_of_written h hphase nofun))
  | disconnected q hphase hchannel hclosed =>
      exact Or.inl (hkept (requests_of_written h hphase nofun))
  | dropOp q hphase =>
      refine Or.inl (hkept ?_)
      rw [dropPending_requests]
      exact requests_of_written h hphase nofun
  | cancelMissed q kind hphase hnone =>
      refine Or.inl (hkept ?_)
      rw [cancelOp_requests]
  | cancelTaken q kind ctx hphase hsome =>
      refine Or.inl (hkept ?_)
      unfold setPhase State.setRequest
      rw [cancelOp_requests]
      exact requests_of_written h hphase nofun
  | cancelSent q ctx kind hphase hrecv hroom =>
      refine Or.inl ?_
      have hsame : (setPhase s q .pending).requests r = s.requests r :=
        requests_of_written h hphase nofun
      rw [push_phase, hsame]
      exact h
  | cancelRefused q ctx kind hphase hgone =>
      refine Or.inl (hkept ?_)
      rw [dropPending_requests]
      exact requests_of_written h hphase nofun
  | abandonCancel q ctx kind hphase =>
      exact Or.inl (hkept (requests_of_written h hphase nofun))
  | orphan packet hloop hlookup =>
      refine Or.inl (hkept ?_)
      unfold handleOrphan
      split <;> rfl
  | sent resp ctx => exact Or.inl ((push_phase s ctx.sender r _).trans h)
  | errorSent ctx => exact Or.inl ((push_phase s ctx.sender r _).trans h)
  | readTold ctx => exact Or.inl ((push_phase s ctx.sender r _).trans h)
  | closeTold ctx => exact Or.inl ((push_phase s ctx.sender r _).trans h)
  | unsolicited | taken | reinserted | refused | errorRefused | readClose | readPanic
  | readDrain | readSkipped | closeStarted | closeAgain | closeWriter | closeDrain
  | closeSkipped | closeGivenUp | closeDropped => exact Or.inl h

/-!
# Handlers and their callers
-/

structure RegistrationInv (s : State) : Prop where
  waiting : forall r, Registered s r ∨ Returning s r -> s.receiving r = true
  ended : forall r, (exists senders, s.readLoop = .draining senders) -> Registered s r ->
    (s.requests r).phase = .dispatching

theorem initial_registrationInv : RegistrationInv initial where
  waiting := by
    intro r h
    rcases h with ⟨o, ctx, h, _⟩ | h
    · cases h
    · cases h
  ended := by
    intro r _ h
    rcases h with ⟨o, ctx, h, _⟩
    cases h

theorem known_registered (hinv : Ledger.Inv s.ledger) {r : RequestId}
    (h : Registered s r) : r < s.dispatched := by
  rcases h with ⟨o, ctx, hlookup, rfl⟩
  exact known_entry hinv hlookup

/-- A handler in the map or on its way back was there before, or is new. -/
theorem handler_source (hcoherent : Coherent s) {r : RequestId}
    (hstep : RegistryStep cfg s a s') (h : Registered s' r ∨ Returning s' r) :
    (r < s.dispatched ∧ (Registered s r ∨ Returning s r)) ∨
      (s'.requests r).phase = .dispatching := by
  have hknown : Registered s r ∨ Returning s r -> r < s.dispatched := by
    rintro (hold | hold)
    · exact known_registered hcoherent.ledger hold
    · exact known_returning hcoherent.ledger hold
  rcases h with h | h
  · rcases registered_source hstep h with hold | hold | ⟨rfl, _, hphase⟩
    · exact Or.inl ⟨hknown (Or.inl hold), Or.inl hold⟩
    · exact Or.inl ⟨hknown (Or.inr hold), Or.inr hold⟩
    · exact Or.inr hphase
  · rcases returning_source hstep h with ⟨_, hold⟩ | ⟨packet, ctx, hlookup, hctx, _, _⟩
    · exact Or.inl ⟨hknown (Or.inr hold), Or.inr hold⟩
    · have hold : Registered s r := ⟨_, ctx, hlookup, hctx⟩
      exact Or.inl ⟨hknown (Or.inl hold), Or.inl hold⟩

theorem registration_waiting (hcoherent : Coherent s) (hinv : RegistrationInv s)
    (hguard : KeepsHandlers s a) (hstep : Step cfg s a s') {r : RequestId}
    (h : Registered s' r ∨ Returning s' r) : s'.receiving r = true := by
  rcases handler_source hcoherent (registry_step hstep) h with ⟨hborn, hold⟩ | hphase
  · have hrecv := hinv.waiting r hold
    by_contra hlost
    have hhangup := hangup_of_lost hstep hborn hrecv (Bool.eq_false_iff.mpr hlost)
    have hreturning : Returning s r := by
      rcases not_registered_of_hangup hcoherent hrecv hhangup with
        ⟨buffered, rfl⟩ | ⟨hregistered, hloop⟩
      · rcases hold with hold | hold
        · exact (hguard.1 hold).elim
        · exact (hguard.2 hold).elim
      · rcases h with h | h
        · exact (hregistered h).elim
        · rw [Returning, hloop] at h
          exact h
    cases hhangup with
    | abandoned buffered => exact hguard.2 hreturning
    | failed hmap hloop => exact hguard hreturning
    | dropped hmap hloop => exact hguard hreturning
    | refused ctx kind hphase hgone hmap hloop => exact hguard ctx kind hphase hgone hreturning
  · exact receiving_of_phase hphase

/-- The read loop drains once, and the map is empty then. -/
theorem draining_source {senders : List SenderContext} (hstep : RegistryStep cfg s a s')
    (h : s'.readLoop = .draining senders) :
    (exists l, s.readLoop = .draining l) ∨ s'.opaqueMap = ∅ := by
  cases hstep with
  | same hmap hloop | register _ _ _ _ _ hmap hloop | erased _ hmap hloop
  | cleared hmap hloop =>
      rw [hloop] at h
      exact Or.inl ⟨senders, h⟩
  | taken packet ctx haction hmagic hselecting hlookup hmap hloop =>
      rw [hloop] at h
      rcases resolve_cases cfg packet ctx with herr | ⟨_, _, ⟨_, hre⟩ | hsend⟩
      · rw [herr] at h
        cases h
      · rw [hre] at h
        cases h
      · rw [hsend] at h
        cases h
  | stopped haction hselecting hmap hloop =>
      rcases hloop with hloop | hloop
      · rw [hloop] at h
        cases h
      · rw [hloop] at h
        cases h
  | reinserted _ _ _ _ hmap hloop | served _ hmap hloop | refused _ _ _ _ hmap hloop =>
      rw [hloop] at h
      cases h
  | drained senders hdrain hloop =>
      rcases hdrain with ⟨_, hmap⟩ | ⟨hold, _⟩
      · exact Or.inr hmap
      · exact Or.inl hold

theorem registration_ended (hcoherent : Coherent s) (hinv : RegistrationInv s)
    (hguard : KeepsHandlers s a) (hstep : Step cfg s a s') {r : RequestId}
    (hloop : exists senders, s'.readLoop = .draining senders) (h : Registered s' r) :
    (s'.requests r).phase = .dispatching := by
  have hrecv := registration_waiting hcoherent hinv hguard hstep (Or.inl h)
  rcases hloop with ⟨senders, hloop⟩
  rcases draining_source (registry_step hstep) hloop with ⟨l, hold⟩ | hempty
  · rcases registered_source (registry_step hstep) h with
      hregistered | hreturning | ⟨rfl, _, hphase⟩
    · have hborn := known_registered hcoherent.ledger hregistered
      have hphase := hinv.ended r ⟨l, hold⟩ hregistered
      rcases dispatching_step hstep hborn hphase with hsame | rfl | hlost
      · exact hsame
      · exact ((hguard (Or.inl ⟨l, hold⟩)).registered hregistered).elim
      · rw [hlost] at hrecv
        cases hrecv
    · rw [Returning, hold] at hreturning
      cases hreturning
    · exact hphase
  · rcases h with ⟨o, ctx, hlookup, _⟩
    rw [hempty, AList.lookup_empty] at hlookup
    cases hlookup

theorem RegistrationInv.step (hcoherent : Coherent s) (h : RegistrationInv s)
    (hguard : KeepsHandlers s a) (hstep : Step cfg s a s') : RegistrationInv s' where
  waiting := fun _ => registration_waiting hcoherent h hguard hstep
  ended := fun _ => registration_ended hcoherent h hguard hstep

/-!
# After a drain
-/

theorem closer_draining_step (hstep : Step cfg s a s')
    (h : exists senders, s.closer = .draining senders) :
    exists senders, s'.closer = .draining senders := by
  rcases h with ⟨l, h⟩
  cases hstep with
  | dropOp r | cancelMissed r | cancelTaken r | cancelRefused r =>
      refine ⟨l, ?_⟩
      change (cancelOp s r).2.closer = _
      unfold cancelOp
      dsimp only
      split
      · exact h
      · exact h
  | orphan packet hloop hlookup =>
      refine ⟨l, ?_⟩
      unfold handleOrphan
      split
      · exact h
      · exact h
  | closeTold ctx senders hcloser hrecv hroom => exact ⟨senders, rfl⟩
  | closeSkipped ctx senders hcloser => exact ⟨senders, rfl⟩
  | closeDropped senders hcloser => exact ⟨[], rfl⟩
  | closeStarted hcloser | closeWriter _ hcloser | closeDrain hcloser
  | closeGivenUp hcloser =>
      rw [h] at hcloser
      cases hcloser
  | register | writeOk | writeErr | abandonDispatch | received | disconnected | cancelSent
  | abandonCancel | unsolicited | taken | reinserted | sent | refused | errorSent
  | errorRefused | readClose | readPanic | readDrain | readTold | readSkipped
  | closeAgain => exact ⟨l, h⟩

theorem readLoop_draining_step (hstep : RegistryStep cfg s a s')
    (h : exists senders, s.readLoop = .draining senders) :
    exists senders, s'.readLoop = .draining senders := by
  rcases h with ⟨l, h⟩
  cases hstep with
  | same hmap hloop | register _ _ _ _ _ hmap hloop | erased _ hmap hloop
  | cleared hmap hloop => exact ⟨l, hloop.trans h⟩
  | taken packet ctx haction hmagic hselecting hlookup hmap hloop =>
      rw [h] at hselecting
      cases hselecting
  | reinserted resp ctx persistent hreturning hmap hloop =>
      rw [h] at hreturning
      cases hreturning
  | served hsending hmap hloop =>
      rw [h] at hsending
      rcases hsending with ⟨_, _, hsending, _⟩ | ⟨_, hsending⟩
      · cases hsending
      · cases hsending
  | refused resp ctx hsending hgone hmap hloop =>
      rw [h] at hsending
      cases hsending
  | stopped haction hselecting hmap hloop =>
      rw [h] at hselecting
      cases hselecting
  | drained senders hdrain hloop => exact ⟨senders, hloop⟩

theorem Drained.step (h : Drained s) (hstep : Step cfg s a s') : Drained s' := by
  rcases h with h | h
  · exact Or.inl (readLoop_draining_step (registry_step hstep) h)
  · exact Or.inr (closer_draining_step hstep h)

theorem Settled.step (hstep : Step cfg s a s') {r : RequestId} (hborn : r < s.dispatched)
    (houtcomes : Unanswered (s.requests r).outcomes) (h : Settled s r) : Settled s' r where
  registered := by
    intro hnow
    rcases registered_source (registry_step hstep) hnow with hold | hold | ⟨hnew, _, _⟩
    · exact h.registered hold
    · exact h.held (Or.inl hold)
    · exact Nat.ne_of_lt hborn hnew
  held := by
    intro hnow
    rcases held_source (registry_step hstep) hnow with
      hold | ⟨packet, ctx, _, _, hlookup, hctx, _⟩
    · exact h.held hold
    · exact h.registered ⟨_, ctx, hlookup, hctx⟩
  channel := by
    intro resp hm
    rcases message_source hstep (List.mem_append_left _ hm) with hold | hsource
    · rcases List.mem_append.mp hold with hchannel | houtcome
      · exact h.channel resp hchannel
      · exact houtcomes resp houtcome
    · cases hsource with
      | response _ ctx hloop hctx =>
          apply h.held
          refine Or.inr ?_
          rw [Answering, hloop, ← hctx]
          rfl

/-- What is known, after a drain, of the requests registered since. -/
structure LateInv (n : Nat) (s : State) : Prop where
  drained : Drained s
  outcomes : forall r, n ≤ r -> Unanswered (s.requests r).outcomes
  settled : forall r, n ≤ r -> InOp s r -> Settled s r

theorem InOp.receiving {r : RequestId} (h : InOp s r) : s.receiving r = true := by
  rcases h with h | ⟨_, _, h⟩
  · exact receiving_of_phase h
  · exact receiving_of_phase h

theorem inOp_or_dispatching {r : RequestId} (h : s.receiving r = true) :
    InOp s r ∨ (s.requests r).phase = .dispatching := by
  unfold State.receiving at h
  unfold InOp
  cases hphase : (s.requests r).phase with
  | dispatching => exact Or.inr rfl
  | pending => exact Or.inl (Or.inl rfl)
  | cancelling ctx kind => exact Or.inl (Or.inr ⟨ctx, kind, rfl⟩)
  | unborn | failed | abandoned | dropped =>
      rw [hphase] at h
      cases h

theorem not_inOp_of_dispatching {r : RequestId} (h : (s.requests r).phase = .dispatching) :
    ¬ InOp s r := by
  rintro (hphase | ⟨_, _, hphase⟩)
  · rw [h] at hphase
    cases hphase
  · rw [h] at hphase
    cases hphase

theorem LateInv.step {n : Nat} (hcoherent : Coherent s) (h : LateInv n s)
    (hguard : KeepsHandlers s a) (hstep : Step cfg s a s') : LateInv n s' where
  drained := h.drained.step hstep
  outcomes := by
    intro r hr resp hm
    rcases outcome_source hstep hm with hold | ⟨hphase, hchannel⟩
    · exact h.outcomes r hr resp hold
    · exact (h.settled r hr (Or.inl hphase)).channel resp hchannel
  settled := by
    intro r hr hop
    have hborn : r < s.dispatched := by
      rcases hop with hphase | ⟨_, _, hphase⟩
      · exact born_before hcoherent hstep (by rw [hphase]; nofun) (by rw [hphase]; nofun)
      · exact born_before hcoherent hstep (by rw [hphase]; nofun) (by rw [hphase]; nofun)
    have hlater := (step_later hcoherent.ledger hstep).2 r hborn
    have hrecv : s.receiving r = true := hlater.receiving hop.receiving
    have hsettled : Settled s r := by
      rcases inOp_or_dispatching hrecv with hold | hdispatching
      · exact h.settled r hr hold
      · rcases dispatching_step hstep hborn hdispatching with hphase | rfl | hlost
        · exact (not_inOp_of_dispatching hphase hop).elim
        · exact hguard h.drained
        · rw [hop.receiving] at hlost
          cases hlost
    exact hsettled.step hstep hborn (h.outcomes r hr)

theorem lateInv_of_drained (hcoherent : Coherent s) (h : Drained s) :
    LateInv s.dispatched s where
  drained := h
  outcomes := by
    intro r hr resp hm
    have hunborn : s.requests r = Request.unborn := hcoherent.ledger.unborn r hr
    rw [hunborn] at hm
    cases hm
  settled := by
    intro r hr hop
    have hunborn : s.requests r = Request.unborn := hcoherent.ledger.unborn r hr
    have hrecv := hop.receiving
    unfold State.receiving at hrecv
    rw [hunborn] at hrecv
    cases hrecv

/-- A pending operation without a handler can receive now, or an error is on its way. -/
theorem recv_or_sender {r : RequestId} (hphase : (s.requests r).phase = .pending)
    (hregistered : ¬ Registered s r) :
    (exists u, step cfg s (.recv r) = some u) ∨
      exists ctx, ctx ∈ s.readLoop.senders ++ (s.closer.senders ++ s.cancelSenders) ∧
        ctx.sender = r := by
  change (exists u, recv s r = some u) ∨ _
  unfold recv
  dsimp only
  rw [hphase]
  cases hchannel : (s.requests r).channel with
  | cons m rest => exact Or.inl ⟨_, rfl⟩
  | nil =>
      dsimp only
      by_cases hclosed : s.channelClosed r = true
      · rw [if_pos hclosed]
        exact Or.inl ⟨_, rfl⟩
      · have hsender : exists ctx, ctx ∈ s.senders ∧ ctx.sender = r := by
          simpa [State.channelClosed] using hclosed
        rcases hsender with ⟨ctx, hmem, hctx⟩
        rcases List.mem_append.mp hmem with hvalues | hrest
        · rcases FiniteMap.mem_values.mp hvalues with ⟨o, hlookup⟩
          exact (hregistered ⟨o, ctx, hlookup, hctx⟩).elim
        · exact Or.inr ⟨ctx, hrest, hctx⟩

theorem handlersKept_of_reach
    (hreach : StepFn.Reach (step cfg) KeepsHandlers initial s) :
    HandlersKept cfg KeepsHandlers s := by
  have hcoherent := reach_coherent hreach
  have hkeeps : forall t a u, Coherent t -> RegistrationInv t -> KeepsHandlers t a ->
      step cfg t a = some u -> RegistrationInv u :=
    fun _ _ _ hcoherent h hguard hstep => h.step hcoherent hguard (step_inv hstep)
  have hinv : RegistrationInv s :=
    hreach.invariant_with (fun _ hreach => reach_coherent hreach) initial_registrationInv
      hkeeps
  refine ⟨fun r h => hinv.waiting r (Or.inl h), hinv.ended, ?_⟩
  intro hdrained t r hlate hr
  have hlateKeeps : forall t a u, Coherent t -> LateInv s.dispatched t -> KeepsHandlers t a ->
      step cfg t a = some u -> LateInv s.dispatched u :=
    fun _ _ _ hcoherent h hguard hstep => h.step hcoherent hguard (step_inv hstep)
  have hlateInv : LateInv s.dispatched t :=
    hlate.invariant_with (fun _ hreach => coherent_of_reach hcoherent hreach)
      (lateInv_of_drained hcoherent hdrained) hlateKeeps
  refine ⟨hlateInv.outcomes r hr, hlateInv.settled r hr, fun hphase => ?_⟩
  exact recv_or_sender hphase (hlateInv.settled r hr (Or.inl hphase)).registered

/-- A dropped future of `dispatch` leaves its handler behind, and a request written
after the read loop drained the map waits for nobody. -/
theorem handlers_not_kept :
    (exists s, StepFn.run (step Config.plain) initial
        [.register getRequest false none, .abandonDispatch 0 false] = some s ∧
      Registered s 0 ∧ s.receiving 0 = false) ∧
    exists s t, StepFn.run (step Config.plain) initial [.readClose, .readDrain] = some s ∧
      Drained s ∧
      StepFn.run (step Config.plain) s [.register getRequest false none, .writeOk 0] = some t ∧
      (t.requests 0).phase = .pending ∧ Registered t 0 ∧
      step Config.plain t (.recv 0) = none := by
  constructor
  · exact ⟨_, rfl, ⟨1, { sender := 0, isPersistent := false, context := none }, rfl, rfl⟩, rfl⟩
  · exact ⟨_, _, rfl, Or.inl ⟨[], rfl⟩, rfl, rfl,
      ⟨1, { sender := 0, isPersistent := false, context := none }, rfl, rfl⟩, rfl⟩

/-- A dispatch that starts after the read loop drained the map and whose write fails. -/
theorem handlersKept_failed_write :
    exists s, StepFn.run (step Config.plain) initial
        [.readClose, .readDrain, .register getRequest false none, .writeErr 0] = some s ∧
      (s.requests 0).outcomes = [.error (.dispatch 1 .get)] ∧
      HandlersKept Config.plain KeepsHandlers s := by
  refine ⟨_, rfl, rfl, ?_⟩
  apply handlersKept_of_reach
  have h₁ : StepFn.Reach (step Config.plain) KeepsHandlers initial _ :=
    StepFn.Reach.tail Action.readClose StepFn.Reach.refl trivial rfl
  have h₂ := StepFn.Reach.tail Action.readDrain h₁ trivial rfl
  have h₃ := StepFn.Reach.tail (Action.register getRequest false none) h₂ trivial rfl
  refine StepFn.Reach.tail (Action.writeErr 0) h₃ ?_ rfl
  intro h
  cases h

end Client
end Memdx
end CouchbaseSdk
