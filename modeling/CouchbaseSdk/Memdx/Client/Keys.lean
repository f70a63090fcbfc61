import CouchbaseSdk.Memdx.Client.Registry

/-!
# Opaques as keys

The opaque of a request is its number in the order of registration, plus one, modulo
2^32.  The map, the read loop, the calls of `cancel`, the channels and the wire all
agree on it: whatever belongs to a request carries its opaque.
-/

namespace CouchbaseSdk
namespace Memdx
namespace Client

open Foundation

/-- The opaque of a request. -/
def opaqueOf (r : RequestId) : UInt32 :=
  UInt32.ofNat (r + 1)

theorem opaqueOf_succ (r : RequestId) : opaqueOf r + 1 = opaqueOf (r + 1) := by
  unfold opaqueOf
  rw [UInt32.ofNat_add (r + 1) 1]
  rfl

/-- Equal opaques lie a multiple of 2^32 registrations apart. -/
theorem spaced_of_opaqueOf {r r' : Nat} (hlt : r < r') (h : opaqueOf r = opaqueOf r') :
    (r' - r) % 2 ^ 32 = 0 := by
  have hnat := congrArg UInt32.toNat h
  rw [opaqueOf, opaqueOf, UInt32.toNat_ofNat', UInt32.toNat_ofNat'] at hnat
  omega

/-- Two requests less than 2^32 registrations apart have different opaques. -/
theorem opaqueOf_inj {r r' : Nat} (hle : r ≤ r') (hlt : r' < r + 2 ^ 32)
    (h : opaqueOf r = opaqueOf r') : r = r' := by
  rcases Nat.lt_or_eq_of_le hle with hapart | heq
  · have hspaced := spaced_of_opaqueOf hapart h
    rw [Nat.mod_eq_of_lt (Nat.sub_lt_left_of_lt_add hle hlt)] at hspaced
    exact (Nat.sub_ne_zero_of_lt hapart hspaced).elim
  · exact heq

structure Keyed (s : State) : Prop where
  current : s.currentOpaque = opaqueOf s.dispatched
  numbered : forall r, r < s.dispatched -> (s.requests r).opaqueId = opaqueOf r ∧
    (s.requests r).packet.opaqueId = some (opaqueOf r)
  written : forall r packet, (r, packet) ∈ s.wire ->
    r < s.dispatched ∧ packet = (s.requests r).packet
  entry : forall o ctx, s.opaqueMap.lookup o = some ctx ->
    (s.requests ctx.sender).opaqueId = o
  answer : forall resp ctx,
    (s.readLoop = .sending resp ctx ∨
      exists persistent, s.readLoop = .reinserting resp ctx persistent) ->
    resp.packet.opaqueId = (s.requests ctx.sender).opaqueId
  away : forall r, Returning s r -> ¬ Registered s r
  cancelling : forall r ctx kind, (s.requests r).phase = .cancelling ctx kind ->
    (s.requests ctx.sender).opaqueId = (s.requests r).opaqueId
  answered : forall r resp, .ok resp ∈ (s.requests r).messages ->
    resp.packet.opaqueId = (s.requests r).opaqueId

/-!
# Every owner names a registered request
-/

section Known

variable {s : State}

theorem known_entry (hinv : Ledger.Inv s.ledger) {o : UInt32} {ctx : SenderContext}
    (hlookup : s.opaqueMap.lookup o = some ctx) : ctx.sender < s.dispatched := by
  have hmem : ctx ∈ s.senders :=
    List.mem_append_left _ (FiniteMap.mem_values.mpr ⟨o, hlookup⟩)
  exact (hinv.known ctx hmem).1

theorem known_readLoop (hinv : Ledger.Inv s.ledger) {ctx : SenderContext}
    (h : ctx ∈ s.readLoop.senders) : ctx.sender < s.dispatched :=
  (hinv.known ctx (mem_senders_of_readLoop h)).1

theorem born_of_phase (hinv : Ledger.Inv s.ledger) {r : RequestId} {phase : Phase}
    (hphase : (s.requests r).phase = phase) (hne : phase ≠ .unborn) : r < s.dispatched := by
  apply Nat.lt_of_not_le
  intro hle
  have hunborn : s.requests r = Request.unborn := hinv.unborn r hle
  rw [hunborn] at hphase
  exact hne hphase.symm

theorem known_cancelling (hinv : Ledger.Inv s.ledger) {r : RequestId}
    {ctx : SenderContext} {kind : CancellationErrorKind}
    (hphase : (s.requests r).phase = .cancelling ctx kind) : ctx.sender < s.dispatched := by
  have hborn : r < s.dispatched := born_of_phase hinv hphase nofun
  have hheld : ctx ∈ s.cancelSenders := by
    apply mem_gather.mpr
    refine ⟨r, hborn, ?_⟩
    rw [hphase]
    exact List.mem_singleton_self ctx
  have hmem : ctx ∈ s.senders :=
    List.mem_append_right _ (List.mem_append_right _ (List.mem_append_right _ hheld))
  exact (hinv.known ctx hmem).1

theorem known_messages (hinv : Ledger.Inv s.ledger) {r : RequestId} {m : Message}
    (hm : m ∈ (s.requests r).messages) : r < s.dispatched := by
  apply Nat.lt_of_not_le
  intro hle
  have hunborn : s.requests r = Request.unborn := hinv.unborn r hle
  rw [hunborn] at hm
  cases hm

end Known

/-!
# What a step adds
-/

variable {cfg : Config} {s s' : State} {a : Action}

theorem step_counters (hstep : Step cfg s a s') :
    (s'.currentOpaque = s.currentOpaque ∧ s'.dispatched = s.dispatched) ∨
      exists packet isPersistent context,
        a = .register packet isPersistent context ∧
          s' = registerHandler s packet isPersistent context := by
  cases hstep with
  | register packet isPersistent context =>
      exact Or.inr ⟨packet, isPersistent, context, rfl, rfl⟩
  | dropOp r | cancelMissed r | cancelTaken r | cancelRefused r =>
      refine Or.inl ⟨?_, cancelOp_dispatched s r⟩
      change (cancelOp s r).2.currentOpaque = s.currentOpaque
      unfold cancelOp
      dsimp only
      split <;> rfl
  | orphan packet hloop hlookup =>
      unfold handleOrphan
      split
      · exact Or.inl ⟨rfl, rfl⟩
      · exact Or.inl ⟨rfl, rfl⟩
  | _ => exact Or.inl ⟨rfl, rfl⟩

theorem cancelOp_wire (s : State) (r : RequestId) : (cancelOp s r).2.wire = s.wire := by
  unfold cancelOp
  dsimp only
  split <;> rfl

theorem wire_source {r : RequestId} {packet : RequestPacket} (hstep : Step cfg s a s')
    (h : (r, packet) ∈ s'.wire) :
    (r, packet) ∈ s.wire ∨
      (packet = (s.requests r).packet ∧ (s.requests r).phase = .dispatching) := by
  cases hstep with
  | writeOk q hphase =>
      rcases List.mem_append.mp h with hold | hnew
      · exact Or.inl hold
      · cases List.mem_singleton.mp hnew
        exact Or.inr ⟨rfl, hphase⟩
  | abandonDispatch q buffered hphase =>
      dsimp only at h
      split at h
      · rcases List.mem_append.mp h with hold | hnew
        · exact Or.inl hold
        · cases List.mem_singleton.mp hnew
          exact Or.inr ⟨rfl, hphase⟩
      · exact Or.inl h
  | dropOp q | cancelMissed q | cancelTaken q | cancelRefused q =>
      change (r, packet) ∈ (cancelOp s q).2.wire at h
      rw [cancelOp_wire] at h
      exact Or.inl h
  | orphan p hloop hlookup =>
      unfold handleOrphan at h
      split at h
      · exact Or.inl h
      · exact Or.inl h
  | _ => exact Or.inl h

theorem cancelling_of_setRequest {r r' : RequestId} {q : Request} {ctx : SenderContext}
    {kind : CancellationErrorKind}
    (h : ((s.setRequest r' q).requests r).phase = .cancelling ctx kind)
    (hq : q.phase.senders = []) : (s.requests r).phase = .cancelling ctx kind := by
  by_cases hr : r = r'
  · subst hr
    rw [setRequest_requests_self] at h
    rw [h] at hq
    cases hq
  · rwa [setRequest_requests_ne s q hr] at h

theorem push_phase (s : State) (r r' : RequestId) (m : Message) :
    ((s.push r m).requests r').phase = (s.requests r').phase := by
  by_cases hr : r' = r
  · subst hr
    rw [push_requests_self]
  · rw [push_requests_ne s m hr]

theorem cancelling_of_dropPending {r r' : RequestId} {ctx : SenderContext}
    {kind : CancellationErrorKind}
    (h : ((dropPending s r').requests r).phase = .cancelling ctx kind) :
    (s.requests r).phase = .cancelling ctx kind := by
  rw [dropPending_requests] at h
  by_cases hr : r = r'
  · subst hr
    rw [Function.update_self] at h
    cases h
  · rwa [Function.update_of_ne hr] at h

/-- A call of `cancel` holds what it held, or the handler it found under its opaque. -/
theorem cancelling_source {r : RequestId} {ctx : SenderContext}
    {kind : CancellationErrorKind} (hstep : Step cfg s a s')
    (h : (s'.requests r).phase = .cancelling ctx kind) :
    (s.requests r).phase = .cancelling ctx kind ∨
      ((s.requests r).phase = .pending ∧ a = .cancel r kind ∧
        (cancelOp s r).1 = some ctx) := by
  cases hstep with
  | register packet isPersistent context =>
      by_cases hr : r = s.dispatched
      · subst hr
        have hself : (registerHandler s packet isPersistent context).requests s.dispatched =
            _ := Function.update_self ..
        rw [hself] at h
        cases h
      · have hother : (registerHandler s packet isPersistent context).requests r =
            s.requests r := Function.update_of_ne hr ..
        rw [hother] at h
        exact Or.inl h
  | writeOk q hphase => exact Or.inl (cancelling_of_setRequest h rfl)
  | writeErr q hphase =>
      exact Or.inl (cancelling_of_setRequest (s := s.eraseOpaque _) h rfl)
  | abandonDispatch q buffered hphase => exact Or.inl (cancelling_of_setRequest h rfl)
  | received q m rest hphase hchannel =>
      refine Or.inl (cancelling_of_setRequest h ?_)
      dsimp only
      rw [hphase]
      rfl
  | disconnected q hphase hchannel hclosed =>
      refine Or.inl (cancelling_of_setRequest h ?_)
      dsimp only
      rw [hphase]
      rfl
  | dropOp q hphase => exact Or.inl (cancelling_of_dropPending h)
  | cancelMissed q kind' hphase hnone =>
      rw [cancelOp_requests] at h
      exact Or.inl h
  | cancelTaken q kind' ctx' hphase hsome =>
      by_cases hr : r = q
      · subst hr
        rw [setPhase_requests_self] at h
        cases h
        exact Or.inr ⟨hphase, rfl, hsome⟩
      · rw [setPhase_requests_ne _ _ hr, cancelOp_requests] at h
        exact Or.inl h
  | cancelSent q ctx' kind' hphase hrecv hroom =>
      rw [push_phase] at h
      exact Or.inl (cancelling_of_setRequest h rfl)
  | cancelRefused q ctx' kind' hphase hgone => exact Or.inl (cancelling_of_dropPending h)
  | abandonCancel q ctx' kind' hphase => exact Or.inl (cancelling_of_setRequest h rfl)
  | orphan packet hloop hlookup =>
      unfold handleOrphan at h
      split at h
      · exact Or.inl h
      · exact Or.inl h
  | sent | errorSent | readTold | closeTold =>
      refine Or.inl ?_
      rw [← h]
      exact (push_phase ..).symm
  | unsolicited | taken | reinserted | refused | errorRefused | readClose | readPanic
  | readDrain | readSkipped | closeStarted | closeAgain | closeWriter | closeDrain
  | closeSkipped | closeGivenUp | closeDropped => exact Or.inl h

/-!
# The invariant
-/

theorem initial_keyed : Keyed initial where
  current := rfl
  numbered := by
    intro r hr
    exact (Nat.not_lt_zero r hr).elim
  written := by
    intro r packet h
    cases h
  entry := by
    intro o ctx h
    cases h
  answer := by
    intro resp ctx h
    rcases h with h | ⟨_, h⟩
    · cases h
    · cases h
  away := by
    intro r h
    cases h
  cancelling := by
    intro r ctx kind h
    cases h
  answered := by
    intro r resp h
    cases h

/-- A response on its way carries the opaque under which its handler was found. -/
theorem answer_source {resp : ClientResponse} {ctx : SenderContext}
    (hstep : RegistryStep cfg s a s')
    (h : s'.readLoop = .sending resp ctx ∨
      exists persistent, s'.readLoop = .reinserting resp ctx persistent) :
    (s.readLoop = .sending resp ctx ∨
      exists persistent, s.readLoop = .reinserting resp ctx persistent) ∨
      s.opaqueMap.lookup resp.packet.opaqueId = some ctx := by
  cases hstep with
  | same hmap hloop | register _ _ _ _ _ hmap hloop | erased _ hmap hloop
  | cleared hmap hloop =>
      rw [hloop] at h
      exact Or.inl h
  | taken packet c haction hmagic hselecting hlookup hmap hloop =>
      rw [hloop] at h
      refine Or.inr ?_
      rcases resolve_cases cfg packet c with herr | ⟨_, hopaqueId, ⟨_, hre⟩ | hsend⟩
      · rw [herr] at h
        rcases h with h | ⟨_, h⟩
        · cases h
        · cases h
      · rw [hre] at h
        rcases h with h | ⟨_, h⟩
        · cases h
        · cases h
          rw [hopaqueId]
          exact hlookup
      · rw [hsend] at h
        rcases h with h | ⟨_, h⟩
        · cases h
          rw [hopaqueId]
          exact hlookup
        · cases h
  | reinserted resp' c persistent hreturning hmap hloop =>
      rw [hloop] at h
      rcases h with h | ⟨_, h⟩
      · cases h
        exact Or.inl (Or.inr ⟨persistent, hreturning⟩)
      · cases h
  | stopped haction hselecting hmap hloop =>
      rcases hloop with hloop | hloop
      · rw [hloop] at h
        rcases h with h | ⟨_, h⟩
        · cases h
        · cases h
      · rw [hloop] at h
        rcases h with h | ⟨_, h⟩
        · cases h
        · cases h
  | served _ hmap hloop | refused _ _ _ _ hmap hloop | drained _ hmap hloop =>
      rw [hloop] at h
      rcases h with h | ⟨_, h⟩
      · cases h
      · cases h

theorem known_answer (hinv : Ledger.Inv s.ledger) {resp : ClientResponse}
    {ctx : SenderContext}
    (h : s.readLoop = .sending resp ctx ∨
      exists persistent, s.readLoop = .reinserting resp ctx persistent) :
    ctx.sender < s.dispatched := by
  apply known_readLoop hinv
  rcases h with h | ⟨_, h⟩
  · rw [h]
    exact List.mem_singleton_self ctx
  · rw [h]
    exact List.mem_singleton_self ctx

theorem known_returning (hinv : Ledger.Inv s.ledger) {r : RequestId}
    (h : Returning s r) : r < s.dispatched := by
  unfold Returning at h
  cases hloop : s.readLoop with
  | reinserting resp ctx persistent =>
      rw [hloop] at h
      cases h
      exact known_answer hinv (Or.inr ⟨persistent, hloop⟩)
  | selecting | sending | sendingError | closing | draining | panicked =>
      rw [hloop] at h
      cases h

theorem known_held (hinv : Ledger.Inv s.ledger) {q : RequestId} (h : Held s q) :
    q < s.dispatched := by
  rcases h with h | h
  · exact known_returning hinv h
  · unfold Answering at h
    cases hloop : s.readLoop with
    | sending resp ctx =>
        rw [hloop] at h
        cases h
        exact known_answer hinv (Or.inl hloop)
    | selecting | reinserting | sendingError | closing | draining | panicked =>
        rw [hloop] at h
        cases h

theorem not_registered_of_erase (hkeyed : Keyed s) {r : RequestId}
    (hmap : s'.opaqueMap = s.opaqueMap.erase (s.requests r).opaqueId) :
    ¬ Registered s' r := by
  rintro ⟨o, ctx, hlookup, rfl⟩
  rw [hmap] at hlookup
  rcases FiniteMap.lookup_erase_some hlookup with ⟨hne, hold⟩
  exact hne (hkeyed.entry o ctx hold).symm

theorem step_opaqueId (hinv : Ledger.Inv s.ledger) (hstep : Step cfg s a s')
    {r : RequestId} (hr : r < s.dispatched) :
    (s'.requests r).opaqueId = (s.requests r).opaqueId :=
  ((step_later hinv hstep).2 r hr).opaqueId

theorem step_current (hkeyed : Keyed s) (hstep : Step cfg s a s') :
    s'.currentOpaque = opaqueOf s'.dispatched := by
  rcases step_counters hstep with ⟨hcurrent, hdispatched⟩ | ⟨_, _, _, _, rfl⟩
  · rw [hcurrent, hdispatched]
    exact hkeyed.current
  · change s.currentOpaque + 1 = opaqueOf (s.dispatched + 1)
    rw [hkeyed.current]
    exact opaqueOf_succ _

section

variable (hkeyed : Keyed s) (hinv : Ledger.Inv s.ledger) (hstep : Step cfg s a s')

include hkeyed hinv hstep

theorem step_numbered {r : RequestId} (hr : r < s'.dispatched) :
    (s'.requests r).opaqueId = opaqueOf r ∧
      (s'.requests r).packet.opaqueId = some (opaqueOf r) := by
  by_cases hold : r < s.dispatched
  · rw [step_opaqueId hinv hstep hold, ((step_later hinv hstep).2 r hold).packet]
    exact hkeyed.numbered r hold
  · rcases step_counters hstep with ⟨_, hdispatched⟩ | ⟨packet, isPersistent, context, _, rfl⟩
    · rw [hdispatched] at hr
      exact (hold hr).elim
    · have hr' : r = s.dispatched :=
        Nat.le_antisymm (Nat.le_of_lt_succ hr) (Nat.le_of_not_lt hold)
      subst hr'
      have hself : (registerHandler s packet isPersistent context).requests s.dispatched =
          _ := Function.update_self ..
      rw [hself, ← hkeyed.current]
      exact ⟨rfl, rfl⟩

theorem step_written {r : RequestId} {packet : RequestPacket}
    (h : (r, packet) ∈ s'.wire) :
    r < s'.dispatched ∧ packet = (s'.requests r).packet := by
  have hlater := step_later hinv hstep
  have hborn : r < s.dispatched ∧ packet = (s.requests r).packet := by
    rcases wire_source hstep h with hold | ⟨hpacket, hphase⟩
    · exact hkeyed.written r packet hold
    · exact ⟨born_of_phase hinv hphase nofun, hpacket⟩
  rw [(hlater.2 r hborn.1).packet]
  exact ⟨Nat.lt_of_lt_of_le hborn.1 hlater.1, hborn.2⟩

theorem step_entry {o : UInt32} {ctx : SenderContext}
    (h : s'.opaqueMap.lookup o = some ctx) : (s'.requests ctx.sender).opaqueId = o := by
  cases entry_source (registry_step hstep) h with
  | kept hlookup =>
      rw [step_opaqueId hinv hstep (known_entry hinv hlookup)]
      exact hkeyed.entry o ctx hlookup
  | new hkey hctx hdispatched hopaqueId hphase =>
      rw [hctx, hopaqueId, hkey]
  | returned resp persistent hkey hreturning _ =>
      rw [step_opaqueId hinv hstep (known_answer hinv (Or.inr ⟨persistent, hreturning⟩)), hkey]
      exact (hkeyed.answer resp ctx (Or.inr ⟨persistent, hreturning⟩)).symm

theorem step_answer {resp : ClientResponse} {ctx : SenderContext}
    (h : s'.readLoop = .sending resp ctx ∨
      exists persistent, s'.readLoop = .reinserting resp ctx persistent) :
    resp.packet.opaqueId = (s'.requests ctx.sender).opaqueId := by
  rcases answer_source (registry_step hstep) h with hold | hlookup
  · rw [step_opaqueId hinv hstep (known_answer hinv hold)]
    exact hkeyed.answer resp ctx hold
  · rw [step_opaqueId hinv hstep (known_entry hinv hlookup)]
    exact (hkeyed.entry _ ctx hlookup).symm

theorem step_away {r : RequestId} (h : Returning s' r) : ¬ Registered s' r := by
  rintro ⟨o, c, hentry, hc⟩
  rcases returning_source (registry_step hstep) h with
    ⟨hsame, hold⟩ | ⟨packet, ctx, hlookup, hctx, hmap, _⟩
  · cases entry_source (registry_step hstep) hentry with
    | kept hkept => exact hkeyed.away r hold ⟨o, c, hkept, hc⟩
    | new hkey hnew hdispatched hopaqueId hphase =>
        have hlt := known_returning hinv hold
        rw [← hc, hnew] at hlt
        exact Nat.lt_irrefl _ hlt
    | returned resp persistent hkey hreturning hloop =>
        rw [Returning, hloop] at h
        cases h
  · have hopaqueId : packet.opaqueId = (s.requests r).opaqueId := by
      rw [← hctx]
      exact (hkeyed.entry _ ctx hlookup).symm
    rw [hopaqueId] at hmap
    exact not_registered_of_erase hkeyed hmap ⟨o, c, hentry, hc⟩

theorem step_cancelling {r : RequestId} {ctx : SenderContext} {kind : CancellationErrorKind}
    (h : (s'.requests r).phase = .cancelling ctx kind) :
    (s'.requests ctx.sender).opaqueId = (s'.requests r).opaqueId := by
  rcases cancelling_source hstep h with hold | ⟨hphase, _, hfound⟩
  · rw [step_opaqueId hinv hstep (known_cancelling hinv hold),
      step_opaqueId hinv hstep (born_of_phase hinv hold nofun)]
    exact hkeyed.cancelling r ctx kind hold
  · have hlookup := (cancelOp_some hfound).2.1
    rw [step_opaqueId hinv hstep (known_entry hinv hlookup),
      step_opaqueId hinv hstep (born_of_phase hinv hphase nofun)]
    exact hkeyed.entry _ ctx hlookup

theorem step_answered {r : RequestId} {resp : ClientResponse}
    (h : .ok resp ∈ (s'.requests r).messages) :
    resp.packet.opaqueId = (s'.requests r).opaqueId := by
  rcases message_source hstep h with hold | hsource
  · rw [step_opaqueId hinv hstep (known_messages hinv hold)]
    exact hkeyed.answered r resp hold
  · cases hsource with
    | response _ ctx hloop hctx =>
        subst hctx
        rw [step_opaqueId hinv hstep (known_answer hinv (Or.inl hloop))]
        exact hkeyed.answer resp ctx (Or.inl hloop)

end

theorem Keyed.step (hkeyed : Keyed s) (hinv : Ledger.Inv s.ledger)
    (hstep : Step cfg s a s') : Keyed s' where
  current := step_current hkeyed hstep
  numbered := fun _ => step_numbered hkeyed hinv hstep
  written := fun _ _ => step_written hkeyed hinv hstep
  entry := fun _ _ => step_entry hkeyed hinv hstep
  answer := fun _ _ => step_answer hkeyed hinv hstep
  away := fun _ => step_away hkeyed hinv hstep
  cancelling := fun _ _ _ => step_cancelling hkeyed hinv hstep
  answered := fun _ _ => step_answered hkeyed hinv hstep

/-- Both invariants together. -/
structure Coherent (s : State) : Prop where
  ledger : Ledger.Inv s.ledger
  keyed : Keyed s

theorem Coherent.step (h : Coherent s) (hstep : Step cfg s a s') : Coherent s' where
  ledger := h.ledger.steps (step_ledger h.ledger hstep)
  keyed := h.keyed.step h.ledger hstep

theorem coherent_of_reach {guard : State -> Action -> Prop} (h : Coherent s)
    (hreach : StepFn.Reach (step cfg) guard s s') : Coherent s' := by
  have hkeeps : forall t a u, Coherent t -> guard t a -> step cfg t a = some u ->
      Coherent u :=
    fun _ _ _ hcoherent _ hstep => hcoherent.step (step_inv hstep)
  exact hreach.invariant h hkeeps

theorem reach_coherent {guard : State -> Action -> Prop}
    (h : StepFn.Reach (step cfg) guard initial s) : Coherent s :=
  coherent_of_reach ⟨initial_ledgerInv, initial_keyed⟩ h

theorem later_of_reach {guard : State -> Action -> Prop} (h : Coherent s)
    (hreach : StepFn.Reach (step cfg) guard s s') :
    s.dispatched ≤ s'.dispatched ∧
      forall r, r < s.dispatched -> Ledger.Later (s.requests r) (s'.requests r) := by
  induction hreach with
  | refl => exact ⟨Nat.le_refl _, fun r _ => Ledger.Later.refl _⟩
  | tail a hreach hguard hstep ih =>
      have hlater := step_later (coherent_of_reach h hreach).ledger (step_inv hstep)
      refine ⟨Nat.le_trans ih.1 hlater.1, fun r hr => ?_⟩
      exact (ih.2 r hr).trans (hlater.2 r (Nat.lt_of_lt_of_le hr ih.1))

/-- A request that got past its registration was registered by an earlier step. -/
theorem born_before (h : Coherent s) (hstep : Step cfg s a s') {r : RequestId}
    (hunborn : (s'.requests r).phase ≠ .unborn)
    (hdispatching : (s'.requests r).phase ≠ .dispatching) : r < s.dispatched := by
  have hborn : r < s'.dispatched :=
    born_of_phase (h.step hstep).ledger rfl hunborn
  rcases step_counters hstep with ⟨_, hsame⟩ | ⟨packet, isPersistent, context, _, rfl⟩
  · rwa [hsame] at hborn
  · rcases Nat.lt_or_eq_of_le (Nat.le_of_lt_succ hborn) with hold | hnew
    · exact hold
    · have hself : (registerHandler s packet isPersistent context).requests s.dispatched =
          _ := Function.update_self ..
      rw [hnew, hself] at hdispatching
      exact (hdispatching rfl).elim

/-- While fewer than 2^32 requests were registered, an opaque names one request. -/
theorem Coherent.opaqueId_inj (h : Coherent s) (hbound : s.dispatched < 2 ^ 32)
    {r r' : RequestId} (hr : r < s.dispatched) (hr' : r' < s.dispatched)
    (heq : (s.requests r).opaqueId = (s.requests r').opaqueId) : r = r' := by
  rw [(h.keyed.numbered r hr).1, (h.keyed.numbered r' hr').1] at heq
  rcases Nat.le_total r r' with hle | hle
  · exact opaqueOf_inj hle (Nat.lt_of_lt_of_le (hr'.trans hbound) (Nat.le_add_left ..)) heq
  · exact (opaqueOf_inj hle (Nat.lt_of_lt_of_le (hr.trans hbound) (Nat.le_add_left ..))
      heq.symm).symm

/-!
# Requests without a handler
-/

theorem not_registered_of_held {r : RequestId}
    (h : Ledger.heldIn s.senders r = 0) : ¬ Registered s r := by
  rintro ⟨o, ctx, hlookup, hctx⟩
  have hmem : ctx ∈ s.senders :=
    List.mem_append_left _ (FiniteMap.mem_values.mpr ⟨o, hlookup⟩)
  exact Ledger.heldIn_eq_zero.mp h ctx hmem hctx

theorem not_returning_of_held {r : RequestId}
    (h : Ledger.heldIn s.senders r = 0) : ¬ Returning s r := by
  unfold Returning
  intro hreturns
  cases hloop : s.readLoop with
  | reinserting resp ctx persistent =>
      rw [hloop] at hreturns
      have hmem : ctx ∈ s.senders := by
        apply mem_senders_of_readLoop
        rw [hloop]
        exact List.mem_singleton_self ctx
      exact Ledger.heldIn_eq_zero.mp h ctx hmem (Option.some.inj hreturns)
  | selecting | sending | sendingError | closing | draining | panicked =>
      rw [hloop] at hreturns
      cases hreturns

/-- A completed operation has no handler left. -/
theorem held_of_completed (hinv : Ledger.Inv s.ledger) {r : RequestId}
    (hrecv : s.receiving r = true) (hdone : (s.requests r).completed = true) :
    Ledger.heldIn s.senders r = 0 := by
  have hrequest := hinv.request r
  rcases hrequest.completed hdone with ⟨hpersistent, houtcomes⟩
  have hsingle := hrequest.single hpersistent hrecv
  have hpos : 0 < (s.requests r).outcomes.length := List.length_pos_iff.mpr houtcomes
  change Ledger.heldIn s.senders r + (s.requests r).channel.length +
    (s.requests r).outcomes.length ≤ 1 at hsingle
  omega

theorem not_registered_of_cancelOp (hcoherent : Coherent s) {r : RequestId}
    (hrecv : s.receiving r = true) (hmap : s'.opaqueMap = (cancelOp s r).2.opaqueMap) :
    ¬ Registered s' r := by
  rcases cancelOp_map s r with ⟨hdone, hsame⟩ | ⟨_, herase⟩
  · rintro ⟨o, ctx, hlookup, hctx⟩
    rw [hmap, hsame] at hlookup
    have hheld := held_of_completed hcoherent.ledger hrecv hdone
    exact not_registered_of_held hheld ⟨o, ctx, hlookup, hctx⟩
  · exact not_registered_of_erase hcoherent.keyed (hmap.trans herase)

/-- Letting go of the receiving end, other than by dropping the future of `dispatch`,
leaves no handler in the map. -/
theorem not_registered_of_hangup (hcoherent : Coherent s) {r : RequestId}
    (hrecv : s.receiving r = true) (h : Hangup s r s' a) :
    (exists buffered, a = .abandonDispatch r buffered) ∨
      (¬ Registered s' r ∧ s'.readLoop = s.readLoop) := by
  cases h with
  | abandoned buffered => exact Or.inl ⟨buffered, rfl⟩
  | failed hmap hloop =>
      exact Or.inr ⟨not_registered_of_erase hcoherent.keyed hmap, hloop⟩
  | dropped hmap hloop =>
      exact Or.inr ⟨not_registered_of_cancelOp hcoherent hrecv hmap, hloop⟩
  | refused ctx kind hphase hgone hmap hloop =>
      exact Or.inr ⟨not_registered_of_cancelOp hcoherent hrecv hmap, hloop⟩

end Client
end Memdx
end CouchbaseSdk
