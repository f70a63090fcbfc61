import CouchbaseSdk.Memdx.Client.Simulation
import Mathlib.Data.UInt

/-!
# Where handlers are

The map holds the handler of a request under the opaque the request was written
with.  The read loop takes it out, and puts that of a persistent request back.  This
module says once what a step does to the map, to the read loop, to the messages of a
request and to its receiving end, and keeps the keys of the map straight.
-/

namespace CouchbaseSdk
namespace Memdx
namespace Client

open Foundation

/-- The map holds a handler of the request. -/
def Registered (s : State) (r : RequestId) : Prop :=
  exists o ctx, s.opaqueMap.lookup o = some ctx ∧ ctx.sender = r

def ReadLoop.returns : ReadLoop -> Option RequestId
  | .reinserting _ ctx _ => some ctx.sender
  | _ => none

def ReadLoop.answers : ReadLoop -> Option RequestId
  | .sending _ ctx => some ctx.sender
  | _ => none

/-- The read loop is about to put a handler of the request back. -/
def Returning (s : State) (r : RequestId) : Prop :=
  s.readLoop.returns = some r

/-- The read loop is about to send a response to the request. -/
def Answering (s : State) (r : RequestId) : Prop :=
  s.readLoop.answers = some r

/-- The read loop holds a response for the request. -/
def Held (s : State) (r : RequestId) : Prop :=
  Returning s r ∨ Answering s r

variable {cfg : Config} {s s' : State} {a : Action}

/-!
# The map and the read loop
-/

inductive RegistryStep (cfg : Config) (s : State) (a : Action) (s' : State) : Prop where
  | same (hmap : s'.opaqueMap = s.opaqueMap) (hloop : s'.readLoop = s.readLoop)
  | register (ctx : SenderContext) (hctx : ctx.sender = s.dispatched)
      (hdispatched : s'.dispatched = s.dispatched + 1)
      (hopaqueId : (s'.requests s.dispatched).opaqueId = s.currentOpaque)
      (hphase : (s'.requests s.dispatched).phase = .dispatching)
      (hmap : s'.opaqueMap = s.opaqueMap.insert s.currentOpaque ctx)
      (hloop : s'.readLoop = s.readLoop)
  | erased (o : UInt32) (hmap : s'.opaqueMap = s.opaqueMap.erase o)
      (hloop : s'.readLoop = s.readLoop)
  | taken (packet : ResponsePacket) (ctx : SenderContext)
      (haction : a = .readPacket packet) (hmagic : packet.magic ≠ .serverReq)
      (hselecting : s.readLoop = .selecting)
      (hlookup : s.opaqueMap.lookup packet.opaqueId = some ctx)
      (hmap : s'.opaqueMap = s.opaqueMap.erase packet.opaqueId)
      (hloop : s'.readLoop = resolve cfg packet ctx)
  | reinserted (resp : ClientResponse) (ctx : SenderContext)
      (persistent : ctx.isPersistent = true)
      (hreturning : s.readLoop = .reinserting resp ctx persistent)
      (hmap : s'.opaqueMap = s.opaqueMap.insert resp.packet.opaqueId ctx)
      (hloop : s'.readLoop = .sending resp ctx)
  | served (hsending : (exists resp ctx, s.readLoop = .sending resp ctx ∧
        s.receiving ctx.sender = true) ∨ exists ctx, s.readLoop = .sendingError ctx)
      (hmap : s'.opaqueMap = s.opaqueMap) (hloop : s'.readLoop = .selecting)
  | refused (resp : ClientResponse) (ctx : SenderContext)
      (hsending : s.readLoop = .sending resp ctx)
      (hgone : s.receiving ctx.sender = false)
      (hmap : s'.opaqueMap = s.opaqueMap) (hloop : s'.readLoop = .closing)
  | stopped (haction : a = .readClose ∨ a = .readPanic)
      (hselecting : s.readLoop = .selecting)
      (hmap : s'.opaqueMap = s.opaqueMap)
      (hloop : s'.readLoop = .closing ∨ s'.readLoop = .panicked)
  | cleared (hmap : s'.opaqueMap = ∅) (hloop : s'.readLoop = s.readLoop)
  | drained (senders : List SenderContext)
      (hdrain : (s.readLoop = .closing ∧ s'.opaqueMap = ∅) ∨
        ((exists l, s.readLoop = .draining l) ∧ s'.opaqueMap = s.opaqueMap))
      (hloop : s'.readLoop = .draining senders)

theorem cancelOp_readLoop (s : State) (r : RequestId) :
    (cancelOp s r).2.readLoop = s.readLoop := by
  unfold cancelOp
  dsimp only
  split <;> rfl

theorem cancelOp_map (s : State) (r : RequestId) :
    ((s.requests r).completed = true ∧ (cancelOp s r).2.opaqueMap = s.opaqueMap) ∨
      ((s.requests r).completed = false ∧
        (cancelOp s r).2.opaqueMap = s.opaqueMap.erase (s.requests r).opaqueId) := by
  unfold cancelOp
  dsimp only
  split
  · rename_i hdone
    exact Or.inl ⟨hdone, rfl⟩
  · rename_i hopen
    exact Or.inr ⟨Bool.not_eq_true _ ▸ hopen, rfl⟩

/-- `cancel_op` leaves the map alone or erases one key. -/
theorem registry_of_cancelOp (r : RequestId)
    (hmap : s'.opaqueMap = (cancelOp s r).2.opaqueMap) (hloop : s'.readLoop = s.readLoop) :
    RegistryStep cfg s a s' := by
  rcases cancelOp_map s r with ⟨_, hsame⟩ | ⟨_, herase⟩
  · exact RegistryStep.same (hmap.trans hsame) hloop
  · exact RegistryStep.erased _ (hmap.trans herase) hloop

theorem registry_step (hstep : Step cfg s a s') : RegistryStep cfg s a s' := by
  cases hstep with
  | register packet isPersistent context =>
      have hself : (registerHandler s packet isPersistent context).requests s.dispatched = _ :=
        Function.update_self ..
      refine RegistryStep.register
        { sender := s.dispatched, isPersistent := isPersistent, context := context }
        rfl rfl ?_ ?_ rfl rfl
      · rw [hself]
      · rw [hself]
  | writeErr r hphase => exact RegistryStep.erased (s.requests r).opaqueId rfl rfl
  | dropOp r hphase => exact registry_of_cancelOp r rfl (cancelOp_readLoop s r)
  | cancelMissed r kind hphase hnone =>
      exact registry_of_cancelOp r rfl (cancelOp_readLoop s r)
  | cancelTaken r kind ctx hphase hsome =>
      exact registry_of_cancelOp r rfl (cancelOp_readLoop s r)
  | cancelRefused r ctx kind hphase hgone =>
      exact registry_of_cancelOp r rfl (cancelOp_readLoop s r)
  | orphan packet hloop hlookup =>
      unfold handleOrphan
      split
      · exact RegistryStep.same rfl rfl
      · exact RegistryStep.same rfl rfl
  | taken packet ctx hloop hmagic hlookup =>
      exact RegistryStep.taken packet ctx rfl hmagic hloop hlookup rfl rfl
  | reinserted resp ctx persistent hloop =>
      exact RegistryStep.reinserted resp ctx persistent hloop rfl rfl
  | sent resp ctx hloop hrecv hroom =>
      exact RegistryStep.served (Or.inl ⟨resp, ctx, hloop, hrecv⟩) rfl rfl
  | refused resp ctx hloop hgone =>
      exact RegistryStep.refused resp ctx hloop hgone rfl rfl
  | errorSent ctx hloop hrecv hroom =>
      exact RegistryStep.served (Or.inr ⟨ctx, hloop⟩) rfl rfl
  | errorRefused ctx hloop =>
      exact RegistryStep.served (Or.inr ⟨ctx, hloop⟩) rfl rfl
  | readClose hloop =>
      exact RegistryStep.stopped (Or.inl rfl) hloop rfl (Or.inl rfl)
  | readPanic hloop =>
      exact RegistryStep.stopped (Or.inr rfl) hloop rfl (Or.inr rfl)
  | readDrain hloop =>
      exact RegistryStep.drained _ (Or.inl ⟨hloop, rfl⟩) rfl
  | readTold ctx senders hloop hrecv hroom =>
      exact RegistryStep.drained senders (Or.inr ⟨⟨_, hloop⟩, rfl⟩) rfl
  | readSkipped ctx senders hloop =>
      exact RegistryStep.drained senders (Or.inr ⟨⟨_, hloop⟩, rfl⟩) rfl
  | closeDrain hcloser => exact RegistryStep.cleared rfl rfl
  | writeOk | abandonDispatch | received | disconnected | cancelSent | abandonCancel
  | unsolicited | closeStarted | closeAgain | closeWriter | closeTold | closeSkipped
  | closeGivenUp | closeDropped => exact RegistryStep.same rfl rfl

/-- Where an entry of the map comes from. -/
inductive EntrySource (s s' : State) (o : UInt32) (ctx : SenderContext) : Prop where
  | kept (hlookup : s.opaqueMap.lookup o = some ctx)
  | new (hkey : o = s.currentOpaque) (hctx : ctx.sender = s.dispatched)
      (hdispatched : s'.dispatched = s.dispatched + 1)
      (hopaqueId : (s'.requests s.dispatched).opaqueId = s.currentOpaque)
      (hphase : (s'.requests s.dispatched).phase = .dispatching)
  | returned (resp : ClientResponse) (persistent : ctx.isPersistent = true)
      (hkey : o = resp.packet.opaqueId)
      (hreturning : s.readLoop = .reinserting resp ctx persistent)
      (hloop : s'.readLoop = .sending resp ctx)

theorem entry_source {o : UInt32} {ctx : SenderContext} (hstep : RegistryStep cfg s a s')
    (hlookup : s'.opaqueMap.lookup o = some ctx) : EntrySource s s' o ctx := by
  have hempty : s'.opaqueMap ≠ ∅ := by
    intro hmap
    rw [hmap, AList.lookup_empty] at hlookup
    cases hlookup
  cases hstep with
  | same hmap hloop | served _ hmap hloop | refused _ _ _ _ hmap hloop
  | stopped _ _ hmap hloop =>
      rw [hmap] at hlookup
      exact EntrySource.kept hlookup
  | register c hctx hdispatched hopaqueId hphase hmap hloop =>
      rw [hmap] at hlookup
      rcases FiniteMap.lookup_insert_some hlookup with ⟨hkey, rfl⟩ | ⟨_, hold⟩
      · exact EntrySource.new hkey hctx hdispatched hopaqueId hphase
      · exact EntrySource.kept hold
  | erased _ hmap hloop | taken _ _ _ _ _ _ hmap hloop =>
      rw [hmap] at hlookup
      exact EntrySource.kept (FiniteMap.lookup_erase_some hlookup).2
  | reinserted resp c persistent hreturning hmap hloop =>
      rw [hmap] at hlookup
      rcases FiniteMap.lookup_insert_some hlookup with ⟨hkey, rfl⟩ | ⟨_, hold⟩
      · exact EntrySource.returned resp persistent hkey hreturning hloop
      · exact EntrySource.kept hold
  | cleared hmap hloop => exact (hempty hmap).elim
  | drained senders hdrain hloop =>
      rcases hdrain with ⟨_, hmap⟩ | ⟨_, hmap⟩
      · exact (hempty hmap).elim
      · rw [hmap] at hlookup
        exact EntrySource.kept hlookup

theorem registered_source {r : RequestId} (hstep : RegistryStep cfg s a s')
    (h : Registered s' r) :
    Registered s r ∨ Returning s r ∨
      (r = s.dispatched ∧ s'.dispatched = s.dispatched + 1 ∧
        (s'.requests s.dispatched).phase = .dispatching) := by
  rcases h with ⟨o, ctx, hlookup, hctx⟩
  cases entry_source hstep hlookup with
  | kept hold => exact Or.inl ⟨o, ctx, hold, hctx⟩
  | new hkey hnew hdispatched hopaqueId hphase =>
      exact Or.inr (Or.inr ⟨hctx.symm.trans hnew, hdispatched, hphase⟩)
  | returned resp persistent hkey hreturning hloop =>
      refine Or.inr (Or.inl ?_)
      rw [Returning, hreturning, ← hctx]
      rfl

theorem decompressed_opaqueId {packet packet' : ResponsePacket}
    (h : decompressed cfg packet = some packet') : packet'.opaqueId = packet.opaqueId := by
  unfold decompressed at h
  split at h
  · cases h
    rfl
  · split at h
    · rcases Option.map_eq_some_iff.mp h with ⟨value, _, rfl⟩
      rfl
    · cases h
      rfl

/-- What the read loop is about to do with a handler it took. -/
theorem resolve_cases (cfg : Config) (packet : ResponsePacket) (ctx : SenderContext) :
    resolve cfg packet ctx = .sendingError ctx ∨
      exists resp, resp.packet.opaqueId = packet.opaqueId ∧
        ((exists persistent, resolve cfg packet ctx = .reinserting resp ctx persistent) ∨
          resolve cfg packet ctx = .sending resp ctx) := by
  unfold resolve
  split
  · exact Or.inl rfl
  · rename_i packet' hdecompressed
    refine Or.inr ⟨⟨packet', ctx.context⟩, decompressed_opaqueId hdecompressed, ?_⟩
    dsimp only
    split
    · rename_i persistent
      exact Or.inl ⟨persistent, rfl⟩
    · exact Or.inr rfl

theorem returns_resolve {packet : ResponsePacket} {ctx : SenderContext} {r : RequestId}
    (h : (resolve cfg packet ctx).returns = some r) : ctx.sender = r := by
  rcases resolve_cases cfg packet ctx with herr | ⟨_, _, ⟨_, hre⟩ | hsend⟩
  · rw [herr] at h
    cases h
  · rw [hre] at h
    exact Option.some.inj h
  · rw [hsend] at h
    cases h

theorem answers_resolve {packet : ResponsePacket} {ctx : SenderContext} {r : RequestId}
    (h : (resolve cfg packet ctx).answers = some r) : ctx.sender = r := by
  rcases resolve_cases cfg packet ctx with herr | ⟨_, _, ⟨_, hre⟩ | hsend⟩
  · rw [herr] at h
    cases h
  · rw [hre] at h
    cases h
  · rw [hsend] at h
    exact Option.some.inj h

/-- The read loop takes only handlers that were in the map. -/
theorem returning_source {r : RequestId} (hstep : RegistryStep cfg s a s')
    (h : Returning s' r) :
    (s'.readLoop = s.readLoop ∧ Returning s r) ∨
      exists packet ctx, s.opaqueMap.lookup packet.opaqueId = some ctx ∧ ctx.sender = r ∧
        s'.opaqueMap = s.opaqueMap.erase packet.opaqueId ∧
        s'.readLoop = resolve cfg packet ctx := by
  unfold Returning at *
  cases hstep with
  | same hmap hloop | register _ _ _ _ _ hmap hloop | erased _ hmap hloop
  | cleared hmap hloop =>
      rw [hloop] at h
      exact Or.inl ⟨hloop, h⟩
  | taken packet ctx haction hmagic hselecting hlookup hmap hloop =>
      rw [hloop] at h
      exact Or.inr ⟨packet, ctx, hlookup, returns_resolve h, hmap, hloop⟩
  | stopped haction hselecting hmap hloop =>
      rcases hloop with hloop | hloop
      · rw [hloop] at h
        cases h
      · rw [hloop] at h
        cases h
  | reinserted _ _ _ _ hmap hloop | served _ hmap hloop | refused _ _ _ _ hmap hloop
  | drained _ hmap hloop =>
      rw [hloop] at h
      cases h

/-- The read loop comes to hold a response only by taking a packet. -/
theorem held_source {q : RequestId} (hstep : RegistryStep cfg s a s') (h : Held s' q) :
    Held s q ∨ exists packet ctx, a = .readPacket packet ∧ packet.magic ≠ .serverReq ∧
      s.opaqueMap.lookup packet.opaqueId = some ctx ∧ ctx.sender = q ∧
      decompressed cfg packet ≠ none := by
  unfold Held Returning Answering at *
  cases hstep with
  | same hmap hloop | register _ _ _ _ _ hmap hloop | erased _ hmap hloop
  | cleared hmap hloop =>
      rw [hloop] at h
      exact Or.inl h
  | taken packet ctx haction hmagic hselecting hlookup hmap hloop =>
      rw [hloop] at h
      refine Or.inr ⟨packet, ctx, haction, hmagic, hlookup, ?_, ?_⟩
      · rcases h with h | h
        · exact returns_resolve h
        · exact answers_resolve h
      · intro hnone
        have herr : resolve cfg packet ctx = .sendingError ctx := by
          unfold resolve
          rw [hnone]
        rw [herr] at h
        rcases h with h | h
        · cases h
        · cases h
  | reinserted resp ctx persistent hreturning hmap hloop =>
      rw [hloop] at h
      rw [hreturning]
      rcases h with h | h
      · cases h
      · exact Or.inl (Or.inl h)
  | stopped haction hselecting hmap hloop =>
      rcases hloop with hloop | hloop
      · rw [hloop] at h
        rcases h with h | h
        · cases h
        · cases h
      · rw [hloop] at h
        rcases h with h | h
        · cases h
        · cases h
  | served _ hmap hloop | refused _ _ _ _ hmap hloop | drained _ hmap hloop =>
      rw [hloop] at h
      rcases h with h | h
      · cases h
      · cases h

/-!
# Messages
-/

/-- Everything that was ever sent to a request and not lost. -/
def Request.messages (q : Request) : List Message :=
  q.channel ++ q.outcomes

/-- Who sends a message to a request. -/
inductive MessageSource (s : State) (r : RequestId) : Message -> Prop where
  | response (resp : ClientResponse) (ctx : SenderContext)
      (hloop : s.readLoop = .sending resp ctx) (hctx : ctx.sender = r) :
      MessageSource s r (.ok resp)
  | decompression : MessageSource s r (.error .decompression)
  | dispatch (o : UInt32) (opCode : OpCode) :
      MessageSource s r (.error (.dispatch o opCode))
  | readDrain (senders : List SenderContext) (hloop : s.readLoop = .draining senders) :
      MessageSource s r (.error (.cancelled .closedInFlight))
  | closeDrain (senders : List SenderContext) (hcloser : s.closer = .draining senders) :
      MessageSource s r (.error (.cancelled .closedInFlight))
  | cancel (q : RequestId) (ctx : SenderContext) (kind : CancellationErrorKind)
      (hphase : (s.requests q).phase = .cancelling ctx kind) (hctx : ctx.sender = r) :
      MessageSource s r (.error (.cancelled kind))

theorem message_of_setRequest {r r' : RequestId} {q : Request} {m : Message}
    (hq : forall m, m ∈ q.messages ->
      m ∈ (s.requests r).messages ∨ MessageSource s r m)
    (hm : m ∈ ((s.setRequest r q).requests r').messages) :
    m ∈ (s.requests r').messages ∨ MessageSource s r' m := by
  by_cases hr : r' = r
  · subst hr
    rw [setRequest_requests_self] at hm
    exact hq m hm
  · rw [setRequest_requests_ne s q hr] at hm
    exact Or.inl hm

theorem message_of_push {t : State} {r r' : RequestId} {m m' : Message}
    (hm : m ∈ ((t.push r m').requests r').messages) :
    m ∈ (t.requests r').messages ∨ (r' = r ∧ m = m') := by
  by_cases hr : r' = r
  · subst hr
    rw [push_requests_self] at hm
    simp only [Request.messages, List.mem_append, List.mem_singleton] at hm
    rcases hm with (hchannel | hnew) | houtcome
    · exact Or.inl (List.mem_append_left _ hchannel)
    · exact Or.inr ⟨rfl, hnew⟩
    · exact Or.inl (List.mem_append_right _ houtcome)
  · rw [push_requests_ne t m' hr] at hm
    exact Or.inl hm

theorem message_of_push_source {r r' : RequestId} {m m' : Message}
    (hsource : MessageSource s r m') (hm : m ∈ ((s.push r m').requests r').messages) :
    m ∈ (s.requests r').messages ∨ MessageSource s r' m := by
  rcases message_of_push hm with hold | ⟨rfl, rfl⟩
  · exact Or.inl hold
  · exact Or.inr hsource

theorem message_of_hangUp {q : Request} {phase : Phase} {m : Message}
    (hm : m ∈ (q.hangUp phase).messages) : m ∈ q.messages :=
  List.mem_append_right _ hm

theorem message_of_dropPending {r r' : RequestId} {m : Message}
    (hm : m ∈ ((dropPending s r).requests r').messages) : m ∈ (s.requests r').messages := by
  rw [dropPending_requests] at hm
  by_cases hr : r' = r
  · subst hr
    rw [Function.update_self] at hm
    exact message_of_hangUp hm
  · rwa [Function.update_of_ne hr] at hm

theorem message_of_setPhase {t : State} {r r' : RequestId} {phase : Phase} {m : Message}
    (hm : m ∈ ((setPhase t r phase).requests r').messages) :
    m ∈ (t.requests r').messages := by
  by_cases hr : r' = r
  · subst hr
    rwa [setPhase_requests_self] at hm
  · rwa [setPhase_requests_ne t phase hr] at hm

theorem message_source {r : RequestId} {m : Message} (hstep : Step cfg s a s')
    (hm : m ∈ (s'.requests r).messages) :
    m ∈ (s.requests r).messages ∨ MessageSource s r m := by
  cases hstep with
  | register packet isPersistent context =>
      by_cases hr : r = s.dispatched
      · subst hr
        have hself : (registerHandler s packet isPersistent context).requests s.dispatched =
            _ := Function.update_self ..
        rw [hself] at hm
        cases hm
      · have hother : (registerHandler s packet isPersistent context).requests r =
            s.requests r := Function.update_of_ne hr ..
        rw [hother] at hm
        exact Or.inl hm
  | writeOk q hphase => exact Or.inl (message_of_setPhase hm)
  | writeErr q hphase =>
      refine message_of_setRequest (q := _) ?_ hm
      intro x hx
      simp only [Request.messages, Request.hangUp, List.nil_append, List.mem_append,
        List.mem_singleton] at hx ⊢
      rcases hx with houtcome | rfl
      · exact Or.inl (Or.inr houtcome)
      · exact Or.inr (MessageSource.dispatch _ _)
  | abandonDispatch q buffered hphase =>
      refine message_of_setRequest (q := _) ?_ hm
      exact fun x hx => Or.inl (message_of_hangUp hx)
  | received q m' rest hphase hchannel =>
      refine message_of_setRequest (q := _) ?_ hm
      intro x hx
      refine Or.inl ?_
      simp only [Request.messages, hchannel, List.mem_append, List.mem_cons,
        List.not_mem_nil, or_false] at hx ⊢
      rcases hx with hrest | houtcome | rfl
      · exact Or.inl (Or.inr hrest)
      · exact Or.inr houtcome
      · exact Or.inl (Or.inl rfl)
  | disconnected q hphase hchannel hclosed =>
      refine message_of_setRequest (q := _) ?_ hm
      exact fun x hx => Or.inl hx
  | dropOp q hphase => exact Or.inl (message_of_dropPending hm)
  | cancelMissed q kind hphase hnone =>
      rw [cancelOp_requests] at hm
      exact Or.inl hm
  | cancelTaken q kind ctx hphase hsome =>
      have hm' := message_of_setPhase hm
      rw [cancelOp_requests] at hm'
      exact Or.inl hm'
  | cancelSent q ctx kind hphase hrecv hroom =>
      rcases message_of_push hm with hold | ⟨rfl, rfl⟩
      · exact Or.inl (message_of_setPhase hold)
      · exact Or.inr (MessageSource.cancel q ctx kind hphase rfl)
  | cancelRefused q ctx kind hphase hgone => exact Or.inl (message_of_dropPending hm)
  | abandonCancel q ctx kind hphase => exact Or.inl (message_of_setPhase hm)
  | orphan packet hloop hlookup =>
      unfold handleOrphan at hm
      split at hm
      · exact Or.inl hm
      · exact Or.inl hm
  | sent resp ctx hloop hrecv hroom =>
      exact message_of_push_source (MessageSource.response resp ctx hloop rfl) hm
  | errorSent ctx hloop hrecv hroom => exact message_of_push_source MessageSource.decompression hm
  | readTold ctx senders hloop hrecv hroom =>
      exact message_of_push_source (MessageSource.readDrain _ hloop) hm
  | closeTold ctx senders hcloser hrecv hroom =>
      exact message_of_push_source (MessageSource.closeDrain _ hcloser) hm
  | unsolicited | taken | reinserted | refused | errorRefused | readClose | readPanic
  | readDrain | readSkipped | closeStarted | closeAgain | closeWriter | closeDrain
  | closeSkipped | closeGivenUp | closeDropped => exact Or.inl hm

/-!
# Losing the receiving end
-/

/-- How the receiving end of a request goes away. -/
inductive Hangup (s : State) (r : RequestId) (s' : State) : Action -> Prop where
  | abandoned (buffered : Bool) : Hangup s r s' (.abandonDispatch r buffered)
  | failed (hmap : s'.opaqueMap = s.opaqueMap.erase (s.requests r).opaqueId)
      (hloop : s'.readLoop = s.readLoop) : Hangup s r s' (.writeErr r)
  | dropped (hmap : s'.opaqueMap = (cancelOp s r).2.opaqueMap)
      (hloop : s'.readLoop = s.readLoop) : Hangup s r s' (.dropOp r)
  | refused (ctx : SenderContext) (kind : CancellationErrorKind)
      (hphase : (s.requests r).phase = .cancelling ctx kind)
      (hgone : s.receiving ctx.sender = false)
      (hmap : s'.opaqueMap = (cancelOp s r).2.opaqueMap)
      (hloop : s'.readLoop = s.readLoop) : Hangup s r s' (.cancelSend r)

theorem hangup_of_setRequest {r r' : RequestId} {q : Request}
    (hrecv : s.receiving r' = true) (hlost : (s.setRequest r q).receiving r' = false) :
    r' = r ∧ q.phase.receiving = false := by
  unfold State.receiving at *
  by_cases hr : r' = r
  · subst hr
    rw [setRequest_requests_self] at hlost
    exact ⟨rfl, hlost⟩
  · rw [setRequest_requests_ne s q hr, hrecv] at hlost
    cases hlost

theorem push_receiving (s : State) (r r' : RequestId) (m : Message) :
    (s.push r m).receiving r' = s.receiving r' := by
  unfold State.receiving
  by_cases hr : r' = r
  · subst hr
    rw [push_requests_self]
  · rw [push_requests_ne s m hr]

theorem dropPending_receiving {r r' : RequestId} (hrecv : s.receiving r' = true)
    (hlost : (dropPending s r).receiving r' = false) : r' = r := by
  unfold State.receiving at *
  rw [dropPending_requests] at hlost
  by_contra hr
  rw [Function.update_of_ne hr, hrecv] at hlost
  cases hlost

theorem hangup_of_lost {r : RequestId} (hstep : Step cfg s a s') (hborn : r < s.dispatched)
    (hrecv : s.receiving r = true) (hlost : s'.receiving r = false) :
    Hangup s r s' a := by
  have hkept : s'.receiving r = s.receiving r -> False := by
    intro heq
    rw [heq, hrecv] at hlost
    cases hlost
  cases hstep with
  | register packet isPersistent context =>
      refine (hkept ?_).elim
      have hother : (registerHandler s packet isPersistent context).requests r =
          s.requests r := Function.update_of_ne (Nat.ne_of_lt hborn) ..
      unfold State.receiving
      rw [hother]
  | writeOk q hphase =>
      have hphase' : s.receiving q = true := receiving_of_phase hphase
      exact (hkept (setPhase_receiving hphase' rfl r)).elim
  | writeErr q hphase =>
      rcases hangup_of_setRequest (s := s.eraseOpaque _) hrecv hlost with ⟨rfl, _⟩
      exact Hangup.failed rfl rfl
  | abandonDispatch q buffered hphase =>
      rcases hangup_of_setRequest hrecv hlost with ⟨rfl, _⟩
      exact Hangup.abandoned buffered
  | received q m rest hphase hchannel =>
      rcases hangup_of_setRequest hrecv hlost with ⟨_, hgone⟩
      change (s.requests q).phase.receiving = false at hgone
      rw [hphase] at hgone
      cases hgone
  | disconnected q hphase hchannel hclosed =>
      rcases hangup_of_setRequest hrecv hlost with ⟨_, hgone⟩
      change (s.requests q).phase.receiving = false at hgone
      rw [hphase] at hgone
      cases hgone
  | dropOp q hphase =>
      rw [dropPending_receiving hrecv hlost]
      exact Hangup.dropped rfl (cancelOp_readLoop s q)
  | cancelMissed q kind hphase hnone =>
      refine (hkept ?_).elim
      unfold State.receiving
      rw [cancelOp_requests]
  | cancelTaken q kind ctx hphase hsome =>
      refine (hkept ?_).elim
      have hphase' : (cancelOp s q).2.receiving q = true := by
        unfold State.receiving
        rw [cancelOp_requests, hphase]
        rfl
      rw [setPhase_receiving hphase' rfl]
      unfold State.receiving
      rw [cancelOp_requests]
  | cancelSent q ctx kind hphase hrecv' hroom =>
      refine (hkept ?_).elim
      rw [push_receiving, setPhase_receiving (receiving_of_phase hphase) rfl]
  | cancelRefused q ctx kind hphase hgone =>
      have hr := dropPending_receiving hrecv hlost
      subst hr
      exact Hangup.refused ctx kind hphase hgone rfl (cancelOp_readLoop s r)
  | abandonCancel q ctx kind hphase =>
      exact (hkept (setPhase_receiving (receiving_of_phase hphase) rfl r)).elim
  | orphan packet hloop hlookup =>
      refine (hkept ?_).elim
      unfold handleOrphan
      split <;> rfl
  | sent resp ctx hloop hrecv' hroom => exact (hkept (push_receiving s _ r _)).elim
  | errorSent ctx hloop hrecv' hroom => exact (hkept (push_receiving s _ r _)).elim
  | readTold ctx senders hloop hrecv' hroom =>
      exact (hkept (push_receiving s _ r _)).elim
  | closeTold ctx senders hcloser hrecv' hroom =>
      exact (hkept (push_receiving s _ r _)).elim
  | unsolicited | taken | reinserted | refused | errorRefused | readClose | readPanic
  | readDrain | readSkipped | closeStarted | closeAgain | closeWriter | closeDrain
  | closeSkipped | closeGivenUp | closeDropped => exact (hkept rfl).elim

end Client
end Memdx
end CouchbaseSdk
