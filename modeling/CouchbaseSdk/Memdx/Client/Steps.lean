import CouchbaseSdk.Memdx.Client.Model

/-!
# What a step of the connection can do

The step function is inverted once: every enabled action is one of the cases below,
with what was tested before it and the state it leads to.  Everything after this
module reasons by cases on `Step`.
-/

namespace CouchbaseSdk
namespace Memdx
namespace Client

open Foundation

/-!
# Reading updated states
-/

@[simp] theorem setRequest_requests_self (s : State) (r : RequestId) (q : Request) :
    (s.setRequest r q).requests r = q := by
  unfold State.setRequest
  exact Function.update_self ..

theorem setRequest_requests_ne (s : State) {r r' : RequestId} (q : Request)
    (h : r' ≠ r) : (s.setRequest r q).requests r' = s.requests r' := by
  unfold State.setRequest
  exact Function.update_of_ne h ..

@[simp] theorem setRequest_opaqueMap (s : State) (r : RequestId) (q : Request) :
    (s.setRequest r q).opaqueMap = s.opaqueMap := rfl

@[simp] theorem setRequest_readLoop (s : State) (r : RequestId) (q : Request) :
    (s.setRequest r q).readLoop = s.readLoop := rfl

@[simp] theorem setRequest_dispatched (s : State) (r : RequestId) (q : Request) :
    (s.setRequest r q).dispatched = s.dispatched := rfl

@[simp] theorem push_requests_self (s : State) (r : RequestId) (m : Message) :
    (s.push r m).requests r =
      { s.requests r with channel := (s.requests r).channel ++ [m] } :=
  setRequest_requests_self s r _

theorem push_requests_ne (s : State) {r r' : RequestId} (m : Message) (h : r' ≠ r) :
    (s.push r m).requests r' = s.requests r' :=
  setRequest_requests_ne s _ h

@[simp] theorem setPhase_requests_self (s : State) (r : RequestId) (phase : Phase) :
    (setPhase s r phase).requests r = { s.requests r with phase := phase } :=
  setRequest_requests_self s r _

theorem setPhase_requests_ne (s : State) {r r' : RequestId} (phase : Phase)
    (h : r' ≠ r) : (setPhase s r phase).requests r' = s.requests r' :=
  setRequest_requests_ne s _ h

theorem setPhase_channel (s : State) (r r' : RequestId) (phase : Phase) :
    ((setPhase s r phase).requests r').channel = (s.requests r').channel := by
  by_cases h : r' = r
  · subst h
    rw [setPhase_requests_self]
  · rw [setPhase_requests_ne s phase h]

theorem setPhase_hasRoom (s : State) (r r' : RequestId) (phase : Phase) :
    (setPhase s r phase).hasRoom r' = s.hasRoom r' := by
  unfold State.hasRoom
  rw [setPhase_channel]

/-- A change between two receiving phases is not seen by a sender. -/
theorem setPhase_receiving {s : State} {r : RequestId} {phase : Phase}
    (hold : s.receiving r = true) (hnew : phase.receiving = true) (r' : RequestId) :
    (setPhase s r phase).receiving r' = s.receiving r' := by
  unfold State.receiving at *
  by_cases h : r' = r
  · subst h
    rw [setPhase_requests_self, hold]
    exact hnew
  · rw [setPhase_requests_ne s phase h]

theorem send_eq_some {s s' : State} {r : RequestId} {m : Message} {sent : Bool}
    (h : s.send r m = some (sent, s')) :
    (sent = false ∧ s' = s ∧ s.receiving r = false) ∨
      (sent = true ∧ s' = s.push r m ∧ s.receiving r = true ∧ s.hasRoom r = true) := by
  unfold State.send at h
  by_cases hgone : s.receiving r = false
  · rw [if_pos hgone] at h
    cases h
    exact Or.inl ⟨rfl, rfl, hgone⟩
  · rw [if_neg hgone] at h
    by_cases hroom : s.hasRoom r = true
    · rw [if_pos hroom] at h
      cases h
      exact Or.inr ⟨rfl, rfl, Bool.not_eq_false _ ▸ hgone, hroom⟩
    · rw [if_neg hroom] at h
      cases h

/-!
# Steps
-/

inductive Step (cfg : Config) (s : State) : Action -> State -> Prop where
  | register (packet : RequestPacket) (isPersistent : Bool)
      (context : Option ResponseContext) :
      Step cfg s (.register packet isPersistent context)
        (registerHandler s packet isPersistent context)
  | writeOk (r : RequestId) (hphase : (s.requests r).phase = .dispatching)
      (hwriter : s.closer.holdsWriter = false) (hopen : s.writerShutdown = false) :
      Step cfg s (.writeOk r)
        { setPhase s r .pending with wire := s.wire ++ [(r, (s.requests r).packet)] }
  | writeErr (r : RequestId) (hphase : (s.requests r).phase = .dispatching) :
      Step cfg s (.writeErr r)
        ((s.eraseOpaque (s.requests r).opaqueId).setRequest r
          { (s.requests r).hangUp .failed with
            outcomes := (s.requests r).outcomes ++
              [.error (.dispatch (s.requests r).opaqueId (s.requests r).packet.opCode)] })
  | abandonDispatch (r : RequestId) (buffered : Bool)
      (hphase : (s.requests r).phase = .dispatching) :
      Step cfg s (.abandonDispatch r buffered)
        { s.setRequest r ((s.requests r).hangUp .abandoned) with
          wire := if buffered then s.wire ++ [(r, (s.requests r).packet)] else s.wire }
  | received (r : RequestId) (m : Message) (rest : List Message)
      (hphase : (s.requests r).phase = .pending)
      (hchannel : (s.requests r).channel = m :: rest) :
      Step cfg s (.recv r)
        (s.setRequest r
          { s.requests r with
            channel := rest, outcomes := (s.requests r).outcomes ++ [m]
            completed := (s.requests r).completed || !(s.requests r).isPersistent })
  | disconnected (r : RequestId) (hphase : (s.requests r).phase = .pending)
      (hchannel : (s.requests r).channel = []) (hclosed : s.channelClosed r = true) :
      Step cfg s (.recv r) (s.setRequest r { s.requests r with disconnected := true })
  | dropOp (r : RequestId) (hphase : (s.requests r).phase = .pending) :
      Step cfg s (.dropOp r) (dropPending s r)
  | cancelMissed (r : RequestId) (kind : CancellationErrorKind)
      (hphase : (s.requests r).phase = .pending) (hnone : (cancelOp s r).1 = none) :
      Step cfg s (.cancel r kind) (cancelOp s r).2
  | cancelTaken (r : RequestId) (kind : CancellationErrorKind) (ctx : SenderContext)
      (hphase : (s.requests r).phase = .pending) (hsome : (cancelOp s r).1 = some ctx) :
      Step cfg s (.cancel r kind) (setPhase (cancelOp s r).2 r (.cancelling ctx kind))
  | cancelSent (r : RequestId) (ctx : SenderContext) (kind : CancellationErrorKind)
      (hphase : (s.requests r).phase = .cancelling ctx kind)
      (hrecv : s.receiving ctx.sender = true) (hroom : s.hasRoom ctx.sender = true) :
      Step cfg s (.cancelSend r)
        ((setPhase s r .pending).push ctx.sender (.error (.cancelled kind)))
  | cancelRefused (r : RequestId) (ctx : SenderContext) (kind : CancellationErrorKind)
      (hphase : (s.requests r).phase = .cancelling ctx kind)
      (hgone : s.receiving ctx.sender = false) :
      Step cfg s (.cancelSend r) (dropPending s r)
  | abandonCancel (r : RequestId) (ctx : SenderContext) (kind : CancellationErrorKind)
      (hphase : (s.requests r).phase = .cancelling ctx kind) :
      Step cfg s (.abandonCancel r) (setPhase s r .pending)
  | unsolicited (packet : ResponsePacket) (hloop : s.readLoop = .selecting) :
      Step cfg s (.readPacket packet)
        { s with unsolicited := s.unsolicited ++ [packet] }
  | orphan (packet : ResponsePacket) (hloop : s.readLoop = .selecting)
      (hlookup : s.opaqueMap.lookup packet.opaqueId = none) :
      Step cfg s (.readPacket packet) (handleOrphan cfg s packet)
  | taken (packet : ResponsePacket) (ctx : SenderContext)
      (hloop : s.readLoop = .selecting) (hmagic : packet.magic ≠ .serverReq)
      (hlookup : s.opaqueMap.lookup packet.opaqueId = some ctx) :
      Step cfg s (.readPacket packet)
        { s.eraseOpaque packet.opaqueId with readLoop := resolve cfg packet ctx }
  | reinserted (resp : ClientResponse) (ctx : SenderContext)
      (persistent : ctx.isPersistent = true)
      (hloop : s.readLoop = .reinserting resp ctx persistent) :
      Step cfg s .readReinsert
        { s with opaqueMap := s.opaqueMap.insert resp.packet.opaqueId ctx
                 readLoop := .sending resp ctx }
  | sent (resp : ClientResponse) (ctx : SenderContext)
      (hloop : s.readLoop = .sending resp ctx) (hrecv : s.receiving ctx.sender = true)
      (hroom : s.hasRoom ctx.sender = true) :
      Step cfg s .readSend { s.push ctx.sender (.ok resp) with readLoop := .selecting }
  | refused (resp : ClientResponse) (ctx : SenderContext)
      (hloop : s.readLoop = .sending resp ctx) (hgone : s.receiving ctx.sender = false) :
      Step cfg s .readSend { s with readLoop := .closing }
  | errorSent (ctx : SenderContext) (hloop : s.readLoop = .sendingError ctx)
      (hrecv : s.receiving ctx.sender = true) (hroom : s.hasRoom ctx.sender = true) :
      Step cfg s .readSend
        { s.push ctx.sender (.error .decompression) with readLoop := .selecting }
  | errorRefused (ctx : SenderContext) (hloop : s.readLoop = .sendingError ctx) :
      Step cfg s .readSend { s with readLoop := .selecting }
  | readClose (hloop : s.readLoop = .selecting) :
      Step cfg s .readClose { s with readLoop := .closing }
  | readPanic (hloop : s.readLoop = .selecting) :
      Step cfg s .readPanic { s with readLoop := .panicked }
  | readDrain (hloop : s.readLoop = .closing) :
      Step cfg s .readDrain
        { s with opaqueMap := ∅
                 readLoop := .draining (FiniteMap.values s.opaqueMap) }
  | readTold (ctx : SenderContext) (senders : List SenderContext)
      (hloop : s.readLoop = .draining (ctx :: senders))
      (hrecv : s.receiving ctx.sender = true) (hroom : s.hasRoom ctx.sender = true) :
      Step cfg s .readDrainSend
        { s.push ctx.sender (.error (.cancelled .closedInFlight)) with
          readLoop := .draining senders }
  | readSkipped (ctx : SenderContext) (senders : List SenderContext)
      (hloop : s.readLoop = .draining (ctx :: senders)) :
      Step cfg s .readDrainSend { s with readLoop := .draining senders }
  | closeStarted (hcloser : s.closer = .notCalled) :
      Step cfg s .close { s with closer := .closingWriter }
  | closeAgain : Step cfg s .close s
  | closeWriter (ok : Bool) (hcloser : s.closer = .closingWriter) :
      Step cfg s (.closeWriter ok)
        { s with closer := .writerClosed, writerShutdown := s.writerShutdown || ok }
  | closeDrain (hcloser : s.closer = .writerClosed) :
      Step cfg s .closeDrain
        { s with opaqueMap := ∅
                 closer := .draining (FiniteMap.values s.opaqueMap) }
  | closeTold (ctx : SenderContext) (senders : List SenderContext)
      (hcloser : s.closer = .draining (ctx :: senders))
      (hrecv : s.receiving ctx.sender = true) (hroom : s.hasRoom ctx.sender = true) :
      Step cfg s .closeDrainSend
        { s.push ctx.sender (.error (.cancelled .closedInFlight)) with
          closer := .draining senders }
  | closeSkipped (ctx : SenderContext) (senders : List SenderContext)
      (hcloser : s.closer = .draining (ctx :: senders)) :
      Step cfg s .closeDrainSend { s with closer := .draining senders }
  | closeGivenUp (hcloser : s.closer = .closingWriter) :
      Step cfg s .closeDropped { s with closer := .dropped }
  | closeDropped (senders : List SenderContext) (hcloser : s.closer = .draining senders) :
      Step cfg s .closeDropped { s with closer := .draining [] }

/-!
# Inversion
-/

variable {cfg : Config} {s s' : State}

theorem writeOk_inv {r : RequestId} (h : writeOk s r = some s') :
    Step cfg s (.writeOk r) s' := by
  unfold writeOk at h
  split at h
  · rename_i hguard
    cases h
    exact Step.writeOk r hguard.1 hguard.2.1 hguard.2.2
  · cases h

theorem writeErr_inv {r : RequestId} (h : writeErr s r = some s') :
    Step cfg s (.writeErr r) s' := by
  unfold writeErr at h
  dsimp only at h
  split at h
  · rename_i hguard
    cases h
    exact Step.writeErr r hguard.1
  · cases h

theorem abandonDispatch_inv {r : RequestId} {buffered : Bool}
    (h : abandonDispatch s r buffered = some s') :
    Step cfg s (.abandonDispatch r buffered) s' := by
  unfold abandonDispatch at h
  split at h
  · rename_i hphase
    cases h
    exact Step.abandonDispatch r buffered hphase
  · cases h

theorem recv_inv {r : RequestId} (h : recv s r = some s') :
    Step cfg s (.recv r) s' := by
  unfold recv at h
  dsimp only at h
  split at h
  · rename_i m rest hphase hchannel
    cases h
    exact Step.received r m rest hphase hchannel
  · rename_i hphase hchannel
    split at h
    · rename_i hclosed
      cases h
      exact Step.disconnected r hphase hchannel hclosed
    · cases h
  · cases h

theorem dropOp_inv {r : RequestId} (h : dropOp s r = some s') :
    Step cfg s (.dropOp r) s' := by
  unfold dropOp at h
  split at h
  · rename_i hphase
    cases h
    exact Step.dropOp r hphase
  · cases h

theorem cancel_inv {r : RequestId} {kind : CancellationErrorKind}
    (h : cancel s r kind = some s') : Step cfg s (.cancel r kind) s' := by
  unfold cancel at h
  split at h
  · rename_i hphase
    split at h
    · rename_i t heq
      cases h
      have hstep : Step cfg s (.cancel r kind) (cancelOp s r).2 :=
        Step.cancelMissed r kind hphase (by rw [heq])
      rwa [heq] at hstep
    · rename_i ctx t heq
      cases h
      have hstep : Step cfg s (.cancel r kind)
          (setPhase (cancelOp s r).2 r (.cancelling ctx kind)) :=
        Step.cancelTaken r kind ctx hphase (by rw [heq])
      rwa [heq] at hstep
  · cases h

theorem receiving_of_phase {r : RequestId} {phase : Phase}
    (hphase : (s.requests r).phase = phase) : s.receiving r = phase.receiving := by
  unfold State.receiving
  rw [hphase]

theorem cancelSend_inv {r : RequestId} (h : cancelSend s r = some s') :
    Step cfg s (.cancelSend r) s' := by
  unfold cancelSend at h
  split at h
  · rename_i ctx kind hphase
    have hreceiving : forall r', (setPhase s r .pending).receiving r' = s.receiving r' :=
      setPhase_receiving (receiving_of_phase hphase) rfl
    rcases Option.map_eq_some_iff.mp h with ⟨⟨sent, t⟩, hsend, heq⟩
    rcases send_eq_some hsend with ⟨rfl, _, hgone⟩ | ⟨rfl, rfl, hrecv, hroom⟩
    · cases heq
      rw [hreceiving] at hgone
      exact Step.cancelRefused r ctx kind hphase hgone
    · cases heq
      rw [hreceiving] at hrecv
      rw [setPhase_hasRoom] at hroom
      exact Step.cancelSent r ctx kind hphase hrecv hroom
  · cases h

theorem abandonCancel_inv {r : RequestId} (h : abandonCancel s r = some s') :
    Step cfg s (.abandonCancel r) s' := by
  unfold abandonCancel at h
  split at h
  · rename_i ctx kind hphase
    split at h
    · cases h
    · cases h
      exact Step.abandonCancel r ctx kind hphase
  · cases h

theorem readPacket_inv {packet : ResponsePacket} (h : readPacket cfg s packet = some s') :
    Step cfg s (.readPacket packet) s' := by
  unfold readPacket at h
  split at h
  · rename_i hloop
    split at h
    · cases h
      exact Step.unsolicited packet hloop
    · rename_i hmagic
      split at h
      · rename_i ctx hlookup
        cases h
        exact Step.taken packet ctx hloop hmagic hlookup
      · rename_i hlookup
        cases h
        exact Step.orphan packet hloop hlookup
  · cases h

theorem readReinsert_inv (h : readReinsert s = some s') :
    Step cfg s .readReinsert s' := by
  unfold readReinsert at h
  split at h
  · rename_i resp ctx persistent hloop
    cases h
    exact Step.reinserted resp ctx persistent hloop
  · cases h

theorem readSend_inv (h : readSend s = some s') : Step cfg s .readSend s' := by
  unfold readSend at h
  split at h
  · rename_i resp ctx hloop
    rcases Option.map_eq_some_iff.mp h with ⟨⟨sent, t⟩, hsend, heq⟩
    rcases send_eq_some hsend with ⟨rfl, rfl, hgone⟩ | ⟨rfl, rfl, hrecv, hroom⟩
    · cases heq
      exact Step.refused resp ctx hloop hgone
    · cases heq
      exact Step.sent resp ctx hloop hrecv hroom
  · rename_i ctx hloop
    rcases Option.map_eq_some_iff.mp h with ⟨⟨sent, t⟩, hsend, heq⟩
    rcases send_eq_some hsend with ⟨rfl, rfl, _⟩ | ⟨rfl, rfl, hrecv, hroom⟩
    · cases heq
      exact Step.errorRefused ctx hloop
    · cases heq
      exact Step.errorSent ctx hloop hrecv hroom
  · cases h

theorem closedInFlight_inv {ctx : SenderContext} (h : closedInFlight s ctx = some s') :
    s' = s ∨ (s.receiving ctx.sender = true ∧ s.hasRoom ctx.sender = true ∧
      s' = s.push ctx.sender (.error (.cancelled .closedInFlight))) := by
  rcases Option.map_eq_some_iff.mp h with ⟨⟨sent, t⟩, hsend, rfl⟩
  rcases send_eq_some hsend with ⟨_, hsame, _⟩ | ⟨_, hpush, hrecv, hroom⟩
  · exact Or.inl hsame
  · exact Or.inr ⟨hrecv, hroom, hpush⟩

theorem readDrainSend_inv (h : readDrainSend s = some s') :
    Step cfg s .readDrainSend s' := by
  unfold readDrainSend at h
  split at h
  · rename_i ctx senders hloop
    rcases Option.map_eq_some_iff.mp h with ⟨t, htold, rfl⟩
    rcases closedInFlight_inv htold with rfl | ⟨hrecv, hroom, rfl⟩
    · exact Step.readSkipped ctx senders hloop
    · exact Step.readTold ctx senders hloop hrecv hroom
  · cases h

theorem closeDrainSend_inv (h : closeDrainSend s = some s') :
    Step cfg s .closeDrainSend s' := by
  unfold closeDrainSend at h
  split at h
  · rename_i ctx senders hcloser
    rcases Option.map_eq_some_iff.mp h with ⟨t, htold, rfl⟩
    rcases closedInFlight_inv htold with rfl | ⟨hrecv, hroom, rfl⟩
    · exact Step.closeSkipped ctx senders hcloser
    · exact Step.closeTold ctx senders hcloser hrecv hroom
  · cases h

theorem close_inv (h : close s = some s') : Step cfg s .close s' := by
  unfold close at h
  split at h
  · rename_i hcloser
    cases h
    exact Step.closeStarted hcloser
  · cases h
    exact Step.closeAgain

theorem closeDropped_inv (h : closeDropped s = some s') :
    Step cfg s .closeDropped s' := by
  unfold closeDropped at h
  split at h
  · rename_i hcloser
    cases h
    exact Step.closeGivenUp hcloser
  · rename_i senders hcloser
    cases h
    exact Step.closeDropped senders hcloser
  · cases h

/-- Every enabled action is one of the cases of `Step`. -/
theorem step_inv {a : Action} (h : step cfg s a = some s') : Step cfg s a s' := by
  cases a with
  | register packet isPersistent context =>
      cases h
      exact Step.register packet isPersistent context
  | writeOk r => exact writeOk_inv h
  | writeErr r => exact writeErr_inv h
  | abandonDispatch r buffered => exact abandonDispatch_inv h
  | recv r => exact recv_inv h
  | cancel r kind => exact cancel_inv h
  | cancelSend r => exact cancelSend_inv h
  | abandonCancel r => exact abandonCancel_inv h
  | dropOp r => exact dropOp_inv h
  | readPacket packet => exact readPacket_inv h
  | readReinsert => exact readReinsert_inv h
  | readSend => exact readSend_inv h
  | readClose =>
      change readClose s = some s' at h
      unfold readClose at h
      split at h
      · rename_i hloop
        cases h
        exact Step.readClose hloop
      · cases h
  | readPanic =>
      change readPanic s = some s' at h
      unfold readPanic at h
      split at h
      · rename_i hloop
        cases h
        exact Step.readPanic hloop
      · cases h
  | readDrain =>
      change readDrain s = some s' at h
      unfold readDrain at h
      split at h
      · rename_i hloop
        cases h
        exact Step.readDrain hloop
      · cases h
  | readDrainSend => exact readDrainSend_inv h
  | close => exact close_inv h
  | closeWriter ok =>
      change closeWriter s ok = some s' at h
      unfold closeWriter at h
      split at h
      · rename_i hcloser
        cases h
        exact Step.closeWriter ok hcloser
      · cases h
  | closeDrain =>
      change closeDrain s = some s' at h
      unfold closeDrain at h
      split at h
      · rename_i hcloser
        cases h
        exact Step.closeDrain hcloser
      · cases h
  | closeDrainSend => exact closeDrainSend_inv h
  | closeDropped => exact closeDropped_inv h

end Client
end Memdx
end CouchbaseSdk
