import CouchbaseSdk.Memdx.Client.Ledger

/-!
# The connection refines the ledger

The sending ends of a connection are those in the map, with the read loop, with
`close` and with calls of `cancel`.  Each step of the connection is matched by ledger
steps over these, so the invariant of the ledger holds in every reachable state.
-/

namespace CouchbaseSdk
namespace Memdx
namespace Client

open Foundation

def State.ledger (s : State) : Ledger :=
  { dispatched := s.dispatched, requests := s.requests, senders := s.senders }

/-!
# How a step moves the sending ends
-/

variable {cfg : Config} {s s' : State}

theorem count_senders (s : State) (x : SenderContext) :
    s.senders.count x =
      (FiniteMap.values s.opaqueMap).count x + (s.readLoop.senders.count x +
        (s.closer.senders.count x + s.cancelSenders.count x)) := by
  unfold State.senders
  rw [List.count_append, List.count_append, List.count_append]

theorem setRequest_holds (s : State) (r : RequestId) (q : Request) :
    (fun i => ((s.setRequest r q).requests i).phase.senders) =
      Function.update (fun i => (s.requests i).phase.senders) r q.phase.senders := by
  funext i
  by_cases hi : i = r
  · subst hi
    rw [setRequest_requests_self, Function.update_self]
  · rw [setRequest_requests_ne s q hi, Function.update_of_ne hi]

theorem setRequest_cancelSenders (s : State) (r : RequestId) (q : Request) :
    (s.setRequest r q).cancelSenders =
      gather s.dispatched
        (Function.update (fun i => (s.requests i).phase.senders) r q.phase.senders) := by
  rw [← setRequest_holds]
  rfl

/-- A caller that holds the same sending end as before changes nothing. -/
theorem setRequest_senders_of_eq {r : RequestId} {q : Request}
    (h : q.phase.senders = (s.requests r).phase.senders) :
    (s.setRequest r q).senders = s.senders := by
  have hcancel : (s.setRequest r q).cancelSenders = s.cancelSenders := by
    rw [setRequest_cancelSenders, h]
    exact congrArg (gather s.dispatched) (Function.update_eq_self r _)
  unfold State.senders
  rw [hcancel]
  rfl

theorem setRequest_keeps_senders {r : RequestId} {q : Request}
    (h : q.phase.senders = (s.requests r).phase.senders) :
    (s.setRequest r q).senders.Subperm s.senders := by
  rw [setRequest_senders_of_eq h]

theorem setRequest_count_le (s : State) (r : RequestId) (q : Request)
    (x : SenderContext) :
    (s.setRequest r q).cancelSenders.count x ≤
      s.cancelSenders.count x + q.phase.senders.count x := by
  rw [setRequest_cancelSenders]
  by_cases hr : r < s.dispatched
  · have hcount := count_gather_update (fun i => (s.requests i).phase.senders)
      q.phase.senders hr x
    unfold State.cancelSenders
    omega
  · rw [gather_update_of_ge _ _ (Nat.le_of_not_lt hr)]
    exact Nat.le_add_right ..

/-- A caller that holds no sending end afterwards can only lose one. -/
theorem setRequest_senders_subperm {r : RequestId} {q : Request}
    (h : q.phase.senders = []) : (s.setRequest r q).senders.Subperm s.senders := by
  apply subperm_of_count_le
  intro x
  have hcount := setRequest_count_le s r q x
  rw [h, List.count_nil] at hcount
  rw [count_senders, count_senders, setRequest_opaqueMap, setRequest_readLoop]
  change _ + (_ + (s.closer.senders.count x + _)) ≤ _
  omega

theorem eraseOpaque_senders_subperm (s : State) (o : UInt32) :
    (s.eraseOpaque o).senders.Subperm s.senders := by
  have hsub := (FiniteMap.values_erase_sublist s.opaqueMap o).subperm
  exact hsub.append (List.Subperm.refl _)

theorem cancelOp_requests (s : State) (r : RequestId) :
    (cancelOp s r).2.requests = s.requests := by
  unfold cancelOp
  dsimp only
  split <;> rfl

theorem cancelOp_senders_subperm (s : State) (r : RequestId) :
    (cancelOp s r).2.senders.Subperm s.senders := by
  unfold cancelOp
  dsimp only
  split
  · exact List.Subperm.refl _
  · exact eraseOpaque_senders_subperm s _

theorem cancelOp_some {r : RequestId} {ctx : SenderContext}
    (h : (cancelOp s r).1 = some ctx) :
    (s.requests r).completed = false ∧
      s.opaqueMap.lookup (s.requests r).opaqueId = some ctx ∧
        (cancelOp s r).2 = s.eraseOpaque (s.requests r).opaqueId := by
  unfold cancelOp at h ⊢
  dsimp only at h ⊢
  split at h
  · cases h
  · rename_i hopen
    rw [if_neg hopen]
    exact ⟨Bool.not_eq_true _ ▸ hopen, h, rfl⟩

/-- The map loses what the call of `cancel` now holds. -/
theorem cancelTaken_senders_subperm {r : RequestId} {ctx : SenderContext}
    {kind : CancellationErrorKind}
    (hlookup : s.opaqueMap.lookup (s.requests r).opaqueId = some ctx) :
    (setPhase (s.eraseOpaque (s.requests r).opaqueId) r
      (.cancelling ctx kind)).senders.Subperm s.senders := by
  apply subperm_of_count_le
  intro x
  have hvalues := (FiniteMap.values_perm_erase hlookup).count_eq x
  have hcancel := setRequest_count_le (s.eraseOpaque (s.requests r).opaqueId) r
    { s.requests r with phase := .cancelling ctx kind } x
  change (setPhase (s.eraseOpaque _) r _).cancelSenders.count x ≤
    s.cancelSenders.count x + [ctx].count x at hcancel
  rw [List.count_cons] at hvalues
  rw [List.count_cons, List.count_nil] at hcancel
  rw [count_senders, count_senders]
  change (FiniteMap.values (s.opaqueMap.erase _)).count x + (s.readLoop.senders.count x +
    (s.closer.senders.count x + _)) ≤ _
  omega

/-- Sending the error of a `cancel` uses up the sending end it held. -/
theorem cancelSent_senders_subperm {r : RequestId} {ctx : SenderContext}
    {kind : CancellationErrorKind} (hphase : (s.requests r).phase = .cancelling ctx kind)
    (hborn : r < s.dispatched) :
    (ctx :: (setPhase s r .pending).senders).Subperm s.senders := by
  apply subperm_of_count_le
  intro x
  have hcount := count_gather_update (fun i => (s.requests i).phase.senders)
    [] hborn x
  have hcancel : (setPhase s r .pending).cancelSenders = gather s.dispatched
      (Function.update (fun i => (s.requests i).phase.senders) r []) :=
    setRequest_cancelSenders s r _
  have hheld : (s.requests r).phase.senders = [ctx] := by rw [hphase]; rfl
  rw [← hcancel, hheld, List.count_nil] at hcount
  change _ + _ = s.cancelSenders.count x + _ at hcount
  rw [List.count_cons] at hcount ⊢
  rw [count_senders, count_senders]
  change ((FiniteMap.values s.opaqueMap).count x + (s.readLoop.senders.count x +
    (s.closer.senders.count x + _))) + _ ≤ _
  rw [List.count_nil] at hcount
  omega

theorem push_senders (s : State) (r : RequestId) (m : Message) :
    (s.push r m).senders = s.senders :=
  setRequest_senders_of_eq rfl

theorem hasRoom_iff {r : RequestId} :
    s.hasRoom r = true <-> (s.requests r).channel = [] := by
  unfold State.hasRoom
  simp

theorem push_requests {r : RequestId} (m : Message) (hroom : s.hasRoom r = true) :
    (s.push r m).requests =
      Function.update s.requests r { s.requests r with channel := [m] } := by
  unfold State.push State.setRequest
  rw [hasRoom_iff.mp hroom]
  rfl

/-!
# Simulation
-/

theorem ledger_of_senders_subperm (hdispatched : s'.dispatched = s.dispatched)
    (hrequests : s'.requests = s.requests) (hsenders : s'.senders.Subperm s.senders) :
    Ledger.Step s.ledger s'.ledger := by
  have heq : s'.ledger = { s.ledger with senders := s'.senders } := by
    unfold State.ledger
    rw [hdispatched, hrequests]
  rw [heq]
  exact Ledger.Step.forget s'.senders hsenders

theorem ledger_of_caller {r : RequestId} {q : Request}
    (hdispatched : s'.dispatched = s.dispatched)
    (hrequests : s'.requests = Function.update s.requests r q)
    (hmove : Ledger.CallerMove s.senders r (s.requests r) q)
    (hsenders : s'.senders.Subperm s.senders) : Ledger.Step s.ledger s'.ledger := by
  have heq : s'.ledger =
      { s.ledger with requests := Function.update s.requests r q, senders := s'.senders } := by
    unfold State.ledger
    rw [hdispatched, hrequests]
  rw [heq]
  exact Ledger.Step.caller r q s'.senders hmove hsenders

theorem ledger_of_delivery {ctx : SenderContext} {m : Message}
    (hrecv : s.receiving ctx.sender = true) (hroom : s.hasRoom ctx.sender = true)
    (hdispatched : s'.dispatched = s.dispatched)
    (hrequests : s'.requests = (s.push ctx.sender m).requests)
    (hsenders : (ctx :: s'.senders).Subperm s.senders) :
    Ledger.Step s.ledger s'.ledger := by
  have heq : s'.ledger =
      { s.ledger with
        requests := Function.update s.requests ctx.sender
          { s.requests ctx.sender with channel := [m] }
        senders := s'.senders } := by
    unfold State.ledger
    rw [hdispatched, hrequests, push_requests m hroom]
  rw [heq]
  exact Ledger.Step.deliver ctx m s'.senders hrecv (hasRoom_iff.mp hroom) hsenders

theorem ledger_of_register (s : State) (packet : RequestPacket) (isPersistent : Bool)
    (context : Option ResponseContext) :
    Ledger.Step s.ledger (registerHandler s packet isPersistent context).ledger := by
  let ctx : SenderContext :=
    { sender := s.dispatched, isPersistent := isPersistent, context := context }
  have hcancel : (registerHandler s packet isPersistent context).cancelSenders =
      s.cancelSenders := by
    unfold State.cancelSenders registerHandler
    dsimp only
    rw [gather_succ, Function.update_self]
    change _ ++ [] = _
    rw [List.append_nil]
    apply gather_congr
    intro i hi
    rw [Function.update_of_ne (Nat.ne_of_lt hi)]
  apply Ledger.Step.register ctx
  · rfl
  · exact ⟨rfl, rfl, rfl, rfl, rfl, rfl⟩
  · apply subperm_of_count_le
    intro x
    have hvalues := (FiniteMap.values_erase_sublist s.opaqueMap s.currentOpaque).subperm.count_le x
    have hinsert : FiniteMap.values (registerHandler s packet isPersistent context).opaqueMap =
        ctx :: FiniteMap.values (s.opaqueMap.erase s.currentOpaque) :=
      FiniteMap.values_insert ..
    change (registerHandler s packet isPersistent context).senders.count x ≤
      (ctx :: s.senders).count x
    rw [count_senders, hcancel, hinsert, List.count_cons, List.count_cons, count_senders]
    change _ + (s.readLoop.senders.count x + (s.closer.senders.count x + _)) ≤ _
    omega

theorem dropPending_senders_subperm (s : State) (r : RequestId) :
    (dropPending s r).senders.Subperm s.senders :=
  (setRequest_senders_subperm rfl).trans (cancelOp_senders_subperm s r)

theorem dropPending_requests (s : State) (r : RequestId) :
    (dropPending s r).requests =
      Function.update s.requests r ((s.requests r).hangUp .dropped) := by
  unfold dropPending State.setRequest
  rw [cancelOp_requests]

theorem cancelOp_dispatched (s : State) (r : RequestId) :
    (cancelOp s r).2.dispatched = s.dispatched := by
  unfold cancelOp
  dsimp only
  split <;> rfl

theorem mem_senders_of_readLoop {ctx : SenderContext} (h : ctx ∈ s.readLoop.senders) :
    ctx ∈ s.senders :=
  List.mem_append_right _ (List.mem_append_left _ h)

/-- The sending ends outside the calls of `cancel`. -/
def State.owned (s : State) (x : SenderContext) : Nat :=
  (FiniteMap.values s.opaqueMap).count x + s.readLoop.senders.count x +
    s.closer.senders.count x

theorem count_senders_owned (s : State) (x : SenderContext) :
    s.senders.count x = s.owned x + s.cancelSenders.count x := by
  unfold State.owned
  rw [count_senders]
  omega

theorem senders_subperm_of_owned (hcancel : s'.cancelSenders = s.cancelSenders)
    (h : forall x, s'.owned x ≤ s.owned x) : s'.senders.Subperm s.senders := by
  apply subperm_of_count_le
  intro x
  have hx := h x
  rw [count_senders_owned, count_senders_owned, hcancel]
  omega

theorem cons_senders_subperm_of_owned {ctx : SenderContext}
    (hcancel : s'.cancelSenders = s.cancelSenders)
    (h : forall x, s'.owned x + [ctx].count x ≤ s.owned x) :
    (ctx :: s'.senders).Subperm s.senders := by
  apply subperm_of_count_le
  intro x
  have hx := h x
  rw [List.count_cons, count_senders_owned, count_senders_owned, hcancel]
  rw [List.count_cons, List.count_nil] at hx
  omega

theorem senders_subperm_cons_of_owned {ctx : SenderContext}
    (hcancel : s'.cancelSenders = s.cancelSenders)
    (h : forall x, s'.owned x ≤ s.owned x + [ctx].count x) :
    s'.senders.Subperm (ctx :: s.senders) := by
  apply subperm_of_count_le
  intro x
  have hx := h x
  rw [List.count_cons, count_senders_owned, count_senders_owned, hcancel]
  rw [List.count_cons, List.count_nil] at hx
  omega

theorem resolve_senders (cfg : Config) (packet : ResponsePacket) (ctx : SenderContext) :
    (resolve cfg packet ctx).senders = [ctx] := by
  unfold resolve
  split
  · rfl
  · dsimp only
    split <;> rfl

/-- The handler leaves the map and is held by the read loop instead. -/
theorem taken_senders_subperm {packet : ResponsePacket} {ctx : SenderContext}
    (hlookup : s.opaqueMap.lookup packet.opaqueId = some ctx) :
    (State.senders { s.eraseOpaque packet.opaqueId with
      readLoop := resolve cfg packet ctx }).Subperm s.senders := by
  refine senders_subperm_of_owned rfl ?_
  intro x
  have hvalues := (FiniteMap.values_perm_erase hlookup).count_eq x
  rw [List.count_cons] at hvalues
  dsimp only [State.owned, State.eraseOpaque]
  rw [resolve_senders, hvalues, List.count_cons, List.count_nil]
  omega

theorem reinserted_senders_subperm {resp : ClientResponse} {ctx : SenderContext}
    {persistent : ctx.isPersistent = true}
    (hloop : s.readLoop = .reinserting resp ctx persistent) :
    (State.senders { s with opaqueMap := s.opaqueMap.insert resp.packet.opaqueId ctx
                            readLoop := .sending resp ctx }).Subperm
      (ctx :: s.senders) := by
  refine senders_subperm_cons_of_owned rfl ?_
  intro x
  have hvalues :=
    (FiniteMap.values_erase_sublist s.opaqueMap resp.packet.opaqueId).subperm.count_le x
  dsimp only [State.owned]
  rw [FiniteMap.values_insert, hloop]
  dsimp only [ReadLoop.senders]
  rw [List.count_cons, List.count_cons, List.count_nil]
  omega

/-- The read loop has one sending end less to serve. -/
theorem readLoop_senders_subperm {ctx : SenderContext} {loop : ReadLoop}
    (hsenders : s.readLoop.senders = ctx :: loop.senders) :
    (ctx :: State.senders { s with readLoop := loop }).Subperm s.senders := by
  refine cons_senders_subperm_of_owned rfl ?_
  intro x
  dsimp only [State.owned]
  rw [hsenders, List.count_cons, List.count_cons, List.count_nil]
  omega

theorem closer_senders_subperm {ctx : SenderContext} {closer : Closer}
    (hsenders : s.closer.senders = ctx :: closer.senders) :
    (ctx :: State.senders { s with closer := closer }).Subperm s.senders := by
  refine cons_senders_subperm_of_owned rfl ?_
  intro x
  dsimp only [State.owned]
  rw [hsenders, List.count_cons, List.count_cons, List.count_nil]
  omega

theorem readDrain_senders_subperm (hloop : s.readLoop = .closing) :
    (State.senders { s with opaqueMap := ∅
                            readLoop := .draining (FiniteMap.values s.opaqueMap) }).Subperm
      s.senders := by
  refine senders_subperm_of_owned rfl ?_
  intro x
  dsimp only [State.owned]
  rw [hloop]
  dsimp only [ReadLoop.senders]
  rw [FiniteMap.values_empty, List.count_nil]
  omega

theorem closeDrain_senders_subperm (hcloser : s.closer = .writerClosed) :
    (State.senders { s with opaqueMap := ∅
                            closer := .draining (FiniteMap.values s.opaqueMap) }).Subperm
      s.senders := by
  refine senders_subperm_of_owned rfl ?_
  intro x
  dsimp only [State.owned]
  rw [hcloser]
  dsimp only [Closer.senders]
  rw [FiniteMap.values_empty, List.count_nil]
  omega

theorem readLoop_lets_go {loop : ReadLoop} (h : loop.senders = []) :
    (State.senders { s with readLoop := loop }).Subperm s.senders := by
  refine senders_subperm_of_owned rfl ?_
  intro x
  dsimp only [State.owned]
  rw [h, List.count_nil]
  omega

theorem closer_lets_go {closer : Closer} (h : closer.senders = []) :
    (State.senders { s with closer := closer }).Subperm s.senders := by
  refine senders_subperm_of_owned rfl ?_
  intro x
  dsimp only [State.owned]
  rw [h, List.count_nil]
  omega

theorem ledger_of_readLoop_delivery {ctx : SenderContext} (m : Message) {loop : ReadLoop}
    (hrecv : s.receiving ctx.sender = true) (hroom : s.hasRoom ctx.sender = true)
    (hsenders : s.readLoop.senders = ctx :: loop.senders) :
    Ledger.Step s.ledger
      (State.ledger { s.push ctx.sender m with readLoop := loop }) := by
  have hsub : (ctx :: State.senders { s.push ctx.sender m with readLoop := loop }).Subperm
      (s.push ctx.sender m).senders := readLoop_senders_subperm hsenders
  rw [push_senders] at hsub
  exact ledger_of_delivery hrecv hroom rfl rfl hsub

theorem ledger_of_closer_delivery {ctx : SenderContext} (m : Message) {closer : Closer}
    (hrecv : s.receiving ctx.sender = true) (hroom : s.hasRoom ctx.sender = true)
    (hsenders : s.closer.senders = ctx :: closer.senders) :
    Ledger.Step s.ledger
      (State.ledger { s.push ctx.sender m with closer := closer }) := by
  have hsub : (ctx :: State.senders { s.push ctx.sender m with closer := closer }).Subperm
      (s.push ctx.sender m).senders := closer_senders_subperm hsenders
  rw [push_senders] at hsub
  exact ledger_of_delivery hrecv hroom rfl rfl hsub

open Relation in
/-- Sending the error of a `cancel` is two steps of the ledger. -/
theorem ledger_of_cancelSent {r : RequestId} {ctx : SenderContext}
    {kind : CancellationErrorKind} (hinv : Ledger.Inv s.ledger)
    (hphase : (s.requests r).phase = .cancelling ctx kind)
    (hrecv : s.receiving ctx.sender = true) (hroom : s.hasRoom ctx.sender = true) :
    ReflTransGen Ledger.Step s.ledger
      ((setPhase s r .pending).push ctx.sender (.error (.cancelled kind))).ledger := by
  have hborn : r < s.dispatched := by
    apply Nat.lt_of_not_le
    intro hle
    have hunborn : s.requests r = Request.unborn := hinv.unborn r hle
    rw [hunborn] at hphase
    cases hphase
  have hsenders : (ctx :: ((setPhase s r .pending).push ctx.sender
      (.error (.cancelled kind))).senders).Subperm s.senders := by
    rw [push_senders]
    exact cancelSent_senders_subperm hphase hborn
  have hreceiving : (setPhase s r .pending).receiving ctx.sender = true := by
    rw [setPhase_receiving (receiving_of_phase hphase) rfl]
    exact hrecv
  have hroom' : (setPhase s r .pending).hasRoom ctx.sender = true := by
    rw [setPhase_hasRoom]
    exact hroom
  -- The caller goes back to `pending` first; its sending end is then used up.
  let L : Ledger := { s.ledger with requests := (setPhase s r .pending).requests }
  have hresume : Ledger.Step s.ledger L :=
    Ledger.Step.caller r _ s.senders (Ledger.CallerMove.resumed ctx kind hphase)
      (List.Subperm.refl _)
  have hdeliver : Ledger.Step L ((setPhase s r .pending).push ctx.sender
      (.error (.cancelled kind))).ledger := by
    have hstep := Ledger.Step.deliver (L := L) ctx (.error (.cancelled kind)) _ hreceiving
      (hasRoom_iff.mp hroom') hsenders
    unfold State.ledger
    rw [push_requests _ hroom']
    exact hstep
  exact ReflTransGen.head hresume (ReflTransGen.single hdeliver)

open Relation in
/-- Every step of the connection is matched by ledger steps. -/
theorem step_ledger {a : Action} (hinv : Ledger.Inv s.ledger) (hstep : Step cfg s a s') :
    ReflTransGen Ledger.Step s.ledger s'.ledger := by
  cases hstep with
  | register packet isPersistent context =>
      exact ReflTransGen.single (ledger_of_register s packet isPersistent context)
  | writeOk r hphase =>
      have hsenders : (setPhase s r .pending).senders.Subperm s.senders :=
        setRequest_senders_subperm rfl
      apply ReflTransGen.single
      exact ledger_of_caller rfl rfl (Ledger.CallerMove.written hphase) hsenders
  | writeErr r hphase =>
      apply ReflTransGen.single
      refine ledger_of_caller rfl rfl (Ledger.CallerMove.failed _ hphase) ?_
      exact (setRequest_senders_subperm rfl).trans (eraseOpaque_senders_subperm s _)
  | abandonDispatch r buffered hphase =>
      have hsenders :
          (s.setRequest r ((s.requests r).hangUp .abandoned)).senders.Subperm s.senders :=
        setRequest_senders_subperm rfl
      apply ReflTransGen.single
      exact ledger_of_caller rfl rfl (Ledger.CallerMove.abandoned hphase) hsenders
  | received r m rest hphase hchannel =>
      apply ReflTransGen.single
      refine ledger_of_caller rfl rfl (Ledger.CallerMove.received m rest hphase hchannel) ?_
      exact setRequest_keeps_senders rfl
  | disconnected r hphase hchannel hclosed =>
      have hnone : forall ctx, ctx ∈ s.senders -> ctx.sender ≠ r := by
        simpa [State.channelClosed] using hclosed
      apply ReflTransGen.single
      refine ledger_of_caller rfl rfl
        (Ledger.CallerMove.disconnected hphase hchannel hnone) ?_
      exact setRequest_keeps_senders rfl
  | dropOp r hphase =>
      apply ReflTransGen.single
      refine ledger_of_caller (cancelOp_dispatched s r) (dropPending_requests s r)
        (Ledger.CallerMove.dropped (Or.inl hphase)) ?_
      exact dropPending_senders_subperm s r
  | cancelMissed r kind hphase hnone =>
      apply ReflTransGen.single
      refine ledger_of_senders_subperm (cancelOp_dispatched s r) (cancelOp_requests s r) ?_
      exact cancelOp_senders_subperm s r
  | cancelTaken r kind ctx hphase hsome =>
      rcases cancelOp_some hsome with ⟨_, hlookup, herase⟩
      rw [herase]
      apply ReflTransGen.single
      refine ledger_of_caller rfl rfl (Ledger.CallerMove.cancelled ctx kind hphase) ?_
      exact cancelTaken_senders_subperm hlookup
  | cancelSent r ctx kind hphase hrecv hroom =>
      exact ledger_of_cancelSent hinv hphase hrecv hroom
  | cancelRefused r ctx kind hphase hgone =>
      apply ReflTransGen.single
      refine ledger_of_caller (cancelOp_dispatched s r) (dropPending_requests s r)
        (Ledger.CallerMove.dropped (Or.inr ⟨ctx, kind, hphase⟩)) ?_
      exact dropPending_senders_subperm s r
  | abandonCancel r ctx kind hphase =>
      apply ReflTransGen.single
      refine ledger_of_caller rfl rfl (Ledger.CallerMove.resumed ctx kind hphase) ?_
      exact setRequest_senders_subperm rfl
  | unsolicited packet hloop => exact ReflTransGen.refl
  | orphan packet hloop hlookup =>
      have heq : (handleOrphan cfg s packet).ledger = s.ledger := by
        unfold handleOrphan
        split <;> rfl
      rw [heq]
  | taken packet ctx hloop hmagic hlookup =>
      apply ReflTransGen.single
      exact ledger_of_senders_subperm rfl rfl (taken_senders_subperm hlookup)
  | reinserted resp ctx persistent hloop =>
      have hmem : ctx ∈ s.senders := by
        apply mem_senders_of_readLoop
        rw [hloop]
        exact List.mem_singleton_self ctx
      apply ReflTransGen.single
      exact Ledger.Step.copy ctx _ hmem persistent (reinserted_senders_subperm hloop)
  | sent resp ctx hloop hrecv hroom =>
      apply ReflTransGen.single
      refine ledger_of_readLoop_delivery _ hrecv hroom ?_
      rw [hloop]
      rfl
  | refused resp ctx hloop hgone =>
      apply ReflTransGen.single
      exact ledger_of_senders_subperm rfl rfl (readLoop_lets_go rfl)
  | errorSent ctx hloop hrecv hroom =>
      apply ReflTransGen.single
      refine ledger_of_readLoop_delivery _ hrecv hroom ?_
      rw [hloop]
      rfl
  | errorRefused ctx hloop =>
      apply ReflTransGen.single
      exact ledger_of_senders_subperm rfl rfl (readLoop_lets_go rfl)
  | readClose hloop =>
      apply ReflTransGen.single
      exact ledger_of_senders_subperm rfl rfl (readLoop_lets_go rfl)
  | readPanic hloop =>
      apply ReflTransGen.single
      exact ledger_of_senders_subperm rfl rfl (readLoop_lets_go rfl)
  | readDrain hloop =>
      apply ReflTransGen.single
      exact ledger_of_senders_subperm rfl rfl (readDrain_senders_subperm hloop)
  | readTold ctx senders hloop hrecv hroom =>
      apply ReflTransGen.single
      refine ledger_of_readLoop_delivery _ hrecv hroom ?_
      rw [hloop]
      rfl
  | readSkipped ctx senders hloop =>
      have hsub : (ctx :: State.senders { s with readLoop := .draining senders }).Subperm
          s.senders := by
        apply readLoop_senders_subperm
        rw [hloop]
        rfl
      apply ReflTransGen.single
      exact ledger_of_senders_subperm rfl rfl ((List.subperm_cons_self).trans hsub)
  | closeStarted hcloser =>
      apply ReflTransGen.single
      exact ledger_of_senders_subperm rfl rfl (closer_lets_go rfl)
  | closeAgain => exact ReflTransGen.refl
  | closeWriter ok hcloser =>
      have hsub : (State.senders { s with closer := .writerClosed }).Subperm s.senders :=
        closer_lets_go rfl
      apply ReflTransGen.single
      exact ledger_of_senders_subperm rfl rfl hsub
  | closeDrain hcloser =>
      apply ReflTransGen.single
      exact ledger_of_senders_subperm rfl rfl (closeDrain_senders_subperm hcloser)
  | closeTold ctx senders hcloser hrecv hroom =>
      apply ReflTransGen.single
      refine ledger_of_closer_delivery _ hrecv hroom ?_
      rw [hcloser]
      rfl
  | closeSkipped ctx senders hcloser =>
      have hsub : (ctx :: State.senders { s with closer := .draining senders }).Subperm
          s.senders := by
        apply closer_senders_subperm
        rw [hcloser]
        rfl
      apply ReflTransGen.single
      exact ledger_of_senders_subperm rfl rfl ((List.subperm_cons_self).trans hsub)
  | closeGivenUp hcloser =>
      apply ReflTransGen.single
      exact ledger_of_senders_subperm rfl rfl (closer_lets_go rfl)
  | closeDropped senders hcloser =>
      apply ReflTransGen.single
      exact ledger_of_senders_subperm rfl rfl (closer_lets_go rfl)

/-!
# Reachable states
-/

theorem initial_ledgerInv : Ledger.Inv initial.ledger where
  known := by
    intro ctx hmem
    cases hmem
  unborn := fun _ _ => rfl
  request := by
    intro r
    exact
      { silent := fun _ => rfl
        early := fun _ => rfl
        uncompleted := fun _ => ⟨rfl, rfl⟩
        single := nofun
        outcome := fun _ => Nat.zero_le _
        completed := nofun
        closed := nofun }

theorem step_later {a : Action} (hinv : Ledger.Inv s.ledger) (hstep : Step cfg s a s') :
    s.dispatched ≤ s'.dispatched ∧
      forall r, r < s.dispatched -> Ledger.Later (s.requests r) (s'.requests r) :=
  Ledger.steps_later (step_ledger hinv hstep)

end Client
end Memdx
end CouchbaseSdk
