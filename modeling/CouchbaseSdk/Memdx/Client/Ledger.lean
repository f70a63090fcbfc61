import CouchbaseSdk.Memdx.Client.Steps
import Mathlib.Logic.Relation

/-!
# The ledger of sending ends

An abstract view of the connection: the requests, and the sending ends of their
channels, wherever they are.  A sending end is used up by a delivery, may be lost at
any time, and only that of a persistent request is ever copied.  Every step of the
connection is a sequence of ledger steps, and the ledger alone explains why a
request that is not persistent gets at most one outcome.
-/

namespace CouchbaseSdk
namespace Memdx
namespace Client

open Foundation

/-!
# Abstract steps
-/

structure Ledger where
  dispatched : Nat
  requests : RequestId -> Request
  senders : List SenderContext

namespace Ledger

/-- What the caller of a request does with it, given the sending ends that are left. -/
inductive CallerMove (senders : List SenderContext) (r : RequestId) (q : Request) :
    Request -> Prop where
  | written (hphase : q.phase = .dispatching) :
      CallerMove senders r q { q with phase := .pending }
  | failed (e : Error) (hphase : q.phase = .dispatching) :
      CallerMove senders r q
        { q.hangUp .failed with outcomes := q.outcomes ++ [.error e] }
  | abandoned (hphase : q.phase = .dispatching) :
      CallerMove senders r q (q.hangUp .abandoned)
  | received (m : Message) (rest : List Message) (hphase : q.phase = .pending)
      (hchannel : q.channel = m :: rest) :
      CallerMove senders r q
        { q with channel := rest, outcomes := q.outcomes ++ [m]
                 completed := q.completed || !q.isPersistent }
  | disconnected (hphase : q.phase = .pending) (hchannel : q.channel = [])
      (hclosed : forall ctx, ctx ∈ senders -> ctx.sender ≠ r) :
      CallerMove senders r q { q with disconnected := true }
  | cancelled (ctx : SenderContext) (kind : CancellationErrorKind)
      (hphase : q.phase = .pending) :
      CallerMove senders r q { q with phase := .cancelling ctx kind }
  | resumed (ctx : SenderContext) (kind : CancellationErrorKind)
      (hphase : q.phase = .cancelling ctx kind) :
      CallerMove senders r q { q with phase := .pending }
  | dropped (hphase : q.phase = .pending ∨ exists ctx kind, q.phase = .cancelling ctx kind) :
      CallerMove senders r q (q.hangUp .dropped)

/-- A request as it is registered. -/
structure Fresh (q : Request) (isPersistent : Bool) : Prop where
  persistent : q.isPersistent = isPersistent
  phase : q.phase = .dispatching
  channel : q.channel = []
  outcomes : q.outcomes = []
  completed : q.completed = false
  disconnected : q.disconnected = false

inductive Step (L : Ledger) : Ledger -> Prop where
  | forget (senders : List SenderContext) (hsenders : senders.Subperm L.senders) :
      Step L { L with senders := senders }
  | register (ctx : SenderContext) (q : Request) (senders : List SenderContext)
      (hctx : ctx.sender = L.dispatched) (hq : Fresh q ctx.isPersistent)
      (hsenders : senders.Subperm (ctx :: L.senders)) :
      Step L
        { dispatched := L.dispatched + 1
          requests := Function.update L.requests L.dispatched q
          senders := senders }
  | deliver (ctx : SenderContext) (m : Message) (senders : List SenderContext)
      (hrecv : (L.requests ctx.sender).phase.receiving = true)
      (hroom : (L.requests ctx.sender).channel = [])
      (hsenders : (ctx :: senders).Subperm L.senders) :
      Step L
        { L with
          requests := Function.update L.requests ctx.sender
            { L.requests ctx.sender with channel := [m] }
          senders := senders }
  | copy (ctx : SenderContext) (senders : List SenderContext)
      (hmem : ctx ∈ L.senders) (hpersistent : ctx.isPersistent = true)
      (hsenders : senders.Subperm (ctx :: L.senders)) :
      Step L { L with senders := senders }
  | caller (r : RequestId) (q : Request) (senders : List SenderContext)
      (hmove : CallerMove L.senders r (L.requests r) q)
      (hsenders : senders.Subperm L.senders) :
      Step L
        { L with requests := Function.update L.requests r q, senders := senders }

/-!
# The invariant
-/

/-- How many sending ends of a request are left. -/
def heldIn (senders : List SenderContext) (r : RequestId) : Nat :=
  senders.countP fun ctx => ctx.sender = r

theorem heldIn_le {senders senders' : List SenderContext}
    (h : senders.Subperm senders') (r : RequestId) :
    heldIn senders r ≤ heldIn senders' r :=
  h.countP_le _

theorem heldIn_cons_self (ctx : SenderContext) (senders : List SenderContext) :
    heldIn (ctx :: senders) ctx.sender = heldIn senders ctx.sender + 1 := by
  simp [heldIn]

theorem heldIn_cons_ne {ctx : SenderContext} {r : RequestId} (h : ctx.sender ≠ r)
    (senders : List SenderContext) : heldIn (ctx :: senders) r = heldIn senders r := by
  simp [heldIn, h]

theorem heldIn_eq_zero {senders : List SenderContext} {r : RequestId} :
    heldIn senders r = 0 <-> forall ctx, ctx ∈ senders -> ctx.sender ≠ r := by
  simp [heldIn]

/-- What holds of one request that has `held` sending ends left. -/
structure RequestInv (q : Request) (held : Nat) : Prop where
  silent : q.phase.receiving = false -> q.channel = []
  early : q.phase = .unborn ∨ q.phase = .dispatching ∨ q.phase = .abandoned ->
    q.outcomes = []
  uncompleted : q.phase = .dispatching -> q.completed = false ∧ q.disconnected = false
  single : q.isPersistent = false -> q.phase.receiving = true ->
    held + q.channel.length + q.outcomes.length ≤ 1
  outcome : q.isPersistent = false -> q.outcomes.length ≤ 1
  completed : q.completed = true -> q.isPersistent = false ∧ q.outcomes ≠ []
  closed : q.isPersistent = false -> q.disconnected = true ->
    q.phase.receiving = true -> held = 0 ∧ q.channel = []

structure Inv (L : Ledger) : Prop where
  known : forall ctx, ctx ∈ L.senders -> ctx.sender < L.dispatched ∧
    (L.requests ctx.sender).isPersistent = ctx.isPersistent
  unborn : forall r, L.dispatched ≤ r -> L.requests r = Request.unborn
  request : forall r, RequestInv (L.requests r) (heldIn L.senders r)

/-!
# One request
-/

section RequestInv

variable {q q' : Request} {held held' : Nat}

theorem RequestInv.mono (h : RequestInv q held) (hle : held' ≤ held) :
    RequestInv q held' where
  silent := h.silent
  early := h.early
  uncompleted := h.uncompleted
  single := by
    intro hp hrecv
    have hsingle := h.single hp hrecv
    omega
  outcome := h.outcome
  completed := h.completed
  closed := by
    intro hp hdisc hrecv
    have hclosed := h.closed hp hdisc hrecv
    exact ⟨by omega, hclosed.2⟩

/-- Nothing is said about the sending ends of a persistent request. -/
theorem RequestInv.of_persistent (h : RequestInv q held)
    (hpersistent : q.isPersistent = true) : RequestInv q held' where
  silent := h.silent
  early := h.early
  uncompleted := h.uncompleted
  single := by simp [hpersistent]
  outcome := by simp [hpersistent]
  completed := h.completed
  closed := by simp [hpersistent]

theorem RequestInv.of_fresh {isPersistent : Bool}
    (hq : Fresh q isPersistent) (hheld : held ≤ 1) : RequestInv q held where
  silent := fun _ => hq.channel
  early := fun _ => hq.outcomes
  uncompleted := fun _ => ⟨hq.completed, hq.disconnected⟩
  single := by
    intro _ _
    simp [hq.channel, hq.outcomes, hheld]
  outcome := by simp [hq.outcomes]
  completed := by simp [hq.completed]
  closed := by simp [hq.disconnected]

/-- A delivery uses up a sending end. -/
theorem RequestInv.deliver (h : RequestInv q held) (m : Message)
    (hrecv : q.phase.receiving = true) (hroom : q.channel = [])
    (hheld : held' + 1 ≤ held) : RequestInv { q with channel := [m] } held' where
  silent := by
    intro hsilent
    rw [hrecv] at hsilent
    cases hsilent
  early := h.early
  uncompleted := h.uncompleted
  single := by
    intro hp _
    have hsingle := h.single hp hrecv
    rw [hroom] at hsingle
    simp only [List.length_nil] at hsingle
    simp only [List.length_cons, List.length_nil]
    omega
  outcome := h.outcome
  completed := h.completed
  closed := by
    intro hp hdisc _
    have hclosed := h.closed hp hdisc hrecv
    omega

/-- The receiving end goes away, with an error of `dispatch` or without. -/
theorem RequestInv.hangUp (h : RequestInv q held) {phase : Phase} {outcomes : List Message}
    (hphase : phase.receiving = false)
    (hearly : phase = .unborn ∨ phase = .abandoned -> outcomes = [])
    (houtcome : q.isPersistent = false -> outcomes.length ≤ 1)
    (hcompleted : q.completed = true -> outcomes ≠ []) :
    RequestInv { q.hangUp phase with outcomes := outcomes } held where
  silent := fun _ => rfl
  early := by
    rintro (hunborn | hdispatching | habandoned)
    · exact hearly (Or.inl hunborn)
    · change phase = .dispatching at hdispatching
      rw [hdispatching] at hphase
      cases hphase
    · exact hearly (Or.inr habandoned)
  uncompleted := by
    intro hdispatching
    change phase = .dispatching at hdispatching
    rw [hdispatching] at hphase
    cases hphase
  single := by
    intro _ hrecv
    change phase.receiving = true at hrecv
    rw [hphase] at hrecv
    cases hrecv
  outcome := houtcome
  completed := fun hdone => ⟨(h.completed hdone).1, hcompleted hdone⟩
  closed := by
    intro _ _ hrecv
    change phase.receiving = true at hrecv
    rw [hphase] at hrecv
    cases hrecv

/-- The caller goes on with the receiving end in its hands. -/
theorem RequestInv.setPhase (h : RequestInv q held) {phase : Phase}
    (hold : q.phase.receiving = true) (hnew : phase.receiving = true)
    (hphase : phase ≠ .dispatching) : RequestInv { q with phase := phase } held where
  silent := by
    intro hsilent
    change phase.receiving = false at hsilent
    rw [hnew] at hsilent
    cases hsilent
  early := by
    rintro (hunborn | hdispatching | habandoned)
    · change phase = .unborn at hunborn
      rw [hunborn] at hnew
      cases hnew
    · exact (hphase hdispatching).elim
    · change phase = .abandoned at habandoned
      rw [habandoned] at hnew
      cases hnew
  uncompleted := fun hdispatching => (hphase hdispatching).elim
  single := fun hp _ => h.single hp hold
  outcome := h.outcome
  completed := h.completed
  closed := fun hp hdisc _ => h.closed hp hdisc hold

theorem RequestInv.callerMove {senders : List SenderContext} {r : RequestId}
    (h : RequestInv q (heldIn senders r)) (hmove : CallerMove senders r q q') :
    RequestInv q' (heldIn senders r) := by
  cases hmove with
  | written hphase =>
      exact h.setPhase (by rw [hphase]; rfl) rfl nofun
  | failed e hphase =>
      have hnone : q.outcomes = [] := h.early (Or.inr (Or.inl hphase))
      apply h.hangUp rfl
      · simp
      · simp [hnone]
      · simp
  | abandoned hphase =>
      have hnone : q.outcomes = [] := h.early (Or.inr (Or.inl hphase))
      apply h.hangUp rfl
      · exact fun _ => hnone
      · exact h.outcome
      · exact fun hdone => (h.completed hdone).2
  | received m rest hphase hchannel =>
      have hrecv : q.phase.receiving = true := by rw [hphase]; rfl
      have hsingle : q.isPersistent = false ->
          heldIn senders r + (rest.length + 1) + q.outcomes.length ≤ 1 := by
        intro hp
        have := h.single hp hrecv
        rwa [hchannel] at this
      exact
        { silent := by simp [hrecv]
          early := by simp [hphase]
          uncompleted := by simp [hphase]
          single := by
            intro hp _
            have := hsingle hp
            simp only [List.length_append, List.length_cons, List.length_nil]
            omega
          outcome := by
            intro hp
            have := hsingle hp
            simp only [List.length_append, List.length_cons, List.length_nil]
            omega
          completed := by
            intro hdone
            refine ⟨?_, by simp⟩
            rcases Bool.or_eq_true_iff.mp hdone with hdone | hp
            · exact (h.completed hdone).1
            · simpa using hp
          closed := by
            intro hp hdisc _
            have hclosed := h.closed hp hdisc hrecv
            rw [hchannel] at hclosed
            cases hclosed.2 }
  | disconnected hphase hchannel hclosed =>
      have hrecv : q.phase.receiving = true := by rw [hphase]; rfl
      have hzero : heldIn senders r = 0 := heldIn_eq_zero.mpr hclosed
      exact
        { silent := h.silent
          early := h.early
          uncompleted := by simp [hphase]
          single := h.single
          outcome := h.outcome
          completed := h.completed
          closed := fun _ _ _ => ⟨hzero, hchannel⟩ }
  | cancelled ctx kind hphase =>
      exact h.setPhase (by rw [hphase]; rfl) rfl nofun
  | resumed ctx kind hphase =>
      exact h.setPhase (by rw [hphase]; rfl) rfl nofun
  | dropped hphase =>
      apply h.hangUp rfl
      · simp
      · exact h.outcome
      · exact fun hdone => (h.completed hdone).2

end RequestInv

/-!
# Every ledger step keeps the invariant
-/

variable {L L' : Ledger}

theorem callerMove_isPersistent {senders : List SenderContext} {r : RequestId}
    {q q' : Request} (hmove : CallerMove senders r q q') :
    q'.isPersistent = q.isPersistent := by
  cases hmove <;> rfl

theorem CallerMove.receiving {senders : List SenderContext} {r : RequestId}
    {q q' : Request} (hmove : CallerMove senders r q q') : q.phase.receiving = true := by
  cases hmove with
  | written hphase | failed _ hphase | abandoned hphase | received _ _ hphase
  | disconnected hphase | cancelled _ _ hphase | resumed _ _ hphase =>
      rw [hphase]
      rfl
  | dropped hphase =>
      rcases hphase with hphase | ⟨_, _, hphase⟩
      · rw [hphase]
        rfl
      · rw [hphase]
        rfl

theorem born_of_receiving {q : Request} (h : q.phase.receiving = true) :
    q ≠ Request.unborn := by
  rintro rfl
  cases h

theorem Inv.heldIn_dispatched (h : Inv L) : heldIn L.senders L.dispatched = 0 := by
  apply heldIn_eq_zero.mpr
  intro ctx hmem
  exact Nat.ne_of_lt (h.known ctx hmem).1

/-- Requests at other places keep what is known of them. -/
theorem known_update {r : RequestId} {q : Request} {senders : List SenderContext}
    (h : Inv L) (hq : q.isPersistent = (L.requests r).isPersistent)
    (hsub : senders ⊆ L.senders) :
    forall ctx, ctx ∈ senders -> ctx.sender < L.dispatched ∧
      (Function.update L.requests r q ctx.sender).isPersistent = ctx.isPersistent := by
  intro ctx hmem
  have hknown := h.known ctx (hsub hmem)
  refine ⟨hknown.1, ?_⟩
  by_cases hr : ctx.sender = r
  · rw [hr, Function.update_self, hq, ← hr]
    exact hknown.2
  · rw [Function.update_of_ne hr]
    exact hknown.2

theorem unborn_update {r : RequestId} {q : Request} (h : Inv L)
    (hr : L.requests r ≠ Request.unborn) :
    forall r', L.dispatched ≤ r' ->
      Function.update L.requests r q r' = Request.unborn := by
  intro r' hle
  have hne : r' ≠ r := by
    rintro rfl
    exact hr (h.unborn r' hle)
  rw [Function.update_of_ne hne]
  exact h.unborn r' hle

theorem Inv.forget (h : Inv L) {senders : List SenderContext}
    (hsenders : senders.Subperm L.senders) : Inv { L with senders := senders } where
  known := fun ctx hmem => h.known ctx (hsenders.subset hmem)
  unborn := h.unborn
  request := fun r => (h.request r).mono (heldIn_le hsenders r)

theorem Inv.register (h : Inv L) {ctx : SenderContext} {q : Request}
    {senders : List SenderContext} (hctx : ctx.sender = L.dispatched)
    (hq : Fresh q ctx.isPersistent) (hsenders : senders.Subperm (ctx :: L.senders)) :
    Inv
      { dispatched := L.dispatched + 1
        requests := Function.update L.requests L.dispatched q
        senders := senders } where
  known := by
    intro c hmem
    dsimp only at hmem ⊢
    rcases List.mem_cons.mp (hsenders.subset hmem) with rfl | hold
    · rw [hctx, Function.update_self]
      exact ⟨Nat.lt_succ_self _, hq.persistent⟩
    · have hknown := h.known c hold
      rw [Function.update_of_ne (Nat.ne_of_lt hknown.1)]
      exact ⟨Nat.lt_succ_of_lt hknown.1, hknown.2⟩
  unborn := by
    intro r hle
    dsimp only at hle ⊢
    rw [Function.update_of_ne (Nat.ne_of_gt hle)]
    exact h.unborn r (Nat.le_of_succ_le hle)
  request := by
    intro r
    dsimp only
    have hle := heldIn_le hsenders r
    by_cases hr : ctx.sender = r
    · rw [← hr, heldIn_cons_self, hctx, h.heldIn_dispatched] at hle
      rw [← hr, hctx, Function.update_self]
      exact RequestInv.of_fresh hq hle
    · rw [heldIn_cons_ne hr] at hle
      rw [Function.update_of_ne (by rw [← hctx]; exact Ne.symm hr)]
      exact (h.request r).mono hle

theorem Inv.deliver (h : Inv L) {ctx : SenderContext} (m : Message)
    {senders : List SenderContext}
    (hrecv : (L.requests ctx.sender).phase.receiving = true)
    (hroom : (L.requests ctx.sender).channel = [])
    (hsenders : (ctx :: senders).Subperm L.senders) :
    Inv
      { L with
        requests := Function.update L.requests ctx.sender
          { L.requests ctx.sender with channel := [m] }
        senders := senders } := by
  have hsub : senders ⊆ L.senders := fun c hc =>
    hsenders.subset (List.mem_cons_of_mem ctx hc)
  refine ⟨known_update h rfl hsub, unborn_update h (born_of_receiving hrecv), ?_⟩
  intro r
  dsimp only
  have hle := heldIn_le hsenders r
  by_cases hr : ctx.sender = r
  · subst hr
    rw [heldIn_cons_self] at hle
    rw [Function.update_self]
    exact (h.request ctx.sender).deliver m hrecv hroom hle
  · rw [heldIn_cons_ne hr] at hle
    rw [Function.update_of_ne (Ne.symm hr)]
    exact (h.request r).mono hle

theorem Inv.copy (h : Inv L) {ctx : SenderContext} {senders : List SenderContext}
    (hmem : ctx ∈ L.senders) (hpersistent : ctx.isPersistent = true)
    (hsenders : senders.Subperm (ctx :: L.senders)) :
    Inv { L with senders := senders } := by
  have hsub : senders ⊆ L.senders := by
    intro c hc
    rcases List.mem_cons.mp (hsenders.subset hc) with rfl | hold
    · exact hmem
    · exact hold
  refine ⟨fun c hc => h.known c (hsub hc), h.unborn, ?_⟩
  intro r
  by_cases hr : ctx.sender = r
  · apply (h.request r).of_persistent
    rw [← hr, (h.known ctx hmem).2]
    exact hpersistent
  · have hle := heldIn_le hsenders r
    rw [heldIn_cons_ne hr] at hle
    exact (h.request r).mono hle

theorem Inv.caller (h : Inv L) {r : RequestId} {q : Request}
    {senders : List SenderContext} (hmove : CallerMove L.senders r (L.requests r) q)
    (hsenders : senders.Subperm L.senders) :
    Inv { L with requests := Function.update L.requests r q, senders := senders } := by
  refine ⟨known_update h (callerMove_isPersistent hmove) hsenders.subset,
    unborn_update h (born_of_receiving hmove.receiving), ?_⟩
  intro r'
  dsimp only
  by_cases hr : r' = r
  · subst hr
    rw [Function.update_self]
    exact ((h.request r').callerMove hmove).mono (heldIn_le hsenders r')
  · rw [Function.update_of_ne hr]
    exact (h.request r').mono (heldIn_le hsenders r')

theorem Inv.step (h : Inv L) (hstep : Step L L') : Inv L' := by
  cases hstep with
  | forget senders hsenders => exact h.forget hsenders
  | register ctx q senders hctx hq hsenders => exact h.register hctx hq hsenders
  | deliver ctx m senders hrecv hroom hsenders => exact h.deliver m hrecv hroom hsenders
  | copy ctx senders hmem hpersistent hsenders => exact h.copy hmem hpersistent hsenders
  | caller r q senders hmove hsenders => exact h.caller hmove hsenders

theorem Inv.steps (h : Inv L) (hsteps : Relation.ReflTransGen Step L L') : Inv L' := by
  induction hsteps with
  | refl => exact h
  | tail _ hstep ih => exact ih.step hstep

/-!
# What never changes back
-/

/-- What a request keeps from its registration on; without its receiving end it
changes no more. -/
structure Later (q q' : Request) : Prop where
  opaqueId : q'.opaqueId = q.opaqueId
  packet : q'.packet = q.packet
  isPersistent : q'.isPersistent = q.isPersistent
  final : q.phase.receiving = false -> q' = q
  completed : q.completed = true -> q'.completed = true

theorem Later.refl (q : Request) : Later q q :=
  ⟨rfl, rfl, rfl, fun _ => rfl, id⟩

theorem Later.receiving {q q' : Request} (h : Later q q')
    (hrecv : q'.phase.receiving = true) : q.phase.receiving = true := by
  cases hold : q.phase.receiving with
  | true => rfl
  | false =>
      rw [h.final hold, hold] at hrecv
      cases hrecv

theorem Later.trans {q q' q'' : Request} (h : Later q q') (h' : Later q' q'') :
    Later q q'' where
  opaqueId := h'.opaqueId.trans h.opaqueId
  packet := h'.packet.trans h.packet
  isPersistent := h'.isPersistent.trans h.isPersistent
  final := by
    intro hgone
    have hsame := h.final hgone
    rw [← hsame] at hgone
    exact (h'.final hgone).trans hsame
  completed := fun hdone => h'.completed (h.completed hdone)

theorem CallerMove.later {senders : List SenderContext} {r : RequestId}
    {q q' : Request} (hmove : CallerMove senders r q q') : Later q q' := by
  have hfinal : q.phase.receiving = false -> q' = q := by
    intro hgone
    rw [hmove.receiving] at hgone
    cases hgone
  cases hmove with
  | received m rest hphase hchannel =>
      exact ⟨rfl, rfl, rfl, hfinal, fun hdone => Bool.or_eq_true_iff.mpr (Or.inl hdone)⟩
  | written | failed | abandoned | disconnected | cancelled | resumed | dropped =>
      exact ⟨rfl, rfl, rfl, hfinal, id⟩

theorem later_update {requests : RequestId -> Request} {r : RequestId} {q : Request}
    (h : Later (requests r) q) (r' : RequestId) :
    Later (requests r') (Function.update requests r q r') := by
  by_cases hr : r' = r
  · subst hr
    rw [Function.update_self]
    exact h
  · rw [Function.update_of_ne hr]
    exact Later.refl _

theorem Step.later {L L' : Ledger} (hstep : Step L L') :
    L.dispatched ≤ L'.dispatched ∧
      forall r, r < L.dispatched -> Later (L.requests r) (L'.requests r) := by
  cases hstep with
  | forget senders hsenders => exact ⟨Nat.le_refl _, fun r _ => Later.refl _⟩
  | copy ctx senders hmem hpersistent hsenders =>
      exact ⟨Nat.le_refl _, fun r _ => Later.refl _⟩
  | register ctx q senders hctx hq hsenders =>
      refine ⟨Nat.le_succ _, fun r hr => ?_⟩
      dsimp only
      rw [Function.update_of_ne (Nat.ne_of_lt hr)]
      exact Later.refl _
  | deliver ctx m senders hrecv hroom hsenders =>
      refine ⟨Nat.le_refl _, fun r _ => ?_⟩
      apply later_update
      refine ⟨rfl, rfl, rfl, fun hgone => ?_, id⟩
      rw [hrecv] at hgone
      cases hgone
  | caller r q senders hmove hsenders =>
      exact ⟨Nat.le_refl _, fun r' _ => later_update hmove.later r'⟩

theorem steps_later {L L' : Ledger} (hsteps : Relation.ReflTransGen Step L L') :
    L.dispatched ≤ L'.dispatched ∧
      forall r, r < L.dispatched -> Later (L.requests r) (L'.requests r) := by
  induction hsteps with
  | refl => exact ⟨Nat.le_refl _, fun r _ => Later.refl _⟩
  | tail _ hstep ih =>
      have hlater := hstep.later
      refine ⟨Nat.le_trans ih.1 hlater.1, fun r hr => ?_⟩
      exact (ih.2 r hr).trans (hlater.2 r (Nat.lt_of_lt_of_le hr ih.1))

/-- A request that is not persistent gets nothing more once its channel was found
closed. -/
theorem Step.closed {L L' : Ledger} (hinv : Inv L) (hstep : Step L L') {r : RequestId}
    (hborn : r < L.dispatched) (hpersistent : (L.requests r).isPersistent = false)
    (hclosed : (L.requests r).disconnected = true) :
    (L'.requests r).disconnected = true ∧
      (L'.requests r).outcomes = (L.requests r).outcomes := by
  have hrequest := hinv.request r
  cases hstep with
  | forget senders hsenders => exact ⟨hclosed, rfl⟩
  | copy ctx senders hmem hcopy hsenders => exact ⟨hclosed, rfl⟩
  | register ctx q senders hctx hq hsenders =>
      dsimp only
      rw [Function.update_of_ne (Nat.ne_of_lt hborn)]
      exact ⟨hclosed, rfl⟩
  | deliver ctx m senders hrecv hroom hsenders =>
      dsimp only
      by_cases hr : r = ctx.sender
      · subst hr
        rw [Function.update_self]
        exact ⟨hclosed, rfl⟩
      · rw [Function.update_of_ne hr]
        exact ⟨hclosed, rfl⟩
  | caller r' q senders hmove hsenders =>
      dsimp only
      by_cases hr : r = r'
      · subst hr
        rw [Function.update_self]
        have hempty := (hrequest.closed hpersistent hclosed hmove.receiving).2
        cases hmove with
        | failed e hphase =>
            rw [(hrequest.uncompleted hphase).2] at hclosed
            cases hclosed
        | received m rest hphase hchannel =>
            rw [hempty] at hchannel
            cases hchannel
        | disconnected hphase hchannel hnone => exact ⟨rfl, rfl⟩
        | written | abandoned | cancelled | resumed | dropped => exact ⟨hclosed, rfl⟩
      · rw [Function.update_of_ne hr]
        exact ⟨hclosed, rfl⟩

theorem steps_closed {L L' : Ledger} (hinv : Inv L)
    (hsteps : Relation.ReflTransGen Step L L') {r : RequestId} (hborn : r < L.dispatched)
    (hpersistent : (L.requests r).isPersistent = false)
    (hclosed : (L.requests r).disconnected = true) :
    (L'.requests r).disconnected = true ∧
      (L'.requests r).outcomes = (L.requests r).outcomes := by
  induction hsteps with
  | refl => exact ⟨hclosed, rfl⟩
  | tail hsteps hstep ih =>
      have hlater := steps_later hsteps
      have hmid := (hlater.2 r hborn).isPersistent.trans hpersistent
      have hnext := hstep.closed (hinv.steps hsteps) (Nat.lt_of_lt_of_le hborn hlater.1)
        hmid ih.1
      exact ⟨hnext.1, hnext.2.trans ih.2⟩

end Ledger

end Client
end Memdx
end CouchbaseSdk
