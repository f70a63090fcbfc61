import CouchbaseSdk.Memdx.Client.Keys

/-!
# Responses reach the request they answer

While fewer than 2^32 requests were dispatched on a connection, a request that is not
persistent gets at most one outcome, a response is only ever delivered to the request
that was written with its opaque, and a packet for a request that was given up goes
to the orphan handler, whatever the order of the steps.
-/

namespace CouchbaseSdk
namespace Memdx
namespace Client

open Foundation

variable {cfg : Config} {s s' : State} {a : Action}

/-!
# Removed handlers stay removed
-/

/-- The read loop takes no further packet: it has ended, or is about to because the
receiver of the response it holds is gone. -/
def Deaf (s : State) : Prop :=
  match s.readLoop with
  | .reinserting _ ctx _ | .sending _ ctx => s.receiving ctx.sender = false
  | .closing | .draining _ | .panicked => True
  | .selecting | .sendingError _ => False

/-- No packet will find a handler of the request any more. -/
def Removed (s : State) (r : RequestId) : Prop :=
  Deaf s ∨ (¬ Registered s r ∧ ¬ Returning s r)

theorem receiving_lost (hinv : Ledger.Inv s.ledger) (hstep : Step cfg s a s')
    {r : RequestId} (hr : r < s.dispatched) (h : s.receiving r = false) :
    s'.receiving r = false := by
  unfold State.receiving at *
  rw [((step_later hinv hstep).2 r hr).final h]
  exact h

theorem Deaf.step (hinv : Ledger.Inv s.ledger) (hstep : Step cfg s a s') (h : Deaf s) :
    Deaf s' := by
  have hsame : s'.readLoop = s.readLoop -> Deaf s' := by
    intro hloop
    unfold Deaf at *
    rw [hloop]
    cases hread : s.readLoop with
    | reinserting resp ctx persistent =>
        rw [hread] at h
        exact receiving_lost hinv hstep (known_answer hinv (Or.inr ⟨persistent, hread⟩)) h
    | sending resp ctx =>
        rw [hread] at h
        exact receiving_lost hinv hstep (known_answer hinv (Or.inl hread)) h
    | selecting | sendingError | closing | draining | panicked =>
        rw [hread] at h
        exact h
  unfold Deaf at h
  cases registry_step hstep with
  | same hmap hloop | register _ _ _ _ _ hmap hloop | erased _ hmap hloop
  | cleared hmap hloop => exact hsame hloop
  | taken packet ctx haction hmagic hselecting hlookup hmap hloop =>
      rw [hselecting] at h
      exact h.elim
  | reinserted resp ctx persistent hreturning hmap hloop =>
      rw [hreturning] at h
      unfold Deaf
      rw [hloop]
      exact receiving_lost hinv hstep (known_answer hinv (Or.inr ⟨persistent, hreturning⟩)) h
  | served hsending hmap hloop =>
      rcases hsending with ⟨resp, ctx, hsending, hrecv⟩ | ⟨ctx, hsending⟩
      · rw [hsending] at h
        rw [h] at hrecv
        cases hrecv
      · rw [hsending] at h
        exact h.elim
  | refused resp ctx hsending hgone hmap hloop =>
      unfold Deaf
      rw [hloop]
      exact trivial
  | stopped haction hselecting hmap hloop =>
      rw [hselecting] at h
      exact h.elim
  | drained senders hdrain hloop =>
      unfold Deaf
      rw [hloop]
      exact trivial

theorem Removed.step (hcoherent : Coherent s) (hstep : Step cfg s a s') {r : RequestId}
    (hr : r < s.dispatched) (h : Removed s r) : Removed s' r := by
  rcases h with hdeaf | ⟨hregistered, hreturning⟩
  · exact Or.inl (hdeaf.step hcoherent.ledger hstep)
  · refine Or.inr ⟨?_, ?_⟩
    · intro hnow
      rcases registered_source (registry_step hstep) hnow with hold | hold | ⟨hnew, _, _⟩
      · exact hregistered hold
      · exact hreturning hold
      · exact Nat.ne_of_lt hr hnew
    · intro hnow
      rcases returning_source (registry_step hstep) hnow with
        ⟨_, hold⟩ | ⟨packet, ctx, hlookup, hctx, _, _⟩
      · exact hreturning hold
      · exact hregistered ⟨_, ctx, hlookup, hctx⟩

theorem removed_of_reach {guard : State -> Action -> Prop} (hcoherent : Coherent s)
    (hreach : StepFn.Reach (step cfg) guard s s') {r : RequestId} (hr : r < s.dispatched)
    (h : Removed s r) : Removed s' r := by
  induction hreach with
  | refl => exact h
  | tail a hreach hguard hstep ih =>
      have hlater := later_of_reach hcoherent hreach
      exact ih.step (coherent_of_reach hcoherent hreach) (step_inv hstep)
        (Nat.lt_of_lt_of_le hr hlater.1)

/-- A packet for a removed handler is an orphan. -/
theorem readPacket_removed (hcoherent : Coherent s) (hbound : s.dispatched < 2 ^ 32)
    {r : RequestId} (hr : r < s.dispatched) (h : Removed s r) {packet : ResponsePacket}
    (hopaqueId : packet.opaqueId = (s.requests r).opaqueId)
    (hmagic : packet.magic ≠ .serverReq)
    (hstep : step cfg s (.readPacket packet) = some s') :
    s' = handleOrphan cfg s packet := by
  change readPacket cfg s packet = some s' at hstep
  unfold readPacket at hstep
  split at hstep
  · rename_i hloop
    split at hstep
    · rename_i ctx hlookup
      have hctx : (s.requests ctx.sender).opaqueId = (s.requests r).opaqueId := by
        rw [hcoherent.keyed.entry _ ctx hlookup]
        exact hopaqueId
      have hsender := hcoherent.opaqueId_inj hbound
        (known_entry hcoherent.ledger hlookup) hr hctx
      rcases h with hdeaf | ⟨hregistered, _⟩
      · unfold Deaf at hdeaf
        rw [hloop] at hdeaf
        exact hdeaf.elim
      · exact (hregistered ⟨_, ctx, hlookup, hsender⟩).elim
    · exact (Option.some.inj hstep).symm
  · cases hstep

/-!
# What removes a handler
-/

/-- The read loop is doomed when it holds a response for a receiver that is gone. -/
theorem removed_of_gone {r : RequestId} (hregistered : ¬ Registered s r)
    (hgone : s.receiving r = false) : Removed s r := by
  by_cases hreturning : Returning s r
  · refine Or.inl ?_
    unfold Returning at hreturning
    unfold Deaf
    cases hloop : s.readLoop with
    | reinserting resp ctx persistent =>
        rw [hloop] at hreturning
        cases hreturning
        exact hgone
    | selecting | sending | sendingError | closing | draining | panicked =>
        rw [hloop] at hreturning
        cases hreturning
  · exact Or.inr ⟨hregistered, hreturning⟩

/-- The caller of the request let go of it, and not by dropping the future of
`dispatch`. -/
def LetGo (s : State) (r : RequestId) : Prop :=
  (s.requests r).phase = .failed ∨ (s.requests r).phase = .dropped

theorem LetGo.not_receiving {r : RequestId} (h : LetGo s r) : s.receiving r = false := by
  rcases h with h | h
  · exact receiving_of_phase h
  · exact receiving_of_phase h

theorem abandonDispatch_phase {r : RequestId} {buffered : Bool}
    (hstep : Step cfg s (.abandonDispatch r buffered) s') :
    (s'.requests r).phase = .abandoned := by
  cases hstep
  change ((s.setRequest r _).requests r).phase = _
  rw [setRequest_requests_self]
  rfl

theorem letGo_removed_step (hcoherent : Coherent s) (hstep : Step cfg s a s')
    (h : forall r, LetGo s r -> Removed s r) : forall r, LetGo s' r -> Removed s' r := by
  intro r hgone
  have hborn : r < s.dispatched := by
    rcases hgone with hphase | hphase
    · exact born_before hcoherent hstep (by rw [hphase]; nofun) (by rw [hphase]; nofun)
    · exact born_before hcoherent hstep (by rw [hphase]; nofun) (by rw [hphase]; nofun)
  cases hrecv : s.receiving r with
  | false =>
      have hsame := ((step_later hcoherent.ledger hstep).2 r hborn).final hrecv
      unfold LetGo at hgone
      rw [hsame] at hgone
      exact (h r hgone).step hcoherent hstep hborn
  | true =>
      have hhangup := hangup_of_lost hstep hborn hrecv hgone.not_receiving
      rcases not_registered_of_hangup hcoherent hrecv hhangup with
        ⟨buffered, rfl⟩ | ⟨hregistered, _⟩
      · have hphase := abandonDispatch_phase hstep
        unfold LetGo at hgone
        rw [hphase] at hgone
        rcases hgone with hgone | hgone
        · cases hgone
        · cases hgone
      · exact removed_of_gone hregistered hgone.not_receiving

theorem letGo_removed (hreach : StepFn.Reach (step cfg) StepFn.Always initial s) :
    forall r, LetGo s r -> Removed s r := by
  have hinit : forall r, LetGo initial r -> Removed initial r := by
    intro r h
    rcases h with h | h
    · cases h
    · cases h
  have hkeeps : forall t a u, Coherent t -> (forall r, LetGo t r -> Removed t r) ->
      StepFn.Always t a -> step cfg t a = some u -> forall r, LetGo u r -> Removed u r :=
    fun _ _ _ hcoherent h _ hstep => letGo_removed_step hcoherent (step_inv hstep) h
  exact hreach.invariant_with (fun _ hreach => reach_coherent hreach) hinit hkeeps

/-- A request that is not persistent has no handler left once a message was sent to it. -/
theorem removed_of_message (hreach : StepFn.Reach (step cfg) StepFn.Always initial s)
    {r : RequestId} (hpersistent : (s.requests r).isPersistent = false)
    (hmessage : (s.requests r).messages ≠ []) : Removed s r := by
  have hrequest := (reach_coherent hreach).ledger.request r
  cases hrecv : s.receiving r with
  | true =>
      have hsingle := hrequest.single hpersistent hrecv
      have hpos : 0 < (s.requests r).messages.length := List.length_pos_iff.mpr hmessage
      rw [Request.messages, List.length_append] at hpos
      have hheld : Ledger.heldIn s.senders r = 0 := by
        change Ledger.heldIn s.senders r + (s.requests r).channel.length +
          (s.requests r).outcomes.length ≤ 1 at hsingle
        omega
      exact Or.inr ⟨not_registered_of_held hheld, not_returning_of_held hheld⟩
  | false =>
      have hchannel : (s.requests r).channel = [] := hrequest.silent hrecv
      have houtcomes : (s.requests r).outcomes ≠ [] := by
        rw [Request.messages, hchannel, List.nil_append] at hmessage
        exact hmessage
      apply letGo_removed hreach
      unfold LetGo
      cases hphase : (s.requests r).phase with
      | failed => exact Or.inl rfl
      | dropped => exact Or.inr rfl
      | unborn => exact (houtcomes (hrequest.early (Or.inl hphase))).elim
      | abandoned => exact (houtcomes (hrequest.early (Or.inr (Or.inr hphase)))).elim
      | dispatching | pending | cancelling =>
          rw [receiving_of_phase hphase] at hrecv
          cases hrecv

/-!
# Correlation
-/

/-- From here on a packet with the opaque of the request is only handed to the orphan
handler. -/
def LateOnlyOrphaned (cfg : Config) (s : State) (r : RequestId) : Prop :=
  forall t u packet, StepFn.Reach (step cfg) StepFn.Always s t -> t.dispatched < 2 ^ 32 ->
    packet.opaqueId = (s.requests r).opaqueId -> packet.magic ≠ .serverReq ->
    step cfg t (.readPacket packet) = some u -> u = handleOrphan cfg t packet

theorem lateOnlyOrphaned_of_removed (hcoherent : Coherent s) {r : RequestId}
    (hr : r < s.dispatched) (h : Removed s r) : LateOnlyOrphaned cfg s r := by
  intro t u packet hreach hbound hopaqueId hmagic hstep
  have hlater := later_of_reach hcoherent hreach
  have hopaqueId' : packet.opaqueId = (t.requests r).opaqueId := by
    rw [(hlater.2 r hr).opaqueId]
    exact hopaqueId
  exact readPacket_removed (coherent_of_reach hcoherent hreach) hbound
    (Nat.lt_of_lt_of_le hr hlater.1) (removed_of_reach hcoherent hreach hr h) hopaqueId'
    hmagic hstep

/-- `cancel` found the handler of the request and took it out of the map. -/
theorem removed_of_cancel (hcoherent : Coherent s) (hbound : s.dispatched < 2 ^ 32)
    {r : RequestId} {kind : CancellationErrorKind} {ctx : SenderContext}
    (hfound : (cancelOp s r).1 = some ctx) (hstep : step cfg s (.cancel r kind) = some s') :
    r < s'.dispatched ∧ Removed s' r := by
  rcases cancelOp_some hfound with ⟨_, hlookup, herase⟩
  cases step_inv hstep with
  | cancelMissed _ _ hphase hnone =>
      rw [hfound] at hnone
      cases hnone
  | cancelTaken _ _ ctx' hphase hsome =>
      have hr : r < s.dispatched := born_of_phase hcoherent.ledger hphase nofun
      have hsender : ctx.sender = r :=
        hcoherent.opaqueId_inj hbound (known_entry hcoherent.ledger hlookup) hr
          (hcoherent.keyed.entry _ ctx hlookup)
      have hregistered : Registered s r := ⟨_, ctx, hlookup, hsender⟩
      have hreturning : ¬ Returning s r :=
        fun hreturning => hcoherent.keyed.away r hreturning hregistered
      rw [herase]
      refine ⟨hr, Or.inr ⟨not_registered_of_erase hcoherent.keyed rfl, ?_⟩⟩
      exact hreturning

/-- What a run of a connection guarantees to its callers. -/
structure Correlated (cfg : Config) (s : State) : Prop where
  /-- A request that is not persistent gets at most one outcome. -/
  single : forall r, (s.requests r).isPersistent = false ->
    (s.requests r).outcomes.length ≤ 1
  /-- After `recv` reported a closed channel, no outcome follows. -/
  closed : forall r t, (s.requests r).isPersistent = false ->
    (s.requests r).disconnected = true -> StepFn.Reach (step cfg) StepFn.Always s t ->
    (t.requests r).outcomes = (s.requests r).outcomes
  /-- A response carries the opaque its request was written with. -/
  answered : forall r resp, .ok resp ∈ (s.requests r).messages ->
    (s.requests r).packet.opaqueId = some resp.packet.opaqueId ∧
      forall packet, (r, packet) ∈ s.wire -> packet.opaqueId = some resp.packet.opaqueId
  /-- No other request has that opaque. -/
  exclusive : forall r r' resp, .ok resp ∈ (s.requests r).messages ->
    r' < s.dispatched -> (s.requests r').packet.opaqueId = some resp.packet.opaqueId ->
    r' = r
  /-- Late packets for a request whose write failed or whose operation was dropped. -/
  letGo : forall r, LetGo s r -> LateOnlyOrphaned cfg s r
  /-- Late packets for a request that has its one message. -/
  done : forall r, (s.requests r).isPersistent = false -> (s.requests r).messages ≠ [] ->
    LateOnlyOrphaned cfg s r
  /-- Late packets for a request that was cancelled. -/
  cancelled : forall r kind ctx t, (cancelOp s r).1 = some ctx ->
    step cfg s (.cancel r kind) = some t -> LateOnlyOrphaned cfg t r
  /-- Late packets for a request whose handler is gone for any other reason. -/
  removed : forall r, r < s.dispatched -> ¬ Registered s r -> ¬ Returning s r ->
    LateOnlyOrphaned cfg s r

theorem closed_of_reach {guard : State -> Action -> Prop} (hcoherent : Coherent s)
    (hreach : StepFn.Reach (step cfg) guard s s') {r : RequestId} (hr : r < s.dispatched)
    (hpersistent : (s.requests r).isPersistent = false)
    (hclosed : (s.requests r).disconnected = true) :
    (s'.requests r).disconnected = true ∧
      (s'.requests r).outcomes = (s.requests r).outcomes := by
  induction hreach with
  | refl => exact ⟨hclosed, rfl⟩
  | tail a hreach hguard hstep ih =>
      have hmid := coherent_of_reach hcoherent hreach
      have hlater := later_of_reach hcoherent hreach
      have hnext := Ledger.steps_closed hmid.ledger
        (step_ledger hmid.ledger (step_inv hstep)) (Nat.lt_of_lt_of_le hr hlater.1)
        ((hlater.2 r hr).isPersistent.trans hpersistent) ih.1
      exact ⟨hnext.1, hnext.2.trans ih.2⟩

theorem correlated_of_reach (hreach : StepFn.Reach (step cfg) StepFn.Always initial s)
    (hbound : s.dispatched < 2 ^ 32) : Correlated cfg s := by
  have hcoherent := reach_coherent hreach
  have hborn : forall r, (s.requests r).phase ≠ .unborn -> r < s.dispatched :=
    fun r hphase => born_of_phase hcoherent.ledger rfl hphase
  have hpacket : forall r resp, .ok resp ∈ (s.requests r).messages ->
      r < s.dispatched ∧ opaqueOf r = resp.packet.opaqueId := by
    intro r resp hm
    have hr := known_messages hcoherent.ledger hm
    refine ⟨hr, ?_⟩
    rw [← (hcoherent.keyed.numbered r hr).1]
    exact (hcoherent.keyed.answered r resp hm).symm
  constructor
  case single => exact fun r hpersistent => (hcoherent.ledger.request r).outcome hpersistent
  case closed =>
      intro r t hpersistent hclosed hlate
      have hr : r < s.dispatched := by
        apply Nat.lt_of_not_le
        intro hle
        have hunborn : s.requests r = Request.unborn := hcoherent.ledger.unborn r hle
        rw [hunborn] at hclosed
        cases hclosed
      exact (closed_of_reach hcoherent hlate hr hpersistent hclosed).2
  case answered =>
      intro r resp hm
      rcases hpacket r resp hm with ⟨hr, hopaqueId⟩
      have hwritten : (s.requests r).packet.opaqueId = some resp.packet.opaqueId := by
        rw [(hcoherent.keyed.numbered r hr).2, hopaqueId]
      refine ⟨hwritten, fun packet hwire => ?_⟩
      rw [(hcoherent.keyed.written r packet hwire).2]
      exact hwritten
  case exclusive =>
      intro r r' resp hm hr' hopaqueId
      rcases hpacket r resp hm with ⟨hr, hresp⟩
      apply hcoherent.opaqueId_inj hbound hr' hr
      rw [(hcoherent.keyed.numbered r hr).1, hresp, (hcoherent.keyed.numbered r' hr').1]
      rw [(hcoherent.keyed.numbered r' hr').2] at hopaqueId
      exact Option.some.inj hopaqueId
  case letGo =>
      intro r hgone
      apply lateOnlyOrphaned_of_removed hcoherent _ (letGo_removed hreach r hgone)
      apply hborn
      rcases hgone with hphase | hphase
      · rw [hphase]
        nofun
      · rw [hphase]
        nofun
  case done =>
      intro r hpersistent hmessage
      apply lateOnlyOrphaned_of_removed hcoherent _ (removed_of_message hreach hpersistent hmessage)
      rcases List.exists_mem_of_ne_nil _ hmessage with ⟨m, hm⟩
      exact known_messages hcoherent.ledger hm
  case cancelled =>
      intro r kind ctx t hfound hstep
      have hremoved := removed_of_cancel hcoherent hbound hfound hstep
      exact lateOnlyOrphaned_of_removed (hcoherent.step (step_inv hstep)) hremoved.1
        hremoved.2
  case removed =>
      intro r hr hregistered hreturning
      exact lateOnlyOrphaned_of_removed hcoherent hr (Or.inr ⟨hregistered, hreturning⟩)

theorem correlated_answeredGet :
    exists s, StepFn.run (step Config.plain) initial answeredGet = some s ∧
      (s.requests 0).outcomes = [.ok { packet := getResponse 1, responseContext := none }] ∧
      Correlated Config.plain s := by
  have hrun : StepFn.run (step Config.plain) initial answeredGet = some _ := rfl
  exact ⟨_, hrun, rfl, correlated_of_reach (StepFn.reach_of_run hrun) (by decide)⟩

end Client
end Memdx
end CouchbaseSdk
