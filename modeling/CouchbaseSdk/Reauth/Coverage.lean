import CouchbaseSdk.Reauth.Model

/-!
# Who sees to a client

A client that has other credentials than the desired ones is left to the task of the last
call of `update_auth`.  The task may take it from one of the copies, or be told of it while
it waits.  It misses the client if it takes another one, or if it subscribes after the client
was announced; and an earlier task may authenticate the client after it.
-/

namespace CouchbaseSdk
namespace Reauth

open Foundation
open Config (Authenticator)
open Babysitter (BuilderId ClientId BuilderPhase BuilderMove ClientsInv)

/-!
# Coverage
-/

def State.Fresh (s : State) (c : ClientId) : Prop :=
  s.clientAuth c = s.desiredAuth

/-- The client is installed, and is yet to be announced. -/
def ToAnnounce (s : Babysitter.State) (c : ClientId) : Prop :=
  s.phase (s.owner c) = .installed c ∨ s.phase (s.owner c) = .stored c

/-- A task that is here comes to the client. -/
def TaskPhase.Covers (s : Babysitter.State) (c : ClientId) : TaskPhase -> Prop
  | .loading | .checking | .subscribing => True
  | .waiting seen => ToAnnounce s c ∨ seen < s.sends ∧ s.connected = some c
  | .reauthenticating d => d = c
  | .unborn | .finished => False

/-- A task that is here has not chosen its client. -/
def TaskPhase.Looks : TaskPhase -> Prop
  | .loading | .checking | .subscribing | .waiting _ => True
  | _ => False

def State.Covered (s : State) (c : ClientId) : Prop :=
  exists i, i + 1 = s.spawned ∧ (s.phase i).Covers s.babysitter c

def State.LooksLast (s : State) : Prop :=
  exists i, i + 1 = s.spawned ∧ (s.phase i).Looks

/-- The credentials of the client that the builder is about to install. -/
def State.attempt (s : State) (b : BuilderId) : Option Authenticator :=
  match s.babysitter.phase b with
  | .connecting | .bootstrapping _ => some (s.attemptAuth b)
  | .built c => some (s.clientAuth c)
  | _ => none

/-- The last task may take this client: no other one will need it. -/
structure State.Suffices (s : State) (c : ClientId) : Prop where
  attempts : forall b authenticator, s.attempt b = some authenticator ->
    authenticator = s.desiredAuth
  current : forall d, s.babysitter.client = some d -> d = c ∨ s.Fresh d

/-- The last task misses no client, and no earlier one comes after it. -/
def Timely (s : State) : Action -> Prop
  | .babysitter (.announce b) => forall c d, s.babysitter.phase b = .stored c ->
      s.babysitter.client = some d -> d = c ∨ s.Fresh d ∨ ToAnnounce s.babysitter d
  | .loadFast i => i + 1 = s.spawned ->
      forall c, s.babysitter.fastClient = some c -> s.Suffices c
  | .checkSlow i => i + 1 = s.spawned ->
      forall c, s.babysitter.client = some c -> s.Suffices c
  | .subscribe i => i + 1 = s.spawned ->
      forall d, s.babysitter.client = some d -> s.Fresh d ∨ ToAnnounce s.babysitter d
  | .receive i => i + 1 = s.spawned ->
      forall c, s.babysitter.connected = some c -> s.Suffices c
  | .reauthOk i => forall c, s.phase i = .reauthenticating c -> s.babysitter.client = some c ->
      .jwtAuthenticator (s.tasks i).token = s.desiredAuth ∨ s.Covered c
  | _ => True

/-- The client was handed out by its builder. -/
structure Handed (s : Babysitter.State) (c : ClientId) : Prop where
  valid : c < s.connections
  given : forall b, (s.phase b).keeps c = false

/-- The copies have only clients that were handed out, and there is no shutdown. -/
structure HandsOut (s : Babysitter.State) : Prop where
  clients : ClientsInv s
  running : s.shutdown = false
  fast : forall c, s.fastClient = some c -> Handed s c
  connected : forall c, s.connected = some c -> Handed s c

structure RotationInv (p : State × Authenticator) : Prop where
  babysitter : HandsOut p.1.babysitter
  tasks : forall i c, p.1.phase i = .reauthenticating c -> Handed p.1.babysitter c
  seen : forall i seen, p.1.phase i = .waiting seen -> seen ≤ p.1.babysitter.sends
  token : forall i, i + 1 = p.1.spawned ->
    p.1.desiredAuth = .jwtAuthenticator (p.1.tasks i).token
  current : forall c, p.1.babysitter.client = some c -> p.1.Fresh c ∨ p.1.Covered c
  attempts : forall b authenticator, p.1.attempt b = some authenticator ->
    authenticator = p.1.desiredAuth ∨ p.1.LooksLast
  last : p.1.desiredAuth = p.2

variable {s s' : State} {a : Action} {i : TaskId} {c : ClientId} {last : Authenticator}

/-!
# Clients that were handed out
-/

theorem handed_of_phase {u : Babysitter.State} {b : BuilderId} (h : ClientsInv u)
    (hclient : (u.phase b).client = some c) (hkeeps : (u.phase b).keeps c = false) :
    Handed u c := by
  rcases h.hand b c hclient with ⟨howner, hlt⟩
  refine ⟨hlt, fun d => Bool.eq_false_iff.mpr (fun hd => ?_)⟩
  have hdb : d = b := (h.hand d c (Babysitter.client_of_keeps hd)).1.symm.trans howner
  rw [hdb, hkeeps] at hd
  cases hd

theorem handed_of_client {u : Babysitter.State} (h : ClientsInv u)
    (hclient : u.client = some c) : Handed u c where
  valid := h.valid c hclient
  given := fun b => Bool.eq_false_iff.mpr (fun hkeeps => h.apart b c hkeeps hclient)

theorem Handed.not_bootstrapping {u : Babysitter.State} (h : Handed u c) (b : BuilderId) :
    u.phase b ≠ .bootstrapping c := by
  intro hphase
  have hkeeps := h.given b
  rw [hphase] at hkeeps
  exact Bool.eq_false_iff.mp hkeeps (beq_self_eq_true c)

theorem Handed.not_built {u : Babysitter.State} (h : Handed u c) (b : BuilderId) :
    u.phase b ≠ .built c := by
  intro hphase
  have hkeeps := h.given b
  rw [hphase] at hkeeps
  exact Bool.eq_false_iff.mp hkeeps (beq_self_eq_true c)

/-- No other builder has this client. -/
theorem not_bootstrapping_of_built {u : Babysitter.State} {b : BuilderId} (h : ClientsInv u)
    (hbuilt : u.phase b = .built c) (d : BuilderId) : u.phase d ≠ .bootstrapping c := by
  intro hd
  have hdb : d = b :=
    (h.hand d c (by rw [hd]; rfl)).1.symm.trans (h.hand b c (by rw [hbuilt]; rfl)).1
  rw [hdb, hbuilt] at hd
  cases hd

theorem authenticate_of_ne (a : Babysitter.Action)
    (h : forall b, s.babysitter.phase b ≠ .bootstrapping c) :
    s.authenticate a c = s.clientAuth c := by
  unfold State.authenticate
  split
  · rename_i b
    cases hphase : s.babysitter.phase b with
    | bootstrapping d =>
        refine Function.update_of_ne ?_ ..
        rintro rfl
        exact h b hphase
    | _ => rfl
  · rfl

theorem readAuth_or (s : State) (a : Babysitter.Action) (b : BuilderId) :
    s.readAuth a b = s.attemptAuth b ∨ s.readAuth a b = s.desiredAuth := by
  unfold State.readAuth
  split
  · rename_i d
    by_cases hb : b = d
    · rw [hb, Function.update_self]
      exact Or.inr rfl
    · rw [Function.update_of_ne hb]
      exact Or.inl rfl
  · exact Or.inl rfl

theorem hasReceiver_of_waiting {seen : Nat} (hlt : i < s.spawned)
    (hphase : s.phase i = .waiting seen) : s.hasReceiver = true := by
  unfold State.hasReceiver
  rw [Bool.or_eq_true, List.any_eq_true]
  refine Or.inr ⟨i, List.mem_range.mpr hlt, ?_⟩
  rw [hphase]
  rfl

/-!
# Steps of the babysitter
-/

/-- The state after a step of the babysitter. -/
def State.advanced (s : State) (a : Babysitter.Action) (t : Babysitter.State) : State :=
  { s with babysitter := t, attemptAuth := s.readAuth a, clientAuth := s.authenticate a }

section
variable {a : Babysitter.Action} {t : Babysitter.State} (h : Advance s a t)
include h

theorem handed_advance (hinv : ClientsInv s.babysitter) (hc : Handed s.babysitter c) :
    Handed t c := by
  refine ⟨(owner_advance h hc.valid).2, fun b => Bool.eq_false_iff.mpr (fun hkeeps => ?_)⟩
  rcases builder_advance h hinv b with hsame | ⟨old, new, hold, hnew, hmove⟩
  · rw [hsame, hc.given b] at hkeeps
    cases hkeeps
  · rw [hnew] at hkeeps
    cases hmove with
    | connect => exact Nat.ne_of_lt hc.valid (eq_of_beq hkeeps)
    | bootstrapOk d =>
        rw [← eq_of_beq hkeeps] at hold
        exact hc.not_bootstrapping b hold
    | _ => cases hkeeps

/-- An attempt has the credentials that it had, or begins with the desired ones. -/
theorem attempt_advance (hinv : ClientsInv s.babysitter) {b : BuilderId}
    {authenticator : Authenticator}
    (hattempt : (s.advanced a t).attempt b = some authenticator) :
    s.attempt b = some authenticator ∨ authenticator = s.desiredAuth := by
  change (match t.phase b with
    | .connecting | .bootstrapping _ => some (s.readAuth a b)
    | .built c => some (s.authenticate a c)
    | _ => none) = some authenticator at hattempt
  unfold State.attempt
  rcases builder_advance h hinv b with hsame | ⟨old, new, hold, hnew, hmove⟩
  · rw [hsame] at hattempt
    cases hphase : s.babysitter.phase b with
    | connecting | bootstrapping c =>
        rw [hphase] at hattempt
        rcases readAuth_or s a b with hread | hread
        · exact Or.inl (hread ▸ hattempt)
        · exact Or.inr ((Option.some.inj hattempt).symm.trans hread)
    | built c =>
        rw [hphase] at hattempt
        have hsame := authenticate_of_ne a (not_bootstrapping_of_built hinv hphase)
        exact Or.inl ((congrArg some hsame).symm.trans hattempt)
    | _ =>
        rw [hphase] at hattempt
        cases hattempt
  · rw [hnew] at hattempt
    rw [hold]
    cases hmove with
    | throttle =>
        right
        rw [← Option.some.inj hattempt]
        exact Function.update_self ..
    | connect => exact Or.inl hattempt
    | bootstrapOk c =>
        left
        rw [← hattempt]
        unfold State.authenticate
        simp only [hold, Function.update_self]
    | _ => cases hattempt

/-- The tasks that wait hear of the client. -/
theorem toAnnounce_advance (hinv : ClientsInv s.babysitter) (hlt : c < s.babysitter.connections)
    (hreceiver : s.hasReceiver = true) (hpending : ToAnnounce s.babysitter c) :
    ToAnnounce t c ∨ t.connected = some c ∧ t.sends = s.babysitter.sends + 1 := by
  unfold ToAnnounce at hpending ⊢
  rw [(owner_advance h hlt).1]
  rcases builder_advance h hinv (s.babysitter.owner c) with hsame | ⟨old, new, hold, hnew, hmove⟩
  · rw [hsame]
    exact Or.inl hpending
  · rw [hold] at hpending
    rw [hnew]
    cases hmove with
    | storeFast d =>
        rcases hpending with hc | hc
        · cases hc
          exact Or.inl (Or.inr rfl)
        · cases hc
    | announce d =>
        rcases hpending with hc | hc
        · cases hc
        · cases hc
          cases h with
          | own _ _ hnot _ => exact (hnot _ rfl).elim
          | announced b d hphase _ =>
              cases hphase.symm.trans hold
              exact Or.inr ⟨rfl, rfl⟩
          | unheard b d _ hunheard => cases hunheard.symm.trans hreceiver
    | _ => rcases hpending with hc | hc <;> cases hc

theorem sends_advance : s.babysitter.sends ≤ t.sends := by
  rcases connected_advance h with ⟨_, hsends⟩ | ⟨_, _, _, _, _, hsends⟩
  · exact Nat.le_of_eq hsends.symm
  · rw [hsends]
    exact Nat.le_succ _

theorem handsOut_advance (hinv : HandsOut s.babysitter) (ha : a ≠ .closeCancel) :
    HandsOut t := by
  have hhanded : forall {c}, Handed s.babysitter c -> Handed t c :=
    fun hc => handed_advance h hinv.clients hc
  constructor
  case clients => exact clientsInv_advance h hinv.clients
  case running => exact (shutdown_advance h ha).trans hinv.running
  case fast =>
    intro c hc
    rcases fast_advance h hc with hbefore | ⟨b, hb⟩
    · exact hhanded (hinv.fast c hbefore)
    · exact hhanded (handed_of_phase (b := b) hinv.clients (by rw [hb]; rfl) (by rw [hb]; rfl))
  case connected =>
    intro c hc
    rcases connected_advance h with ⟨hsame, _⟩ | ⟨b, d, _, hb, hsent, _⟩
    · exact hhanded (hinv.connected c (hsame.symm.trans hc))
    · cases hsent.symm.trans hc
      exact hhanded (handed_of_phase (b := b) hinv.clients (by rw [hb]; rfl) (by rw [hb]; rfl))

variable (hinv : RotationInv (s, last)) (htimely : Timely s (.babysitter a))
include hinv htimely

theorem covers_advance (hi : i + 1 = s.spawned) (hclient : s.babysitter.client = some c)
    (hcovers : (s.phase i).Covers s.babysitter c) :
    s.Fresh c ∨ (s.phase i).Covers t c := by
  cases hphase : s.phase i with
  | waiting seen =>
      rw [hphase] at hcovers
      have hseen : seen ≤ s.babysitter.sends := hinv.seen i seen hphase
      have hlt : i < s.spawned := Nat.lt_of_lt_of_eq (Nat.lt_succ_self i) hi
      have hpending : ToAnnounce s.babysitter c ->
          TaskPhase.Covers t c (.waiting seen) := by
        intro hpending
        have hvalid := hinv.babysitter.clients.valid c hclient
        rcases toAnnounce_advance h hinv.babysitter.clients hvalid
          (hasReceiver_of_waiting hlt hphase) hpending with hkept | ⟨hconnected, hsends⟩
        · exact Or.inl hkept
        · exact Or.inr ⟨hsends ▸ Nat.lt_succ_of_le hseen, hconnected⟩
      rcases hcovers with hbefore | ⟨hnew, hconnected⟩
      · exact Or.inr (hpending hbefore)
      · rcases connected_advance h with ⟨hsame, hsends⟩ | ⟨b, d, rfl, hd, hsent, hsends⟩
        · exact Or.inr (Or.inr ⟨hsends ▸ hnew, hsame.trans hconnected⟩)
        · rcases htimely d c hd hclient with rfl | hfresh | hbefore
          · exact Or.inr (Or.inr ⟨hsends ▸ Nat.lt_succ_of_le hseen, hsent⟩)
          · exact Or.inl hfresh
          · exact Or.inr (hpending hbefore)
  | _ =>
      rw [hphase] at hcovers
      exact Or.inr hcovers

theorem current_advance (hclient : t.client = some c) :
    (s.advanced a t).Fresh c ∨ (s.advanced a t).Covered c := by
  have hfresh : (forall b, s.babysitter.phase b ≠ .bootstrapping c) -> s.Fresh c ->
      (s.advanced a t).Fresh c := fun hne hc => (authenticate_of_ne a hne).trans hc
  rcases client_advance h hclient with hbefore | ⟨b, hbuilt, hinstalled⟩
  · have hne := (handed_of_client hinv.babysitter.clients hbefore).not_bootstrapping
    rcases hinv.current c hbefore with hc | ⟨i, hi, hcovers⟩
    · exact Or.inl (hfresh hne hc)
    · rcases covers_advance h hinv htimely hi hbefore hcovers with hc | hcovers'
      · exact Or.inl (hfresh hne hc)
      · exact Or.inr ⟨i, hi, hcovers'⟩
  · have hattempt : s.attempt b = some (s.clientAuth c) := by
      unfold State.attempt
      rw [hbuilt]
    rcases hinv.attempts b _ hattempt with hc | ⟨i, hi, hlooks⟩
    · exact Or.inl (hfresh (not_bootstrapping_of_built hinv.babysitter.clients hbuilt) hc)
    · have hpending : ToAnnounce t c := by
        rcases hinv.babysitter.clients.hand b c (by rw [hbuilt]; rfl) with ⟨howner, hlt⟩
        unfold ToAnnounce
        rw [(owner_advance h hlt).1, howner]
        exact Or.inl hinstalled
      refine Or.inr ⟨i, hi, ?_⟩
      change (s.phase i).Covers t c
      cases hphase : s.phase i with
      | loading | checking | subscribing => trivial
      | waiting seen => exact Or.inl hpending
      | unborn | reauthenticating | finished =>
          have hlooks' : (s.phase i).Looks := hlooks
          rw [hphase] at hlooks'
          cases hlooks'

theorem rotation_advance (ha : a ≠ .closeCancel) :
    RotationInv (s.advanced a t, last) := by
  constructor
  case babysitter => exact handsOut_advance h hinv.babysitter ha
  case tasks =>
    intro i c hi
    exact handed_advance h hinv.babysitter.clients (hinv.tasks i c hi)
  case seen =>
    intro i seen hi
    exact Nat.le_trans (hinv.seen i seen hi) (sends_advance h)
  case token => exact hinv.token
  case current =>
    intro c hc
    exact current_advance h hinv htimely hc
  case attempts =>
    intro b authenticator hb
    rcases attempt_advance h hinv.babysitter.clients hb with hbefore | hdesired
    · exact hinv.attempts b authenticator hbefore
    · exact Or.inl hdesired
  case last => exact hinv.last

end

end Reauth
end CouchbaseSdk
