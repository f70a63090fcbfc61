import CouchbaseSdk.Babysitter.Clients
import CouchbaseSdk.Babysitter.Model
import CouchbaseSdk.Config.Hostname

/-!
# New credentials for a live connection

Each call of `update_auth` changes the desired credentials of a babysitter, which an attempt
of a builder reads when it begins, and with a token it spawns a task that gives the token to
the client.  The task takes the client from the copy, then from the slow state, and then
waits for the next one to be announced.
-/

namespace CouchbaseSdk
namespace Reauth

open Foundation
open Config (Authenticator)
open Babysitter (BuilderId ClientId)

/-- A task of `update_auth`, by its place in the order of their spawns. -/
abbrev TaskId := Nat

/-- Where a task is in `get_client_for_reauth` and after it. -/
inductive TaskPhase where
  | unborn
  /-- About to load the copy. -/
  | loading
  /-- The copy was empty. -/
  | checking
  /-- The slow state was empty, too. -/
  | subscribing
  | waiting (seen : Nat)
  /-- `reconfigure_authenticator` of this client is under way. -/
  | reauthenticating (c : ClientId)
  | finished
deriving DecidableEq

structure Task where
  token : String
  phase : TaskPhase

structure State where
  babysitter : Babysitter.State
  /-- `slow_state.desired_config.auth` -/
  desiredAuth : Authenticator
  /-- What the last attempt of a builder has read. -/
  attemptAuth : BuilderId -> Authenticator
  /-- The credentials that a client was authenticated with last. -/
  clientAuth : ClientId -> Authenticator
  tasks : TaskId -> Task
  spawned : Nat

def initial (onDemandConnect : Bool) (auth : Authenticator) : State :=
  { babysitter := Babysitter.initial onDemandConnect
    desiredAuth := auth
    attemptAuth := fun _ => auth
    clientAuth := fun _ => auth
    tasks := fun _ => { token := "", phase := .unborn }
    spawned := 0 }

def State.phase (s : State) (i : TaskId) : TaskPhase :=
  (s.tasks i).phase

def State.setTask (s : State) (i : TaskId) (phase : TaskPhase) : State :=
  { s with tasks := Function.update s.tasks i { s.tasks i with phase := phase } }

/-!
# The babysitter
-/

def TaskPhase.isWaiting : TaskPhase -> Bool
  | .waiting _ => true
  | _ => false

/-- The tasks that wait are receivers, too. -/
def State.hasReceiver (s : State) : Bool :=
  s.babysitter.hasReceiver || (List.range s.spawned).any (fun i => (s.phase i).isWaiting)

def announce (s : State) (b : BuilderId) : Option Babysitter.State :=
  match s.babysitter.phase b with
  | .stored c =>
      if s.hasReceiver then
        some ({ s.babysitter with
          connected := some c
          sends := s.babysitter.sends + 1 }.setPhase b (.announced c))
      else some (s.babysitter.setPhase b (.announced c))
  | _ => none

/-- A task has this client in its hand. -/
def State.holds (s : State) (c : ClientId) : Bool :=
  (List.range s.spawned).any (fun i => s.phase i = .reauthenticating c)

def advance (s : State) (a : Babysitter.Action) : Option Babysitter.State :=
  match a with
  | .announce b => announce s b
  | .release c => if s.holds c then none else Babysitter.step s.babysitter a
  | a => Babysitter.step s.babysitter a

/-- An attempt begins with the desired credentials. -/
def State.readAuth (s : State) (a : Babysitter.Action) : BuilderId -> Authenticator :=
  match a with
  | .throttle b => Function.update s.attemptAuth b s.desiredAuth
  | _ => s.attemptAuth

/-- The bootstrap authenticates its client. -/
def State.authenticate (s : State) (a : Babysitter.Action) : ClientId -> Authenticator :=
  match a with
  | .bootstrapOk b =>
      match s.babysitter.phase b with
      | .bootstrapping c => Function.update s.clientAuth c (s.attemptAuth b)
      | _ => s.clientAuth
  | _ => s.clientAuth

def babysitter (s : State) (a : Babysitter.Action) : Option State :=
  (advance s a).map fun t =>
    { s with babysitter := t, attemptAuth := s.readAuth a, clientAuth := s.authenticate a }

/-!
# Tasks
-/

def updateAuth (s : State) (authenticator : Authenticator) : State :=
  let s' := { s with desiredAuth := authenticator }
  match authenticator with
  | .jwtAuthenticator token =>
      { s' with
        tasks := Function.update s.tasks s.spawned { token := token, phase := .loading }
        spawned := s.spawned + 1 }
  | _ => s'

def loadFast (s : State) (i : TaskId) : Option State :=
  match s.phase i with
  | .loading =>
      match s.babysitter.fastClient with
      | some c => some (s.setTask i (.reauthenticating c))
      | none => some (s.setTask i .checking)
  | _ => none

def checkSlow (s : State) (i : TaskId) : Option State :=
  match s.phase i with
  | .checking =>
      match s.babysitter.client with
      | some c => some (s.setTask i (.reauthenticating c))
      | none => some (s.setTask i .subscribing)
  | _ => none

/-- A new receiver has seen the value that is there. -/
def subscribe (s : State) (i : TaskId) : Option State :=
  match s.phase i with
  | .subscribing => some (s.setTask i (.waiting s.babysitter.sends))
  | _ => none

/-- `changed` and `borrow_and_update` -/
def receive (s : State) (i : TaskId) : Option State :=
  match s.phase i with
  | .waiting seen =>
      if seen < s.babysitter.sends then
        match s.babysitter.connected with
        | some c => some (s.setTask i (.reauthenticating c))
        | none => some (s.setTask i (.waiting s.babysitter.sends))
      else none
  | _ => none

def giveUp (s : State) (i : TaskId) : Option State :=
  match s.phase i with
  | .waiting _ => if s.babysitter.shutdown then some (s.setTask i .finished) else none
  | _ => none

def reauthOk (s : State) (i : TaskId) : Option State :=
  match s.phase i with
  | .reauthenticating c =>
      some { s.setTask i .finished with
        clientAuth := Function.update s.clientAuth c (.jwtAuthenticator (s.tasks i).token) }
  | _ => none

def reauthFail (s : State) (i : TaskId) : Option State :=
  match s.phase i with
  | .reauthenticating c =>
      some { s.setTask i .finished with babysitter := s.babysitter.closeClient c }
  | _ => none

/-!
# Actions
-/

inductive Action where
  | babysitter (a : Babysitter.Action)
  | updateAuth (authenticator : Authenticator)
  | loadFast (i : TaskId)
  | checkSlow (i : TaskId)
  | subscribe (i : TaskId)
  | receive (i : TaskId)
  | giveUp (i : TaskId)
  | reauthOk (i : TaskId)
  | reauthFail (i : TaskId)

def step : StepFn State Action
  | s, .babysitter a => babysitter s a
  | s, .updateAuth authenticator => some (updateAuth s authenticator)
  | s, .loadFast i => loadFast s i
  | s, .checkSlow i => checkSlow s i
  | s, .subscribe i => subscribe s i
  | s, .receive i => receive s i
  | s, .giveUp i => giveUp s i
  | s, .reauthOk i => reauthOk s i
  | s, .reauthFail i => reauthFail s i

/-!
# What a step can do to the credentials
-/

open Config (Authenticator)
open Babysitter (BuilderId ClientId BuilderPhase BuilderMove ClientsInv)

/-- A step of the babysitter.  It announces a client to the tasks as well. -/
inductive Advance (s : State) : Babysitter.Action -> Babysitter.State -> Prop where
  | own (a : Babysitter.Action) (t : Babysitter.State) : (forall b, a ≠ .announce b) ->
      Babysitter.Step s.babysitter a t -> Advance s a t
  | announced (b : BuilderId) (c : ClientId) : s.babysitter.phase b = .stored c ->
      s.hasReceiver = true -> Advance s (.announce b) ({ s.babysitter with
        connected := some c
        sends := s.babysitter.sends + 1 }.setPhase b (.announced c))
  | unheard (b : BuilderId) (c : ClientId) : s.babysitter.phase b = .stored c ->
      s.hasReceiver = false ->
        Advance s (.announce b) (s.babysitter.setPhase b (.announced c))

inductive Step (s : State) : Action -> State -> Prop where
  | babysitter (a : Babysitter.Action) (t : Babysitter.State) : Advance s a t ->
      Step s (.babysitter a)
        { s with babysitter := t, attemptAuth := s.readAuth a, clientAuth := s.authenticate a }
  | rotated (token : String) : Step s (.updateAuth (.jwtAuthenticator token)) { s with
      desiredAuth := .jwtAuthenticator token
      tasks := Function.update s.tasks s.spawned { token := token, phase := .loading }
      spawned := s.spawned + 1 }
  | changed (authenticator : Authenticator) :
      (forall token, authenticator ≠ .jwtAuthenticator token) ->
        Step s (.updateAuth authenticator) { s with desiredAuth := authenticator }
  | fastHit (i : TaskId) (c : ClientId) : s.phase i = .loading ->
      s.babysitter.fastClient = some c ->
        Step s (.loadFast i) (s.setTask i (.reauthenticating c))
  | fastMiss (i : TaskId) : s.phase i = .loading -> s.babysitter.fastClient = none ->
      Step s (.loadFast i) (s.setTask i .checking)
  | slowHit (i : TaskId) (c : ClientId) : s.phase i = .checking ->
      s.babysitter.client = some c ->
        Step s (.checkSlow i) (s.setTask i (.reauthenticating c))
  | slowMiss (i : TaskId) : s.phase i = .checking -> s.babysitter.client = none ->
      Step s (.checkSlow i) (s.setTask i .subscribing)
  | subscribed (i : TaskId) : s.phase i = .subscribing ->
      Step s (.subscribe i) (s.setTask i (.waiting s.babysitter.sends))
  | received (i : TaskId) (seen : Nat) (c : ClientId) : s.phase i = .waiting seen ->
      seen < s.babysitter.sends -> s.babysitter.connected = some c ->
        Step s (.receive i) (s.setTask i (.reauthenticating c))
  | receivedNone (i : TaskId) (seen : Nat) : s.phase i = .waiting seen ->
      s.babysitter.connected = none ->
        Step s (.receive i) (s.setTask i (.waiting s.babysitter.sends))
  | gaveUp (i : TaskId) (seen : Nat) : s.phase i = .waiting seen ->
      s.babysitter.shutdown = true -> Step s (.giveUp i) (s.setTask i .finished)
  | reauthenticated (i : TaskId) (c : ClientId) : s.phase i = .reauthenticating c ->
      Step s (.reauthOk i) { s.setTask i .finished with
        clientAuth := Function.update s.clientAuth c (.jwtAuthenticator (s.tasks i).token) }
  | refused (i : TaskId) (c : ClientId) : s.phase i = .reauthenticating c ->
      Step s (.reauthFail i)
        { s.setTask i .finished with babysitter := s.babysitter.closeClient c }

variable {s s' : State} {a : Action} {i : TaskId}

theorem announce_inv {b : BuilderId} {t : Babysitter.State} (h : announce s b = some t) :
    Advance s (.announce b) t := by
  unfold announce at h
  split at h
  · rename_i c hphase
    split at h
    · rename_i hreceiver
      cases h
      exact Advance.announced b c hphase hreceiver
    · rename_i hreceiver
      cases h
      exact Advance.unheard b c hphase (Bool.eq_false_iff.mpr hreceiver)
  · cases h

theorem advance_inv {a : Babysitter.Action} {t : Babysitter.State}
    (h : advance s a = some t) : Advance s a t := by
  unfold advance at h
  split at h
  · exact announce_inv h
  · split at h
    · cases h
    · exact Advance.own _ t nofun (Babysitter.step_inv h)
  · rename_i hannounce hrelease
    exact Advance.own _ t hannounce (Babysitter.step_inv h)

theorem updateAuth_inv (s : State) (authenticator : Authenticator) :
    Step s (.updateAuth authenticator) (updateAuth s authenticator) := by
  cases authenticator with
  | jwtAuthenticator token => exact Step.rotated token
  | passwordAuthenticator | certificateAuthenticator => exact Step.changed _ nofun

theorem loadFast_inv (h : loadFast s i = some s') : Step s (.loadFast i) s' := by
  unfold loadFast at h
  split at h
  · rename_i hphase
    split at h
    · rename_i c hfast
      cases h
      exact Step.fastHit i c hphase hfast
    · rename_i hfast
      cases h
      exact Step.fastMiss i hphase hfast
  · cases h

theorem checkSlow_inv (h : checkSlow s i = some s') : Step s (.checkSlow i) s' := by
  unfold checkSlow at h
  split at h
  · rename_i hphase
    split at h
    · rename_i c hclient
      cases h
      exact Step.slowHit i c hphase hclient
    · rename_i hclient
      cases h
      exact Step.slowMiss i hphase hclient
  · cases h

theorem receive_inv (h : receive s i = some s') : Step s (.receive i) s' := by
  unfold receive at h
  split at h
  · rename_i seen hphase
    split at h
    · rename_i hseen
      split at h
      · rename_i c hconnected
        cases h
        exact Step.received i seen c hphase hseen hconnected
      · rename_i hconnected
        cases h
        exact Step.receivedNone i seen hphase hconnected
    · cases h
  · cases h

theorem giveUp_inv (h : giveUp s i = some s') : Step s (.giveUp i) s' := by
  unfold giveUp at h
  split at h
  · rename_i seen hphase
    split at h
    · rename_i hshutdown
      cases h
      exact Step.gaveUp i seen hphase hshutdown
    · cases h
  · cases h

theorem step_inv (h : step s a = some s') : Step s a s' := by
  cases a with
  | babysitter a =>
      rcases Option.map_eq_some_iff.mp h with ⟨t, ht, rfl⟩
      exact Step.babysitter a t (advance_inv ht)
  | updateAuth authenticator =>
      cases h
      exact updateAuth_inv s authenticator
  | loadFast i => exact loadFast_inv h
  | checkSlow i => exact checkSlow_inv h
  | subscribe i =>
      change subscribe s i = some s' at h
      unfold subscribe at h
      split at h
      · rename_i hphase
        cases h
        exact Step.subscribed i hphase
      · cases h
  | receive i => exact receive_inv h
  | giveUp i => exact giveUp_inv h
  | reauthOk i =>
      change reauthOk s i = some s' at h
      unfold reauthOk at h
      split at h
      · rename_i c hphase
        cases h
        exact Step.reauthenticated i c hphase
      · cases h
  | reauthFail i =>
      change reauthFail s i = some s' at h
      unfold reauthFail at h
      split at h
      · rename_i c hphase
        cases h
        exact Step.refused i c hphase
      · cases h

/-!
# The babysitter in every run
-/

/-- Who receives an announcement plays no part in what is known of the clients. -/
theorem clientsInv_announced {t : Babysitter.State} {b : BuilderId} {c : ClientId}
    (h : ClientsInv t) (hphase : t.phase b = .stored c) (connected : Option ClientId)
    (sends : Nat) :
    ClientsInv ({ t with connected := connected, sends := sends }.setPhase b
      (.announced c)) := by
  let heard : Babysitter.State :=
    { t with started := 1, calls := fun _ => { late := false, phase := .waiting 0 } }
  have hheard : ClientsInv heard :=
    { wellFormed :=
        { phase := h.wellFormed.phase
          listener := h.wellFormed.listener
          listening := h.wellFormed.listening
          closer := h.wellFormed.closer
          stopped := h.wellFormed.stopped }
      hand := h.hand
      valid := h.valid
      taken := h.taken
      apart := h.apart
      fresh := h.fresh
      born := h.born
      woken := h.woken
      dropped := h.dropped
      accounted := h.accounted }
  have hstep : Babysitter.Step heard (.announce b) _ := Babysitter.Step.announce b c hphase rfl
  have hnext := hheard.step hstep
  exact
    { wellFormed :=
        { phase := hnext.wellFormed.phase
          listener := hnext.wellFormed.listener
          listening := hnext.wellFormed.listening
          closer := hnext.wellFormed.closer
          stopped := hnext.wellFormed.stopped }
      hand := hnext.hand
      valid := hnext.valid
      taken := hnext.taken
      apart := hnext.apart
      fresh := hnext.fresh
      born := hnext.born
      woken := hnext.woken
      dropped := hnext.dropped
      accounted := hnext.accounted }

section
variable {a : Babysitter.Action} {t : Babysitter.State} (h : Advance s a t)
include h

theorem clientsInv_advance (hinv : ClientsInv s.babysitter) : ClientsInv t := by
  cases h with
  | own a t _ hstep => exact hinv.step hstep
  | announced b c hphase _ => exact clientsInv_announced hinv hphase _ _
  | unheard b c hphase _ =>
      exact clientsInv_announced hinv hphase s.babysitter.connected s.babysitter.sends

theorem builder_advance (hinv : ClientsInv s.babysitter) (b : BuilderId) :
    t.phase b = s.babysitter.phase b ∨
      exists old new, s.babysitter.phase b = old ∧ t.phase b = new ∧
        BuilderMove s.babysitter t b a old new := by
  have hannounced : forall (u : Babysitter.State) (d : BuilderId) (c : ClientId),
      u.phase = s.babysitter.phase -> s.babysitter.phase d = .stored c ->
        (u.setPhase d (.announced c)).phase b = s.babysitter.phase b ∨
          exists old new, s.babysitter.phase b = old ∧
            (u.setPhase d (.announced c)).phase b = new ∧
              BuilderMove s.babysitter (u.setPhase d (.announced c)) b (.announce d) old
                new := by
    intro u d c hu hd
    by_cases hb : b = d
    · rw [hb, Babysitter.setPhase_self]
      exact Or.inr ⟨_, _, hd, rfl, .announce c⟩
    · rw [Babysitter.setPhase_ne u _ hb, hu]
      exact Or.inl rfl
  cases h with
  | own a t _ hstep => exact Babysitter.builder_step hstep hinv.wellFormed b
  | announced d c hphase _ => exact hannounced _ d c rfl hphase
  | unheard d c hphase _ => exact hannounced _ d c rfl hphase

/-- A client that is new in the slow state comes from its builder. -/
theorem client_advance {c : ClientId} (hc : t.client = some c) :
    s.babysitter.client = some c ∨
      exists b, s.babysitter.phase b = .built c ∧ t.phase b = .installed c := by
  cases h with
  | own a t _ hstep =>
      cases hstep with
      | install b d hphase =>
          cases hc
          exact Or.inr ⟨b, hphase, Babysitter.setPhase_self ..⟩
      | clear | closeTake => cases hc
      | _ => exact Or.inl hc
  | announced | unheard => exact Or.inl hc

theorem fast_advance {c : ClientId} (hc : t.fastClient = some c) :
    s.babysitter.fastClient = some c ∨ exists b, s.babysitter.phase b = .installed c := by
  cases h with
  | own a t _ hstep =>
      cases hstep with
      | storeFast b d hphase =>
          cases hc
          exact Or.inr ⟨b, hphase⟩
      | clear | closeTake | clearFast | clearFastStopped => cases hc
      | _ => exact Or.inl hc
  | announced | unheard => exact Or.inl hc

/-- The announced client and the count of announcements change together. -/
theorem connected_advance :
    t.connected = s.babysitter.connected ∧ t.sends = s.babysitter.sends ∨
      exists b c, a = .announce b ∧ s.babysitter.phase b = .stored c ∧
        t.connected = some c ∧ t.sends = s.babysitter.sends + 1 := by
  cases h with
  | own a t hnot hstep =>
      cases hstep with
      | announce b => exact (hnot b rfl).elim
      | _ => exact Or.inl ⟨rfl, rfl⟩
  | announced b c hphase _ => exact Or.inr ⟨b, c, rfl, hphase, rfl, rfl⟩
  | unheard => exact Or.inl ⟨rfl, rfl⟩

theorem shutdown_advance (ha : a ≠ .closeCancel) :
    t.shutdown = s.babysitter.shutdown := by
  cases h with
  | own a t _ hstep =>
      cases hstep with
      | closeCancel => exact (ha rfl).elim
      | _ => rfl
  | announced | unheard => rfl

theorem owner_advance {c : ClientId} (hc : c < s.babysitter.connections) :
    t.owner c = s.babysitter.owner c ∧ c < t.connections := by
  cases h with
  | own a t _ hstep =>
      exact ⟨Babysitter.owner_kept hstep hc,
        Nat.lt_of_lt_of_le hc (Babysitter.connections_le hstep)⟩
  | announced | unheard => exact ⟨rfl, hc⟩

end

end Reauth
end CouchbaseSdk
