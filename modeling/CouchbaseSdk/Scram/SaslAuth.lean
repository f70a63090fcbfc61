import CouchbaseSdk.Retry.Model
import CouchbaseSdk.Scram.Agreement

/-!
# Authenticating a connection

Two requests carry the first two steps of the client.  What the server answers to the second
one is its signature, for the third step to check.
-/

namespace CouchbaseSdk
namespace Scram

open Foundation
open Memdx (Status)

/-!
# Replies
-/

/-- The packet that answers a request, or why there is none. -/
inductive Reply where
  | packet (status : Status) (value : Option Buffer) (opaqueId : UInt32)
  | failed (e : Memdx.ErrorKind)

def decodeError (status : Status) (opaqueId : UInt32) : Memdx.ErrorKind :=
  if status = .notMyVbucket then .server { kind := .notMyVbucket, opaqueId := opaqueId }
  else if status = .tmpFail then .server { kind := .tmpFail, opaqueId := opaqueId }
  else if status = .noBucket then .server { kind := .noBucket, opaqueId := opaqueId }
  else if status = .authStale then .server { kind := .authStale, opaqueId := opaqueId }
  else if status = .invalidArgs then
    .invalidArgument
      "the server rejected the request because one or more arguments were invalid" none
  else .server { kind := .unknownStatus status, opaqueId := opaqueId }

structure SaslResponse where
  needsMoreSteps : Bool
  payload : Buffer

def saslAuthResponse : Reply -> Except Memdx.ErrorKind SaslResponse
  | .failed e => .error e
  | .packet status value opaqueId =>
      if status = .authContinue then .ok { needsMoreSteps := true, payload := value.getD [] }
      else if status ≠ .success then .error (decodeError status opaqueId)
      else .ok { needsMoreSteps := false, payload := value.getD [] }

def saslStepResponse : Reply -> Except Memdx.ErrorKind SaslResponse
  | .failed e => .error e
  | .packet status value opaqueId =>
      if status ≠ .success then .error (decodeError status opaqueId)
      else .ok { needsMoreSteps := false, payload := value.getD [] }

/-!
# The exchange
-/

/-- What is done: a step of the client, or a request. -/
inductive Event where
  | step1
  | saslAuth (payload : Buffer)
  | step2 (payload : Buffer)
  | saslStep (payload : Buffer)
  | step3 (payload : Buffer)
deriving DecidableEq

structure Authentication where
  events : List Event
  client : Client
  result : Exec Memdx.ErrorKind Unit

def protocolError (msg : String) : Memdx.ErrorKind :=
  .protocol msg

/-- From the answer to the first request on. -/
def saslStepScram (prims : Primitives) (events : List Event) (client : Client)
    (payload : Buffer) (second : Reply) : Authentication :=
  let events := events ++ [.step2 payload]
  match step2 prims payload client with
  | (.panic, client) => { events := events, client := client, result := .panic }
  | (.err _, client) =>
      { events := events
        client := client
        result := .err (protocolError "failed to perform second sasl step") }
  | (.ok payload, client) =>
      let events := events ++ [.saslStep payload]
      match saslStepResponse second with
      | .error e => { events := events, client := client, result := .err e }
      | .ok resp =>
          if resp.needsMoreSteps then
            { events := events
              client := client
              result := .err (protocolError
                "server did not accept auth when the client expected") }
          else { events := events, client := client, result := .ok () }

/-- The replies are the ones to the first and the second request, if these are sent. -/
def saslAuthScram (prims : Primitives) (generated : Except ScramError Buffer) (client : Client)
    (first second : Reply) : Authentication :=
  match step1 generated client with
  | (.panic, client) => { events := [.step1], client := client, result := .panic }
  | (.err _, client) =>
      { events := [.step1]
        client := client
        result := .err (protocolError "failed to perform initial sasl step") }
  | (.ok payload, client) =>
      let events := [.step1, .saslAuth payload]
      match saslAuthResponse first with
      | .error e => { events := events, client := client, result := .err e }
      | .ok resp =>
          if ¬ resp.needsMoreSteps then
            { events := events, client := client, result := .ok () }
          else saslStepScram prims events client resp.payload second

/-!
# The signature of the server
-/

/-- Nothing succeeds before the third step has accepted a signature. -/
def VerifiesServer (prims : Primitives) (a : Authentication) : Prop :=
  a.result = .ok () ->
    exists payload, .step3 payload ∈ a.events ∧ step3 prims payload a.client = .ok ()

def Reply.Success (reply : Reply) : Prop :=
  exists value opaqueId, reply = .packet .success value opaqueId

/-- The server answers success to no request that it gets. -/
def NeverSucceeds (prims : Primitives) (generated : Except ScramError Buffer) (client : Client)
    (first second : Reply) : Prop :=
  forall message greeted, step1 generated client = (.ok message, greeted) ->
    ¬ first.Success ∧
      forall value opaqueId proof proved, first = .packet .authContinue value opaqueId ->
        step2 prims (value.getD []) greeted = (.ok proof, proved) -> ¬ second.Success

theorem saslAuthResponse_ok {reply : Reply} {resp : SaslResponse}
    (h : saslAuthResponse reply = .ok resp) :
    exists value opaqueId, resp.payload = value.getD [] ∧
      ((resp.needsMoreSteps = true ∧ reply = .packet .authContinue value opaqueId) ∨
        (resp.needsMoreSteps = false ∧ reply = .packet .success value opaqueId)) := by
  cases reply with
  | failed e => cases h
  | packet status value opaqueId =>
      unfold saslAuthResponse at h
      dsimp only at h
      split at h
      · rename_i hstatus
        cases h
        exact ⟨value, opaqueId, rfl, Or.inl ⟨rfl, by rw [hstatus]⟩⟩
      · split at h
        · cases h
        · rename_i hstatus
          cases h
          exact ⟨value, opaqueId, rfl, Or.inr ⟨rfl, by rw [Decidable.not_not.mp hstatus]⟩⟩

theorem saslStepResponse_ok_iff {reply : Reply} :
    (exists resp, saslStepResponse reply = .ok resp) <-> reply.Success := by
  cases reply with
  | failed e =>
      constructor
      · rintro ⟨resp, h⟩
        cases h
      · rintro ⟨value, opaqueId, h⟩
        cases h
  | packet status value opaqueId =>
      by_cases hstatus : status = .success
      · rw [hstatus]
        exact iff_of_true ⟨_, rfl⟩ ⟨value, opaqueId, rfl⟩
      · refine iff_of_false ?_ ?_
        · rintro ⟨resp, h⟩
          unfold saslStepResponse at h
          dsimp only at h
          rw [if_pos hstatus] at h
          cases h
        · rintro ⟨value', opaqueId', h⟩
          cases h
          exact hstatus rfl

theorem not_needsMoreSteps_of_step {reply : Reply} {resp : SaslResponse}
    (h : saslStepResponse reply = .ok resp) : resp.needsMoreSteps = false := by
  cases reply with
  | failed e => cases h
  | packet status value opaqueId =>
      unfold saslStepResponse at h
      dsimp only at h
      split at h
      · cases h
      · cases h
        rfl

theorem saslStepScram_ok_iff (prims : Primitives) (events : List Event) (client : Client)
    (payload : Buffer) (second : Reply) :
    (saslStepScram prims events client payload second).result = .ok () <->
      (exists proof proved, step2 prims payload client = (.ok proof, proved)) ∧
        second.Success := by
  unfold saslStepScram
  rcases hstep : step2 prims payload client with ⟨result, proved⟩
  cases result with
  | panic => exact iff_of_false nofun (fun ⟨⟨_, _, h⟩, _⟩ => nomatch h)
  | err e => exact iff_of_false nofun (fun ⟨⟨_, _, h⟩, _⟩ => nomatch h)
  | ok proof =>
      dsimp only
      cases hresp : saslStepResponse second with
      | error e =>
          refine iff_of_false nofun ?_
          rintro ⟨-, hsuccess⟩
          rcases saslStepResponse_ok_iff.mpr hsuccess with ⟨resp, hok⟩
          rw [hresp] at hok
          cases hok
      | ok resp =>
          dsimp only
          rw [not_needsMoreSteps_of_step hresp, if_neg Bool.false_ne_true]
          exact iff_of_true rfl ⟨⟨proof, proved, rfl⟩, saslStepResponse_ok_iff.mp ⟨resp, hresp⟩⟩

theorem step3_not_mem_saslStepScram (prims : Primitives) {events : List Event}
    (client : Client) (payload : Buffer) (second : Reply)
    (h : forall payload, .step3 payload ∉ events) (final : Buffer) :
    .step3 final ∉ (saslStepScram prims events client payload second).events := by
  have hfront : .step3 final ∉ events ++ [.step2 payload] := by
    simp [h final]
  have hboth : forall proof, .step3 final ∉ events ++ [.step2 payload] ++ [.saslStep proof] := by
    intro proof
    simp [h final]
  unfold saslStepScram
  rcases step2 prims payload client with ⟨result, proved⟩
  cases result with
  | panic => exact hfront
  | err e => exact hfront
  | ok proof =>
      dsimp only
      split
      · exact hboth proof
      · split
        · exact hboth proof
        · exact hboth proof

/-- The third step is never taken. -/
theorem step3_not_mem_events (prims : Primitives) (generated : Except ScramError Buffer)
    (client : Client) (first second : Reply) (final : Buffer) :
    .step3 final ∉ (saslAuthScram prims generated client first second).events := by
  have hfirst : forall message, .step3 final ∉ [Event.step1, .saslAuth message] := by
    intro message
    simp
  unfold saslAuthScram
  rcases step1 generated client with ⟨result, greeted⟩
  cases result with
  | panic => exact fun hmem => nomatch List.mem_singleton.mp hmem
  | err e => exact fun hmem => nomatch List.mem_singleton.mp hmem
  | ok message =>
      dsimp only
      split
      · exact hfirst message
      · split
        · exact hfirst message
        · exact step3_not_mem_saslStepScram prims greeted _ second
            (fun payload => by simp) final

/-- Authentication succeeds if and only if the server answers success to some request. -/
theorem saslAuthScram_ok_iff (prims : Primitives) (generated : Except ScramError Buffer)
    (client : Client) (first second : Reply) :
    (saslAuthScram prims generated client first second).result = .ok () <->
      ¬ NeverSucceeds prims generated client first second := by
  unfold saslAuthScram NeverSucceeds
  rcases hstep : step1 generated client with ⟨result, greeted⟩
  cases result with
  | panic => exact iff_of_false nofun (fun hnot => hnot (fun _ _ h => nomatch h))
  | err e => exact iff_of_false nofun (fun hnot => hnot (fun _ _ h => nomatch h))
  | ok message =>
      dsimp only
      cases hresp : saslAuthResponse first with
      | error e =>
          refine iff_of_false nofun (fun hnot => hnot ?_)
          intro message' greeted' _
          constructor
          · rintro ⟨value, opaqueId, rfl⟩
            cases hresp
          · rintro value opaqueId proof proved rfl
            cases hresp
      | ok resp =>
          rcases saslAuthResponse_ok hresp with
            ⟨value, opaqueId, hpayload, ⟨hmore, rfl⟩ | ⟨hmore, rfl⟩⟩
          · dsimp only
            rw [hmore, if_neg (not_not_intro rfl), saslStepScram_ok_iff, hpayload]
            constructor
            · rintro ⟨⟨proof, proved, hproof⟩, hsuccess⟩ hnever
              exact (hnever message greeted rfl).2 value opaqueId proof proved rfl hproof hsuccess
            · intro hnot
              by_contra hcontra
              refine hnot ?_
              intro message' greeted' heq
              cases heq
              constructor
              · rintro ⟨value', opaqueId', h⟩
                cases h
              · intro value' opaqueId' proof proved h hproof hsuccess
                cases h
                exact hcontra ⟨⟨proof, proved, hproof⟩, hsuccess⟩
          · dsimp only
            rw [hmore, if_pos Bool.false_ne_true]
            refine iff_of_true rfl (fun hnever => ?_)
            exact (hnever message greeted rfl).1 ⟨value, opaqueId, rfl⟩

/-- The server is verified if and only if it never answers success, so that nothing is left to
verify. -/
theorem saslAuthScram_verifies_iff (prims : Primitives) (generated : Except ScramError Buffer)
    (client : Client) (first second : Reply) :
    VerifiesServer prims (saslAuthScram prims generated client first second) <->
      NeverSucceeds prims generated client first second := by
  constructor
  · intro hverifies
    by_contra hnever
    have hok := (saslAuthScram_ok_iff prims generated client first second).mpr hnever
    rcases hverifies hok with ⟨payload, hmem, -⟩
    exact step3_not_mem_events prims generated client first second payload hmem
  · intro hnever hok
    exact absurd hnever ((saslAuthScram_ok_iff prims generated client first second).mp hok)

/-- The server ends the exchange at once. -/
theorem saslAuthScram_not_verified :
    ¬ forall (prims : Primitives) (generated : Except ScramError Buffer) (client : Client)
      (first second : Reply),
      VerifiesServer prims (saslAuthScram prims generated client first second) := by
  intro hall
  have hverifies := hall smallPrimitives (.ok [0x61]) (Client.new "alice" "secret" none)
    (.packet .success none 1) (.packet .success none 2)
  rcases hverifies rfl with ⟨payload, hmem, -⟩
  exact step3_not_mem_events _ _ _ _ _ payload hmem

end Scram
end CouchbaseSdk
