import CouchbaseSdk.Scram.SaslAuth

/-!
# Choosing a mechanism

The first mechanism that is enabled is tried without a look at what the server has; only where
that fails is the list of the server consulted.
-/

namespace CouchbaseSdk
namespace Sasl

open Foundation Scram
open Memdx (OpCode)

/-!
# Mechanisms
-/

inductive AuthMechanism where
  | plain | scramSha1 | scramSha256 | scramSha512 | oAuthBearer
deriving DecidableEq

def AuthMechanism.ofStr (value : String) : Except Memdx.ErrorKind AuthMechanism :=
  if value = "PLAIN" then .ok .plain
  else if value = "SCRAM-SHA1" then .ok .scramSha1
  else if value = "SCRAM-SHA256" then .ok .scramSha256
  else if value = "SCRAM-SHA512" then .ok .scramSha512
  else if value = "OAUTHBEARER" then .ok .oAuthBearer
  else .error (protocolError ("unsupported auth mechanism " ++ value))

/-- The hash that a SCRAM client is made for. -/
inductive Hash where
  | sha1 | sha256 | sha512
deriving DecidableEq

def Hash.mechanism : Hash -> AuthMechanism
  | .sha1 => .scramSha1
  | .sha256 => .scramSha256
  | .sha512 => .scramSha512

inductive Credentials where
  | userPass (username password : String)
  | jwtToken (token : String)
deriving DecidableEq

namespace Credentials

def userPass? : Credentials -> Except Memdx.ErrorKind (String × String)
  | userPass username password => .ok (username, password)
  | jwtToken _ => .error (.invalidArgument "credentials do not contain username/password" none)

def jwt? : Credentials -> Except Memdx.ErrorKind String
  | jwtToken token => .ok token
  | userPass _ _ => .error (.invalidArgument "credentials do not contain jwt" none)

end Credentials

/-!
# The mechanisms of the server
-/

def parseMechs : List String -> Except Memdx.ErrorKind (List AuthMechanism)
  | [] => .ok []
  | item :: items =>
      match AuthMechanism.ofStr item with
      | .error e => .error e
      | .ok mech => (parseMechs items).map fun mechs => mech :: mechs

def saslListMechsResponse : Reply -> Except Memdx.ErrorKind (List AuthMechanism)
  | .failed e => .error e
  | .packet status value opaqueId =>
      if status ≠ .success then
        if status = .keyNotFound then
          .error (.server { kind := .configNotSet, opaqueId := opaqueId })
        else .error (decodeError status opaqueId)
      else
        match fromUtf8 (value.getD []) with
        | none => .error (protocolError "failed to parse authentication mechanism list")
        | some mechsList => parseMechs ((mechsList.toList.splitOn ' ').map String.ofList)

/-!
# One mechanism
-/

/-- A request, and the hash of the client whose payload it carries. -/
structure SaslRequest where
  opCode : OpCode
  mechanism : AuthMechanism
  payload : Buffer
  hash : Option Hash
deriving DecidableEq

/-- What an attempt meets: the nonce, and the replies to its requests. -/
structure Exchange where
  generated : Except ScramError Buffer
  first : Reply
  second : Reply

structure Attempt where
  mechanism : AuthMechanism
  requests : List SaslRequest
  result : Exec Memdx.ErrorKind Unit

/-- Both requests name one and the same mechanism, whatever the client computes with. -/
def scramRequest (hash : Hash) : Event -> Option SaslRequest
  | .saslAuth payload => some
      { opCode := .saslAuth, mechanism := .scramSha512, payload := payload, hash := some hash }
  | .saslStep payload => some
      { opCode := .saslStep, mechanism := .scramSha512, payload := payload, hash := some hash }
  | _ => none

/-- A mechanism with one request. -/
def authOnce (mechanism : AuthMechanism) (payload : Buffer) (exchange : Exchange) : Attempt :=
  { mechanism := mechanism
    requests :=
      [{ opCode := .saslAuth, mechanism := mechanism, payload := payload, hash := none }]
    result :=
      match saslAuthResponse exchange.first with
      | .error e => .err e
      | .ok resp =>
          if resp.needsMoreSteps then
            .err (protocolError "server did not accept auth when the client expected")
          else .ok () }

def saslAuthPlain (username password : String) : Exchange -> Attempt :=
  authOnce .plain (0 :: asBytes username ++ 0 :: asBytes password)

def saslAuthOAuthBearer (token : String) : Exchange -> Attempt :=
  authOnce .oAuthBearer
    (asBytes "n,," ++ 1 :: asBytes "auth=Bearer " ++ asBytes token ++ [1, 1])

section Mechanisms

variable (prims : Hash -> Primitives)

def saslAuthScram (hash : Hash) (username password : String) (exchange : Exchange) : Attempt :=
  let done :=
    Scram.saslAuthScram (prims hash) exchange.generated (Client.new username password none)
    exchange.first exchange.second
  { mechanism := hash.mechanism
    requests := done.events.filterMap (scramRequest hash)
    result := done.result }

/-- Credentials of the wrong kind fail before anything is sent. -/
def unsuited (mechanism : AuthMechanism) (e : Memdx.ErrorKind) : Attempt :=
  { mechanism := mechanism, requests := [], result := .err e }

def withUserPass (credentials : Credentials) (mechanism : AuthMechanism)
    (auth : String -> String -> Exchange -> Attempt) (exchange : Exchange) : Attempt :=
  match credentials.userPass? with
  | .error e => unsuited mechanism e
  | .ok (username, password) => auth username password exchange

def saslAuthByName (credentials : Credentials) (mechanism : AuthMechanism) (exchange : Exchange) :
    Attempt :=
  match mechanism with
  | .plain => withUserPass credentials .plain saslAuthPlain exchange
  | .scramSha1 => withUserPass credentials .scramSha1 (saslAuthScram prims .sha1) exchange
  | .scramSha256 => withUserPass credentials .scramSha256 (saslAuthScram prims .sha256) exchange
  | .scramSha512 => withUserPass credentials .scramSha512 (saslAuthScram prims .sha512) exchange
  | .oAuthBearer =>
      match credentials.jwt? with
      | .error e => unsuited .oAuthBearer e
      | .ok token => saslAuthOAuthBearer token exchange

/-!
# The choice
-/

structure AutoAuth where
  attempts : List Attempt
  result : Exec Memdx.ErrorKind Unit

def isCancellationError : Memdx.ErrorKind -> Bool
  | .cancelled _ => true
  | _ => false

/-- What is done after the first attempt has failed. -/
def afterFailure (enabledMechs : List AuthMechanism) (credentials : Credentials)
    (serverMechs : List AuthMechanism) (first : Attempt) (e : Memdx.ErrorKind)
    (exchange : Exchange) : AutoAuth :=
  if isCancellationError e then { attempts := [first], result := .err e }
  else if first.mechanism ∈ serverMechs then { attempts := [first], result := .err e }
  else
    match enabledMechs.find? fun item => item ∈ serverMechs with
    | none =>
        { attempts := [first], result := .err (.message "no supported mechanisms found") }
    | some selectedMech =>
        let second := saslAuthByName prims credentials selectedMech exchange
        { attempts := [first, second], result := second.result }

/-- The reply to the list of mechanisms is given first, then what the two attempts meet. -/
def saslAuthAuto (enabledMechs : List AuthMechanism) (credentials : Credentials)
    (mechs : Reply) (exchange fallback : Exchange) : AutoAuth :=
  match enabledMechs with
  | [] =>
      { attempts := []
        result := .err (.invalidArgument "no enabled mechanisms" (some "enabled_mechanisms")) }
  | defaultMech :: _ =>
      match saslListMechsResponse mechs with
      | .error e => { attempts := [], result := .err e }
      | .ok serverMechs =>
          let first := saslAuthByName prims credentials defaultMech exchange
          match first.result with
          | .ok () => { attempts := [first], result := .ok () }
          | .panic => { attempts := [first], result := .panic }
          | .err e => afterFailure prims enabledMechs credentials serverMechs first e fallback

end Mechanisms

/-!
# Which mechanisms are named
-/

/-- The request names an enabled mechanism, and the hash that its client computes with. -/
def Names (enabledMechs : List AuthMechanism) (request : SaslRequest) : Prop :=
  request.mechanism ∈ enabledMechs ∧
    forall hash, request.hash = some hash -> request.mechanism = hash.mechanism

/-- Only what is enabled is named, the fallback comes after a failure and is something that the
server has, and only an attempt that succeeds lets the whole succeed. -/
def UsesChosen (enabledMechs : List AuthMechanism) (auto : AutoAuth)
    (serverMechs : Except Memdx.ErrorKind (List AuthMechanism)) : Prop :=
  (forall attempt, attempt ∈ auto.attempts -> forall request, request ∈ attempt.requests ->
    Names enabledMechs request) ∧
  (forall first fallbacks second, auto.attempts = first :: fallbacks -> second ∈ fallbacks ->
    (exists e, first.result = .err e) ∧ exists mechs, serverMechs = .ok mechs ∧
      forall request, request ∈ second.requests ->
        request.mechanism ∈ enabledMechs ∧ request.mechanism ∈ mechs) ∧
  (auto.result = .ok () -> exists attempt, attempt ∈ auto.attempts ∧ attempt.result = .ok ())

/-- Whatever the replies are, and whatever the hashes. -/
def AlwaysUsesChosen (enabledMechs : List AuthMechanism) (credentials : Credentials)
    (mechs : Reply) : Prop :=
  forall prims exchange fallback, UsesChosen enabledMechs
    (saslAuthAuto prims enabledMechs credentials mechs exchange fallback)
    (saslListMechsResponse mechs)

/-- A SCRAM mechanism with another hash than the one that is named. -/
def OtherHash (mech : AuthMechanism) : Prop :=
  mech = .scramSha1 ∨ mech = .scramSha256

/-- A mechanism with another hash is tried: with a user and a password, as the first one that is
enabled or as the one to fall back to. -/
def TriesOtherHash (enabledMechs : List AuthMechanism) (credentials : Credentials)
    (mechs : Reply) : Prop :=
  (exists username password, credentials = .userPass username password) ∧
  exists defaultMech serverMechs, enabledMechs.head? = some defaultMech ∧
    saslListMechsResponse mechs = .ok serverMechs ∧
    (OtherHash defaultMech ∨
      defaultMech ∉ serverMechs ∧
        exists selectedMech, enabledMechs.find? (fun item => item ∈ serverMechs) =
          some selectedMech ∧ OtherHash selectedMech)

/-!
# One attempt
-/

section Attempts

variable {prims : Hash -> Primitives} {credentials : Credentials} {mech : AuthMechanism}
  {exchange : Exchange} {enabledMechs : List AuthMechanism}

theorem saslAuthByName_mechanism (prims : Hash -> Primitives) (credentials : Credentials)
    (mech : AuthMechanism) (exchange : Exchange) :
    (saslAuthByName prims credentials mech exchange).mechanism = mech := by
  cases credentials with
  | userPass username password => cases mech <;> rfl
  | jwtToken token => cases mech <;> rfl

theorem scramRequest_names {hash : Hash} {event : Event} {request : SaslRequest}
    (h : scramRequest hash event = some request) :
    request.mechanism = .scramSha512 ∧ request.hash = some hash := by
  cases event with
  | step1 => cases h
  | saslAuth payload =>
      cases h
      exact ⟨rfl, rfl⟩
  | step2 payload => cases h
  | saslStep payload =>
      cases h
      exact ⟨rfl, rfl⟩
  | step3 payload => cases h

theorem saslAuthScram_names {hash : Hash} {username password : String} {request : SaslRequest}
    (h : request ∈ (saslAuthScram prims hash username password exchange).requests) :
    request.mechanism = .scramSha512 ∧ request.hash = some hash := by
  rcases List.mem_filterMap.mp h with ⟨event, -, hevent⟩
  exact scramRequest_names hevent

/-- The request names the mechanism that was chosen. -/
def NamesOne (mech : AuthMechanism) (request : SaslRequest) : Prop :=
  request.mechanism = mech ∧
    forall hash, request.hash = some hash -> request.mechanism = hash.mechanism

theorem authOnce_names {payload : Buffer} {request : SaslRequest}
    (h : request ∈ (authOnce mech payload exchange).requests) : NamesOne mech request := by
  cases List.mem_singleton.mp h
  exact ⟨rfl, fun hash h => by cases h⟩

theorem saslAuthByName_names
    (hhash : ¬ ((exists username password, credentials = .userPass username password) ∧
      OtherHash mech)) {request : SaslRequest}
    (h : request ∈ (saslAuthByName prims credentials mech exchange).requests) :
    NamesOne mech request := by
  cases credentials with
  | userPass username password =>
      cases mech with
      | plain => exact authOnce_names h
      | scramSha1 => exact absurd ⟨⟨username, password, rfl⟩, .inl rfl⟩ hhash
      | scramSha256 => exact absurd ⟨⟨username, password, rfl⟩, .inr rfl⟩ hhash
      | scramSha512 =>
          have hnames : request.mechanism = .scramSha512 ∧ request.hash = some .sha512 :=
            saslAuthScram_names h
          refine ⟨hnames.1, ?_⟩
          intro hash hrequest
          rw [hnames.2] at hrequest
          cases hrequest
          exact hnames.1
      | oAuthBearer => cases h
  | jwtToken token =>
      cases mech with
      | plain => cases h
      | scramSha1 => cases h
      | scramSha256 => cases h
      | scramSha512 => cases h
      | oAuthBearer => exact authOnce_names h

theorem mem_saslStepScram {primitives : Primitives} {events : List Event} {event : Event}
    (h : event ∈ events) (client : Client) (payload : Buffer) (second : Reply) :
    event ∈ (saslStepScram primitives events client payload second).events := by
  have hfront : event ∈ events ++ [.step2 payload] := List.mem_append_left _ h
  unfold saslStepScram
  rcases step2 primitives payload client with ⟨result, proved⟩
  cases result with
  | panic => exact hfront
  | err e => exact hfront
  | ok proof =>
      dsimp only
      split
      · exact List.mem_append_left _ hfront
      · split
        · exact List.mem_append_left _ hfront
        · exact List.mem_append_left _ hfront

/-- Where a nonce is found, a SCRAM client sends its first message. -/
theorem saslAuthScram_sends (hash : Hash) (username password : String) {nonce : Buffer}
    (h : exchange.generated = .ok nonce) :
    exists payload, { opCode := .saslAuth, mechanism := .scramSha512, payload := payload
                      hash := some hash } ∈
      (saslAuthScram prims hash username password exchange).requests := by
  have hstep : exists payload client,
      step1 exchange.generated (Client.new username password none) = (.ok payload, client) := by
    rw [h]
    exact ⟨_, _, rfl⟩
  rcases hstep with ⟨payload, client, hstep⟩
  have hmem : Event.saslAuth payload ∈ (Scram.saslAuthScram (prims hash) exchange.generated
      (Client.new username password none) exchange.first exchange.second).events := by
    have hfirst : Event.saslAuth payload ∈ [Event.step1, .saslAuth payload] := by simp
    unfold Scram.saslAuthScram
    rw [hstep]
    dsimp only
    split
    · exact hfirst
    · split
      · exact hfirst
      · exact mem_saslStepScram hfirst _ _ _
  exact ⟨payload, List.mem_filterMap.mpr ⟨_, hmem, rfl⟩⟩

theorem saslAuthByName_misnames {username password : String} {nonce : Buffer}
    (hmech : OtherHash mech) (h : exchange.generated = .ok nonce) :
    exists request,
      request ∈ (saslAuthByName prims (.userPass username password) mech exchange).requests ∧
        ¬ Names enabledMechs request := by
  rcases hmech with rfl | rfl
  · rcases @saslAuthScram_sends prims exchange .sha1 username password nonce h with ⟨payload, hmem⟩
    refine ⟨_, hmem, ?_⟩
    intro hnames
    cases hnames.2 .sha1 rfl
  · rcases @saslAuthScram_sends prims exchange .sha256 username password nonce h with
      ⟨payload, hmem⟩
    refine ⟨_, hmem, ?_⟩
    intro hnames
    cases hnames.2 .sha256 rfl

/-- No nonce, and no reply. -/
def failing : Exchange :=
  { generated := .error (.new "no nonce")
    first := .failed (.protocol "no reply")
    second := .failed (.protocol "no reply") }

theorem saslAuthByName_failing (prims : Hash -> Primitives) (credentials : Credentials)
    (mech : AuthMechanism) :
    exists e, (saslAuthByName prims credentials mech failing).result = .err e ∧
      isCancellationError e = false := by
  cases credentials with
  | userPass username password => cases mech <;> exact ⟨_, rfl, rfl⟩
  | jwtToken token => cases mech <;> exact ⟨_, rfl, rfl⟩

end Attempts

/-!
# The whole
-/

section Whole

variable {prims : Hash -> Primitives} {credentials : Credentials}
  {enabledMechs serverMechs : List AuthMechanism} {mechs : Reply} {exchange fallback : Exchange}

/-- What holds where no attempt is made. -/
theorem usesChosen_nil (e : Memdx.ErrorKind)
    (serverMechs : Except Memdx.ErrorKind (List AuthMechanism)) :
    UsesChosen enabledMechs { attempts := [], result := .err e } serverMechs := by
  refine ⟨?_, ?_, ?_⟩
  · intro attempt hmem
    cases hmem
  · intro first fallbacks second hattempts
    cases hattempts
  · intro hok
    cases hok

theorem usesChosen_one {first : Attempt} {result : Exec Memdx.ErrorKind Unit}
    (hnames : forall request, request ∈ first.requests -> Names enabledMechs request)
    (hresult : result = .ok () -> first.result = .ok ())
    (serverMechs : Except Memdx.ErrorKind (List AuthMechanism)) :
    UsesChosen enabledMechs { attempts := [first], result := result } serverMechs := by
  refine ⟨?_, ?_, ?_⟩
  · intro attempt hmem
    cases List.mem_singleton.mp hmem
    exact hnames
  · intro other fallbacks second hattempts hmem
    cases hattempts
    cases hmem
  · intro hok
    exact ⟨first, List.mem_cons_self, hresult hok⟩

theorem usesChosen_failed {first : Attempt} {result : Exec Memdx.ErrorKind Unit}
    (hnames : forall request, request ∈ first.requests -> Names enabledMechs request)
    (hresult : result ≠ .ok ())
    (serverMechs : Except Memdx.ErrorKind (List AuthMechanism)) :
    UsesChosen enabledMechs { attempts := [first], result := result } serverMechs :=
  usesChosen_one hnames (fun hok => absurd hok hresult) serverMechs

theorem names_of_namesOne {mech : AuthMechanism} {request : SaslRequest}
    (hmem : mech ∈ enabledMechs) (h : NamesOne mech request) : Names enabledMechs request := by
  refine ⟨?_, h.2⟩
  rw [h.1]
  exact hmem

/-- The fallback is one that the server has. -/
theorem usesChosen_two {first second : Attempt} {e : Memdx.ErrorKind} {mech : AuthMechanism}
    (hfirst : forall request, request ∈ first.requests -> Names enabledMechs request)
    (hfailed : first.result = .err e)
    (hsecond : forall request, request ∈ second.requests -> NamesOne mech request)
    (henabled : mech ∈ enabledMechs) (hserver : mech ∈ serverMechs) :
    UsesChosen enabledMechs { attempts := [first, second], result := second.result }
      (.ok serverMechs) := by
  refine ⟨?_, ?_, ?_⟩
  · intro attempt hmem request hrequest
    rcases List.mem_cons.mp hmem with rfl | hmem
    · exact hfirst request hrequest
    · cases List.mem_singleton.mp hmem
      exact names_of_namesOne henabled (hsecond request hrequest)
  · intro other fallbacks attempt hattempts hmem
    cases hattempts
    cases List.mem_singleton.mp hmem
    refine ⟨⟨e, hfailed⟩, serverMechs, rfl, ?_⟩
    intro request hrequest
    rw [(hsecond request hrequest).1]
    exact ⟨henabled, hserver⟩
  · intro hok
    exact ⟨second, List.mem_cons_of_mem _ List.mem_cons_self, hok⟩

theorem alwaysUsesChosen_of_not_tries
    (h : ¬ TriesOtherHash enabledMechs credentials mechs) :
    AlwaysUsesChosen enabledMechs credentials mechs := by
  intro prims exchange fallback
  unfold saslAuthAuto
  cases enabledMechs with
  | nil => exact usesChosen_nil _ _
  | cons defaultMech others =>
      cases hmechs : saslListMechsResponse mechs with
      | error e => exact usesChosen_nil _ _
      | ok serverMechs =>
          dsimp only
          have hnames : forall request,
              request ∈ (saslAuthByName prims credentials defaultMech exchange).requests ->
                Names (defaultMech :: others) request := by
            intro request hrequest
            apply names_of_namesOne List.mem_cons_self
            refine saslAuthByName_names ?_ hrequest
            rintro ⟨hcredentials, hother⟩
            exact h ⟨hcredentials, defaultMech, serverMechs, rfl, hmechs, .inl hother⟩
          split
          · next hresult => exact usesChosen_one hnames (fun _ => hresult) _
          · exact usesChosen_failed hnames (fun h => by cases h) _
          · next e hresult =>
              unfold afterFailure
              rw [saslAuthByName_mechanism]
              split
              · exact usesChosen_failed hnames (fun h => by cases h) _
              · split
                · exact usesChosen_failed hnames (fun h => by cases h) _
                · next hunsupported =>
                    split
                    · exact usesChosen_failed hnames (fun h => by cases h) _
                    · next selectedMech hselected =>
                        have henabled := List.mem_of_find?_eq_some hselected
                        have hserver := List.find?_some hselected
                        apply usesChosen_two hnames hresult _ henabled (of_decide_eq_true hserver)
                        intro request hrequest
                        refine saslAuthByName_names ?_ hrequest
                        rintro ⟨hcredentials, hother⟩
                        exact h ⟨hcredentials, defaultMech, serverMechs, rfl, hmechs,
                          .inr ⟨hunsupported, selectedMech, hselected, hother⟩⟩

theorem first_mem_attempts {mech : AuthMechanism} {others : List AuthMechanism}
    (hmechs : saslListMechsResponse mechs = .ok serverMechs) :
    saslAuthByName prims credentials mech exchange ∈
      (saslAuthAuto prims (mech :: others) credentials mechs exchange fallback).attempts := by
  unfold saslAuthAuto
  rw [hmechs]
  dsimp only
  split
  · exact List.mem_cons_self
  · exact List.mem_cons_self
  · unfold afterFailure
    split
    · exact List.mem_cons_self
    · split
      · exact List.mem_cons_self
      · split
        · exact List.mem_cons_self
        · exact List.mem_cons_self

theorem fallback_mem_attempts {mech selectedMech : AuthMechanism} {others : List AuthMechanism}
    {e : Memdx.ErrorKind} (hmechs : saslListMechsResponse mechs = .ok serverMechs)
    (hfailed : (saslAuthByName prims credentials mech exchange).result = .err e)
    (hnot : isCancellationError e = false) (hunsupported : mech ∉ serverMechs)
    (hselected : (mech :: others).find? (fun item => item ∈ serverMechs) = some selectedMech) :
    saslAuthByName prims credentials selectedMech fallback ∈
      (saslAuthAuto prims (mech :: others) credentials mechs exchange fallback).attempts := by
  unfold saslAuthAuto
  rw [hmechs]
  dsimp only
  rw [hfailed]
  unfold afterFailure
  dsimp only
  rw [hnot, if_neg Bool.false_ne_true, saslAuthByName_mechanism, if_neg hunsupported, hselected]
  exact List.mem_cons_of_mem _ List.mem_cons_self

/-- A nonce, and no reply to what is sent. -/
def unanswered : Exchange :=
  { failing with generated := .ok [0x61] }

theorem not_alwaysUsesChosen_of_tries (h : TriesOtherHash enabledMechs credentials mechs) :
    ¬ AlwaysUsesChosen enabledMechs credentials mechs := by
  intro hall
  rcases h with ⟨⟨username, password, rfl⟩, defaultMech, serverMechs, hhead, hmechs, hother⟩
  cases enabledMechs with
  | nil => cases hhead
  | cons mech others =>
      cases hhead
      have hmisnames : forall tried, OtherHash tried -> exists request,
          request ∈ (saslAuthByName (fun _ => smallPrimitives) (.userPass username password) tried
            unanswered).requests ∧ ¬ Names (defaultMech :: others) request :=
        fun tried htried => saslAuthByName_misnames htried rfl
      rcases hother with hother | ⟨hunsupported, selectedMech, hselected, hother⟩
      · rcases hmisnames defaultMech hother with ⟨request, hrequest, hnot⟩
        exact hnot ((hall (fun _ => smallPrimitives) unanswered failing).1 _
          (first_mem_attempts hmechs) request hrequest)
      · rcases hmisnames selectedMech hother with ⟨request, hrequest, hnot⟩
        rcases saslAuthByName_failing (fun _ => smallPrimitives) (.userPass username password)
          defaultMech with ⟨e, hfailed, hcancelled⟩
        exact hnot ((hall (fun _ => smallPrimitives) failing unanswered).1 _
          (fallback_mem_attempts hmechs hfailed hcancelled hunsupported hselected)
          request hrequest)

/-- The mechanism that is chosen is the one that is used, for all replies, if and only if no
mechanism with another hash is tried. -/
theorem sasl_auth_auto_uses_chosen_iff (enabledMechs : List AuthMechanism)
    (credentials : Credentials) (mechs : Reply) :
    AlwaysUsesChosen enabledMechs credentials mechs <->
      ¬ TriesOtherHash enabledMechs credentials mechs :=
  ⟨fun hall htries => not_alwaysUsesChosen_of_tries htries hall, alwaysUsesChosen_of_not_tries⟩

end Whole

/-- The server has nothing but SCRAM-SHA1. -/
def sha1Mechs : Reply :=
  .packet .success (some (asBytes "SCRAM-SHA1")) 0

theorem sasl_auth_auto_misnames :
    ¬ forall (enabledMechs : List AuthMechanism) (credentials : Credentials) (mechs : Reply),
      AlwaysUsesChosen enabledMechs credentials mechs := by
  intro hall
  refine not_alwaysUsesChosen_of_tries ?_ (hall [.scramSha1] (.userPass "alice" "secret") sha1Mechs)
  refine ⟨⟨_, _, rfl⟩, .scramSha1, [.scramSha1], rfl, ?_, .inl (.inl rfl)⟩
  decide

end Sasl
end CouchbaseSdk
