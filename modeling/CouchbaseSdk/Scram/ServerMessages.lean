import CouchbaseSdk.Scram.Agreement

/-!
# Any messages of the server

The steps of the client over arbitrary messages in an arbitrary order.  A message that is
refused leaves no mark in the client: the next one is taken as if it had been accepted.
-/

namespace CouchbaseSdk
namespace Scram

open Foundation

/-- A message, and the step that it is given to. -/
inductive ServerMessage where
  | first (input : Buffer)
  | final (input : Buffer)
deriving DecidableEq

/-- What a step returns: the proof to send, or that the server's signature is right. -/
inductive Accepted where
  | proof (out : Buffer)
  | verified
deriving DecidableEq

def receive (prims : Primitives) (client : Client) :
    ServerMessage -> Exec ScramError Accepted × Client
  | .first input =>
      let result := step2 prims input client
      (result.1.map .proof, result.2)
  | .final input => ((step3 prims input client).map fun _ => .verified, client)

/-- The messages, each with the client that it finds. -/
def visits (prims : Primitives) :
    Client -> List ServerMessage -> List (Client × ServerMessage)
  | _, [] => []
  | client, message :: messages =>
      (client, message) :: visits prims (receive prims client message).2 messages

/-- Every step returns, and none reports success once one has failed. -/
def Safe (prims : Primitives) (vs : List (Client × ServerMessage)) : Prop :=
  (forall v, v ∈ vs -> (receive prims v.1 v.2).1.Returns) ∧
    vs.Pairwise fun v later =>
      (exists e, (receive prims v.1 v.2).1 = .err e) ->
        (receive prims later.1 later.2).1 ≠ .ok .verified

/-- An error of the server whose text is not UTF-8. -/
def GarbledError (input : Buffer) : Prop :=
  exists text, input = asBytes "e=" ++ text ∧ comma ∉ text ∧ fromUtf8 text = none

/-- A first message as it has to be: a nonce that starts with the client's, a salt in base64
and an iteration count. -/
def WellFormedFirst (client : Client) (input : Buffer) : Prop :=
  exists nonce salt count, comma ∉ nonce ∧ comma ∉ salt ∧ comma ∉ count ∧
    input = asBytes "r=" ++ nonce ++ asBytes ",s=" ++ salt ++ asBytes ",i=" ++ count ∧
    client.clientNonce.isPrefixOf nonce = true ∧ Base64.decode salt ≠ none ∧
    exists n, parseIterCount count = .ok n

/-- The final message that has the signature for what the client has exchanged. -/
def Signed (prims : Primitives) (client : Client) (message : ServerMessage) : Prop :=
  message = .final (asBytes "v=" ++ serverSignature prims client)

/-- A message that the client accepts. -/
def Proper (prims : Primitives) (client : Client) (message : ServerMessage) : Prop :=
  (exists input, message = .first input ∧ WellFormedFirst client input) ∨
    Signed prims client message

/-- No error of the server is garbled, and no final message is signed behind a message that is
not proper. -/
def Benign (prims : Primitives) (vs : List (Client × ServerMessage)) : Prop :=
  (forall v, v ∈ vs -> forall input, v.2 = .final input -> ¬ GarbledError input) ∧
    vs.Pairwise fun v later =>
      ¬ Proper prims v.1 v.2 -> ¬ Signed prims later.1 later.2

/-!
# First messages
-/

theorem not_mem_splitOn {sep : UInt8} {xs piece : Buffer} (h : piece ∈ xs.splitOn sep) :
    sep ∉ piece := by
  induction xs generalizing piece with
  | nil =>
      rw [List.splitOn_nil, List.mem_singleton] at h
      rw [h]
      exact List.not_mem_nil
  | cons x xs ih =>
      rw [List.splitOn_cons_eq_if_modifyHead] at h
      split at h
      · rcases List.mem_cons.mp h with rfl | h
        · exact List.not_mem_nil
        · exact ih h
      · next hx =>
          cases hpieces : xs.splitOn sep with
          | nil => exact absurd hpieces (List.splitOn_ne_nil sep xs)
          | cons first rest =>
              rw [hpieces] at h ih
              rcases List.mem_cons.mp h with rfl | h
              · intro hmem
                rcases List.mem_cons.mp hmem with rfl | hmem
                · exact hx (beq_self_eq_true _)
                · exact ih List.mem_cons_self hmem
              · exact ih (List.mem_cons_of_mem _ h)

theorem splitFirst_inv {input nonce salt count : Buffer}
    (h : splitFirst input = .ok (nonce, salt, count)) :
    comma ∉ nonce ∧ comma ∉ salt ∧ comma ∉ count ∧
      input = asBytes "r=" ++ nonce ++ asBytes ",s=" ++ salt ++ asBytes ",i=" ++ count := by
  have hs : asBytes ",s=" = comma :: asBytes "s=" := by decide
  have hi : asBytes ",i=" = comma :: asBytes "i=" := by decide
  have hlength : forall name : String, name ∈ ["r=", "s=", "i="] -> (asBytes name).length = 2 := by
    decide
  have hfield : forall {name : String} {field : Buffer}, name ∈ ["r=", "s=", "i="] ->
      (asBytes name).isPrefixOf field = true -> comma ∉ field ->
        comma ∉ field.drop 2 ∧ field = asBytes name ++ field.drop 2 := by
    intro name field hname hprefix hcomma
    rcases List.isPrefixOf_iff_prefix.mp hprefix with ⟨rest, rfl⟩
    rw [← hlength name hname, List.drop_left]
    exact ⟨fun hmem => hcomma (List.mem_append_right _ hmem), rfl⟩
  unfold splitFirst at h
  split at h
  · next first second third hfields =>
      have hinput : [comma].intercalate (input.splitOn comma) = input :=
        List.intercalate_splitOn comma
      have hpieces : forall piece, piece ∈ [first, second, third] -> comma ∉ piece := by
        intro piece hpiece
        rw [← hfields] at hpiece
        exact not_mem_splitOn hpiece
      rw [hfields] at hinput
      split at h
      · cases h
      · next hr =>
          split at h
          · cases h
          · next hs' =>
              split at h
              · cases h
              · next hi' =>
                  cases h
                  rcases hfield (by decide) (Decidable.not_not.mp hr) (hpieces first (by simp))
                    with ⟨hnonce, hfirst⟩
                  rcases hfield (by decide) (Decidable.not_not.mp hs') (hpieces second (by simp))
                    with ⟨hsalt, hsecond⟩
                  rcases hfield (by decide) (Decidable.not_not.mp hi') (hpieces third (by simp))
                    with ⟨hcount, hthird⟩
                  refine ⟨hnonce, hsalt, hcount, ?_⟩
                  have hsplit : input = first ++ comma :: (second ++ comma :: third) := by
                    rw [← hinput]
                    simp [List.intercalate]
                  rw [hsplit, hs, hi]
                  nth_rewrite 1 [hfirst, hsecond, hthird]
                  simp
  · cases h

theorem step2_returns (prims : Primitives) (input : Buffer) (client : Client) :
    (step2 prims input client).1.Returns := by
  unfold step2
  dsimp only
  repeat' split
  all_goals trivial

theorem step2_ok_iff (prims : Primitives) (input : Buffer) (client : Client) :
    (exists out, (step2 prims input client).1 = .ok out) ↔ WellFormedFirst client input := by
  constructor
  · rintro ⟨out, h⟩
    unfold step2 at h
    dsimp only at h
    split at h
    · cases h
    · next nonce salt count hsplit =>
        split at h
        · cases h
        · next hnonce =>
            rcases splitFirst_inv hsplit with ⟨h₁, h₂, h₃, hinput⟩
            split at h
            · cases h
            · next bytes hsalt =>
                split at h
                · cases h
                · next n hcount =>
                    exact ⟨nonce, salt, count, h₁, h₂, h₃, hinput, Decidable.not_not.mp hnonce,
                      by simp [hsalt], n, hcount⟩
  · rintro ⟨nonce, salt, count, h₁, h₂, h₃, rfl, hnonce, hsalt, n, hcount⟩
    rcases Option.ne_none_iff_exists'.mp hsalt with ⟨bytes, hbytes⟩
    unfold step2
    rw [splitFirst_fields h₁ h₂ h₃]
    dsimp only
    rw [if_neg (not_not_intro hnonce), hbytes]
    dsimp only
    rw [hcount]
    exact ⟨_, rfl⟩

/-!
# Final messages
-/

theorem step3_ok_iff (prims : Primitives) (input : Buffer) (client : Client) :
    step3 prims input client = .ok () ↔ input = asBytes "v=" ++ serverSignature prims client := by
  constructor
  · exact step3_ok_inv
  · rintro rfl
    rcases step3_signature prims (serverSignature prims client) client with ⟨_, h⟩ | ⟨hne, _⟩
    · exact h
    · exact absurd rfl hne

theorem step3_returns_iff (prims : Primitives) (input : Buffer) (client : Client) :
    (step3 prims input client).Returns ↔ ¬ GarbledError input := by
  have he : asBytes "e=" = [0x65, 0x3D] := by decide
  constructor
  · rintro h ⟨text, rfl, hcomma, hutf8⟩
    have hsplit : (asBytes "e=" ++ text).splitOn comma = [asBytes "e=" ++ text] :=
      splitOn_last (comma_not_mem_field (by decide) hcomma)
    have hstarts : (asBytes "e=").isPrefixOf (asBytes "e=" ++ text) = true :=
      List.isPrefixOf_iff_prefix.mpr (List.prefix_append _ _)
    have hdrop : (asBytes "e=" ++ text).drop 2 = text := by
      rw [he]
      rfl
    unfold step3 at h
    rw [hsplit] at h
    dsimp only at h
    rw [if_pos hstarts, hdrop, hutf8] at h
    exact h
  · intro h
    unfold step3
    split
    · next field hfields =>
        have hinput : [comma].intercalate (input.splitOn comma) = input :=
          List.intercalate_splitOn comma
        rw [hfields, List.intercalate_singleton] at hinput
        have hcomma : comma ∉ field := by
          apply @not_mem_splitOn comma input
          rw [hfields]
          exact List.mem_singleton_self field
        split
        · next hstarts =>
            rcases List.isPrefixOf_iff_prefix.mp hstarts with ⟨text, rfl⟩
            split
            · trivial
            · next hutf8 =>
                have hdrop : (asBytes "e=" ++ text).drop 2 = text := by
                  rw [he]
                  rfl
                rw [hdrop] at hutf8
                exact h ⟨text, hinput.symm, fun hmem => hcomma (List.mem_append_right _ hmem),
                  hutf8⟩
        · repeat' split
          all_goals trivial
    · trivial

/-!
# Runs
-/

section Visits

variable (prims : Primitives) (client : Client) (message : ServerMessage)

theorem receive_returns_iff :
    (receive prims client message).1.Returns ↔
      forall input, message = .final input -> ¬ GarbledError input := by
  cases message with
  | first input =>
      constructor
      · rintro _ _ ⟨⟩
      · intro _
        exact (Exec.returns_map _ _).mpr (step2_returns prims input client)
  | final input =>
      have h := step3_returns_iff prims input client
      constructor
      · rintro hreturns _ ⟨⟩
        exact h.mp ((Exec.returns_map _ _).mp hreturns)
      · intro hgarbled
        exact (Exec.returns_map _ _).mpr (h.mpr (hgarbled input rfl))

theorem receive_verified_iff :
    (receive prims client message).1 = .ok .verified ↔ Signed prims client message := by
  cases message with
  | first input =>
      constructor
      · intro h
        rcases Exec.map_eq_ok.mp h with ⟨out, _, hout⟩
        cases hout
      · rintro ⟨⟩
  | final input =>
      have h := step3_ok_iff prims input client
      constructor
      · intro hok
        rcases Exec.map_eq_ok.mp hok with ⟨_, hstep, _⟩
        exact congrArg ServerMessage.final (h.mp hstep)
      · intro hsigned
        exact Exec.map_eq_ok.mpr ⟨(), h.mpr (ServerMessage.final.inj hsigned), rfl⟩

theorem receive_ok_iff :
    (exists reply, (receive prims client message).1 = .ok reply) ↔ Proper prims client message := by
  cases message with
  | first input =>
      have h := step2_ok_iff prims input client
      constructor
      · rintro ⟨reply, hok⟩
        rcases Exec.map_eq_ok.mp hok with ⟨out, hstep, _⟩
        exact Or.inl ⟨input, rfl, h.mp ⟨out, hstep⟩⟩
      · rintro (⟨_, ⟨⟩, hformed⟩ | hsigned)
        · rcases h.mpr hformed with ⟨out, hstep⟩
          exact ⟨.proof out, Exec.map_eq_ok.mpr ⟨out, hstep, rfl⟩⟩
        · cases hsigned
  | final input =>
      constructor
      · rintro ⟨reply, hok⟩
        right
        apply (receive_verified_iff prims client (.final input)).mp
        rcases Exec.map_eq_ok.mp hok with ⟨_, _, rfl⟩
        exact hok
      · rintro (⟨_, ⟨⟩, _⟩ | hsigned)
        exact ⟨.verified, (receive_verified_iff prims client (.final input)).mpr hsigned⟩

/-- Where a step returns, it fails exactly on what is not proper. -/
theorem receive_err_iff (h : (receive prims client message).1.Returns) :
    (exists e, (receive prims client message).1 = .err e) ↔ ¬ Proper prims client message := by
  rw [← receive_ok_iff]
  cases hresult : (receive prims client message).1 with
  | ok reply => simp
  | err e => simp
  | panic =>
      rw [hresult] at h
      cases h

end Visits

/-- The steps are safe over exactly the benign runs. -/
theorem server_messages_safe_iff (prims : Primitives) (client : Client)
    (messages : List ServerMessage) :
    Safe prims (visits prims client messages) ↔ Benign prims (visits prims client messages) := by
  have hreturns : (forall v, v ∈ visits prims client messages ->
      (receive prims v.1 v.2).1.Returns) ↔
        forall v, v ∈ visits prims client messages -> forall input, v.2 = .final input ->
          ¬ GarbledError input :=
    forall₂_congr fun v _ => receive_returns_iff prims v.1 v.2
  unfold Safe Benign
  rw [← hreturns]
  apply and_congr_right
  intro hall
  apply List.Pairwise.iff_of_mem
  intro v later hv _
  rw [receive_err_iff prims v.1 v.2 (hall v hv), ne_eq, receive_verified_iff]

/-- The client after a first message that it refuses. -/
def refusedClient : Client :=
  { Client.new "alice" "secret" (some [0x61]) with authMsg := [comma] }

theorem not_server_messages_safe :
    (¬ forall (prims : Primitives) (client : Client) (messages : List ServerMessage),
      forall v, v ∈ visits prims client messages -> (receive prims v.1 v.2).1.Returns) ∧
    ¬ forall (prims : Primitives) (client : Client) (messages : List ServerMessage),
      (visits prims client messages).Pairwise fun v later =>
        (exists e, (receive prims v.1 v.2).1 = .err e) ->
          (receive prims later.1 later.2).1 ≠ .ok .verified := by
  constructor
  · intro h
    have hreturns := h smallPrimitives (Client.new "alice" "secret" (some [0x61]))
      [.final (asBytes "e=" ++ [0xff])] _ List.mem_cons_self
    refine (receive_returns_iff _ _ _).mp hreturns _ rfl ⟨[0xff], rfl, by decide, ?_⟩
    decide
  · intro h
    have hpair := h smallPrimitives (Client.new "alice" "secret" (some [0x61]))
      [.first [], .final (asBytes "v=" ++ serverSignature smallPrimitives refusedClient)]
    have hlater := List.rel_of_pairwise_cons hpair List.mem_cons_self ⟨_, rfl⟩
    exact hlater ((receive_verified_iff _ _ _).mpr rfl)

end Scram
end CouchbaseSdk
