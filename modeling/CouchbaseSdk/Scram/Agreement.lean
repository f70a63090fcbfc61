import CouchbaseSdk.Scram.Client

/-!
# Agreement with a server

The server is the one of RFC 5802: it knows of a password only the stored key and the server
key, reads the client's messages as attributes between commas, and checks the proof by taking
the client key back out of it.
-/

namespace CouchbaseSdk
namespace Scram

open Foundation

/-!
# The salted password
-/

/-- `U1`, `U2` and so on. -/
def roundHash (prims : Primitives) (pass salt : Buffer) : Nat -> Buffer
  | 0 => prims.hmac pass (salt ++ [0, 0, 0, 1])
  | round + 1 => prims.hmac pass (roundHash prims pass salt round)

/-- `Hi` with one more iteration than given. -/
def hi (prims : Primitives) (pass salt : Buffer) : Nat -> Buffer
  | 0 => roundHash prims pass salt 0
  | round + 1 => xorBytes (hi prims pass salt round) (roundHash prims pass salt (round + 1))

theorem saltLoop_hi (prims : Primitives) (pass salt : Buffer) (rounds round : Nat) :
    saltLoop prims pass rounds (roundHash prims pass salt round) (hi prims pass salt round) =
      hi prims pass salt (round + rounds) := by
  induction rounds generalizing round with
  | zero => rfl
  | succ rounds ih =>
      have hround := ih (round + 1)
      rw [Nat.add_assoc, Nat.add_comm 1 rounds] at hround
      exact hround

theorem saltPassword_eq_hi (prims : Primitives) (pass salt : Buffer) (iterCount : Nat) :
    saltPassword prims pass salt iterCount = hi prims pass salt (iterCount - 1) := by
  have hloop := saltLoop_hi prims pass salt (iterCount - 1) 0
  rw [Nat.zero_add] at hloop
  exact hloop

/-!
# The server
-/

/-- What is stored for a user. -/
structure Credentials where
  salt : Buffer
  iterations : Nat
  storedKey : Buffer
  serverKey : Buffer

def Credentials.ofPassword (prims : Primitives) (pass salt : Buffer) (iterations : Nat) :
    Credentials :=
  let saltedPassword := hi prims pass salt (iterations - 1)
  { salt := salt
    iterations := iterations
    storedKey := prims.digest (prims.hmac saltedPassword (asBytes "Client Key"))
    serverKey := prims.hmac saltedPassword (asBytes "Server Key") }

/-- The server's part of the nonce is chosen anew for each exchange. -/
structure Server where
  user : Buffer
  credentials : Credentials
  nonce : Buffer

/-- What the server remembers of an exchange. -/
structure Session where
  clientFirstBare : Buffer
  serverFirst : Buffer
  nonce : Buffer

/-- A comma of a name is sent as `=2C` and an equals sign as `=3D`. -/
def unescape : Buffer -> Option Buffer
  | [] => some []
  | 0x3D :: 0x32 :: 0x43 :: rest => (unescape rest).map (comma :: ·)
  | 0x3D :: 0x33 :: 0x44 :: rest => (unescape rest).map (0x3D :: ·)
  | b :: rest => if b = 0x3D then none else (unescape rest).map (b :: ·)

/-- The value of an attribute, such as `r=`. -/
def attrValue (name : String) (field : Buffer) : Option Buffer :=
  if (asBytes name).isPrefixOf field then some (field.drop (asBytes name).length) else none

def Server.first (server : Server) (message : Buffer) : Option Session :=
  match message.splitOn comma with
  | [flag, authzid, name, nonce] =>
      match (attrValue "n=" name).bind unescape, attrValue "r=" nonce with
      | some user, some clientNonce =>
          if flag = asBytes "n" ∧ authzid = [] ∧ user = server.user ∧ clientNonce ≠ [] then
            let nonce := clientNonce ++ server.nonce
            some {
              clientFirstBare := message.drop 3
              serverFirst := asBytes "r=" ++ nonce ++ asBytes ",s=" ++
                Base64.encode server.credentials.salt ++ asBytes ",i=" ++
                  asBytes server.credentials.iterations.repr
              nonce := nonce }
          else none
      | _, _ => none
  | _ => none

def Session.authMessage (session : Session) (channelBinding nonce : Buffer) : Buffer :=
  session.clientFirstBare ++ comma :: session.serverFirst ++ comma :: channelBinding ++
    comma :: nonce

/-- The message that ends the exchange, if the proof is right. -/
def Server.final (prims : Primitives) (server : Server) (session : Session)
    (message : Buffer) : Option Buffer :=
  match message.splitOn comma with
  | [channelBinding, nonce, proof] =>
      if channelBinding = asBytes "c=" ++ Base64.encode (asBytes "n,,") ∧
          nonce = asBytes "r=" ++ session.nonce then
        match (attrValue "p=" proof).bind Base64.decode with
        | some proof =>
            let authMessage := session.authMessage channelBinding nonce
            let clientSignature := prims.hmac server.credentials.storedKey authMessage
            if proof.length = clientSignature.length ∧
                prims.digest (xorBytes proof clientSignature) = server.credentials.storedKey then
              some (asBytes "v=" ++
                Base64.encode (prims.hmac server.credentials.serverKey authMessage))
            else none
        | none => none
      else none
  | _ => none

/-!
# Attributes
-/

theorem splitOn_comma {front : Buffer} (h : comma ∉ front) (rest : Buffer) :
    (front ++ comma :: rest).splitOn comma = front :: rest.splitOn comma :=
  List.splitOn_append_cons_self_of_not_mem h rest

theorem splitOn_last {front : Buffer} (h : comma ∉ front) :
    front.splitOn comma = [front] :=
  List.splitOn_eq_singleton h

theorem attrValue_append (name : String) (field : Buffer) :
    attrValue name (asBytes name ++ field) = some field := by
  unfold attrValue
  rw [if_pos (List.isPrefixOf_iff_prefix.mpr (List.prefix_append _ _)), List.drop_left]

theorem comma_not_mem_field {name : String} {field : Buffer} (hname : comma ∉ asBytes name)
    (h : comma ∉ field) : comma ∉ asBytes name ++ field := by
  intro hmem
  rcases List.mem_append.mp hmem with hleft | hright
  · exact hname hleft
  · exact h hright

theorem unescape_plain {name : Buffer} (h : 0x3D ∉ name) : unescape name = some name := by
  induction name with
  | nil => rfl
  | cons b rest ih =>
      have hb : b ≠ 0x3D := fun heq => h (heq ▸ List.mem_cons_self)
      have hrest := ih (fun hmem => h (List.mem_cons_of_mem b hmem))
      unfold unescape
      split
      · rename_i heq
        cases heq
      · rename_i heq
        cases heq
        exact absurd rfl hb
      · rename_i heq
        cases heq
        exact absurd rfl hb
      · rename_i heq
        cases heq
        rw [if_neg hb, hrest]
        rfl

theorem xorBytes_cancel {a b : Buffer} (h : a.length = b.length) :
    xorBytes (xorBytes a b) b = a := by
  induction a generalizing b with
  | nil => rfl
  | cons x a ih =>
      cases b with
      | nil => cases h
      | cons y b =>
          have htail := ih (Nat.succ.inj h)
          have hbyte : (x ^^^ y) ^^^ y = x := by
            rw [UInt8.xor_assoc, UInt8.xor_self, UInt8.xor_zero]
          exact congrArg₂ List.cons hbyte htail

theorem length_xorBytes {a b : Buffer} (h : a.length = b.length) :
    (xorBytes a b).length = b.length := by
  unfold xorBytes
  rw [List.length_zipWith, h, Nat.min_self]

/-!
# The last step
-/

theorem comma_not_mem_serverSignature (prims : Primitives) (client : Client) :
    comma ∉ serverSignature prims client :=
  Base64.comma_not_mem_encode _

/-- A message that starts as a signature does is accepted or refused. -/
theorem step3_signature (prims : Primitives) (text : Buffer) (client : Client) :
    (text = serverSignature prims client ∧
      step3 prims (asBytes "v=" ++ text) client = .ok ()) ∨
    (text ≠ serverSignature prims client ∧
      exists e, step3 prims (asBytes "v=" ++ text) client = .err e) := by
  have hv : asBytes "v=" = [0x76, 0x3D] := by decide
  have herror : (asBytes "e=").isPrefixOf (asBytes "v=" ++ text) = false := by
    have he : asBytes "e=" = [0x65, 0x3D] := by decide
    rw [he, hv]
    rfl
  have hstarts : (asBytes "v=").isPrefixOf (asBytes "v=" ++ text) = true :=
    List.isPrefixOf_iff_prefix.mpr (List.prefix_append _ _)
  have hdrop : (asBytes "v=" ++ text).drop 2 = text := by
    rw [hv]
    rfl
  by_cases hcomma : comma ∈ text
  · have hne : text ≠ serverSignature prims client := by
      rintro rfl
      exact comma_not_mem_serverSignature prims client hcomma
    refine Or.inr ⟨hne, ?_⟩
    unfold step3
    split
    · rename_i field hfield
      have hinput : [comma].intercalate ((asBytes "v=" ++ text).splitOn comma) =
          asBytes "v=" ++ text := List.intercalate_splitOn comma
      rw [hfield, List.intercalate_singleton] at hinput
      rw [hinput, herror, hstarts, hdrop, if_neg Bool.false_ne_true, if_neg (by simp),
        if_pos hne.symm]
      exact ⟨_, rfl⟩
    · exact ⟨_, rfl⟩
  · have hsplit : (asBytes "v=" ++ text).splitOn comma = [asBytes "v=" ++ text] :=
      splitOn_last (comma_not_mem_field (by decide) hcomma)
    unfold step3
    rw [hsplit]
    dsimp only
    rw [herror, hstarts, hdrop, if_neg Bool.false_ne_true, if_neg (by simp)]
    by_cases heq : text = serverSignature prims client
    · exact Or.inl ⟨heq, if_neg (not_not_intro heq.symm)⟩
    · rw [if_pos (Ne.symm heq)]
      exact Or.inr ⟨heq, _, rfl⟩

/-- Nothing else is accepted. -/
theorem step3_ok_inv {prims : Primitives} {input : Buffer} {client : Client}
    (h : step3 prims input client = .ok ()) :
    input = asBytes "v=" ++ serverSignature prims client := by
  have hshape : exists text, input = asBytes "v=" ++ text := by
    unfold step3 at h
    split at h
    · rename_i field hfield
      have hinput : [comma].intercalate (input.splitOn comma) = input :=
        List.intercalate_splitOn comma
      rw [hfield, List.intercalate_singleton] at hinput
      split at h
      · split at h
        · cases h
        · cases h
      · split at h
        · cases h
        · rename_i hstarts
          rcases List.isPrefixOf_iff_prefix.mp (Decidable.not_not.mp hstarts) with ⟨rest, hrest⟩
          exact ⟨rest, hinput.symm.trans hrest.symm⟩
    · cases h
  rcases hshape with ⟨text, rfl⟩
  rcases step3_signature prims text client with ⟨rfl, -⟩ | ⟨-, e, herr⟩
  · rfl
  · rw [herr] at h
    cases h

/-!
# The second step
-/

theorem splitFirst_fields {nonce salt count : Buffer} (hnonce : comma ∉ nonce)
    (hsalt : comma ∉ salt) (hcount : comma ∉ count) :
    splitFirst (asBytes "r=" ++ nonce ++ asBytes ",s=" ++ salt ++ asBytes ",i=" ++ count) =
      .ok (nonce, salt, count) := by
  have hs : asBytes ",s=" = comma :: asBytes "s=" := by decide
  have hi : asBytes ",i=" = comma :: asBytes "i=" := by decide
  have hfields : (asBytes "r=" ++ nonce ++ asBytes ",s=" ++ salt ++ asBytes ",i=" ++
      count).splitOn comma = [asBytes "r=" ++ nonce, asBytes "s=" ++ salt,
        asBytes "i=" ++ count] := by
    have hshape : asBytes "r=" ++ nonce ++ asBytes ",s=" ++ salt ++ asBytes ",i=" ++ count =
        (asBytes "r=" ++ nonce) ++ comma :: ((asBytes "s=" ++ salt) ++ comma ::
          (asBytes "i=" ++ count)) := by
      rw [hs, hi]
      simp
    rw [hshape, splitOn_comma (comma_not_mem_field (by decide) hnonce),
      splitOn_comma (comma_not_mem_field (by decide) hsalt),
      splitOn_last (comma_not_mem_field (by decide) hcount)]
  have hstarts : forall name field : Buffer, name.isPrefixOf (name ++ field) = true :=
    fun name field => List.isPrefixOf_iff_prefix.mpr (List.prefix_append _ _)
  unfold splitFirst
  rw [hfields]
  dsimp only
  rw [hstarts, hstarts, hstarts, if_neg (by simp), if_neg (by simp), if_neg (by simp)]
  rfl

theorem parseIterCount_repr {n : Nat} (h : n < UInt32.size) :
    parseIterCount (asBytes n.repr) = .ok n := by
  unfold parseIterCount
  rw [fromUtf8_asBytes]
  dsimp only
  rw [parseU32_repr h]

theorem splitFirst_nonce {nonce rest serverNonce salt count : Buffer} (hnonce : comma ∉ nonce)
    (h : splitFirst (asBytes "r=" ++ nonce ++ comma :: rest) = .ok (serverNonce, salt, count)) :
    serverNonce = nonce := by
  unfold splitFirst at h
  rw [splitOn_comma (comma_not_mem_field (by decide) hnonce)] at h
  split at h
  · rename_i field salt' count' hfields
    have hfield : field = asBytes "r=" ++ nonce := (List.cons.inj hfields).1.symm
    have hr : asBytes "r=" = [0x72, 0x3D] := by decide
    split at h
    · cases h
    · split at h
      · cases h
      · split at h
        · cases h
        · cases h
          rw [hfield, hr]
          rfl
  · cases h

/-- A nonce that does not start with the client's is refused. -/
theorem step2_other_nonce (prims : Primitives) {nonce : Buffer} (rest : Buffer)
    {client : Client} (hcomma : comma ∉ nonce)
    (h : ¬ client.clientNonce.isPrefixOf nonce = true) :
    exists e, (step2 prims (asBytes "r=" ++ nonce ++ comma :: rest) client).1 = .err e := by
  unfold step2
  dsimp only
  split
  · exact ⟨_, rfl⟩
  · rename_i serverNonce salt count hsplit
    rw [splitFirst_nonce hcomma hsplit, if_pos h]
    exact ⟨_, rfl⟩

/-!
# The exchange
-/

section Exchange

variable (prims : Primitives) (user pass : String) (nonce salt suffix : Buffer)
  (iterations : Nat)

def serverOf : Server :=
  { user := asBytes user
    credentials := Credentials.ofPassword prims (asBytes pass) salt iterations
    nonce := suffix }

def firstBare : Buffer :=
  asBytes "n=" ++ asBytes user ++ asBytes ",r=" ++ nonce

def sessionOf : Session :=
  { clientFirstBare := firstBare user nonce
    serverFirst := asBytes "r=" ++ (nonce ++ suffix) ++ asBytes ",s=" ++ Base64.encode salt ++
      asBytes ",i=" ++ asBytes iterations.repr
    nonce := nonce ++ suffix }

/-- The client after its first step. -/
def greeted : Client :=
  { Client.new user pass (some nonce) with authMsg := firstBare user nonce }

/-- The client after its second step. -/
def proved : Client :=
  { greeted user pass nonce with
    serverNonce := nonce ++ suffix
    saltedPass := hi prims (asBytes pass) salt (iterations - 1)
    authMsg := (sessionOf user nonce salt suffix iterations).authMessage (asBytes "c=biws")
      (asBytes "r=" ++ (nonce ++ suffix)) }

theorem step1_eq (generated : Except ScramError Buffer) (hnonce : nonce ≠ []) :
    step1 generated (Client.new user pass (some nonce)) =
      (.ok (asBytes "n,," ++ firstBare user nonce), greeted user pass nonce) := by
  have hensure : (Client.new user pass (some nonce)).ensureNonce generated =
      .ok (Client.new user pass (some nonce)) := if_neg hnonce
  unfold step1
  rw [hensure]
  rfl

theorem first_eq (huser : comma ∉ asBytes user) (hequals : 0x3D ∉ asBytes user)
    (hne : nonce ≠ []) (hnonce : comma ∉ nonce) :
    (serverOf prims user pass salt suffix iterations).first
        (asBytes "n,," ++ firstBare user nonce) =
      some (sessionOf user nonce salt suffix iterations) := by
  have hgs2 : asBytes "n,," = [0x6E, comma, comma] := by decide
  have hr : asBytes ",r=" = comma :: asBytes "r=" := by decide
  have hshape : asBytes "n,," ++ firstBare user nonce =
      [0x6E] ++ comma :: ([] ++ comma :: ((asBytes "n=" ++ asBytes user) ++ comma ::
        (asBytes "r=" ++ nonce))) := by
    unfold firstBare
    rw [hgs2, hr]
    simp
  have hfields : (asBytes "n,," ++ firstBare user nonce).splitOn comma =
      [[0x6E], [], asBytes "n=" ++ asBytes user, asBytes "r=" ++ nonce] := by
    rw [hshape, splitOn_comma (by decide), splitOn_comma (by decide),
      splitOn_comma (comma_not_mem_field (by decide) huser),
      splitOn_last (comma_not_mem_field (by decide) hnonce)]
  have hbare : (asBytes "n,," ++ firstBare user nonce).drop 3 = firstBare user nonce := by
    rw [hgs2]
    rfl
  unfold Server.first
  rw [hfields]
  dsimp only
  rw [attrValue_append, attrValue_append, Option.bind_some, unescape_plain hequals]
  dsimp only
  rw [if_pos ⟨by decide, rfl, rfl, hne⟩, hbare]
  rfl

theorem step2_eq (hnonce : comma ∉ nonce) (hsuffix : comma ∉ suffix)
    (hmax : iterations < UInt32.size) :
    step2 prims (sessionOf user nonce salt suffix iterations).serverFirst
        (greeted user pass nonce) =
      (.ok (asBytes "c=biws,r=" ++ (nonce ++ suffix) ++ asBytes ",p=" ++
        clientProof prims (proved prims user pass nonce salt suffix iterations)),
        proved prims user pass nonce salt suffix iterations) := by
  have hboth : comma ∉ nonce ++ suffix := by
    intro hmem
    rcases List.mem_append.mp hmem with hleft | hright
    · exact hnonce hleft
    · exact hsuffix hright
  have hsplit : splitFirst (sessionOf user nonce salt suffix iterations).serverFirst =
      .ok (nonce ++ suffix, Base64.encode salt, asBytes iterations.repr) :=
    splitFirst_fields hboth (Base64.comma_not_mem_encode salt) (comma_not_mem_repr iterations)
  have hstarts : (greeted user pass nonce).clientNonce.isPrefixOf (nonce ++ suffix) = true :=
    List.isPrefixOf_iff_prefix.mpr (List.prefix_append _ _)
  have hbinding : asBytes ",c=biws,r=" = comma :: asBytes "c=biws" ++ comma :: asBytes "r=" := by
    decide
  have hclient : { greeted user pass nonce with
      serverNonce := nonce ++ suffix
      saltedPass := saltPassword prims (asBytes pass) salt iterations
      authMsg := (greeted user pass nonce).authMsg ++
        comma :: (sessionOf user nonce salt suffix iterations).serverFirst ++
          asBytes ",c=biws,r=" ++ (nonce ++ suffix) } =
      proved prims user pass nonce salt suffix iterations := by
    unfold proved Session.authMessage
    rw [saltPassword_eq_hi, hbinding]
    simp [greeted, sessionOf]
  unfold step2
  rw [hsplit]
  dsimp only
  rw [if_neg (not_not_intro hstarts), Base64.decode_encode]
  dsimp only
  rw [parseIterCount_repr hmax, ← hclient]
  rfl

theorem final_eq (hnonce : comma ∉ nonce) (hsuffix : comma ∉ suffix) :
    (serverOf prims user pass salt suffix iterations).final prims
        (sessionOf user nonce salt suffix iterations)
        (asBytes "c=biws,r=" ++ (nonce ++ suffix) ++ asBytes ",p=" ++
          clientProof prims (proved prims user pass nonce salt suffix iterations)) =
      some (asBytes "v=" ++
        serverSignature prims (proved prims user pass nonce salt suffix iterations)) := by
  have hboth : comma ∉ nonce ++ suffix := by
    intro hmem
    rcases List.mem_append.mp hmem with hleft | hright
    · exact hnonce hleft
    · exact hsuffix hright
  have hfields : (asBytes "c=biws,r=" ++ (nonce ++ suffix) ++ asBytes ",p=" ++
      clientProof prims (proved prims user pass nonce salt suffix iterations)).splitOn comma =
      [asBytes "c=biws", asBytes "r=" ++ (nonce ++ suffix), asBytes "p=" ++
        clientProof prims (proved prims user pass nonce salt suffix iterations)] := by
    have hbinding : asBytes "c=biws,r=" = asBytes "c=biws" ++ comma :: asBytes "r=" := by decide
    have hp : asBytes ",p=" = comma :: asBytes "p=" := by decide
    have hproof : comma ∉ clientProof prims
        (proved prims user pass nonce salt suffix iterations) := Base64.comma_not_mem_encode _
    have hshape : asBytes "c=biws,r=" ++ (nonce ++ suffix) ++ asBytes ",p=" ++
        clientProof prims (proved prims user pass nonce salt suffix iterations) =
        asBytes "c=biws" ++ comma :: ((asBytes "r=" ++ (nonce ++ suffix)) ++ comma ::
          (asBytes "p=" ++
            clientProof prims (proved prims user pass nonce salt suffix iterations))) := by
      rw [hbinding, hp]
      simp
    rw [hshape, splitOn_comma (by decide), splitOn_comma (comma_not_mem_field (by decide) hboth),
      splitOn_last (comma_not_mem_field (by decide) hproof)]
  have hgs2 : asBytes "c=biws" = asBytes "c=" ++ Base64.encode (asBytes "n,,") := by decide
  unfold Server.final
  rw [hfields]
  dsimp only
  rw [if_pos ⟨hgs2, rfl⟩, attrValue_append, Option.bind_some]
  unfold clientProof
  rw [Base64.decode_encode]
  dsimp only
  have hlength : forall key message key' message',
      (prims.hmac key message).length = (prims.hmac key' message').length := by
    intro key message key' message'
    rw [prims.length_hmac, prims.length_hmac]
  rw [if_pos ⟨length_xorBytes (hlength _ _ _ _),
    congrArg prims.digest (xorBytes_cancel (hlength _ _ _ _))⟩]
  rfl

end Exchange

/-- The server accepts the client's messages, the client accepts the server's signature and
no other message, and refuses a nonce that is not an extension of its own. -/
theorem client_and_server_agree (prims : Primitives) (user pass : String)
    (nonce salt suffix : Buffer) (iterations : Nat) (generated : Except ScramError Buffer)
    (huser : comma ∉ asBytes user) (hequals : 0x3D ∉ asBytes user) (hne : nonce ≠ [])
    (hnonce : comma ∉ nonce) (hsuffix : comma ∉ suffix) (hmax : iterations < UInt32.size) :
    exists clientFirst client session clientFinal client' serverFinal,
      step1 generated (Client.new user pass (some nonce)) = (.ok clientFirst, client) ∧
      (serverOf prims user pass salt suffix iterations).first clientFirst = some session ∧
      step2 prims session.serverFirst client = (.ok clientFinal, client') ∧
      (serverOf prims user pass salt suffix iterations).final prims session clientFinal =
        some serverFinal ∧
      step3 prims serverFinal client' = .ok () ∧
      (forall message, step3 prims message client' = .ok () -> message = serverFinal) ∧
      (forall signature, asBytes "v=" ++ signature ≠ serverFinal ->
        exists e, step3 prims (asBytes "v=" ++ signature) client' = .err e) ∧
      (forall other rest, comma ∉ other -> ¬ nonce.isPrefixOf other = true ->
        exists e, (step2 prims (asBytes "r=" ++ other ++ comma :: rest) client).1 = .err e) := by
  refine ⟨_, _, _, _, _, _, step1_eq user pass nonce generated hne,
    first_eq prims user pass nonce salt suffix iterations huser hequals hne hnonce,
    step2_eq prims user pass nonce salt suffix iterations hnonce hsuffix hmax,
    final_eq prims user pass nonce salt suffix iterations hnonce hsuffix, ?_, ?_, ?_, ?_⟩
  · rcases step3_signature prims
      (serverSignature prims (proved prims user pass nonce salt suffix iterations))
      (proved prims user pass nonce salt suffix iterations) with ⟨-, hok⟩ | ⟨hne, -⟩
    · exact hok
    · exact absurd rfl hne
  · intro message
    exact step3_ok_inv
  · intro signature hother
    rcases step3_signature prims signature
      (proved prims user pass nonce salt suffix iterations) with ⟨heq, -⟩ | ⟨-, herr⟩
    · exact absurd (congrArg (asBytes "v=" ++ ·) heq) hother
    · exact herr
  · intro other rest hcomma hstarts
    exact step2_other_nonce prims rest hcomma hstarts

/-- A keyed hash of two bytes, for an example of an exchange. -/
def smallPrimitives : Primitives :=
  { hmac := fun key message => beBytes 2 (beNat (key ++ message) % 65521)
    digest := fun message => beBytes 2 (beNat message % 65519)
    outputSize := 2
    length_hmac := fun _ _ => length_beBytes 2 _ }

theorem client_and_server_agree_alice :
    exists clientFirst client session clientFinal client' serverFinal,
      step1 (.ok []) (Client.new "alice" "secret" (some [0x61, 0x62])) =
        (.ok clientFirst, client) ∧
      (serverOf smallPrimitives "alice" "secret" [1, 2, 3, 4] [0x63] 4096).first clientFirst =
        some session ∧
      step2 smallPrimitives session.serverFirst client = (.ok clientFinal, client') ∧
      (serverOf smallPrimitives "alice" "secret" [1, 2, 3, 4] [0x63] 4096).final
        smallPrimitives session clientFinal = some serverFinal ∧
      step3 smallPrimitives serverFinal client' = .ok () := by
  rcases client_and_server_agree smallPrimitives "alice" "secret" [0x61, 0x62] [1, 2, 3, 4]
    [0x63] 4096 (.ok []) (by decide) (by decide) (by decide) (by decide) (by decide)
    (by decide) with
    ⟨clientFirst, client, session, clientFinal, client', serverFinal, h1, h2, h3, h4, h5, -⟩
  exact ⟨clientFirst, client, session, clientFinal, client', serverFinal, h1, h2, h3, h4, h5⟩

end Scram
end CouchbaseSdk
