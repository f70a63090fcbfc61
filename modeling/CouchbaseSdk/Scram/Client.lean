import CouchbaseSdk.Foundation.Base64
import CouchbaseSdk.Foundation.Decimal
import CouchbaseSdk.Foundation.Exec
import Mathlib.Data.List.Basic
import Mathlib.Data.UInt

/-!
# The SCRAM client

Three steps: the first message, the proof for what the server has answered, and the check of
the server's signature.  The keyed hash and the hash are parameters.
-/

namespace CouchbaseSdk
namespace Scram

open Foundation

/-- A keyed hash whose results have one length, and a hash. -/
structure Primitives where
  hmac : Buffer -> Buffer -> Buffer
  digest : Buffer -> Buffer
  outputSize : Nat
  length_hmac : forall key message, (hmac key message).length = outputSize

/-!
# Text
-/

def asBytes (s : String) : Buffer :=
  s.toUTF8.data.toList

def fromUtf8 (bytes : Buffer) : Option String :=
  String.fromUTF8? ⟨bytes.toArray⟩

def comma : UInt8 := 0x2C

def u32Digits : List Char -> Nat -> Option Nat
  | [], result => some result
  | c :: rest, result =>
      if c.isDigit then
        let next := result * 10 + (c.toNat - '0'.toNat)
        if next < UInt32.size then u32Digits rest next else none
      else none

/-- `str::parse` for `u32`. -/
def parseU32 (text : String) : Option Nat :=
  match text.toList with
  | [] => none
  | ['+'] => none
  | '+' :: digits => u32Digits digits 0
  | digits => u32Digits digits 0

/-- A byte string as `{:?}` shows it. -/
def debugBytes (bytes : Buffer) : String :=
  "[" ++ ", ".intercalate (bytes.map fun b => b.toNat.repr) ++ "]"

/-!
# Errors
-/

inductive ErrorSource where
  | nonce | base64 | utf8 | parseInt
deriving DecidableEq

structure ScramError where
  message : String
  source : Option ErrorSource
deriving DecidableEq

def ScramError.new (message : String) : ScramError :=
  { message := message, source := none }

def ScramError.withSource (message : String) (source : ErrorSource) : ScramError :=
  { message := message, source := some source }

/-!
# The client
-/

structure Client where
  user : String
  pass : String
  clientNonce : Buffer
  serverNonce : Buffer
  saltedPass : Buffer
  authMsg : Buffer
deriving DecidableEq

def Client.new (user pass : String) (clientNonce : Option Buffer) : Client :=
  { user := user
    pass := pass
    clientNonce := clientNonce.getD []
    serverNonce := []
    saltedPass := []
    authMsg := [] }

/-- What a step returns, and the client after it. -/
abbrev Step (value : Type) := Exec ScramError value × Client

/-- A nonce is generated where there is none yet. -/
def Client.ensureNonce (client : Client) (generated : Except ScramError Buffer) :
    Except ScramError Client :=
  if client.clientNonce = [] then
    generated.map fun nonce => { client with clientNonce := nonce }
  else .ok client

def step1 (generated : Except ScramError Buffer) (client : Client) : Step Buffer :=
  match client.ensureNonce generated with
  | .error e => (.err e, client)
  | .ok client =>
      let authMsg := client.authMsg ++ asBytes "n=" ++ asBytes client.user ++ asBytes ",r=" ++
        client.clientNonce
      (.ok (asBytes "n,," ++ authMsg), { client with authMsg := authMsg })

/-- Byte by byte, up to the end of the shorter one. -/
def xorBytes (a b : Buffer) : Buffer :=
  List.zipWith (· ^^^ ·) a b

def saltLoop (prims : Primitives) (pass : Buffer) : Nat -> Buffer -> Buffer -> Buffer
  | 0, _, hi => hi
  | rounds + 1, ui, hi =>
      let ui := prims.hmac pass ui
      saltLoop prims pass rounds ui (xorBytes hi ui)

def saltPassword (prims : Primitives) (pass salt : Buffer) (iterCount : Nat) : Buffer :=
  let ui := prims.hmac pass (salt ++ [0, 0, 0, 1])
  saltLoop prims pass (iterCount - 1) ui ui

def clientProof (prims : Primitives) (client : Client) : Buffer :=
  let clientKey := prims.hmac client.saltedPass (asBytes "Client Key")
  let storedKey := prims.digest clientKey
  let clientSignature := prims.hmac storedKey client.authMsg
  Base64.encode (xorBytes clientKey clientSignature)

def serverSignature (prims : Primitives) (client : Client) : Buffer :=
  let serverKey := prims.hmac client.saltedPass (asBytes "Server Key")
  Base64.encode (prims.hmac serverKey client.authMsg)

def parseIterCount (field : Buffer) : Except ScramError Nat :=
  match fromUtf8 field with
  | none =>
      .error (.withSource "Server sent an invalid SCRAM iteration count" .utf8)
  | some text =>
      match parseU32 text with
      | none =>
          .error (.withSource "Server sent an invalid SCRAM iteration count\x7d" .parseInt)
      | some count => .ok count

/-- The three fields of the server's first message. -/
def splitFirst (input : Buffer) : Except ScramError (Buffer × Buffer × Buffer) :=
  match input.splitOn comma with
  | [nonce, salt, count] =>
      if ¬ (asBytes "r=").isPrefixOf nonce then
        .error (.new ("Server sent an invalid SCRAM nonce: " ++ debugBytes nonce))
      else if ¬ (asBytes "s=").isPrefixOf salt then
        .error (.new ("Server sent an invalid SCRAM salt: " ++ debugBytes salt))
      else if ¬ (asBytes "i=").isPrefixOf count then
        .error (.new ("Server sent an invalid SCRAM iteration count: " ++ debugBytes count))
      else .ok (nonce.drop 2, salt.drop 2, count.drop 2)
  | fields =>
      .error (.new ("Expected 3 fields in first SCRAM server message, got " ++
        fields.length.repr ++ ": " ++ debugBytes input))

def step2 (prims : Primitives) (input : Buffer) (client : Client) : Step Buffer :=
  let client := { client with authMsg := client.authMsg ++ comma :: input }
  match splitFirst input with
  | .error e => (.err e, client)
  | .ok (serverNonce, salt, count) =>
      let client := { client with serverNonce := serverNonce }
      if ¬ client.clientNonce.isPrefixOf serverNonce then
        (.err (.new ("Server SCRAM nonce is not prefixed by client nonce: got " ++
          debugBytes serverNonce ++ ", want " ++ debugBytes client.clientNonce ++
            "+\"...\"")), client)
      else
        match Base64.decode salt with
        | none =>
            (.err (.withSource "cannot decode SCRAM salt sent by server" .base64), client)
        | some salt =>
            match parseIterCount count with
            | .error e => (.err e, client)
            | .ok iterCount =>
                let client := { client with
                  saltedPass := saltPassword prims (asBytes client.pass) salt iterCount
                  authMsg := client.authMsg ++ asBytes ",c=biws,r=" ++ serverNonce }
                (.ok (asBytes "c=biws,r=" ++ serverNonce ++ asBytes ",p=" ++
                  clientProof prims client), client)

/-- The text of an error of the server has to be valid. -/
def step3 (prims : Primitives) (input : Buffer) (client : Client) : Exec ScramError Unit :=
  match input.splitOn comma with
  | [field] =>
      if (asBytes "e=").isPrefixOf field then
        match fromUtf8 (field.drop 2) with
        | some text => .err (.new ("SCRAM authentication error: " ++ text))
        | none => .panic
      else if ¬ (asBytes "v=").isPrefixOf field then
        .err (.new ("Unsupported SCRAM final message from server: " ++ debugBytes input))
      else if serverSignature prims client ≠ field.drop 2 then
        .err (.new ("cannot authenticate SCRAM server signature: " ++ debugBytes (field.drop 2)))
      else .ok ()
  | _ => .err (.new ("Unsupported SCRAM final message from server: " ++ debugBytes input))

/-!
# Decimal numbers and fields

What the messages are put together from, and how the other side takes them apart.
-/

/-!
# Bytes of texts
-/

theorem fromUtf8_asBytes (s : String) : fromUtf8 (asBytes s) = some s :=
  dif_pos s.isValidUTF8

theorem asBytes_eq (s : String) : asBytes s = s.toList.flatMap String.utf8EncodeChar := by
  unfold asBytes
  rw [String.toUTF8_eq_toByteArray, ← String.utf8Encode_toList, List.utf8Encode,
    List.toList_data_toByteArray]

theorem comma_not_mem_digit {c : Char} (h : c.isDigit = true) :
    comma ∉ String.utf8EncodeChar c := by
  have hall : forall k : Fin 10, comma ∉ String.utf8EncodeChar (Char.ofNat (48 + k)) := by
    decide +kernel
  have hrange : 48 ≤ c.toNat ∧ c.toNat ≤ 57 := Char.isDigit_iff_toNat.mp h
  have hchar : Char.ofNat (48 + (c.toNat - 48)) = c := by
    rw [Nat.add_sub_cancel' hrange.1, Char.ofNat_toNat]
  rw [← hchar]
  exact hall ⟨c.toNat - 48, by omega⟩

theorem comma_not_mem_repr (n : Nat) : comma ∉ asBytes n.repr := by
  rw [asBytes_eq, Nat.toList_repr]
  intro hmem
  rcases List.mem_flatMap.mp hmem with ⟨c, hc, hbyte⟩
  exact comma_not_mem_digit (Nat.isDigit_of_mem_toDigits (by decide) (by decide) hc) hbyte

/-!
# Decimal numbers
-/

theorem u32Digits_eq : u32Digits = unsignedDigits UInt32.size := by
  funext l result
  induction l generalizing result with
  | nil => rfl
  | cons c rest ih =>
      unfold u32Digits unsignedDigits
      simp only [ih]

theorem parseU32_eq (text : String) : parseU32 text = parseUnsigned UInt32.size text := by
  unfold parseU32
  rw [u32Digits_eq]
  rfl

theorem parseU32_repr {n : Nat} (h : n < UInt32.size) : parseU32 n.repr = some n := by
  rw [parseU32_eq]
  exact parseUnsigned_repr h

end Scram
end CouchbaseSdk
