import Mathlib.Algebra.GroupWithZero.Nat
import Mathlib.Data.List.Basic

/-!
# Addresses, targets and credentials
-/

namespace CouchbaseSdk
namespace Config

structure Address where
  host : String
  port : UInt16
deriving DecidableEq, Repr

/-- A TLS configuration, by its identity. -/
abbrev TlsConfig := Nat

structure KvTarget where
  address : Address
  tlsConfig : Option TlsConfig
deriving DecidableEq, Repr

inductive Authenticator where
  | passwordAuthenticator (username password : String)
  | certificateAuthenticator
  | jwtAuthenticator (token : String)
deriving DecidableEq, Repr

/-!
# Hostnames

How a hostname is cut out of an address, put in brackets by the config parser, and
substituted for `$HOST` in the text of a config.  Texts are lists of characters; positions
in the source are offsets of bytes at the borders of characters.
-/

/-!
# Addresses
-/

inductive AddrError where
  | missingPort
  | missingBracket
  | tooManyColons
  | unexpectedBracket
deriving DecidableEq, Repr

/-- `find`, for a character. -/
def findChar (c : Char) (text : List Char) : Option Nat :=
  if c ∈ text then some (text.idxOf c) else none

/-- `rfind`, for a character. -/
def rfindChar (c : Char) (text : List Char) : Option Nat :=
  if c ∈ text then some (text.length - 1 - text.reverse.idxOf c) else none

/-- The offset of a position, in bytes. -/
def byteOffset (text : List Char) (position : Nat) : Nat :=
  ((text.take position).map Char.utf8Size).sum

/-- The character after the bracket is looked for by the offset of the bracket in bytes. -/
def splitBracketed (hostport stripped : List Char) (i : Nat) :
    Except AddrError (List Char × List Char) :=
  match findChar ']' hostport with
  | none => .error .missingBracket
  | some e =>
      if e + 1 = hostport.length then .error .missingPort
      else if e + 1 ≠ i then
        if hostport[byteOffset hostport e + 1]? = some ':' then .error .tooManyColons
        else .error .missingPort
      else if '[' ∈ stripped ∨ ']' ∈ hostport.drop (e + 1) then .error .unexpectedBracket
      else .ok ((hostport.take e).drop 1, hostport.drop (i + 1))

def splitHostPort (hostport : List Char) : Except AddrError (List Char × List Char) :=
  match rfindChar ':' hostport with
  | none => .error .missingPort
  | some i =>
      match hostport with
      | '[' :: stripped => splitBracketed hostport stripped i
      | _ =>
          if ':' ∈ hostport.take i then .error .tooManyColons
          else .ok (hostport.take i, hostport.drop (i + 1))

def hostnameFromAddrStr (addr : String) : String :=
  match splitHostPort addr.toList with
  | .ok (host, _) => String.ofList host
  | .error _ => addr

/-- A host with colons is put in brackets. -/
def getHostnameFromHostPort (hostPort : String) : Except AddrError String :=
  (splitHostPort hostPort.toList).map fun hp =>
    if ':' ∈ hp.1 then "[" ++ String.ofList hp.1 ++ "]" else String.ofList hp.1

/-!
# The config parser's hostnames
-/

def parseConfigHostname (hostname : Option String) (sourceHostname : String) : String :=
  match hostname with
  | some hostname => if ':' ∈ hostname.toList then "[" ++ hostname ++ "]" else hostname
  | none => sourceHostname

/-!
# Substitution
-/

def substitute (host : List Char) : List Char -> List Char
  | '$' :: 'H' :: 'O' :: 'S' :: 'T' :: rest => host ++ substitute host rest
  | c :: rest => c :: substitute host rest
  | [] => []

/-- `replace("$HOST", host)` -/
def replaceHost (text host : String) : String :=
  String.ofList (substitute host.toList text.toList)

/-- How often `$HOST` stands in a text. -/
def hostCount : List Char -> Nat
  | '$' :: 'H' :: 'O' :: 'S' :: 'T' :: rest => hostCount rest + 1
  | _ :: rest => hostCount rest
  | [] => 0

/-!
# Addresses without a port

An address that is only a hostname is an error for `split_host_port`, and stays as it is.
-/

theorem toList_brackets (hostname : String) :
    ("[" ++ hostname ++ "]").toList = '[' :: (hostname.toList ++ [']']) := by
  rw [String.toList_append, String.toList_append]
  rfl

theorem rfindChar_last {c : Char} (before : List Char) {after : List Char} (h : c ∉ after) :
    rfindChar c (before ++ c :: after) = some before.length := by
  have hmem : c ∈ before ++ c :: after := List.mem_append_right _ List.mem_cons_self
  have hidx : (before ++ c :: after).reverse.idxOf c = after.length := by
    have hreverse : c ∉ after.reverse := fun hc => h (List.mem_reverse.mp hc)
    rw [List.reverse_append, List.reverse_cons, List.append_assoc,
      List.idxOf_append_of_notMem hreverse, List.length_reverse]
    show after.length + (c :: _).idxOf c = _
    rw [List.idxOf_cons_self, Nat.add_zero]
  unfold rfindChar
  rw [if_pos hmem, hidx, List.length_append, List.length_cons]
  congr 1
  omega

theorem splitHostPort_no_colon {text : List Char} (h : ':' ∉ text) :
    splitHostPort text = .error .missingPort := by
  unfold splitHostPort rfindChar
  rw [if_neg h]

theorem hostnameFromAddrStr_of_error {addr : String} {e : AddrError}
    (h : splitHostPort addr.toList = .error e) : hostnameFromAddrStr addr = addr := by
  unfold hostnameFromAddrStr
  rw [h]

theorem hostname_no_colon {addr : String} (h : ':' ∉ addr.toList) :
    hostnameFromAddrStr addr = addr :=
  hostnameFromAddrStr_of_error (splitHostPort_no_colon h)

/-- What ends in a bracket has no port after its bracket. -/
theorem splitBracketed_closed (text stripped : List Char) (i : Nat) :
    exists e, splitBracketed (text ++ [']']) stripped i = .error e := by
  have hmem : ']' ∈ text ++ [']'] := List.mem_append_right _ List.mem_cons_self
  unfold splitBracketed findChar
  rw [if_pos hmem]
  have hlt : (text ++ [']']).idxOf ']' < (text ++ [']']).length := List.idxOf_lt_length_of_mem hmem
  generalize (text ++ [']']).idxOf ']' = e at hlt
  dsimp only
  split
  · exact ⟨_, rfl⟩
  · rename_i hend
    split
    · split
      · exact ⟨_, rfl⟩
      · exact ⟨_, rfl⟩
    · have hle : e + 1 ≤ text.length := by
        rw [List.length_append] at hlt hend
        have hlt' : e < text.length + 1 := hlt
        have hend' : e + 1 ≠ text.length + 1 := hend
        omega
      have hlast : ']' ∈ (text ++ [']']).drop (e + 1) := by
        rw [List.drop_append_of_le_length hle]
        exact List.mem_append_right _ List.mem_cons_self
      rw [if_pos (Or.inr hlast)]
      exact ⟨_, rfl⟩

theorem hostname_brackets (hostname : String) :
    hostnameFromAddrStr ("[" ++ hostname ++ "]") = "[" ++ hostname ++ "]" := by
  have herror : exists e, splitHostPort ("[" ++ hostname ++ "]").toList = .error e := by
    rw [toList_brackets]
    unfold splitHostPort
    cases rfindChar ':' ('[' :: (hostname.toList ++ [']'])) with
    | none => exact ⟨_, rfl⟩
    | some i => exact splitBracketed_closed ('[' :: hostname.toList) _ i
  rcases herror with ⟨e, herror⟩
  exact hostnameFromAddrStr_of_error herror

/-- The hostname of a node that has one in the config. -/
theorem hostname_parsed (hostname : String) (sourceHostname : String) :
    hostnameFromAddrStr (parseConfigHostname (some hostname) sourceHostname) =
      parseConfigHostname (some hostname) sourceHostname := by
  unfold parseConfigHostname
  dsimp only
  split
  · exact hostname_brackets hostname
  · rename_i h
    exact hostname_no_colon h

end Config
end CouchbaseSdk
