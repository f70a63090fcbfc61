import CouchbaseSdk.Foundation.Records
import CouchbaseSdk.Memdx.Codec
import CouchbaseSdk.Memdx.ResExtFrames
import CouchbaseSdk.Memdx.Subdoc

/-!
# Responses to requests on parts of a document

The value of a response has one record for each operation of a lookup, and one with a number for
each operation of a mutation that has a result.
-/

namespace CouchbaseSdk
namespace Memdx

open Foundation

/-- The error of one operation, and where it is in the request. -/
structure SubdocError where
  kind : SubdocErrorKind
  opIndex : Option UInt8
deriving DecidableEq

structure SubDocResult where
  err : Option SubdocError
  value : Option Buffer
deriving DecidableEq

structure MutationToken where
  vbuuid : UInt64
  seqno : UInt64
deriving DecidableEq

/-- Why a response is no result: the request has failed, one of its operations has, or the
response cannot be read. -/
inductive ResponseError where
  | failed (failure : SubdocFailure)
  | subdoc (error : SubdocError)
  | memdx (e : Error)
  | io
deriving DecidableEq

namespace ResponseError

def protocol (msg : String) : ResponseError := .memdx (.protocol msg)

def ofMemdx {value : Type} : Exec Error value -> Exec ResponseError value
  | .ok v => .ok v
  | .err e => .err (.memdx e)
  | .panic => .panic

theorem ofMemdx_returns {value : Type} (x : Exec Error value) :
    (ofMemdx x).Returns <-> x.Returns := by
  cases x <;> rfl

end ResponseError

section Decoding

variable (overflowChecks : Bool) (durationOf : UInt32 -> Duration)

def readServerDuration (packet : ResponsePacket) : Exec ResponseError (Option Duration) :=
  match packet.framingExtras with
  | some f => ResponseError.ofMemdx (decodeResExtFrames overflowChecks durationOf f)
  | none => .ok none

/-!
# Lookups
-/

structure LookupInResponse where
  cas : UInt64
  ops : List SubDocResult
  docIsDeleted : Bool
  serverDuration : Option Duration
deriving DecidableEq

namespace LookupInResponse

/-- Whether the document is deleted, if the request has not failed as a whole. -/
def docIsDeletedOf : Status -> Option Bool
  | .success => some false
  | .subDocMultiPathFailure => some false
  | .subDocSuccessDeleted => some true
  | .subDocMultiPathFailureDeleted => some true
  | _ => none

/-- A status, the length of a value, and the value. -/
def readRecord (buf : Buffer) : Except ResponseError ((Status × Option Buffer) × Buffer) :=
  if buf.length < 6 then .error (.protocol "bad value length")
  else
    let resStatus := Status.ofU16 (UInt16.ofNat (beField 0 2 buf))
    let resValueLen := beField 2 4 buf
    let behind := buf.drop 6
    if behind.length < resValueLen then .error (.protocol "bad value length")
    else .ok ((resStatus, if 0 < resValueLen then some (behind.take resValueLen) else none),
      behind.drop resValueLen)

/-- The operations are counted in a byte. -/
def pushRecord (state : UInt8 × List SubDocResult) (record : Status × Option Buffer) :
    Exec ResponseError (UInt8 × List SubDocResult) :=
  let result : SubDocResult :=
    { err := (lookupOpFailure record.1).map fun kind =>
        { kind := kind, opIndex := some state.1 }
      value := record.2 }
  (ResponseError.ofMemdx (u8Add overflowChecks state.1 1)).map fun opIndex =>
    (opIndex, state.2 ++ [result])

def readRecords (value : Buffer) : Exec ResponseError (UInt8 × List SubDocResult) :=
  Records.loop readRecord (pushRecord overflowChecks) value.length (0, []) value

def tryFrom (resp : ClientResponse) : Exec ResponseError LookupInResponse :=
  match resp.responseContext.bind ResponseContext.subdocInfo with
  | none => .panic
  | some _ =>
      match docIsDeletedOf resp.packet.status with
      | none => .err (.failed (lookupInFailure resp.packet.status))
      | some docIsDeleted =>
          match resp.packet.value with
          | none => .err (.protocol "missing value")
          | some value => do
              let (_, results) <- readRecords overflowChecks value
              let duration <- readServerDuration overflowChecks durationOf resp.packet
              pure
                { cas := resp.packet.cas.getD 0
                  ops := results
                  docIsDeleted := docIsDeleted
                  serverDuration := duration }

end LookupInResponse

/-!
# Mutations
-/

structure MutateInResponse where
  cas : UInt64
  ops : List SubDocResult
  docIsDeleted : Bool
  mutationToken : Option MutationToken
  serverDuration : Option Duration
deriving DecidableEq

namespace MutateInResponse

def noResult : SubDocResult := { err := none, value := none }

/-- The operation that has failed, and its status. -/
def pathFailure (value : Option Buffer) : ResponseError :=
  match value with
  | some [opIndex, high, low] => .subdoc
      { kind := mutateOpFailure (Status.ofU16 (UInt16.ofNat (beNat [high, low])))
        opIndex := some opIndex }
  | _ => .protocol "bad value length"

/-- The number of an operation, a status, the length of a value, and the value. -/
def readRecord (buf : Buffer) : Except ResponseError ((UInt8 × Buffer) × Buffer) :=
  match buf with
  | opIndex :: high :: low :: behind =>
      if Status.ofU16 (UInt16.ofNat (beNat [high, low])) = .success then
        if behind.length < 4 then .error .io
        else
          let valLength := beField 0 4 behind
          if (behind.drop 4).length < valLength then .error .io
          else .ok ((opIndex, (behind.drop 4).take valLength), (behind.drop 4).drop valLength)
      else .error (.protocol "subdoc mutatein op illegally provided an error")
  | _ => .error (.protocol "bad value length")

/-- Operations that are left out have no result.  Lengths are compared as bytes. -/
def pushRecord (results : List SubDocResult) (record : UInt8 × Buffer) : List SubDocResult :=
  let len := UInt8.ofNat results.length
  let padded :=
    if len < record.1 then
      results ++ List.replicate (record.1.toNat - len.toNat) noResult
    else results
  padded ++ [{ err := none, value := some record.2 }]

def readRecords (value : Option Buffer) : Exec ResponseError (List SubDocResult) :=
  match value with
  | some value =>
      Records.loop readRecord (fun results record => .ok (pushRecord results record))
        value.length [] value
  | none => .ok []

def mutationTokenOf (extras : Option Buffer) : Except ResponseError (Option MutationToken) :=
  match extras with
  | some extras =>
      if extras.length ≠ 16 then .error (.protocol "bad extras length")
      else .ok (some
        { vbuuid := UInt64.ofNat (beField 0 8 extras)
          seqno := UInt64.ofNat (beField 8 8 extras) })
  | none => .ok none

/-- The results and the token of a response to a request that has not failed. -/
def succeeded (info : SubdocRequestInfo) (packet : ResponsePacket) (docIsDeleted : Bool) :
    Exec ResponseError MutateInResponse := do
  let results <- readRecords packet.value
  let token <- Exec.ofExcept (mutationTokenOf packet.extras)
  let duration <- readServerDuration overflowChecks durationOf packet
  pure
    { cas := packet.cas.getD 0
      ops := results ++ List.replicate (info.opCount.toNat - results.length) noResult
      docIsDeleted := docIsDeleted
      mutationToken := token
      serverDuration := duration }

def tryFrom (resp : ClientResponse) : Exec ResponseError MutateInResponse :=
  match resp.responseContext.bind ResponseContext.subdocInfo with
  | none => .panic
  | some info =>
      match resp.packet.status with
      | .success => succeeded overflowChecks durationOf info resp.packet false
      | .subDocSuccessDeleted => succeeded overflowChecks durationOf info resp.packet true
      | .subDocMultiPathFailure => .err (pathFailure resp.packet.value)
      | status => .err (.failed (mutateInFailure info.flags resp.packet.cas status))

end MutateInResponse

end Decoding

/-!
# Frame infos
-/

/-- In a build with overflow checks the escapes of the first frame info fit a byte. -/
def ResFramesFit (overflowChecks : Bool) (packet : ResponsePacket) : Prop :=
  overflowChecks = true -> forall f, packet.framingExtras = some f -> EscapesFit f

theorem decodeEscape_unchecked (half : UInt8) (buf : Buffer) (bufPos : Nat) :
    (decodeEscape false half buf bufPos).Returns := by
  unfold decodeEscape
  split
  · split
    · exact trivial
    · exact trivial
  · exact trivial

theorem returns_bind {error value result : Type} {x : Exec error value}
    {k : value -> Exec error result} (hx : x.Returns) (hk : forall v, (k v).Returns) :
    (x >>= k).Returns := by
  cases x with
  | ok v => exact hk v
  | err e => exact trivial
  | panic => exact hx

theorem decodeExtFrame_unchecked (buf : Buffer) : (decodeExtFrame false buf).Returns := by
  unfold decodeExtFrame
  cases buf with
  | nil => exact trivial
  | cons header rest =>
      refine returns_bind (decodeEscape_unchecked _ _ _) fun first => ?_
      refine returns_bind (decodeEscape_unchecked _ _ _) fun second => ?_
      dsimp only
      split
      · exact trivial
      · exact trivial

theorem decodeResExtFrames_unchecked (durationOf : UInt32 -> Duration) (buf : Buffer) :
    (decodeResExtFrames false durationOf buf).Returns := by
  unfold decodeResExtFrames
  refine returns_bind ?_ fun collected => ?_
  · unfold iterExtFrames
    cases buf with
    | nil => exact trivial
    | cons header rest => exact returns_bind (decodeExtFrame_unchecked _) fun _ => trivial
  · dsimp only
    split
    · rename_i data _
      cases data with
      | ok duration => exact trivial
      | error e => exact trivial
    · exact trivial

theorem readServerDuration_returns (overflowChecks : Bool) (durationOf : UInt32 -> Duration)
    (packet : ResponsePacket) :
    (readServerDuration overflowChecks durationOf packet).Returns <->
      ResFramesFit overflowChecks packet := by
  unfold readServerDuration ResFramesFit
  cases packet.framingExtras with
  | none => exact iff_of_true trivial fun _ f hf => by cases hf
  | some f =>
      dsimp only
      rw [ResponseError.ofMemdx_returns]
      cases overflowChecks with
      | false =>
          exact iff_of_true (decodeResExtFrames_unchecked durationOf f) fun h => by cases h
      | true =>
          rw [decodeResExtFrames_returns durationOf f]
          constructor
          · intro hfit _ f' hf
            cases hf
            exact hfit
          · intro h
            exact h rfl f rfl

/-!
# Records
-/

theorem LookupInResponse.readRecord_shrinks : Records.Shrinks LookupInResponse.readRecord := by
  intro buf item rest h
  unfold LookupInResponse.readRecord at h
  dsimp only at h
  split at h
  · cases h
  · split at h
    · cases h
    · cases h
      simp only [List.length_drop]
      omega

theorem MutateInResponse.readRecord_shrinks : Records.Shrinks MutateInResponse.readRecord := by
  intro buf item rest h
  unfold MutateInResponse.readRecord at h
  dsimp only at h
  split at h
  · split at h
    · split at h
      · cases h
      · split at h
        · cases h
        · cases h
          simp only [List.length_drop, List.length_cons]
          omega
    · cases h
  · cases h

end Memdx
end CouchbaseSdk
