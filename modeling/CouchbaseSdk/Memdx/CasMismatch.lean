import CouchbaseSdk.Memdx.CodecDecode
import CouchbaseSdk.Memdx.CrudRequests
import CouchbaseSdk.Memdx.SubdocRequest
import CouchbaseSdk.Memdx.SubdocResponse

/-!
# Documents that exist

The status of a document that exists stands for a version that does not match, where the request
had asked for one.  Responses to appends look at the request for that, and those to mutations of a
part of a document at the response.
-/

namespace CouchbaseSdk
namespace Memdx

open Foundation

/-!
# Requests
-/

/-- The packet of an append or a prepend, and what is kept for its response. -/
def addBytes (opCode : OpCode) (crud : OpsCrud) (request : AppendRequest) :
    Exec Error (RequestPacket × Option ResponseContext) := do
  let (magic, framingExtras) <- framingExtras
    (encodeReqExtFrames crud request.durabilityLevel request.durabilityLevelTimeout none
      request.onBehalfOf extFrameBuf)
  let key <- encodeCollectionAndKey crud request.collectionId request.key keyBuf
  pure ({ magic := magic
          opCode := opCode
          datatype := request.datatype
          vbucketId := some request.vbucketId
          cas := request.cas
          extras := none
          key := some key
          value := some request.value
          framingExtras := framingExtras
          opaqueId := none },
    some { cas := request.cas, subdocInfo := none, scopeName := none, collectionName := none })

def append : OpsCrud -> AppendRequest -> Exec Error (RequestPacket × Option ResponseContext) :=
  addBytes .append

def prepend : OpsCrud -> PrependRequest -> Exec Error (RequestPacket × Option ResponseContext) :=
  addBytes .prepend

/-!
# Responses
-/

structure AppendResponse where
  cas : UInt64
  mutationToken : Option MutationToken
  serverDuration : Option Duration
deriving DecidableEq

abbrev PrependResponse := AppendResponse

/-- A document that exists without a version in the request is a status like any other. -/
def appendFailure (cas : Option UInt64) : Status -> SubdocFailure
  | .tooBig => .server .tooBig
  | .notStored => .server .notStored
  | .locked => .server .locked
  | .keyExists =>
      if cas.isSome then .server .casMismatch
      else decodeStatus (decodeCommonMutationStatus .keyExists) .keyExists
  | status => decodeStatus (decodeCommonMutationStatus status) status

section Responses

variable (overflowChecks : Bool) (durationOf : UInt32 -> Duration)

/-- The version is the one that the request had. -/
def AppendResponse.tryFrom (resp : ClientResponse) : Exec ResponseError AppendResponse :=
  match resp.responseContext with
  | none => .panic
  | some context =>
      match resp.packet.status with
      | .success => do
          let token <- Exec.ofExcept (MutateInResponse.mutationTokenOf resp.packet.extras)
          let duration <- readServerDuration overflowChecks durationOf resp.packet
          pure
            { cas := resp.packet.cas.getD 0, mutationToken := token, serverDuration := duration }
      | status => .err (.failed (appendFailure context.cas status))

abbrev PrependResponse.tryFrom : ClientResponse -> Exec ResponseError PrependResponse :=
  AppendResponse.tryFrom overflowChecks durationOf

end Responses

/-!
# Operations with a version
-/

inductive GuardedRequest where
  | append (r : AppendRequest)
  | prepend (r : PrependRequest)
  | mutateIn (r : MutateInRequest)

namespace GuardedRequest

def cas : GuardedRequest -> Option UInt64
  | append r => r.cas
  | prepend r => r.cas
  | mutateIn r => r.cas

def dispatch (crud : OpsCrud) :
    GuardedRequest -> Exec Error (RequestPacket × Option ResponseContext)
  | append r => Memdx.append crud r
  | prepend r => Memdx.prepend crud r
  | mutateIn r => Memdx.mutateIn crud r

/-- How a response is answered, but for the result. -/
def answer (overflowChecks : Bool) (durationOf : UInt32 -> Duration) (resp : ClientResponse) :
    GuardedRequest -> Exec ResponseError Unit
  | append _ => (AppendResponse.tryFrom overflowChecks durationOf resp).map fun _ => ()
  | prepend _ => (PrependResponse.tryFrom overflowChecks durationOf resp).map fun _ => ()
  | mutateIn _ => (MutateInResponse.tryFrom overflowChecks durationOf resp).map fun _ => ()

end GuardedRequest

def failedWith (kind : ServerErrorKind) : Exec ResponseError Unit :=
  .err (.failed (.server kind))

/-- A mismatch is reported if and only if the request had a version. -/
structure ReportsMismatch (request : GuardedRequest) (answer : Exec ResponseError Unit) :
    Prop where
  mismatch : answer = failedWith .casMismatch <-> request.cas.isSome = true
  exists_already : forall r, request = .mutateIn r -> r.cas = none ->
    answer = failedWith .keyExists

/-!
# What is answered
-/

section Answer

variable {overflowChecks : Bool} {durationOf : UInt32 -> Duration} {crud : OpsCrud}
  {dispatched : RequestPacket × Option ResponseContext} {packet : ResponsePacket}

theorem decode_of_fits {buf : Buffer} {magic : Magic} (hframe : KeyValueCodec.HasFrame buf)
    (hmagic : KeyValueCodec.magicAt buf = .ok magic)
    (hfit : (KeyValueCodec.headerAt magic buf).sectionsLen ≤
      (KeyValueCodec.headerAt magic buf).totalBodyLen) :
    (KeyValueCodec.decode overflowChecks buf).1 =
      .ok (some (KeyValueCodec.packetOf (KeyValueCodec.headerAt magic buf)
        (KeyValueCodec.bodyAt buf))) := by
  rw [KeyValueCodec.decode_frame overflowChecks hframe, hmagic]
  dsimp only
  rw [KeyValueCodec.decodeBody_fits overflowChecks (KeyValueCodec.length_bodyAt hframe) hfit]
  rfl

/-- The codec always sets the version of a response. -/
theorem decode_cas {buf : Buffer}
    (h : (KeyValueCodec.decode overflowChecks buf).1 = .ok (some packet)) :
    packet.cas.isSome = true := by
  by_cases hframe : KeyValueCodec.HasFrame buf
  · cases hmagic : KeyValueCodec.magicAt buf with
    | error e =>
        rw [KeyValueCodec.decode_frame overflowChecks hframe, hmagic] at h
        cases h
    | ok magic =>
        rcases Nat.lt_or_ge (KeyValueCodec.headerAt magic buf).totalBodyLen
          (KeyValueCodec.headerAt magic buf).sectionsLen with hover | hfit
        · rw [KeyValueCodec.decode_frame overflowChecks hframe, hmagic] at h
          dsimp only at h
          rw [KeyValueCodec.decodeBody_oversized overflowChecks
            (KeyValueCodec.length_bodyAt hframe) hover] at h
          cases h
        · rw [decode_of_fits hframe hmagic hfit] at h
          cases h
          rfl
  · rw [KeyValueCodec.decode_incomplete overflowChecks hframe] at h
    cases h

theorem addBytes_ok {opCode : OpCode} {request : AppendRequest}
    (h : addBytes opCode crud request = .ok dispatched) :
    exists context, dispatched.2 = some context ∧ context.cas = request.cas := by
  unfold addBytes at h
  cases hframes : framingExtras
      (encodeReqExtFrames crud request.durabilityLevel request.durabilityLevelTimeout none
        request.onBehalfOf extFrameBuf) with
  | err e => rw [hframes] at h; cases h
  | panic => rw [hframes] at h; cases h
  | ok frames =>
      rw [hframes, Exec.ok_bind] at h
      cases hkey : encodeCollectionAndKey crud request.collectionId request.key keyBuf with
      | err e => rw [hkey] at h; cases h
      | panic => rw [hkey] at h; cases h
      | ok key =>
          rw [hkey] at h
          cases h
          exact ⟨_, rfl, rfl⟩

theorem append_answer {request : AppendRequest} {opCode : OpCode}
    (hdispatched : addBytes opCode crud request = .ok dispatched)
    (hstatus : packet.status = .keyExists) :
    (AppendResponse.tryFrom overflowChecks durationOf
        { packet := packet, responseContext := dispatched.2 }).map (fun _ => ()) =
      .err (.failed (appendFailure request.cas .keyExists)) := by
  rcases addBytes_ok hdispatched with ⟨context, hcontext, hcas⟩
  unfold AppendResponse.tryFrom
  simp only [hcontext, hstatus, hcas, Exec.map_err]

theorem append_mismatch_iff (cas : Option UInt64) :
    (.err (.failed (appendFailure cas .keyExists)) : Exec ResponseError Unit) =
        failedWith .casMismatch <->
      cas.isSome = true := by
  cases cas with
  | none => exact iff_of_false (by decide) (by decide)
  | some cas => exact iff_of_true rfl rfl

theorem mutateIn_answer {request : MutateInRequest}
    (hdispatched : mutateIn crud request = .ok dispatched)
    (hstatus : packet.status = .keyExists) (hcas : packet.cas.isSome = true) :
    (MutateInResponse.tryFrom overflowChecks durationOf
        { packet := packet, responseContext := dispatched.2 }).map (fun _ => ()) =
      failedWith .casMismatch := by
  unfold MutateInResponse.tryFrom
  simp only [(mutateIn_ok hdispatched).2, Option.bind_some, hstatus, mutateInFailure,
    if_pos hcas, Exec.map_err]
  rfl

end Answer

/-- A mismatch is reported as it should be if and only if a mutation of a part of a document had a
version. -/
theorem reports_mismatch_iff (overflowChecks : Bool) (durationOf : UInt32 -> Duration)
    {crud : OpsCrud} {request : GuardedRequest}
    {dispatched : RequestPacket × Option ResponseContext} {buf : Buffer} {packet : ResponsePacket}
    (hdispatched : request.dispatch crud = .ok dispatched)
    (hdecoded : (KeyValueCodec.decode overflowChecks buf).1 = .ok (some packet))
    (hstatus : packet.status = .keyExists) :
    ReportsMismatch request (request.answer overflowChecks durationOf
        { packet := packet, responseContext := dispatched.2 }) <->
      forall r, request = .mutateIn r -> r.cas.isSome = true := by
  cases request with
  | append r =>
      refine iff_of_true ⟨?_, fun _ h => by cases h⟩ fun _ h => by cases h
      unfold GuardedRequest.answer
      rw [append_answer hdispatched hstatus]
      exact append_mismatch_iff r.cas
  | prepend r =>
      refine iff_of_true ⟨?_, fun _ h => by cases h⟩ fun _ h => by cases h
      unfold GuardedRequest.answer
      rw [append_answer hdispatched hstatus]
      exact append_mismatch_iff r.cas
  | mutateIn r =>
      have hanswer := @mutateIn_answer overflowChecks durationOf crud dispatched packet r
        hdispatched hstatus (decode_cas hdecoded)
      unfold GuardedRequest.answer
      rw [hanswer]
      constructor
      · intro h r' hr
        cases hr
        exact h.mismatch.mp rfl
      · intro h
        have hsome := h r rfl
        refine ⟨iff_of_true rfl hsome, ?_⟩
        intro r' hr hnone
        cases hr
        rw [hnone] at hsome
        cases hsome

/-- The response to a mutation of a part of a document that exists, at version 7. -/
def existsFrame : Buffer :=
  [0x81, 0xD1, 0, 0, 0, 0, 0, 2, 0, 0, 0, 0, 0, 0, 0, 1, 0, 0, 0, 0, 0, 0, 0, 7]

theorem decode_existsFrame (overflowChecks : Bool) :
    exists packet, (KeyValueCodec.decode overflowChecks existsFrame).1 = .ok (some packet) ∧
      packet.status = .keyExists := by
  have hframe : KeyValueCodec.HasFrame existsFrame := by
    constructor
    · decide
    · decide
  have hbyte : UInt8.ofNat (beField 0 1 existsFrame) = Magic.toU8 .res := by decide
  have hmagic : KeyValueCodec.magicAt existsFrame = .ok .res := by
    unfold KeyValueCodec.magicAt
    rw [hbyte, Magic.tryFrom_toU8]
  exact ⟨_, decode_of_fits hframe hmagic (by decide), by decide⟩

theorem mutateIn_setPath (cas : Option UInt64) :
    exists dispatched, (GuardedRequest.mutateIn { setPath with cas := cas }).dispatch
      (collectionsOps false) = .ok dispatched := by
  change exists dispatched, mutateIn (collectionsOps false) { setPath with cas := cas } =
    .ok dispatched
  unfold mutateIn
  rw [mutateInValue_eq]
  exact ⟨_, rfl⟩

theorem reports_mismatch_with_version :
    exists dispatched packet,
      (GuardedRequest.mutateIn { setPath with cas := some 7 }).dispatch (collectionsOps false) =
          .ok dispatched ∧
        (KeyValueCodec.decode true existsFrame).1 = .ok (some packet) ∧
          ReportsMismatch (.mutateIn { setPath with cas := some 7 })
            ((GuardedRequest.mutateIn { setPath with cas := some 7 }).answer true
              (fun _ => Duration.fromSecs 0)
              { packet := packet, responseContext := dispatched.2 }) := by
  rcases decode_existsFrame true with ⟨packet, hdecoded, hstatus⟩
  rcases mutateIn_setPath (some 7) with ⟨dispatched, hdispatched⟩
  refine ⟨dispatched, packet, hdispatched, hdecoded,
    (reports_mismatch_iff true _ hdispatched hdecoded hstatus).mpr ?_⟩
  intro r hr
  cases hr
  rfl

/-- Without a version in the request. -/
theorem not_reports_mismatch_without_version :
    exists dispatched packet,
      (GuardedRequest.mutateIn { setPath with cas := none }).dispatch (collectionsOps false) =
          .ok dispatched ∧
        (KeyValueCodec.decode true existsFrame).1 = .ok (some packet) ∧
          ¬ ReportsMismatch (.mutateIn { setPath with cas := none })
            ((GuardedRequest.mutateIn { setPath with cas := none }).answer true
              (fun _ => Duration.fromSecs 0)
              { packet := packet, responseContext := dispatched.2 }) := by
  rcases decode_existsFrame true with ⟨packet, hdecoded, hstatus⟩
  rcases mutateIn_setPath none with ⟨dispatched, hdispatched⟩
  refine ⟨dispatched, packet, hdispatched, hdecoded, ?_⟩
  intro h
  have hexists := h.exists_already _ rfl rfl
  have hanswer := @mutateIn_answer true (fun _ => Duration.fromSecs 0) _ _ _ _ hdispatched hstatus
    (decode_cas hdecoded)
  cases hexists.symm.trans hanswer

end Memdx
end CouchbaseSdk
