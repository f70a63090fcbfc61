import CouchbaseSdk.Foundation.Places
import CouchbaseSdk.Kv.CoreKvClient
import CouchbaseSdk.Kv.Results
import CouchbaseSdk.Memdx.SubdocRecords
import CouchbaseSdk.Memdx.SubdocRequest

/-!
# Lookups of the client

The specs of extended attributes are sent first, and the results are put back in the order of the
caller's specs.  The number of results is the server's.
-/

namespace CouchbaseSdk
namespace Kv

open Foundation
open Memdx (ClientResponse ResFramesFit LookupInRequest LookupInResponse OpsCrud RequestPacket
  ResponseContext ResponseError ResponsePacket SubDocResult SubdocDocFlag)

structure LookupInOptions where
  accessDeleted : Option Bool := none

def lookupInFlags (accessDeleted : Option Bool) : SubdocDocFlag :=
  if accessDeleted.getD false then SubdocDocFlag.AccessDeleted else 0

def LookupInSpec.reorder (specs : List LookupInSpec) : List (LookupInSpec × Nat) :=
  Memdx.reorderSubdocOps (fun spec => spec.isXattr) specs

/-- The request to a connection, each time the operation is tried. -/
def lookupInRequest {strategy : Type} (client : CoreKvClient strategy) (id : String)
    (specs : List LookupInSpec) (options : LookupInOptions) (collectionId : UInt32)
    (vbucketId : UInt16) : Except Error LookupInRequest :=
  (upgradeAgent client).map fun _ =>
    { collectionId := collectionId
      key := asBytes id
      vbucketId := vbucketId
      flags := lookupInFlags options.accessDeleted
      ops := (LookupInSpec.reorder specs).map fun p => p.1.toOp
      onBehalfOf := none }

/-- A result of a lookup, and whether the document is deleted. -/
structure LookupInAnswer extends LookupInResult where
  isDeleted : Bool

def LookupInSpec.entry (spec : LookupInSpec) (result : SubDocResult) : LookupInResultEntry :=
  { value := result.value
    error := result.err.map fun e => .ofSubdoc e.kind
    op := spec.op }

def lookupInResult (specs : List LookupInSpec) (response : LookupInResponse) :
    Exec ResponseError LookupInAnswer :=
  (Places.placeAll (LookupInSpec.reorder specs) LookupInSpec.entry response.ops).map fun entries =>
    { cas := response.cas, entries := entries, isDeleted := response.docIsDeleted }

/-- The end of a lookup, once there is a response. -/
def lookupInAnswer (overflowChecks : Bool) (durationOf : UInt32 -> Duration)
    (specs : List LookupInSpec) (resp : ClientResponse) : Exec ResponseError LookupInAnswer :=
  LookupInResponse.tryFrom overflowChecks durationOf resp >>= lookupInResult specs

/-!
# End to end
-/

section Spec

variable (overflowChecks : Bool) (durationOf : UInt32 -> Duration) (specs : List LookupInSpec)
  (dispatched : RequestPacket × Option ResponseContext) (packet : ResponsePacket)

/-- A successful response, with a record for each operation in the order sent. -/
structure AnswersLookups (records : List LookupInResponse.Written) (isDeleted : Bool) : Prop where
  status : LookupInResponse.docIsDeletedOf packet.status = some isDeleted
  value : packet.value = some (records.flatMap LookupInResponse.Written.bytes)
  count : records.length = specs.length
  frames : exists duration,
    Memdx.readServerDuration overflowChecks durationOf packet = .ok duration

/-- The entry of each of the caller's specs is the record of its operation. -/
def EntriesOfSpecs (records : List LookupInResponse.Written)
    (entries : List LookupInResultEntry) : Prop :=
  entries.length = specs.length ∧
    forall (j : Nat) (spec : LookupInSpec), specs[j]? = some spec ->
      exists (i : Nat) (record : LookupInResponse.Written),
        (LookupInSpec.reorder specs)[i]? = some (spec, j) ∧ records[i]? = some record ∧
          entries[j]? = some
            { value := record.read.2
              error := (Memdx.lookupOpFailure record.read.1).map .ofSubdoc
              op := spec.op }

structure LookupInEndToEnd : Prop where
  order : Places.StableOrder (fun spec => spec.isXattr) specs (LookupInSpec.reorder specs)
  sent : dispatched.1.value = some ((LookupInSpec.reorder specs).flatMap fun p =>
    (Memdx.lookupInParts p.1.toOp).flatten)
  entries : forall records isDeleted,
    AnswersLookups overflowChecks durationOf specs packet records isDeleted ->
      exists answer, lookupInAnswer overflowChecks durationOf specs
          { packet := packet, responseContext := dispatched.2 } = .ok answer ∧
        EntriesOfSpecs specs records answer.entries ∧ answer.cas = packet.cas.getD 0 ∧
          answer.isDeleted = isDeleted
  returns : (lookupInAnswer overflowChecks durationOf specs
    { packet := packet, responseContext := dispatched.2 }).Returns

/-- A value that can be read has as many records as there are specs.  In a build with overflow
checks there are fewer than 256, and no escape of the frame infos overflows. -/
def ValueMatches (value : Buffer) : Prop :=
  (overflowChecks = true -> (LookupInResponse.recordsOf value).1.length < 256) ∧
    ((LookupInResponse.recordsOf value).2 = .ok () ->
      ResFramesFit overflowChecks packet ∧
        forall duration,
          Memdx.readServerDuration overflowChecks durationOf packet = .ok duration ->
            (LookupInResponse.recordsOf value).1.length = specs.length)

/-- So it is with the value of a request that has not failed. -/
def RecordsMatch : Prop :=
  forall isDeleted value, LookupInResponse.docIsDeletedOf packet.status = some isDeleted ->
    packet.value = some value -> ValueMatches overflowChecks durationOf specs packet value

end Spec

/-!
# What a response becomes
-/

section Answer

variable {overflowChecks : Bool} {durationOf : UInt32 -> Duration} {specs : List LookupInSpec}
  {packet : ResponsePacket}

theorem recordsMatch_iff {isDeleted : Bool} {value : Buffer}
    (hstatus : LookupInResponse.docIsDeletedOf packet.status = some isDeleted)
    (hvalue : packet.value = some value) :
    RecordsMatch overflowChecks durationOf specs packet <->
      ValueMatches overflowChecks durationOf specs packet value := by
  constructor
  · intro h
    exact h isDeleted value hstatus hvalue
  · intro h isDeleted' value' _ hvalue'
    cases hvalue.symm.trans hvalue'
    exact h

theorem reorder_places (specs : List LookupInSpec) :
    ((LookupInSpec.reorder specs).map Prod.snd).Perm
      (List.range (LookupInSpec.reorder specs).length) := by
  have horder := Places.stableOrder_classes (fun spec : LookupInSpec => spec.isXattr) specs
  have hplaces := horder.places
  rw [← horder.length] at hplaces
  exact hplaces

theorem length_reorder (specs : List LookupInSpec) :
    (LookupInSpec.reorder specs).length = specs.length :=
  (Places.stableOrder_classes (fun spec : LookupInSpec => spec.isXattr) specs).length

/-- The response of a successful request with a value. -/
theorem lookupInAnswer_eq {context : ResponseContext} {info : Memdx.SubdocRequestInfo}
    (hinfo : context.subdocInfo = some info) {isDeleted : Bool} {value : Buffer}
    (hstatus : LookupInResponse.docIsDeletedOf packet.status = some isDeleted)
    (hvalue : packet.value = some value) :
    lookupInAnswer overflowChecks durationOf specs
        { packet := packet, responseContext := some context } =
      (do
        let (_, results) <- LookupInResponse.readRecords overflowChecks value
        let duration <- Memdx.readServerDuration overflowChecks durationOf packet
        lookupInResult specs
          { cas := packet.cas.getD 0
            ops := results
            docIsDeleted := isDeleted
            serverDuration := duration }) := by
  unfold lookupInAnswer LookupInResponse.tryFrom
  simp only [Option.bind_some, hinfo, hstatus, hvalue]
  cases LookupInResponse.readRecords overflowChecks value with
  | ok read =>
      simp only [Exec.ok_bind]
      cases Memdx.readServerDuration overflowChecks durationOf packet with
      | ok duration => rfl
      | err e => rfl
      | panic => rfl
  | err e => rfl
  | panic => rfl

theorem lookupInResult_returns_iff (response : LookupInResponse) :
    (lookupInResult specs response).Returns <-> response.ops.length = specs.length := by
  have hplaced := @Places.placeAll_returns_iff ResponseError _ _ _ _ LookupInSpec.entry
    response.ops (reorder_places specs)
  rw [length_reorder] at hplaced
  rw [← hplaced]
  unfold lookupInResult
  cases Places.placeAll (LookupInSpec.reorder specs) LookupInSpec.entry response.ops with
  | ok entries => exact Iff.rfl
  | err e => exact Iff.rfl
  | panic => exact Iff.rfl

theorem valueMatches_returns_iff (value : Buffer) (isDeleted : Bool) :
    (do
        let (_, results) <- LookupInResponse.readRecords overflowChecks value
        let duration <- Memdx.readServerDuration overflowChecks durationOf packet
        lookupInResult specs
          { cas := packet.cas.getD 0
            ops := results
            docIsDeleted := isDeleted
            serverDuration := duration } : Exec ResponseError LookupInAnswer).Returns <->
      ValueMatches overflowChecks durationOf specs packet value := by
  unfold ValueMatches
  rw [LookupInResponse.readRecords_eq]
  by_cases hmany : overflowChecks = true ∧ 256 ≤ (LookupInResponse.recordsOf value).1.length
  · rw [if_pos hmany]
    refine iff_of_false id ?_
    rintro ⟨hfew, _⟩
    exact absurd (hfew hmany.1) (Nat.not_lt.mpr hmany.2)
  · have hfew : overflowChecks = true ->
        (LookupInResponse.recordsOf value).1.length < 256 := by
      intro hchecks
      exact Nat.lt_of_not_le fun hle => hmany ⟨hchecks, hle⟩
    rw [if_neg hmany, and_iff_right hfew]
    cases hended : (LookupInResponse.recordsOf value).2 with
    | error e => exact iff_of_true trivial fun h => by cases h
    | ok _ =>
        rw [imp_iff_right rfl, ← Memdx.readServerDuration_returns overflowChecks durationOf packet]
        simp only [Exec.ofExcept_ok, Exec.map_ok, Exec.ok_bind]
        cases Memdx.readServerDuration overflowChecks durationOf packet with
        | ok duration =>
            rw [Exec.ok_bind, lookupInResult_returns_iff]
            simp
        | err e => exact iff_of_true trivial ⟨trivial, fun _ h => by cases h⟩
        | panic => exact iff_of_false id fun h => h.1

/-- There is no panic if and only if the records match the specs. -/
theorem lookupInAnswer_returns_iff {context : ResponseContext} {info : Memdx.SubdocRequestInfo}
    (hinfo : context.subdocInfo = some info) :
    (lookupInAnswer overflowChecks durationOf specs
        { packet := packet, responseContext := some context }).Returns <->
      RecordsMatch overflowChecks durationOf specs packet := by
  cases hstatus : LookupInResponse.docIsDeletedOf packet.status with
  | none =>
      refine iff_of_true ?_ fun isDeleted value h => by cases hstatus.symm.trans h
      unfold lookupInAnswer LookupInResponse.tryFrom
      simp [hinfo, hstatus]
  | some isDeleted =>
      cases hvalue : packet.value with
      | none =>
          refine iff_of_true ?_ fun isDeleted value _ h => by cases hvalue.symm.trans h
          unfold lookupInAnswer LookupInResponse.tryFrom
          simp [hinfo, hstatus, hvalue]
      | some value =>
          rw [lookupInAnswer_eq hinfo hstatus hvalue, recordsMatch_iff hstatus hvalue]
          exact valueMatches_returns_iff value isDeleted

/-- One result for each spec: each is found at its spec. -/
theorem lookupInResult_ok {response : LookupInResponse}
    {records : List LookupInResponse.Written} (hcount : records.length = specs.length)
    (hops : response.ops =
      LookupInResponse.resultsFrom 0 (records.map LookupInResponse.Written.read)) :
    exists answer, lookupInResult specs response = .ok answer ∧
      EntriesOfSpecs specs records answer.entries ∧ answer.cas = response.cas ∧
        answer.isDeleted = response.docIsDeleted := by
  have hlength : response.ops.length = (LookupInSpec.reorder specs).length := by
    rw [hops, LookupInResponse.length_resultsFrom, List.length_map, hcount, length_reorder]
  rcases Places.placeAll_ok (reorder_places specs) hlength with ⟨entries, hplaced, hentries⟩
  refine ⟨{ cas := response.cas, entries := entries, isDeleted := response.docIsDeleted },
    ?_, ⟨?_, ?_⟩, rfl, rfl⟩
  · unfold lookupInResult
    rw [hplaced]
    rfl
  · exact hentries.length.trans (length_reorder specs)
  · intro j spec hspec
    have hmem := (Places.stableOrder_classes (fun spec : LookupInSpec => spec.isXattr)
      specs).mem_iff.mpr hspec
    rcases List.getElem?_of_mem hmem with ⟨i, hi⟩
    have hlt : i < records.length := by
      rw [hcount, ← length_reorder]
      exact (List.getElem?_eq_some_iff.mp hi).1
    have hread : (records.map LookupInResponse.Written.read)[i]? = some records[i].read := by
      rw [List.getElem?_map, List.getElem?_eq_getElem hlt]
      rfl
    have hresult := @LookupInResponse.getElem?_resultsFrom 0 _ i _ hread
    rw [← hops] at hresult
    have hentry := hentries.entry i spec j _ hi hresult
    refine ⟨i, records[i], hi, List.getElem?_eq_getElem hlt, hentry.trans ?_⟩
    unfold LookupInSpec.entry LookupInResponse.resultOf
    rw [Option.map_map]
    rfl

/-- Where there is no panic, the records of a successful response are found at their specs. -/
theorem entries_of_answers {context : ResponseContext} {info : Memdx.SubdocRequestInfo}
    (hinfo : context.subdocInfo = some info) {records : List LookupInResponse.Written}
    {isDeleted : Bool}
    (hanswers : AnswersLookups overflowChecks durationOf specs packet records isDeleted)
    (hmatch : RecordsMatch overflowChecks durationOf specs packet) :
    exists answer, lookupInAnswer overflowChecks durationOf specs
        { packet := packet, responseContext := some context } = .ok answer ∧
      EntriesOfSpecs specs records answer.entries ∧ answer.cas = packet.cas.getD 0 ∧
        answer.isDeleted = isDeleted := by
  rcases hanswers with ⟨hstatus, hvalue, hcount, duration, hduration⟩
  have hrecords : LookupInResponse.recordsOf (records.flatMap LookupInResponse.Written.bytes) =
      (records.map LookupInResponse.Written.read, .ok ()) := LookupInResponse.front_bytes records
  have hfew := ((recordsMatch_iff hstatus hvalue).mp hmatch).1
  rw [hrecords] at hfew
  rw [lookupInAnswer_eq hinfo hstatus hvalue, LookupInResponse.readRecords_eq, hrecords,
    if_neg fun hmany => absurd (hfew hmany.1) (Nat.not_lt.mpr hmany.2)]
  simp only [Exec.ofExcept_ok, Exec.map_ok, Exec.ok_bind, hduration]
  exact lookupInResult_ok hcount rfl

end Answer

/-!
# When a lookup is right
-/

/-- A lookup is right, for whatever the server answers, if and only if the answer has as many
records as there are specs, or is an error. -/
theorem lookup_in_end_to_end_iff (overflowChecks : Bool) (durationOf : UInt32 -> Duration)
    {strategy : Type} {client : CoreKvClient strategy} {id : String} {specs : List LookupInSpec}
    {options : LookupInOptions} {collectionId : UInt32} {vbucketId : UInt16}
    {request : LookupInRequest} {crud : OpsCrud}
    {dispatched : RequestPacket × Option ResponseContext}
    (hrequest : lookupInRequest client id specs options collectionId vbucketId = .ok request)
    (hdispatched : Memdx.lookupIn crud request = .ok dispatched) (packet : ResponsePacket) :
    LookupInEndToEnd overflowChecks durationOf specs dispatched packet <->
      RecordsMatch overflowChecks durationOf specs packet := by
  have hops : request.ops = (LookupInSpec.reorder specs).map fun p => p.1.toOp := by
    unfold lookupInRequest at hrequest
    cases hagent : upgradeAgent client with
    | error e =>
        rw [hagent] at hrequest
        cases hrequest
    | ok _ =>
        rw [hagent] at hrequest
        cases hrequest
        rfl
  rcases Memdx.lookupIn_ok hdispatched with ⟨hvalue, hcontext⟩
  constructor
  · intro h
    have hreturned := h.returns
    rw [hcontext] at hreturned
    exact (lookupInAnswer_returns_iff rfl).mp hreturned
  · intro hmatch
    constructor
    · exact Places.stableOrder_classes _ _
    · rw [hvalue, hops, List.flatMap_map]
    · intro records isDeleted hanswers
      rw [hcontext]
      exact entries_of_answers rfl hanswers hmatch
    · rw [hcontext]
      exact (lookupInAnswer_returns_iff rfl).mpr hmatch

/-- A response with these records to a lookup that has not failed. -/
def lookedUp (records : List LookupInResponse.Written) : ResponsePacket :=
  { magic := .res
    opCode := .subDocMultiLookup
    datatype := 0
    status := .success
    opaqueId := 1
    cas := some 7
    value := some (records.flatMap LookupInResponse.Written.bytes) }

/-- A client of the default collection. -/
def defaultClient : CoreKvClient Unit :=
  { agentAlive := true
    scopeName := "_default"
    collectionName := "_default"
    defaultRetryStrategy := () }

theorem lookup_dispatched (specs : List LookupInSpec) :
    exists request dispatched, lookupInRequest defaultClient "k" specs {} 0 12 = .ok request ∧
      Memdx.lookupIn (Memdx.collectionsOps false) request = .ok dispatched := by
  have hdispatched : forall ops, exists dispatched, Memdx.lookupIn (Memdx.collectionsOps false)
      { collectionId := 0, key := asBytes "k", vbucketId := 12, flags := 0, ops := ops
        onBehalfOf := none } = .ok dispatched := by
    intro ops
    unfold Memdx.lookupIn
    rw [Memdx.lookupInValue_eq]
    exact ⟨_, rfl⟩
  rcases hdispatched ((LookupInSpec.reorder specs).map fun p => p.1.toOp) with ⟨dispatched, h⟩
  exact ⟨_, dispatched, rfl, h⟩

/-- A path of the body, and one of the extended attributes that is sent before it. -/
def bodyAndXattr : List LookupInSpec :=
  [LookupInSpec.get "a" none, LookupInSpec.get "x" (some true)]

/-- A record with the value 1. -/
def recordOfOne : LookupInResponse.Written :=
  { status := 0, value := [0x31], valueLt := by decide }

theorem lookup_in_body_and_xattr :
    exists request dispatched,
      lookupInRequest defaultClient "k" bodyAndXattr {} 0 12 = .ok request ∧
        Memdx.lookupIn (Memdx.collectionsOps false) request = .ok dispatched ∧
          LookupInEndToEnd true (fun _ => Duration.fromSecs 0) bodyAndXattr dispatched
            (lookedUp [recordOfOne, recordOfOne]) := by
  rcases lookup_dispatched bodyAndXattr with ⟨request, dispatched, hrequest, hdispatched⟩
  refine ⟨request, dispatched, hrequest, hdispatched,
    (lookup_in_end_to_end_iff true _ hrequest hdispatched _).mpr ?_⟩
  intro isDeleted value hstatus hvalue
  cases hvalue
  refine ⟨by decide, fun _ => ⟨?_, fun _ _ => by decide⟩⟩
  intro _ f hf
  cases hf

/-- A record too many. -/
theorem not_lookup_in_two_for_one :
    exists request dispatched,
      lookupInRequest defaultClient "k" [LookupInSpec.get "a" none] {} 0 12 = .ok request ∧
        Memdx.lookupIn (Memdx.collectionsOps false) request = .ok dispatched ∧
          ¬ LookupInEndToEnd false (fun _ => Duration.fromSecs 0) [LookupInSpec.get "a" none]
            dispatched (lookedUp [recordOfOne, recordOfOne]) := by
  rcases lookup_dispatched [LookupInSpec.get "a" none] with
    ⟨request, dispatched, hrequest, hdispatched⟩
  refine ⟨request, dispatched, hrequest, hdispatched, ?_⟩
  intro h
  have hreturned := h.returns
  rw [(Memdx.lookupIn_ok hdispatched).2] at hreturned
  have hmatch := (lookupInAnswer_returns_iff rfl).mp hreturned
  have hlength := ((hmatch _ _ rfl rfl).2 (by decide)).2 none rfl
  revert hlength
  decide

end Kv
end CouchbaseSdk
