import CouchbaseSdk.Kv.CoreKvClient
import CouchbaseSdk.Memdx.SubdocRecords
import CouchbaseSdk.Memdx.SubdocRequest

/-!
# Mutations of the client

The specs of extended attributes are sent first, and the results are put back in the order of the
caller's specs.  Which operations have a result, and how many results there are, is the server's.
-/

namespace CouchbaseSdk
namespace Kv

open Foundation
open Memdx (ClientResponse MutateInRequest MutateInResponse MutationToken OpsCrud RequestPacket
  ResFramesFit ResponseContext ResponseError ResponsePacket SubDocResult)

structure MutateInResultEntry where
  value : Option Buffer
deriving DecidableEq

structure MutateInResult where
  cas : UInt64
  mutationToken : Option MutationToken
  entries : List MutateInResultEntry
deriving DecidableEq

def MutateInSpec.reordered (specs : List MutateInSpec) : List (MutateInSpec × Nat) :=
  Memdx.reorderSubdocOps (fun spec => spec.isXattr) specs

def MutateInSpec.entry (_ : MutateInSpec) (result : SubDocResult) : MutateInResultEntry :=
  { value := result.value }

def mutateInResult (specs : List MutateInSpec) (response : MutateInResponse) :
    Exec ResponseError MutateInResult :=
  (Places.placeAll (MutateInSpec.reordered specs) MutateInSpec.entry response.ops).map
    fun entries =>
      { cas := response.cas, mutationToken := response.mutationToken, entries := entries }

/-- The end of a mutation, once there is a response. -/
def mutateInAnswer (overflowChecks : Bool) (durationOf : UInt32 -> Duration)
    (specs : List MutateInSpec) (resp : ClientResponse) : Exec ResponseError MutateInResult :=
  MutateInResponse.tryFrom overflowChecks durationOf resp >>= mutateInResult specs

/-!
# End to end
-/

section Spec

variable (overflowChecks : Bool) (durationOf : UInt32 -> Duration) (specs : List MutateInSpec)
  (dispatched : RequestPacket × Option ResponseContext) (packet : ResponsePacket)

/-- A successful response, with records for some of the operations in any order. -/
structure AnswersMutations (records : List MutateInResponse.Written) : Prop where
  status : packet.status = .success ∨ packet.status = .subDocSuccessDeleted
  value : packet.value.getD [] = records.flatMap MutateInResponse.Written.bytes
  distinct : (records.map MutateInResponse.Written.opIndex).Nodup
  below : forall record, record ∈ records -> record.opIndex.toNat < specs.length
  token : exists token, MutateInResponse.mutationTokenOf packet.extras = .ok token
  frames : exists duration,
    Memdx.readServerDuration overflowChecks durationOf packet = .ok duration

/-- What the server has returned for an operation. -/
def returnedFor (records : List MutateInResponse.Written) (i : Nat) : Option Buffer :=
  (records.find? fun record => record.opIndex.toNat == i).map MutateInResponse.Written.value

/-- The entry of each of the caller's specs has what was returned for its operation. -/
def EntriesOfMutations (records : List MutateInResponse.Written)
    (entries : List MutateInResultEntry) : Prop :=
  entries.length = specs.length ∧
    forall (j : Nat) (spec : MutateInSpec), specs[j]? = some spec ->
      exists i : Nat, (MutateInSpec.reordered specs)[i]? = some (spec, j) ∧
        entries[j]? = some { value := returnedFor records i }

structure MutateInEndToEnd : Prop where
  sent : exists ops, MutateInSpec.toOps ((MutateInSpec.reordered specs).map Prod.fst) = .ok ops ∧
    dispatched.1.value = some (ops.flatMap fun op => (Memdx.mutateInParts op).flatten)
  entries : forall records,
    AnswersMutations overflowChecks durationOf specs packet records ->
      exists answer, mutateInAnswer overflowChecks durationOf specs
          { packet := packet, responseContext := dispatched.2 } = .ok answer ∧
        EntriesOfMutations specs records answer.entries ∧ answer.cas = packet.cas.getD 0
  returns : (mutateInAnswer overflowChecks durationOf specs
    { packet := packet, responseContext := dispatched.2 }).Returns

/-- The numbers of the records at the front of the value. -/
def recordIndexes : List UInt8 :=
  (MutateInResponse.recordsOf packet.value).1.map Prod.fst

/-- A response that can be read fills as many results as there are specs, and in a build with
overflow checks no escape of its frame infos overflows. -/
def ResultsFill : Prop :=
  (packet.status = .success ∨ packet.status = .subDocSuccessDeleted) ->
    (MutateInResponse.recordsOf packet.value).2 = .ok () ->
      forall token, MutateInResponse.mutationTokenOf packet.extras = .ok token ->
        ResFramesFit overflowChecks packet ∧
          forall duration,
            Memdx.readServerDuration overflowChecks durationOf packet = .ok duration ->
              MutateInResponse.FillsExactly specs.length (recordIndexes packet)

/-- The records of a response that names operations of the request are in their order. -/
def RecordsInOrder : Prop :=
  forall records, AnswersMutations overflowChecks durationOf specs packet records ->
    (records.map MutateInResponse.Written.opIndex).Pairwise (· < ·)

end Spec

/-!
# What is sent
-/

theorem map_reordered (specs : List MutateInSpec) :
    (MutateInSpec.reordered specs).map Prod.fst = MutateInSpec.reorder specs := by
  unfold MutateInSpec.reordered Memdx.reorderSubdocOps Places.classes MutateInSpec.reorder
  have hfilter : forall p : MutateInSpec -> Bool,
      (specs.zipIdx.filter fun q => p q.1).map Prod.fst = specs.filter p := by
    intro p
    have hmap : (specs.zipIdx.map Prod.fst).filter p =
        (specs.zipIdx.filter (p ∘ Prod.fst)).map Prod.fst := List.filter_map
    rw [List.zipIdx_map_fst] at hmap
    exact hmap.symm
  rw [List.map_append, hfilter, hfilter fun spec => ! spec.isXattr]

theorem length_toOps {specs : List MutateInSpec} {ops : List Memdx.MutateInOp}
    (h : MutateInSpec.toOps specs = .ok ops) : ops.length = specs.length := by
  induction specs generalizing ops with
  | nil =>
      cases h
      rfl
  | cons spec specs ih =>
      rw [MutateInSpec.toOps] at h
      cases hop : spec.toOp with
      | error e =>
          rw [hop] at h
          cases h
      | ok op =>
          rw [hop] at h
          cases hops : MutateInSpec.toOps specs with
          | error e =>
              rw [hops] at h
              cases h
          | ok rest =>
              rw [hops] at h
              cases h
              rw [List.length_cons, List.length_cons, ih hops]

/-- What the client hands on for a connection. -/
theorem mutateIn_handed {strategy error : Type} {client : CoreKvClient strategy} {now : UInt64}
    {libraryRetryStrategy : strategy} {id : String} {specs : List MutateInSpec}
    {options : MutateInOptions strategy} {crud : Crud.SimpleCrud strategy error}
    (h : mutateIn client now libraryRetryStrategy id specs options = .ok crud)
    (collectionId : UInt32) (vbucketId : UInt16) :
    exists r, crud.operation collectionId vbucketId = .ok (.mutateIn r) ∧
      MutateInSpec.toOps (MutateInSpec.reorder specs) = .ok r.ops ∧
      r.flags = mutateInFlags options.accessDeleted options.storeSemantics ∧
      r.cas = options.cas := by
  unfold mutateIn at h
  cases halive : upgradeAgent client with
  | error e =>
      rw [halive] at h
      cases h
  | ok u =>
      cases hops : MutateInSpec.toOps (MutateInSpec.reorder specs) with
      | error e =>
          rw [halive, hops] at h
          cases h
      | ok ops =>
          cases hexpiry : optionalExpiry now options.expiry with
          | error e =>
              rw [halive, hops, hexpiry] at h
              cases h
          | ok field =>
              rw [halive, hops, hexpiry] at h
              cases h
              exact ⟨_, rfl, rfl, rfl, rfl⟩

/-!
# What a response becomes
-/

section Answer

variable {overflowChecks : Bool} {durationOf : UInt32 -> Duration} {specs : List MutateInSpec}
  {packet : ResponsePacket}

theorem length_reordered (specs : List MutateInSpec) :
    (MutateInSpec.reordered specs).length = specs.length :=
  (Places.stableOrder_classes (fun spec : MutateInSpec => spec.isXattr) specs).length

theorem reordered_places (specs : List MutateInSpec) :
    ((MutateInSpec.reordered specs).map Prod.snd).Perm
      (List.range (MutateInSpec.reordered specs).length) := by
  have hplaces := (Places.stableOrder_classes (fun spec : MutateInSpec => spec.isXattr)
    specs).places
  rw [← length_reordered] at hplaces
  exact hplaces

/-- A response that has succeeded. -/
theorem mutateInAnswer_eq {context : ResponseContext} {info : Memdx.SubdocRequestInfo}
    (hinfo : context.subdocInfo = some info)
    (hstatus : packet.status = .success ∨ packet.status = .subDocSuccessDeleted) :
    exists docIsDeleted, mutateInAnswer overflowChecks durationOf specs
        { packet := packet, responseContext := some context } =
      MutateInResponse.succeeded overflowChecks durationOf info packet docIsDeleted >>=
        mutateInResult specs := by
  unfold mutateInAnswer MutateInResponse.tryFrom
  simp only [Option.bind_some, hinfo]
  rcases hstatus with hstatus | hstatus
  · exact ⟨false, by rw [hstatus]⟩
  · exact ⟨true, by rw [hstatus]⟩

theorem mutateInAnswer_failed {context : ResponseContext} {info : Memdx.SubdocRequestInfo}
    (hinfo : context.subdocInfo = some info)
    (hstatus : ¬ (packet.status = .success ∨ packet.status = .subDocSuccessDeleted)) :
    (mutateInAnswer overflowChecks durationOf specs
      { packet := packet, responseContext := some context }).Returns := by
  unfold mutateInAnswer MutateInResponse.tryFrom
  simp only [Option.bind_some, hinfo]
  split
  · rename_i heq
    exact absurd (Or.inl heq) hstatus
  · rename_i heq
    exact absurd (Or.inr heq) hstatus
  · exact trivial
  · exact trivial

theorem mutateInResult_returns_iff (response : MutateInResponse) :
    (mutateInResult specs response).Returns <-> response.ops.length = specs.length := by
  have hplaced := @Places.placeAll_returns_iff ResponseError _ _ _ _ MutateInSpec.entry
    response.ops (reordered_places specs)
  rw [length_reordered] at hplaced
  rw [← hplaced]
  unfold mutateInResult
  cases Places.placeAll (MutateInSpec.reordered specs) MutateInSpec.entry response.ops with
  | ok entries => exact Iff.rfl
  | err e => exact Iff.rfl
  | panic => exact Iff.rfl

/-- The results with those that are missing at the end. -/
def paddedResults (packet : ResponsePacket) (count : Nat) : List SubDocResult :=
  let results := (MutateInResponse.recordsOf packet.value).1.foldl MutateInResponse.pushRecord []
  results ++ List.replicate (count % 256 - results.length) MutateInResponse.noResult

theorem length_paddedResults (packet : ResponsePacket) (count : Nat) :
    (paddedResults packet count).length = count <->
      MutateInResponse.FillsExactly count (recordIndexes packet) := by
  rw [← MutateInResponse.fillsExactly_iff]
  unfold paddedResults recordIndexes
  rw [List.length_append, List.length_replicate, MutateInResponse.length_foldl]
  exact Iff.rfl

/-- What has succeeded is read part by part. -/
theorem succeeded_eq {info : Memdx.SubdocRequestInfo}
    (hcount : info.opCount = UInt8.ofNat specs.length) (docIsDeleted : Bool) :
    MutateInResponse.succeeded overflowChecks durationOf info packet docIsDeleted =
      (do
        Exec.ofExcept (MutateInResponse.recordsOf packet.value).2
        let token <- Exec.ofExcept (MutateInResponse.mutationTokenOf packet.extras)
        let duration <- Memdx.readServerDuration overflowChecks durationOf packet
        pure
          { cas := packet.cas.getD 0
            ops := paddedResults packet specs.length
            docIsDeleted := docIsDeleted
            mutationToken := token
            serverDuration := duration }) := by
  have hnat : info.opCount.toNat = specs.length % 256 := by
    rw [hcount, UInt8.toNat_ofNat']
  unfold MutateInResponse.succeeded
  rw [MutateInResponse.readRecords_eq, hnat]
  cases (MutateInResponse.recordsOf packet.value).2 with
  | ok _ => rfl
  | error e => rfl

/-- There is no panic if and only if the results fill the list of the specs. -/
theorem mutateInAnswer_returns_iff {context : ResponseContext} {info : Memdx.SubdocRequestInfo}
    (hinfo : context.subdocInfo = some info) (hcount : info.opCount = UInt8.ofNat specs.length) :
    (mutateInAnswer overflowChecks durationOf specs
        { packet := packet, responseContext := some context }).Returns <->
      ResultsFill overflowChecks durationOf specs packet := by
  unfold ResultsFill
  by_cases hstatus : packet.status = .success ∨ packet.status = .subDocSuccessDeleted
  · rcases @mutateInAnswer_eq overflowChecks durationOf specs packet _ _ hinfo hstatus with
      ⟨docIsDeleted, heq⟩
    rw [heq, succeeded_eq hcount, imp_iff_right hstatus]
    cases (MutateInResponse.recordsOf packet.value).2 with
    | error e => exact iff_of_true trivial fun h => by cases h
    | ok _ =>
        rw [imp_iff_right rfl]
        cases MutateInResponse.mutationTokenOf packet.extras with
        | error e => exact iff_of_true trivial fun _ h => by cases h
        | ok token =>
            simp only [Exec.ofExcept_ok, Exec.ok_bind, Except.ok.injEq, forall_eq']
            rw [← Memdx.readServerDuration_returns overflowChecks durationOf packet]
            cases Memdx.readServerDuration overflowChecks durationOf packet with
            | ok duration =>
                rw [Exec.ok_bind, Exec.pure_eq_ok, Exec.ok_bind, mutateInResult_returns_iff,
                  length_paddedResults]
                simp
            | err e => exact iff_of_true trivial ⟨trivial, fun _ h => by cases h⟩
            | panic => exact iff_of_false id fun h => h.1
  · exact iff_of_true (mutateInAnswer_failed hinfo hstatus) fun h => absurd h hstatus

/-!
# The entries
-/

/-- The entries are right if and only if the results are, in the order sent. -/
theorem entriesOfMutations_iff {response : MutateInResponse}
    (hlength : response.ops.length = specs.length) (records : List MutateInResponse.Written) :
    exists answer, mutateInResult specs response = .ok answer ∧ answer.cas = response.cas ∧
      (EntriesOfMutations specs records answer.entries <->
        forall (i : Nat) (result : SubDocResult), response.ops[i]? = some result ->
          result.value = returnedFor records i) := by
  rcases Places.placeAll_ok (reordered_places specs)
    (hlength.trans (length_reordered specs).symm) with ⟨entries, hplaced, hentries⟩
  refine ⟨{ cas := response.cas, mutationToken := response.mutationToken, entries := entries },
    ?_, rfl, ?_⟩
  · unfold mutateInResult
    rw [hplaced]
    rfl
  · have hmem : forall {spec : MutateInSpec} {j : Nat},
        (spec, j) ∈ MutateInSpec.reordered specs <-> specs[j]? = some spec :=
      (Places.stableOrder_classes (fun spec : MutateInSpec => spec.isXattr) specs).mem_iff
    constructor
    · rintro ⟨_, hright⟩ i result hresult
      have hi : i < (MutateInSpec.reordered specs).length := by
        rw [length_reordered, ← hlength]
        exact (List.getElem?_eq_some_iff.mp hresult).1
      have hspec := List.getElem?_eq_getElem hi
      rcases hright _ _ (hmem.mp (List.getElem_mem hi)) with ⟨i', hi', hentry⟩
      have hsame : i' = i := Places.index_unique (reordered_places specs) hi' hspec
      have hplace := hentries.entry i _ _ result hspec hresult
      rw [hsame, hplace] at hentry
      exact congrArg MutateInResultEntry.value (Option.some.inj hentry)
    · intro hright
      refine ⟨hentries.length.trans (length_reordered specs), ?_⟩
      intro j spec hspec
      rcases List.getElem?_of_mem (hmem.mpr hspec) with ⟨i, hi⟩
      have hlt : i < response.ops.length := by
        rw [hlength, ← length_reordered]
        exact (List.getElem?_eq_some_iff.mp hi).1
      have hresult := List.getElem?_eq_getElem hlt
      refine ⟨i, hi, ?_⟩
      rw [hentries.entry i spec j _ hi hresult, MutateInSpec.entry, hright i _ hresult]

theorem err_foldl {results : List SubDocResult} (records : List (UInt8 × Buffer))
    (h : forall result, result ∈ results -> result.err = none) :
    forall result, result ∈ records.foldl MutateInResponse.pushRecord results ->
      result.err = none := by
  induction records generalizing results with
  | nil => exact h
  | cons record records ih =>
      apply ih
      intro result hmem
      rw [MutateInResponse.pushRecord_eq, List.mem_append, List.mem_append] at hmem
      rcases hmem with hold | hempty | hpushed
      · exact h result hold
      · rw [(List.mem_replicate.mp hempty).2]
        rfl
      · rw [List.mem_singleton.mp hpushed]
        rfl

theorem returnedFor_of_mem {records : List MutateInResponse.Written}
    (hdistinct : (records.map MutateInResponse.Written.opIndex).Nodup)
    {record : MutateInResponse.Written} (hmem : record ∈ records) :
    returnedFor records record.opIndex.toNat = some record.value := by
  induction records with
  | nil => cases hmem
  | cons first records ih =>
      rw [List.map_cons, List.nodup_cons] at hdistinct
      unfold returnedFor
      rcases List.mem_cons.mp hmem with rfl | hmem
      · rw [List.find?_cons_of_pos (by simp)]
        rfl
      · rw [List.find?_cons_of_neg, ← ih hdistinct.2 hmem]
        · rfl
        · rw [beq_iff_eq]
          intro hsame
          apply hdistinct.1
          rw [UInt8.toNat_inj.mp hsame]
          exact List.mem_map_of_mem hmem

theorem returnedFor_none {records : List MutateInResponse.Written} {i : Nat}
    (h : forall record, record ∈ records -> record.opIndex.toNat ≠ i) :
    returnedFor records i = none := by
  unfold returnedFor
  rw [List.find?_eq_none.mpr]
  · rfl
  · intro record hmem
    rw [beq_iff_eq]
    exact h record hmem

/-- The results of written records. -/
def resultsOf (records : List MutateInResponse.Written) : List SubDocResult :=
  (records.map MutateInResponse.Written.read).foldl MutateInResponse.pushRecord []

/-- Behind the results of the records nothing is there. -/
theorem getElem?_paddedResults {records : List MutateInResponse.Written}
    (hvalue : packet.value.getD [] = records.flatMap MutateInResponse.Written.bytes)
    {count i : Nat} {result : SubDocResult} (h : (paddedResults packet count)[i]? = some result) :
    (resultsOf records)[i]? = some result ∨
      (resultsOf records).length ≤ i ∧ result = MutateInResponse.noResult := by
  unfold paddedResults at h
  rw [MutateInResponse.recordsOf_bytes hvalue] at h
  change (resultsOf records ++ List.replicate _ _)[i]? = some result at h
  by_cases hi : i < (resultsOf records).length
  · rw [List.getElem?_append_left hi] at h
    exact Or.inl h
  · have hle := Nat.le_of_not_lt hi
    rw [List.getElem?_append_right hle] at h
    exact Or.inr ⟨hle, List.eq_of_mem_replicate (List.mem_of_getElem? h)⟩

theorem map_read (records : List MutateInResponse.Written) :
    (records.map MutateInResponse.Written.read).map Prod.fst =
      records.map MutateInResponse.Written.opIndex := by
  rw [List.map_map]
  rfl

theorem recordIndexes_eq {records : List MutateInResponse.Written}
    (hvalue : packet.value.getD [] = records.flatMap MutateInResponse.Written.bytes) :
    recordIndexes packet = records.map MutateInResponse.Written.opIndex := by
  unfold recordIndexes
  rw [MutateInResponse.recordsOf_bytes hvalue, map_read]

theorem increasing_of_sorted {records : List MutateInResponse.Written}
    (hsorted : (records.map MutateInResponse.Written.opIndex).Pairwise (· < ·)) :
    MutateInResponse.Increasing [] (records.map MutateInResponse.Written.read) :=
  ⟨fun _ _ => Nat.zero_le _, by rwa [map_read]⟩

theorem results_right_of_sorted {records : List MutateInResponse.Written}
    (hdistinct : (records.map MutateInResponse.Written.opIndex).Nodup)
    (hsorted : (records.map MutateInResponse.Written.opIndex).Pairwise (· < ·)) {i : Nat}
    {result : SubDocResult} (h : (resultsOf records)[i]? = some result) :
    result.value = returnedFor records i := by
  have hincreasing := increasing_of_sorted hsorted
  by_cases hany : exists record, record ∈ records ∧ record.opIndex.toNat = i
  · rcases hany with ⟨record, hmem, rfl⟩
    have hpresent := MutateInResponse.getElem?_of_increasing hincreasing
      (List.mem_map_of_mem hmem)
    change (resultsOf records)[record.opIndex.toNat]? = _ at hpresent
    rw [h] at hpresent
    rw [Option.some.inj hpresent, returnedFor_of_mem hdistinct hmem]
    rfl
  · have hother : forall record, record ∈ records -> record.opIndex.toNat ≠ i :=
      fun record hmem hsame => hany ⟨record, hmem, hsame⟩
    have hempty := MutateInResponse.getElem?_other hincreasing (Nat.zero_le i) (by
      intro record hmem
      rcases List.mem_map.mp hmem with ⟨written, hwritten, rfl⟩
      exact hother written hwritten) (List.getElem?_eq_some_iff.mp h).1
    change (resultsOf records)[i]? = _ at hempty
    rw [h] at hempty
    rw [Option.some.inj hempty, returnedFor_none hother]
    rfl

/-- The results are right if and only if the numbers of the records increase. -/
theorem results_right_iff {records : List MutateInResponse.Written}
    (hdistinct : (records.map MutateInResponse.Written.opIndex).Nodup)
    (hvalue : packet.value.getD [] = records.flatMap MutateInResponse.Written.bytes)
    {count : Nat} (hbelow : forall record, record ∈ records -> record.opIndex.toNat < count)
    (hlength : (paddedResults packet count).length = count) :
    (forall (i : Nat) (result : SubDocResult), (paddedResults packet count)[i]? = some result ->
        result.value = returnedFor records i) <->
      (records.map MutateInResponse.Written.opIndex).Pairwise (· < ·) := by
  constructor
  · intro hright
    have hincreasing : MutateInResponse.Increasing []
        (records.map MutateInResponse.Written.read) := by
      apply MutateInResponse.increasing_of_present
      · rwa [map_read]
      · intro record _ h
        cases h
      · intro record hmem
        rcases List.mem_map.mp hmem with ⟨written, hwritten, rfl⟩
        have hlt : written.opIndex.toNat < (paddedResults packet count).length := by
          rw [hlength]
          exact hbelow written hwritten
        have hget := List.getElem?_eq_getElem hlt
        generalize (paddedResults packet count)[written.opIndex.toNat] = result at hget
        have hresult := hright _ _ hget
        rw [returnedFor_of_mem hdistinct hwritten] at hresult
        rcases getElem?_paddedResults hvalue hget with hfound | ⟨_, hempty⟩
        · have herr := err_foldl (records.map MutateInResponse.Written.read)
            (fun result h => absurd h List.not_mem_nil) _ (List.mem_of_getElem? hfound)
          refine hfound.trans (congrArg some ?_)
          cases result
          dsimp only at hresult herr
          rw [hresult, herr]
          rfl
        · rw [hempty] at hresult
          cases hresult
    rw [← map_read]
    exact hincreasing.2
  · intro hsorted i result h
    rcases getElem?_paddedResults hvalue h with hfound | ⟨hle, rfl⟩
    · exact results_right_of_sorted hdistinct hsorted hfound
    · rw [returnedFor_none]
      · rfl
      · intro record hmem hsame
        have hpresent := MutateInResponse.getElem?_of_increasing (increasing_of_sorted hsorted)
          (List.mem_map_of_mem hmem)
        have hlt := (List.getElem?_eq_some_iff.mp hpresent).1
        exact absurd (hsame ▸ hle) (Nat.not_le.mpr hlt)

/-- The answer to a successful response has the results of its records. -/
theorem mutateInAnswer_of_answers {context : ResponseContext} {info : Memdx.SubdocRequestInfo}
    (hinfo : context.subdocInfo = some info) (hcount : info.opCount = UInt8.ofNat specs.length)
    {records : List MutateInResponse.Written}
    (hanswers : AnswersMutations overflowChecks durationOf specs packet records)
    (hfill : ResultsFill overflowChecks durationOf specs packet) :
    (paddedResults packet specs.length).length = specs.length ∧
      exists response : MutateInResponse, response.ops = paddedResults packet specs.length ∧
        response.cas = packet.cas.getD 0 ∧
          mutateInAnswer overflowChecks durationOf specs
            { packet := packet, responseContext := some context } =
              mutateInResult specs response := by
  have hended : (MutateInResponse.recordsOf packet.value).2 = .ok () := by
    rw [MutateInResponse.recordsOf_bytes hanswers.value]
  rcases hanswers.token with ⟨token, htoken⟩
  rcases hanswers.frames with ⟨duration, hduration⟩
  have hexact := (hfill hanswers.status hended token htoken).2 duration hduration
  rcases @mutateInAnswer_eq overflowChecks durationOf specs packet _ _ hinfo hanswers.status with
    ⟨docIsDeleted, heq⟩
  refine ⟨(length_paddedResults packet specs.length).mpr hexact,
    { cas := packet.cas.getD 0, ops := paddedResults packet specs.length
      docIsDeleted := docIsDeleted, mutationToken := token, serverDuration := duration },
    rfl, rfl, ?_⟩
  rw [heq, succeeded_eq hcount, hended, htoken, hduration]
  rfl

end Answer

/-!
# When a mutation is right
-/

/-- What is dispatched, and what is kept for the response. -/
theorem dispatched_of_handed {strategy error : Type} {client : CoreKvClient strategy}
    {now : UInt64} {libraryRetryStrategy : strategy} {id : String} {specs : List MutateInSpec}
    {options : MutateInOptions strategy} {crud : Crud.SimpleCrud strategy error}
    {collectionId : UInt32} {vbucketId : UInt16} {request : MutateInRequest} {ops : OpsCrud}
    {dispatched : RequestPacket × Option ResponseContext}
    (hhanded : mutateIn client now libraryRetryStrategy id specs options = .ok crud)
    (hrequest : crud.operation collectionId vbucketId = .ok (.mutateIn request))
    (hdispatched : Memdx.mutateIn ops request = .ok dispatched) :
    (exists ops, MutateInSpec.toOps ((MutateInSpec.reordered specs).map Prod.fst) = .ok ops ∧
      dispatched.1.value = some (ops.flatMap fun op => (Memdx.mutateInParts op).flatten)) ∧
    exists context info, dispatched.2 = some context ∧ context.subdocInfo = some info ∧
      info.opCount = UInt8.ofNat specs.length := by
  have hops : MutateInSpec.toOps ((MutateInSpec.reordered specs).map Prod.fst) =
      .ok request.ops := by
    rcases mutateIn_handed hhanded collectionId vbucketId with ⟨r, hr, hops, _⟩
    cases hrequest.symm.trans hr
    rw [map_reordered]
    exact hops
  rcases Memdx.mutateIn_ok hdispatched with ⟨hvalue, hkept⟩
  refine ⟨⟨request.ops, hops, hvalue⟩, _, _, hkept, rfl, ?_⟩
  change UInt8.ofNat request.ops.length = UInt8.ofNat specs.length
  rw [length_toOps hops, List.length_map, length_reordered]

/-- A mutation is right, for whatever the server answers, if and only if the records of the answer
are in the order of the operations and fill as many results as there are specs, or the answer is an
error. -/
theorem mutate_in_end_to_end_iff (overflowChecks : Bool) (durationOf : UInt32 -> Duration)
    {strategy error : Type} {client : CoreKvClient strategy} {now : UInt64}
    {libraryRetryStrategy : strategy} {id : String} {specs : List MutateInSpec}
    {options : MutateInOptions strategy} {crud : Crud.SimpleCrud strategy error}
    {collectionId : UInt32} {vbucketId : UInt16} {request : MutateInRequest} {ops : OpsCrud}
    {dispatched : RequestPacket × Option ResponseContext}
    (hhanded : mutateIn client now libraryRetryStrategy id specs options = .ok crud)
    (hrequest : crud.operation collectionId vbucketId = .ok (.mutateIn request))
    (hdispatched : Memdx.mutateIn ops request = .ok dispatched) (packet : ResponsePacket) :
    MutateInEndToEnd overflowChecks durationOf specs dispatched packet <->
      ResultsFill overflowChecks durationOf specs packet ∧
        RecordsInOrder overflowChecks durationOf specs packet := by
  rcases dispatched_of_handed hhanded hrequest hdispatched with
    ⟨hsent, context, info, hcontext, hinfo, hopCount⟩
  constructor
  · intro h
    have hreturned := h.returns
    rw [hcontext] at hreturned
    have hfill := (mutateInAnswer_returns_iff hinfo hopCount).mp hreturned
    refine ⟨hfill, ?_⟩
    intro records hanswers
    rcases mutateInAnswer_of_answers hinfo hopCount hanswers hfill with
      ⟨hlength, response, hresults, _, heq⟩
    rcases h.entries records hanswers with ⟨answer, hanswer, hentries, _⟩
    rw [hcontext, heq] at hanswer
    rcases entriesOfMutations_iff (hresults ▸ hlength) records with
      ⟨answer', hanswer', _, hright⟩
    cases hanswer.symm.trans hanswer'
    rw [hresults] at hright
    exact (results_right_iff hanswers.distinct hanswers.value hanswers.below hlength).mp
      (hright.mp hentries)
  · rintro ⟨hfill, horder⟩
    constructor
    · exact hsent
    · intro records hanswers
      rcases mutateInAnswer_of_answers hinfo hopCount hanswers hfill with
        ⟨hlength, response, hresults, hcas, heq⟩
      rcases entriesOfMutations_iff (hresults ▸ hlength) records with
        ⟨answer, hanswer, hcas', hright⟩
      rw [hresults] at hright
      rw [hcontext, heq]
      refine ⟨answer, hanswer, hright.mpr ?_, hcas'.trans hcas⟩
      exact (results_right_iff hanswers.distinct hanswers.value hanswers.below hlength).mpr
        (horder records hanswers)
    · rw [hcontext]
      exact (mutateInAnswer_returns_iff hinfo hopCount).mpr hfill

/-- A response with these records to a mutation that has succeeded. -/
def mutated (records : List MutateInResponse.Written) : ResponsePacket :=
  { magic := .res
    opCode := .subDocMultiMutation
    datatype := 0
    status := .success
    opaqueId := 1
    cas := some 7
    value := some (records.flatMap MutateInResponse.Written.bytes) }

theorem oneByte_lt : ([0x31] : Buffer).length < 2 ^ 32 := by decide

/-- A record with the value 1. -/
def numberedOne (opIndex : UInt8) : MutateInResponse.Written :=
  { opIndex := opIndex, value := [0x31], valueLt := oneByte_lt }

def counterAt (path : String) : MutateInSpec :=
  { op := .counter
    path := path
    value := [0x31]
    createPath := false
    isXattr := false
    expandMacros := false }

def twoCounters : List MutateInSpec := [counterAt "a", counterAt "b"]

/-- The client of the default collection. -/
def counterClient : CoreKvClient Unit :=
  { agentAlive := true
    scopeName := "_default"
    collectionName := "_default"
    defaultRetryStrategy := () }

theorem mutation_dispatched :
    exists (crud : Crud.SimpleCrud Unit Empty) (request : MutateInRequest)
      (dispatched : RequestPacket × Option ResponseContext),
      mutateIn counterClient 0 () "k" twoCounters {} = .ok crud ∧
        crud.operation 0 12 = .ok (.mutateIn request) ∧
          Memdx.mutateIn (Memdx.collectionsOps false) request = .ok dispatched := by
  have hdispatched : forall ops, exists dispatched, Memdx.mutateIn (Memdx.collectionsOps false)
      { collectionId := 0, key := asBytes "k", vbucketId := 12, flags := 0, ops := ops
        expiry := none, preserveExpiry := none, cas := none, onBehalfOf := none
        durabilityLevel := none, durabilityLevelTimeout := none } = .ok dispatched := by
    intro ops
    unfold Memdx.mutateIn
    rw [Memdx.mutateInValue_eq]
    exact ⟨_, rfl⟩
  rcases hdispatched ([counterAt "a", counterAt "b"].map fun spec =>
    { op := .counter, flags := spec.opFlags, path := asBytes spec.path, value := spec.value }) with
    ⟨dispatched, h⟩
  exact ⟨_, _, dispatched, rfl, rfl, h⟩

theorem mutate_in_two_counters :
    exists (crud : Crud.SimpleCrud Unit Empty) (request : MutateInRequest)
      (dispatched : RequestPacket × Option ResponseContext),
      mutateIn counterClient 0 () "k" twoCounters {} = .ok crud ∧
        crud.operation 0 12 = .ok (.mutateIn request) ∧
          Memdx.mutateIn (Memdx.collectionsOps false) request = .ok dispatched ∧
            MutateInEndToEnd true (fun _ => Duration.fromSecs 0) twoCounters dispatched
              (mutated [numberedOne 0, numberedOne 1]) := by
  rcases mutation_dispatched with ⟨crud, request, dispatched, hhanded, hrequest, hdispatched⟩
  refine ⟨crud, request, dispatched, hhanded, hrequest, hdispatched,
    (mutate_in_end_to_end_iff true _ hhanded hrequest hdispatched _).mpr ⟨?_, ?_⟩⟩
  · intro _ _ token _
    refine ⟨fun _ f hf => ?_, fun duration _ => ?_⟩
    · cases hf
    · change MutateInResponse.FillsExactly 2 _
      unfold MutateInResponse.FillsExactly
      rw [if_pos (by decide)]
      exact ⟨by decide, by decide, trivial⟩
  · intro records hanswers
    rw [← recordIndexes_eq hanswers.value]
    decide

/-- The records come the other way round. -/
theorem not_mutate_in_out_of_order :
    exists (crud : Crud.SimpleCrud Unit Empty) (request : MutateInRequest)
      (dispatched : RequestPacket × Option ResponseContext),
      mutateIn counterClient 0 () "k" twoCounters {} = .ok crud ∧
        crud.operation 0 12 = .ok (.mutateIn request) ∧
          Memdx.mutateIn (Memdx.collectionsOps false) request = .ok dispatched ∧
            ¬ MutateInEndToEnd false (fun _ => Duration.fromSecs 0) twoCounters dispatched
              (mutated [numberedOne 1, numberedOne 0]) := by
  rcases mutation_dispatched with ⟨crud, request, dispatched, hhanded, hrequest, hdispatched⟩
  refine ⟨crud, request, dispatched, hhanded, hrequest, hdispatched, ?_⟩
  intro h
  rcases dispatched_of_handed hhanded hrequest hdispatched with
    ⟨_, context, info, hcontext, hinfo, hopCount⟩
  have hreturned := h.returns
  rw [hcontext] at hreturned
  have hfill := (mutateInAnswer_returns_iff hinfo hopCount).mp hreturned
  have hexact := (hfill (Or.inl rfl) (by decide) none rfl).2 none rfl
  change MutateInResponse.FillsExactly 2 _ at hexact
  unfold MutateInResponse.FillsExactly at hexact
  rw [if_pos (by decide)] at hexact
  exact absurd hexact.1 (by decide)

end Kv
end CouchbaseSdk
