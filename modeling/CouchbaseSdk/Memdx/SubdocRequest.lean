import CouchbaseSdk.Foundation.Records
import CouchbaseSdk.Memdx.Codec
import CouchbaseSdk.Memdx.ReqExtFrames
import CouchbaseSdk.Memdx.Subdoc

/-!
# Sub-document requests

The value of a sub-document request has one record for each operation.  Lengths and the number of
operations are narrowed to the fields that they are sent in.
-/

namespace CouchbaseSdk
namespace Memdx

open Foundation

structure LookupInRequest where
  collectionId : UInt32
  key : Buffer
  vbucketId : UInt16
  flags : SubdocDocFlag
  ops : List LookupInOp
  onBehalfOf : Option Buffer
deriving DecidableEq

structure MutateInRequest where
  collectionId : UInt32
  key : Buffer
  vbucketId : UInt16
  flags : SubdocDocFlag
  ops : List MutateInOp
  expiry : Option UInt32
  preserveExpiry : Option Bool
  cas : Option UInt64
  onBehalfOf : Option Buffer
  durabilityLevel : Option DurabilityLevel
  durabilityLevelTimeout : Option Duration
deriving DecidableEq

/-- The buffer for frame infos. -/
def extFrameBuf : Buffer := List.replicate 128 0

/-- The magic and the frame infos. -/
def framingExtras (encoded : Except Error (Magic × Nat) × Buffer) :
    Exec Error (Magic × Option Buffer) :=
  match encoded with
  | (.error e, _) => .err e
  | (.ok (magic, used), buf) => .ok (magic, if 0 < used then some (buf.take used) else none)

/-!
# Lookups
-/

def writeLookupInOp (valueIter : Nat) (op : LookupInOp) (valueBuf : Buffer) :
    Exec Error Buffer := do
  let valueBuf <- Slice.write valueIter [op.op.toOpCode.toU8] valueBuf
  let valueBuf <- Slice.write (valueIter + 1) [op.flags] valueBuf
  let valueBuf <- Slice.write (valueIter + 2)
    (beBytes 2 (UInt16.ofNat op.path.length).toNat) valueBuf
  Slice.write (valueIter + 4) op.path valueBuf

def lookupInOpSize (op : LookupInOp) : Nat := 4 + op.path.length

def lookupInValue (ops : List LookupInOp) : Exec Error Buffer :=
  let pathBytesTotal := (ops.map fun op => op.path.length).sum
  Records.write writeLookupInOp lookupInOpSize 0 ops
    (List.replicate (ops.length * 4 + pathBytesTotal) 0)

/-- The packet that is dispatched, and what is kept for its response. -/
def lookupIn (crud : OpsCrud) (request : LookupInRequest) :
    Exec Error (RequestPacket × Option ResponseContext) := do
  let (magic, framingExtras) <- framingExtras
    (encodeReqExtFrames crud none none none request.onBehalfOf extFrameBuf)
  let key <- encodeCollectionAndKey crud request.collectionId request.key keyBuf
  let value <- lookupInValue request.ops
  let packet : RequestPacket :=
    { magic := magic
      opCode := .subDocMultiLookup
      datatype := 0
      vbucketId := some request.vbucketId
      cas := none
      extras := some (if request.flags = 0 then [] else [request.flags])
      key := some key
      value := some value
      framingExtras := framingExtras
      opaqueId := none }
  pure (packet, some
    { cas := packet.cas
      subdocInfo := some { flags := request.flags, opCount := UInt8.ofNat request.ops.length }
      scopeName := none
      collectionName := none })

/-!
# Mutations
-/

def writeMutateInOp (valueIter : Nat) (op : MutateInOp) (valueBuf : Buffer) :
    Exec Error Buffer := do
  let valueBuf <- Slice.write valueIter [op.op.toOpCode.toU8] valueBuf
  let valueBuf <- Slice.write (valueIter + 1) [op.flags] valueBuf
  let valueBuf <- Slice.write (valueIter + 2)
    (beBytes 2 (UInt16.ofNat op.path.length).toNat) valueBuf
  let valueBuf <- Slice.write (valueIter + 4)
    (beBytes 4 (UInt32.ofNat op.value.length).toNat) valueBuf
  let valueBuf <- Slice.write (valueIter + 8) op.path valueBuf
  Slice.write (valueIter + 8 + op.path.length) op.value valueBuf

def mutateInOpSize (op : MutateInOp) : Nat := 8 + op.path.length + op.value.length

def mutateInValue (ops : List MutateInOp) : Exec Error Buffer :=
  let pathBytesTotal := (ops.map fun op => op.path.length).sum
  let valueBytesTotal := (ops.map fun op => op.value.length).sum
  Records.write writeMutateInOp mutateInOpSize 0 ops
    (List.replicate (ops.length * 8 + pathBytesTotal + valueBytesTotal) 0)

def mutateIn (crud : OpsCrud) (request : MutateInRequest) :
    Exec Error (RequestPacket × Option ResponseContext) :=
  if request.expiry.isSome && request.preserveExpiry.isSome then
    .err (.invalidArgument "cannot specify expiry and preserve expiry together" none)
  else do
    let (magic, framingExtras) <- framingExtras
      (encodeReqExtFrames crud request.durabilityLevel request.durabilityLevelTimeout
        request.preserveExpiry request.onBehalfOf extFrameBuf)
    let key <- encodeCollectionAndKey crud request.collectionId request.key keyBuf
    let value <- mutateInValue request.ops
    let expiry := beBytes 4 (request.expiry.getD 0).toNat
    let packet : RequestPacket :=
      { magic := magic
        opCode := .subDocMultiMutation
        datatype := 0
        vbucketId := some request.vbucketId
        cas := request.cas
        extras := some (if request.flags = 0 then expiry else expiry ++ [request.flags])
        key := some key
        value := some value
        framingExtras := framingExtras
        opaqueId := none }
    pure (packet, some
      { cas := request.cas
        subdocInfo := some { flags := request.flags, opCount := UInt8.ofNat request.ops.length }
        scopeName := none
        collectionName := none })

/-!
# The records of the protocol
-/

def readLookupInOp : Buffer -> Option (LookupInOp × Buffer)
  | code :: flags :: high :: low :: rest =>
      let pathLen := beNat [high, low]
      if rest.length < pathLen then none
      else (LookupInOpType.ofU8 code).map fun op =>
        ({ op := op, flags := flags, path := rest.take pathLen }, rest.drop pathLen)
  | _ => none

def readMutateInOp : Buffer -> Option (MutateInOp × Buffer)
  | code :: flags :: p1 :: p0 :: v3 :: v2 :: v1 :: v0 :: rest =>
      let pathLen := beNat [p1, p0]
      let valueLen := beNat [v3, v2, v1, v0]
      if rest.length < pathLen + valueLen then none
      else (MutateInOpType.ofU8 code).map fun op =>
        ({ op := op, flags := flags, path := rest.take pathLen
           value := (rest.drop pathLen).take valueLen }, rest.drop (pathLen + valueLen))
  | _ => none

/-- The operations are read off the value, and their number is kept for the response. -/
def Recovers {op : Type} (readOne : Buffer -> Option (op × Buffer)) (ops : List op)
    (dispatched : RequestPacket × Option ResponseContext) : Prop :=
  (exists value, dispatched.1.value = some value ∧ Records.Reads readOne value ops) ∧
  exists context info, dispatched.2 = some context ∧ context.subdocInfo = some info ∧
    info.opCount.toNat = ops.length

/-!
# What is written
-/

def lookupInParts (op : LookupInOp) : List Buffer :=
  [[op.op.toOpCode.toU8], [op.flags], beBytes 2 (UInt16.ofNat op.path.length).toNat, op.path]

def mutateInParts (op : MutateInOp) : List Buffer :=
  [[op.op.toOpCode.toU8], [op.flags], beBytes 2 (UInt16.ofNat op.path.length).toNat,
    beBytes 4 (UInt32.ofNat op.value.length).toNat, op.path, op.value]

theorem lookupInOpSize_eq (op : LookupInOp) :
    lookupInOpSize op = (lookupInParts op).flatten.length := by
  simp [lookupInOpSize, lookupInParts]
  omega

theorem mutateInOpSize_eq (op : MutateInOp) :
    mutateInOpSize op = (mutateInParts op).flatten.length := by
  simp [mutateInOpSize, mutateInParts]
  omega

theorem writeLookupInOp_eq (valueIter : Nat) (op : LookupInOp) (valueBuf : Buffer) :
    writeLookupInOp valueIter op valueBuf =
      Slice.writeParts valueIter (lookupInParts op) valueBuf := by
  simp [writeLookupInOp, lookupInParts, Slice.writeParts, Slice.write_bind_ok, Nat.add_assoc]

theorem writeMutateInOp_eq (valueIter : Nat) (op : MutateInOp) (valueBuf : Buffer) :
    writeMutateInOp valueIter op valueBuf =
      Slice.writeParts valueIter (mutateInParts op) valueBuf := by
  simp [writeMutateInOp, mutateInParts, Slice.writeParts, Slice.write_bind_ok, Nat.add_assoc]

theorem writes_lookupInOp :
    Records.Writes writeLookupInOp fun op => (lookupInParts op).flatten := by
  intro op pre tail hroom
  rw [writeLookupInOp_eq]
  exact Slice.writeParts_append pre hroom

theorem writes_mutateInOp :
    Records.Writes writeMutateInOp fun op => (mutateInParts op).flatten := by
  intro op pre tail hroom
  rw [writeMutateInOp_eq]
  exact Slice.writeParts_append pre hroom

theorem lookupIn_reserved (ops : List LookupInOp) :
    ops.length * 4 + (ops.map fun op => op.path.length).sum =
      Records.totalSize lookupInOpSize ops := by
  induction ops with
  | nil => rfl
  | cons op ops ih =>
      simp only [Records.totalSize, lookupInOpSize, List.map_cons, List.sum_cons,
        List.length_cons] at ih ⊢
      omega

theorem mutateIn_reserved (ops : List MutateInOp) :
    ops.length * 8 + (ops.map fun op => op.path.length).sum +
      (ops.map fun op => op.value.length).sum = Records.totalSize mutateInOpSize ops := by
  induction ops with
  | nil => rfl
  | cons op ops ih =>
      simp only [Records.totalSize, mutateInOpSize, List.map_cons, List.sum_cons,
        List.length_cons] at ih ⊢
      omega

theorem lookupInValue_eq (ops : List LookupInOp) :
    lookupInValue ops = .ok (ops.flatMap fun op => (lookupInParts op).flatten) := by
  rw [lookupInValue, lookupIn_reserved]
  exact Records.write_reserved writes_lookupInOp lookupInOpSize_eq ops 0

theorem mutateInValue_eq (ops : List MutateInOp) :
    mutateInValue ops = .ok (ops.flatMap fun op => (mutateInParts op).flatten) := by
  rw [mutateInValue, mutateIn_reserved]
  exact Records.write_reserved writes_mutateInOp mutateInOpSize_eq ops 0

/-!
# What is read
-/

theorem beNat_narrowed {n : Nat} (h : n < 2 ^ 16) :
    beNat (beBytes 2 (UInt16.ofNat n).toNat) = n := by
  rw [beNat_beBytes, UInt16.toNat_ofNat', Nat.mod_eq_of_lt h]
  exact Nat.mod_eq_of_lt h

theorem beNat_narrowed32 {n : Nat} (h : n < 2 ^ 32) :
    beNat (beBytes 4 (UInt32.ofNat n).toNat) = n := by
  rw [beNat_beBytes, UInt32.toNat_ofNat', Nat.mod_eq_of_lt h]
  exact Nat.mod_eq_of_lt h

theorem readLookupInOp_parts {op : LookupInOp} (hpath : op.path.length < 2 ^ 16)
    (rest : Buffer) :
    readLookupInOp ((lookupInParts op).flatten ++ rest) = some (op, rest) := by
  have hlen := beNat_narrowed hpath
  unfold lookupInParts
  simp only [beBytes, List.flatten_cons, List.flatten_nil, List.cons_append, List.nil_append,
    List.append_nil] at hlen ⊢
  unfold readLookupInOp
  dsimp only
  rw [hlen, if_neg (by simp), LookupInOpType.ofU8_toU8, Option.map_some, List.take_left,
    List.drop_left]

theorem readMutateInOp_parts {op : MutateInOp} (hpath : op.path.length < 2 ^ 16)
    (hvalue : op.value.length < 2 ^ 32) (rest : Buffer) :
    readMutateInOp ((mutateInParts op).flatten ++ rest) = some (op, rest) := by
  have hlen := beNat_narrowed hpath
  have hvalueLen := beNat_narrowed32 hvalue
  unfold mutateInParts
  simp only [beBytes, List.flatten_cons, List.flatten_nil, List.cons_append, List.nil_append,
    List.append_nil, List.append_assoc] at hlen hvalueLen ⊢
  unfold readMutateInOp
  dsimp only
  rw [hlen, hvalueLen, if_neg (by simp), MutateInOpType.ofU8_toU8, Option.map_some,
    List.take_left, List.drop_left, List.take_left, ← List.append_assoc, ← List.length_append,
    List.drop_left]

theorem readLookupInOp_narrow {buf rest : Buffer} {op : LookupInOp}
    (h : readLookupInOp buf = some (op, rest)) : op.path.length < 2 ^ 16 := by
  unfold readLookupInOp at h
  split at h
  · next code flags high low more =>
      dsimp only at h
      split at h
      · cases h
      · rcases Option.map_eq_some_iff.mp h with ⟨opType, -, heq⟩
        cases heq
        have hlt : beNat [high, low] < 2 ^ 16 := by simpa using beNat_lt [high, low]
        exact Nat.lt_of_le_of_lt (List.length_take_le _ _) hlt
  · cases h

theorem readMutateInOp_narrow {buf rest : Buffer} {op : MutateInOp}
    (h : readMutateInOp buf = some (op, rest)) :
    op.path.length < 2 ^ 16 ∧ op.value.length < 2 ^ 32 := by
  unfold readMutateInOp at h
  split at h
  · next code flags p1 p0 v3 v2 v1 v0 more =>
      dsimp only at h
      split at h
      · cases h
      · rcases Option.map_eq_some_iff.mp h with ⟨opType, -, heq⟩
        cases heq
        have hpath : beNat [p1, p0] < 2 ^ 16 := by simpa using beNat_lt [p1, p0]
        have hvalue : beNat [v3, v2, v1, v0] < 2 ^ 32 := by
          simpa using beNat_lt [v3, v2, v1, v0]
        exact ⟨Nat.lt_of_le_of_lt (List.length_take_le _ _) hpath,
          Nat.lt_of_le_of_lt (List.length_take_le _ _) hvalue⟩
  · cases h

theorem lookupIn_reads_iff (ops : List LookupInOp) :
    Records.Reads readLookupInOp (ops.flatMap fun op => (lookupInParts op).flatten) ops <->
      forall op, op ∈ ops -> op.path.length < 2 ^ 16 := by
  constructor
  · intro h
    exact Records.forall_of_reads (fun _ _ _ => readLookupInOp_narrow) h
  · intro h
    apply Records.reads_flatMap
    intro op hmem
    exact readLookupInOp_parts (h op hmem)

theorem mutateIn_reads_iff (ops : List MutateInOp) :
    Records.Reads readMutateInOp (ops.flatMap fun op => (mutateInParts op).flatten) ops <->
      forall op, op ∈ ops -> op.path.length < 2 ^ 16 ∧ op.value.length < 2 ^ 32 := by
  constructor
  · intro h
    exact Records.forall_of_reads (fun _ _ _ => readMutateInOp_narrow) h
  · intro h
    apply Records.reads_flatMap
    intro op hmem
    exact readMutateInOp_parts (h op hmem).1 (h op hmem).2

theorem count_narrowed (n : Nat) : (UInt8.ofNat n).toNat = n <-> n < 2 ^ 8 := by
  rw [UInt8.toNat_ofNat']
  exact Nat.mod_eq_iff_lt (by decide)

/-!
# What is dispatched
-/

section Dispatched

variable {crud : OpsCrud} {dispatched : RequestPacket × Option ResponseContext}

theorem lookupIn_ok {request : LookupInRequest} (h : lookupIn crud request = .ok dispatched) :
    dispatched.1.value = some (request.ops.flatMap fun op => (lookupInParts op).flatten) ∧
      dispatched.2 = some
        { cas := none
          subdocInfo := some { flags := request.flags, opCount := UInt8.ofNat request.ops.length }
          scopeName := none
          collectionName := none } := by
  unfold lookupIn at h
  rw [lookupInValue_eq] at h
  cases hframes : framingExtras
      (encodeReqExtFrames crud none none none request.onBehalfOf extFrameBuf) with
  | err e => rw [hframes] at h; cases h
  | panic => rw [hframes] at h; cases h
  | ok frames =>
      rw [hframes, Exec.ok_bind] at h
      cases hkey : encodeCollectionAndKey crud request.collectionId request.key keyBuf with
      | err e => rw [hkey] at h; cases h
      | panic => rw [hkey] at h; cases h
      | ok key =>
          rw [hkey] at h
          cases h
          exact ⟨rfl, rfl⟩

theorem mutateIn_ok {request : MutateInRequest} (h : mutateIn crud request = .ok dispatched) :
    dispatched.1.value = some (request.ops.flatMap fun op => (mutateInParts op).flatten) ∧
      dispatched.2 = some
        { cas := request.cas
          subdocInfo := some { flags := request.flags, opCount := UInt8.ofNat request.ops.length }
          scopeName := none
          collectionName := none } := by
  unfold mutateIn at h
  rw [mutateInValue_eq] at h
  split at h
  · cases h
  · cases hframes : framingExtras (encodeReqExtFrames crud request.durabilityLevel
        request.durabilityLevelTimeout request.preserveExpiry request.onBehalfOf extFrameBuf) with
    | err e => rw [hframes] at h; cases h
    | panic => rw [hframes] at h; cases h
    | ok frames =>
        rw [hframes, Exec.ok_bind] at h
        cases hkey : encodeCollectionAndKey crud request.collectionId request.key keyBuf with
        | err e => rw [hkey] at h; cases h
        | panic => rw [hkey] at h; cases h
        | ok key =>
            rw [hkey] at h
            cases h
            exact ⟨rfl, rfl⟩

/-- What is recovered depends on the value and on the number of operations. -/
theorem recovers_iff {op : Type} {readOne : Buffer -> Option (op × Buffer)} {ops : List op}
    {value : Buffer} {context : ResponseContext} {info : SubdocRequestInfo}
    (hvalue : dispatched.1.value = some value) (hcontext : dispatched.2 = some context)
    (hinfo : context.subdocInfo = some info) (hcount : info.opCount = UInt8.ofNat ops.length) :
    Recovers readOne ops dispatched <->
      Records.Reads readOne value ops ∧ ops.length < 2 ^ 8 := by
  rw [← count_narrowed, ← hcount]
  constructor
  · rintro ⟨⟨value', hvalue', hreads⟩, context', info', hcontext', hinfo', hlength⟩
    cases hvalue.symm.trans hvalue'
    cases hcontext.symm.trans hcontext'
    cases hinfo.symm.trans hinfo'
    exact ⟨hreads, hlength⟩
  · rintro ⟨hreads, hlength⟩
    exact ⟨⟨value, hvalue, hreads⟩, context, info, hcontext, hinfo, hlength⟩

theorem lookupIn_recovers_iff {request : LookupInRequest}
    (h : lookupIn crud request = .ok dispatched) :
    Recovers readLookupInOp request.ops dispatched <->
      (forall op, op ∈ request.ops -> op.path.length < 2 ^ 16) ∧ request.ops.length < 2 ^ 8 := by
  rcases lookupIn_ok h with ⟨hvalue, hcontext⟩
  rw [recovers_iff hvalue hcontext rfl rfl, lookupIn_reads_iff]

theorem mutateIn_recovers_iff {request : MutateInRequest}
    (h : mutateIn crud request = .ok dispatched) :
    Recovers readMutateInOp request.ops dispatched <->
      (forall op, op ∈ request.ops -> op.path.length < 2 ^ 16 ∧ op.value.length < 2 ^ 32) ∧
        request.ops.length < 2 ^ 8 := by
  rcases mutateIn_ok h with ⟨hvalue, hcontext⟩
  rw [recovers_iff hvalue hcontext rfl rfl, mutateIn_reads_iff]

end Dispatched

/-- The operations of a dispatched request are recovered if and only if every path and value fits
the field for its length and the number of operations fits a byte. -/
theorem subdoc_requests_recovered_iff (crud : OpsCrud) (lookup : LookupInRequest)
    (mutation : MutateInRequest) (dispatched : RequestPacket × Option ResponseContext) :
    (lookupIn crud lookup = .ok dispatched ->
      (Recovers readLookupInOp lookup.ops dispatched <->
        (forall op, op ∈ lookup.ops -> op.path.length < 2 ^ 16) ∧ lookup.ops.length < 2 ^ 8)) ∧
    (mutateIn crud mutation = .ok dispatched ->
      (Recovers readMutateInOp mutation.ops dispatched <->
        (forall op, op ∈ mutation.ops -> op.path.length < 2 ^ 16 ∧ op.value.length < 2 ^ 32) ∧
          mutation.ops.length < 2 ^ 8)) :=
  ⟨lookupIn_recovers_iff, mutateIn_recovers_iff⟩

def getPath (path : Buffer) : LookupInRequest :=
  { collectionId := 0
    key := [0x6B]
    vbucketId := 12
    flags := 0
    ops := [{ op := .get, flags := 0, path := path }]
    onBehalfOf := none }

theorem lookupIn_getPath (path : Buffer) :
    exists dispatched, lookupIn (collectionsOps false) (getPath path) = .ok dispatched := by
  unfold lookupIn
  rw [lookupInValue_eq]
  exact ⟨_, rfl⟩

def setPath : MutateInRequest :=
  { collectionId := 0
    key := [0x6B]
    vbucketId := 12
    flags := SubdocDocFlag.MkDoc
    ops := [{ op := .dictSet, flags := 0, path := [0x61], value := [0x31] }]
    expiry := none
    preserveExpiry := none
    cas := some 7
    onBehalfOf := none
    durabilityLevel := none
    durabilityLevelTimeout := none }

theorem subdoc_requests_recovered_short :
    (exists dispatched, Recovers readLookupInOp (getPath [0x61]).ops dispatched) ∧
      exists dispatched, Recovers readMutateInOp setPath.ops dispatched :=
  ⟨⟨_, ((subdoc_requests_recovered_iff (collectionsOps false) (getPath [0x61]) setPath _).1
      rfl).mpr (by decide)⟩,
    ⟨_, ((subdoc_requests_recovered_iff (collectionsOps false) (getPath [0x61]) setPath _).2
      rfl).mpr (by decide)⟩⟩

/-- The length of a path of 65536 bytes is sent as zero. -/
theorem subdoc_requests_not_recovered :
    ¬ forall (crud : OpsCrud) (lookup : LookupInRequest)
      (dispatched : RequestPacket × Option ResponseContext),
      lookupIn crud lookup = .ok dispatched -> Recovers readLookupInOp lookup.ops dispatched := by
  intro hall
  rcases lookupIn_getPath (List.replicate 65536 0x61) with ⟨dispatched, hok⟩
  have hrecovers := (lookupIn_recovers_iff hok).mp (hall _ _ dispatched hok)
  have hlength := hrecovers.1 _ List.mem_cons_self
  rw [List.length_replicate] at hlength
  exact absurd hlength (by decide)

end Memdx
end CouchbaseSdk
