import CouchbaseSdk.Memdx.CasMismatch
import CouchbaseSdk.Memdx.FramesFollowOptions

/-!
# What a packet says

Every request that writes a document, against what a server is told that reads the packet field by
field.
-/

namespace CouchbaseSdk
namespace Memdx

open Foundation

/-!
# Packets
-/

def storeExtras (flags : UInt32) (expiry : Option UInt32) : Buffer :=
  beBytes 4 flags.toNat ++ beBytes 4 (expiry.getD 0).toNat

/-- Where no initial value is given, the expiry says that nothing is to be created. -/
def encodeCounterValues (delta : UInt64) (initial : Option UInt64) (expiry : Option UInt32) :
    Buffer :=
  beBytes 8 delta.toNat ++
    match initial with
    | some initial => beBytes 8 initial.toNat ++ beBytes 4 (expiry.getD 0).toNat
    | none => beBytes 8 0 ++ beBytes 4 0xFFFFFFFF

namespace OpsCrud

def set (crud : OpsCrud) (request : SetRequest) : Exec Error RequestPacket := do
  let (magic, framingExtras) <- framingExtras
    (encodeReqExtFrames crud request.durabilityLevel request.durabilityLevelTimeout
      request.preserveExpiry request.onBehalfOf extFrameBuf)
  let key <- encodeCollectionAndKey crud request.collectionId request.key keyBuf
  pure { magic := magic
         opCode := .set
         datatype := request.datatype
         vbucketId := some request.vbucketId
         cas := request.cas
         extras := some (storeExtras request.flags request.expiry)
         key := some key
         value := some request.value
         framingExtras := framingExtras
         opaqueId := none }

def add (crud : OpsCrud) (request : AddRequest) : Exec Error RequestPacket := do
  let (magic, framingExtras) <- framingExtras
    (encodeReqExtFrames crud request.durabilityLevel request.durabilityLevelTimeout none
      request.onBehalfOf extFrameBuf)
  let key <- encodeCollectionAndKey crud request.collectionId request.key keyBuf
  pure { magic := magic
         opCode := .add
         datatype := request.datatype
         vbucketId := some request.vbucketId
         cas := none
         extras := some (storeExtras request.flags request.expiry)
         key := some key
         value := some request.value
         framingExtras := framingExtras
         opaqueId := none }

def replace (crud : OpsCrud) (request : ReplaceRequest) : Exec Error RequestPacket :=
  if request.expiry.isSome && request.preserveExpiry.isSome then
    .err (.invalidArgument "cannot specify expiry and preserve expiry together" none)
  else do
    let (magic, framingExtras) <- framingExtras
      (encodeReqExtFrames crud request.durabilityLevel request.durabilityLevelTimeout
        request.preserveExpiry request.onBehalfOf extFrameBuf)
    let key <- encodeCollectionAndKey crud request.collectionId request.key keyBuf
    pure { magic := magic
           opCode := .replace
           datatype := request.datatype
           vbucketId := some request.vbucketId
           cas := request.cas
           extras := some (storeExtras request.flags request.expiry)
           key := some key
           value := some request.value
           framingExtras := framingExtras
           opaqueId := none }

def delete (crud : OpsCrud) (request : DeleteRequest) : Exec Error RequestPacket := do
  let (magic, framingExtras) <- framingExtras
    (encodeReqExtFrames crud request.durabilityLevel request.durabilityLevelTimeout none
      request.onBehalfOf extFrameBuf)
  let key <- encodeCollectionAndKey crud request.collectionId request.key keyBuf
  pure { magic := magic
         opCode := .delete
         datatype := 0
         vbucketId := some request.vbucketId
         cas := request.cas
         extras := none
         key := some key
         value := none
         framingExtras := framingExtras
         opaqueId := none }

def counter (opCode : OpCode) (crud : OpsCrud) (request : IncrementRequest) :
    Exec Error RequestPacket := do
  let (magic, framingExtras) <- framingExtras
    (encodeReqExtFrames crud request.durabilityLevel request.durabilityLevelTimeout none
      request.onBehalfOf extFrameBuf)
  let key <- encodeCollectionAndKey crud request.collectionId request.key keyBuf
  pure { magic := magic
         opCode := opCode
         datatype := 0
         vbucketId := some request.vbucketId
         cas := none
         extras := some (encodeCounterValues request.delta request.initial request.expiry)
         key := some key
         value := none
         framingExtras := framingExtras
         opaqueId := none }

def increment : OpsCrud -> IncrementRequest -> Exec Error RequestPacket :=
  counter .increment

def decrement : OpsCrud -> DecrementRequest -> Exec Error RequestPacket :=
  counter .decrement

end OpsCrud

/-- The packet that is dispatched for a request. -/
def writePacket (crud : OpsCrud) : WriteRequest -> Exec Error RequestPacket
  | .set r => crud.set r
  | .add r => crud.add r
  | .replace r => crud.replace r
  | .delete r => crud.delete r
  | .append r => (append crud r).map Prod.fst
  | .prepend r => (prepend crud r).map Prod.fst
  | .increment r => crud.increment r
  | .decrement r => crud.decrement r
  | .mutateIn r => (mutateIn crud r).map Prod.fst

namespace WriteRequest

def opCode : WriteRequest -> OpCode
  | set _ => .set
  | add _ => .add
  | replace _ => .replace
  | delete _ => .delete
  | append _ => .append
  | prepend _ => .prepend
  | increment _ => .increment
  | decrement _ => .decrement
  | mutateIn _ => .subDocMultiMutation

def collectionId : WriteRequest -> UInt32
  | set r => r.collectionId
  | add r => r.collectionId
  | replace r => r.collectionId
  | delete r => r.collectionId
  | append r => r.collectionId
  | prepend r => r.collectionId
  | increment r => r.collectionId
  | decrement r => r.collectionId
  | mutateIn r => r.collectionId

def key : WriteRequest -> Buffer
  | set r => r.key
  | add r => r.key
  | replace r => r.key
  | delete r => r.key
  | append r => r.key
  | prepend r => r.key
  | increment r => r.key
  | decrement r => r.key
  | mutateIn r => r.key

def vbucketId : WriteRequest -> UInt16
  | set r => r.vbucketId
  | add r => r.vbucketId
  | replace r => r.vbucketId
  | delete r => r.vbucketId
  | append r => r.vbucketId
  | prepend r => r.vbucketId
  | increment r => r.vbucketId
  | decrement r => r.vbucketId
  | mutateIn r => r.vbucketId

def onBehalfOf : WriteRequest -> Option Buffer
  | set r => r.onBehalfOf
  | add r => r.onBehalfOf
  | replace r => r.onBehalfOf
  | delete r => r.onBehalfOf
  | append r => r.onBehalfOf
  | prepend r => r.onBehalfOf
  | increment r => r.onBehalfOf
  | decrement r => r.onBehalfOf
  | mutateIn r => r.onBehalfOf

def durabilityLevelTimeout : WriteRequest -> Option Duration
  | set r => r.durabilityLevelTimeout
  | add r => r.durabilityLevelTimeout
  | replace r => r.durabilityLevelTimeout
  | delete r => r.durabilityLevelTimeout
  | append r => r.durabilityLevelTimeout
  | prepend r => r.durabilityLevelTimeout
  | increment r => r.durabilityLevelTimeout
  | decrement r => r.durabilityLevelTimeout
  | mutateIn r => r.durabilityLevelTimeout

end WriteRequest

/-!
# The fields of the protocol
-/

/-- The flags and the expiry. -/
def readStoreExtras (extras : Buffer) : Option (UInt32 × UInt32) :=
  if extras.length = 8 then
    some (UInt32.ofNat (beNat (extras.take 4)), UInt32.ofNat (beNat (extras.drop 4)))
  else none

/-- The delta, and the initial value with its expiry if a counter may be created. -/
def readCounterValues (extras : Buffer) : Option (UInt64 × Option (UInt64 × UInt32)) :=
  if extras.length = 20 then
    let expiry := UInt32.ofNat (beNat (extras.drop 16))
    some (UInt64.ofNat (beNat (extras.take 8)),
      if expiry = 0xFFFFFFFF then none
      else some (UInt64.ofNat (beNat ((extras.drop 8).take 8)), expiry))
  else none

/-- The expiry and the flags. -/
def readMutateInExtras (extras : Buffer) : Option (UInt32 × SubdocDocFlag) :=
  if extras.length = 4 then some (UInt32.ofNat (beNat extras), 0)
  else if extras.length = 5 then
    some (UInt32.ofNat (beNat (extras.take 4)), (extras.drop 4).headD 0)
  else none

/-- The collection and the key. -/
def readKey (collectionsEnabled : Bool) (bytes : Buffer) : Option (Nat × Buffer) :=
  if collectionsEnabled then Leb128.decode bytes else some (0, bytes)

/-- The document is stored with these flags and this expiry. -/
structure SaysDocument (packet : RequestPacket) (flags expiry : UInt32) (datatype : UInt8)
    (value : Buffer) : Prop where
  extras : packet.extras.bind readStoreExtras = some (flags, expiry)
  datatype : packet.datatype = datatype
  value : packet.value = some value

structure SaysAdded (packet : RequestPacket) (request : AppendRequest) : Prop where
  extras : packet.extras = none
  datatype : packet.datatype = request.datatype
  value : packet.value = some request.value

structure SaysCounter (packet : RequestPacket) (request : IncrementRequest) : Prop where
  extras : packet.extras.bind readCounterValues =
    some (request.delta, request.initial.map fun initial => (initial, request.expiry.getD 0))
  value : packet.value = none

structure SaysMutations (packet : RequestPacket) (request : MutateInRequest) : Prop where
  extras : packet.extras.bind readMutateInExtras = some (request.expiry.getD 0, request.flags)
  value : exists value, packet.value = some value ∧
    Records.Reads readMutateInOp value request.ops

def SaysBody (packet : RequestPacket) : WriteRequest -> Prop
  | .set r => SaysDocument packet r.flags (r.expiry.getD 0) r.datatype r.value
  | .add r => SaysDocument packet r.flags (r.expiry.getD 0) r.datatype r.value
  | .replace r => SaysDocument packet r.flags (r.expiry.getD 0) r.datatype r.value
  | .delete _ => packet.extras = none ∧ packet.value = none
  | .append r => SaysAdded packet r
  | .prepend r => SaysAdded packet r
  | .increment r => SaysCounter packet r
  | .decrement r => SaysCounter packet r
  | .mutateIn r => SaysMutations packet r

/-- The packet says what the request asks for. -/
structure Says (overflowChecks : Bool) (crud : OpsCrud) (packet : RequestPacket)
    (request : WriteRequest) : Prop where
  opCode : packet.opCode = request.opCode
  vbucketId : packet.vbucketId = some request.vbucketId
  cas : packet.cas = request.cas
  key : packet.key.bind (readKey crud.collectionsEnabled) =
    some (request.collectionId.toNat, request.key)
  magic : packet.magic = .reqExt <-> packet.framingExtras.isSome = true
  frames : exists items, MeansOptions request.durabilityLevel request.durabilityLevelTimeout
      request.preserveExpiry request.onBehalfOf items ∧
    Decodes overflowChecks (packet.framingExtras.getD []) items
  body : SaysBody packet request

/-- A counter with an initial value does not expire at the last time there is, and the lengths of
paths and values fit their fields. -/
def BodyFits : WriteRequest -> Prop
  | .increment r => r.initial.isSome = true -> r.expiry ≠ some 0xFFFFFFFF
  | .decrement r => r.initial.isSome = true -> r.expiry ≠ some 0xFFFFFFFF
  | .mutateIn r => forall op, op ∈ r.ops -> op.path.length < 2 ^ 16 ∧ op.value.length < 2 ^ 32
  | _ => True

/-!
# Envelopes
-/

/-- What the packets of all requests have in common. -/
structure Enveloped (crud : OpsCrud) (request : WriteRequest) (packet : RequestPacket) : Prop where
  opCode : packet.opCode = request.opCode
  vbucketId : packet.vbucketId = some request.vbucketId
  cas : packet.cas = request.cas
  key : exists bytes, packet.key = some bytes ∧
    encodeCollectionAndKey crud request.collectionId request.key keyBuf = .ok bytes
  frames : framingExtras (encodeReqExtFrames crud request.durabilityLevel
    request.durabilityLevelTimeout request.preserveExpiry request.onBehalfOf extFrameBuf) =
      .ok (packet.magic, packet.framingExtras)

/-- The fields that differ. -/
def Fills (packet : RequestPacket) (datatype : UInt8) (extras value : Option Buffer) : Prop :=
  packet.datatype = datatype ∧ packet.extras = extras ∧ packet.value = value

def FillsBody (packet : RequestPacket) : WriteRequest -> Prop
  | .set r => Fills packet r.datatype (some (storeExtras r.flags r.expiry)) (some r.value)
  | .add r => Fills packet r.datatype (some (storeExtras r.flags r.expiry)) (some r.value)
  | .replace r => Fills packet r.datatype (some (storeExtras r.flags r.expiry)) (some r.value)
  | .delete _ => Fills packet 0 none none
  | .append r => Fills packet r.datatype none (some r.value)
  | .prepend r => Fills packet r.datatype none (some r.value)
  | .increment r => Fills packet 0 (some (encodeCounterValues r.delta r.initial r.expiry)) none
  | .decrement r => Fills packet 0 (some (encodeCounterValues r.delta r.initial r.expiry)) none
  | .mutateIn r => Fills packet 0
      (some (if r.flags = 0 then beBytes 4 (r.expiry.getD 0).toNat
        else beBytes 4 (r.expiry.getD 0).toNat ++ [r.flags]))
      (some (r.ops.flatMap fun op => (mutateInParts op).flatten))

section Packets

variable {crud : OpsCrud} {packet : RequestPacket} {request : WriteRequest}

theorem writePacket_enveloped (h : writePacket crud request = .ok packet) :
    Enveloped crud request packet ∧ FillsBody packet request := by
  cases request with
  | set r =>
      rcases Exec.bind_eq_ok h with ⟨frames, hframes, hrest⟩
      rcases Exec.bind_eq_ok hrest with ⟨key, hkey, hmade⟩
      cases hmade
      exact ⟨⟨rfl, rfl, rfl, ⟨key, rfl, hkey⟩, hframes⟩, rfl, rfl, rfl⟩
  | add r =>
      rcases Exec.bind_eq_ok h with ⟨frames, hframes, hrest⟩
      rcases Exec.bind_eq_ok hrest with ⟨key, hkey, hmade⟩
      cases hmade
      exact ⟨⟨rfl, rfl, rfl, ⟨key, rfl, hkey⟩, hframes⟩, rfl, rfl, rfl⟩
  | replace r =>
      have hpacket : crud.replace r = .ok packet := h
      unfold OpsCrud.replace at hpacket
      split at hpacket
      · cases hpacket
      · rcases Exec.bind_eq_ok hpacket with ⟨frames, hframes, hrest⟩
        rcases Exec.bind_eq_ok hrest with ⟨key, hkey, hmade⟩
        cases hmade
        exact ⟨⟨rfl, rfl, rfl, ⟨key, rfl, hkey⟩, hframes⟩, rfl, rfl, rfl⟩
  | delete r =>
      rcases Exec.bind_eq_ok h with ⟨frames, hframes, hrest⟩
      rcases Exec.bind_eq_ok hrest with ⟨key, hkey, hmade⟩
      cases hmade
      exact ⟨⟨rfl, rfl, rfl, ⟨key, rfl, hkey⟩, hframes⟩, rfl, rfl, rfl⟩
  | append r =>
      rcases Exec.map_eq_ok.mp h with ⟨dispatched, hdispatched, rfl⟩
      rcases Exec.bind_eq_ok hdispatched with ⟨frames, hframes, hrest⟩
      rcases Exec.bind_eq_ok hrest with ⟨key, hkey, hmade⟩
      cases hmade
      exact ⟨⟨rfl, rfl, rfl, ⟨key, rfl, hkey⟩, hframes⟩, rfl, rfl, rfl⟩
  | prepend r =>
      rcases Exec.map_eq_ok.mp h with ⟨dispatched, hdispatched, rfl⟩
      rcases Exec.bind_eq_ok hdispatched with ⟨frames, hframes, hrest⟩
      rcases Exec.bind_eq_ok hrest with ⟨key, hkey, hmade⟩
      cases hmade
      exact ⟨⟨rfl, rfl, rfl, ⟨key, rfl, hkey⟩, hframes⟩, rfl, rfl, rfl⟩
  | increment r =>
      rcases Exec.bind_eq_ok h with ⟨frames, hframes, hrest⟩
      rcases Exec.bind_eq_ok hrest with ⟨key, hkey, hmade⟩
      cases hmade
      exact ⟨⟨rfl, rfl, rfl, ⟨key, rfl, hkey⟩, hframes⟩, rfl, rfl, rfl⟩
  | decrement r =>
      rcases Exec.bind_eq_ok h with ⟨frames, hframes, hrest⟩
      rcases Exec.bind_eq_ok hrest with ⟨key, hkey, hmade⟩
      cases hmade
      exact ⟨⟨rfl, rfl, rfl, ⟨key, rfl, hkey⟩, hframes⟩, rfl, rfl, rfl⟩
  | mutateIn r =>
      rcases Exec.map_eq_ok.mp h with ⟨dispatched, hdispatched, rfl⟩
      unfold mutateIn at hdispatched
      rw [mutateInValue_eq] at hdispatched
      split at hdispatched
      · cases hdispatched
      · rcases Exec.bind_eq_ok hdispatched with ⟨frames, hframes, hrest⟩
        rcases Exec.bind_eq_ok hrest with ⟨key, hkey, hmade⟩
        cases hmade
        exact ⟨⟨rfl, rfl, rfl, ⟨key, rfl, hkey⟩, hframes⟩, rfl, rfl, rfl⟩

/-!
# What is read
-/

/-- The frames are read as what the options ask for if and only if the options are plain. -/
theorem frames_say_iff {checks : Bool} {level : Option DurabilityLevel}
    {timeout : Option Duration} {preserveExpiry : Option Bool} {onBehalfOf : Option Buffer}
    {magic : Magic} {frames : Option Buffer}
    (h : framingExtras (encodeReqExtFrames crud level timeout preserveExpiry onBehalfOf
      extFrameBuf) = .ok (magic, frames)) :
    (magic = .reqExt <-> frames.isSome = true) ∧
    ((exists items, MeansOptions level timeout preserveExpiry onBehalfOf items ∧
      Decodes checks (frames.getD []) items) <-> Plain level preserveExpiry onBehalfOf) := by
  unfold framingExtras at h
  split at h
  · cases h
  · rename_i used buf hencoded
    cases h
    have hok := congrArg Prod.fst hencoded
    rcases encodeReqExtFrames_ok hok with
      ⟨dura, ttl, t, hdura, httl, happend, hmagic, hused, hwritten⟩
    rcases used_framesBytes happend with ⟨hfits, htake, hlength, _⟩
    rw [hencoded] at hwritten
    have hbuf : buf = t.buf := hwritten
    have hbytes : buf.take used = framesBytes (onBehalfOfFrames onBehalfOf ++ (dura ++ ttl)) := by
      rw [hbuf, hused]
      exact htake
    have hpos := (reqMagic_ok hmagic).1
    rw [← hused] at hpos
    have hframes : (if 0 < used then some (buf.take used) else none).getD [] =
        framesBytes (onBehalfOfFrames onBehalfOf ++ (dura ++ ttl)) := by
      split
      · exact hbytes
      · rename_i hzero
        rw [← hbytes, Nat.eq_zero_of_not_pos hzero]
        rfl
    constructor
    · rw [hpos]
      split
      · rename_i hused
        exact iff_of_true hused rfl
      · rename_i hused
        exact iff_of_false hused nofun
    · rw [hframes]
      constructor
      · intro hsays
        rcases hsays with ⟨items, hmeans, hdecodes⟩
        exact means_plain hdura httl hfits hmeans hdecodes
      · intro hplain
        exact ⟨_, plain_means hplain hdura httl,
          (decodes_framesBytes_iff hfits).mpr (frames_fit_header hplain.2.1 hdura httl)⟩

theorem readKey_encoded {collectionId : UInt32} {key bytes : Buffer}
    (h : encodeCollectionAndKey crud collectionId key keyBuf = .ok bytes) :
    readKey crud.collectionsEnabled bytes = some (collectionId.toNat, key) := by
  unfold readKey
  cases hops : crud.collectionsEnabled with
  | true =>
      rcases (encodeCollectionAndKey_ok_iff hops).mp h with ⟨_, rfl⟩
      exact Leb128.decode_encode _ _
  | false =>
      by_cases hplain : collectionId = 0 ∧ key.length ≤ 250
      · rw [encodeCollectionAndKey_plain hops hplain.1 hplain.2] at h
        cases h
        rw [hplain.1]
        rfl
      · rcases encodeCollectionAndKey_refused hops hplain keyBuf with ⟨e, he⟩
        rw [he] at h
        cases h

theorem ofNat_beNat_four (n : UInt32) : UInt32.ofNat (beNat (beBytes 4 n.toNat)) = n := by
  have hlt : n.toNat % 256 ^ 4 = n.toNat := Nat.mod_eq_of_lt n.toNat_lt
  rw [beNat_beBytes, hlt, UInt32.ofNat_toNat]

theorem ofNat_beNat_eight (n : UInt64) : UInt64.ofNat (beNat (beBytes 8 n.toNat)) = n := by
  have hlt : n.toNat % 256 ^ 8 = n.toNat := Nat.mod_eq_of_lt n.toNat_lt
  rw [beNat_beBytes, hlt, UInt64.ofNat_toNat]

theorem readStoreExtras_storeExtras (flags : UInt32) (expiry : Option UInt32) :
    readStoreExtras (storeExtras flags expiry) = some (flags, expiry.getD 0) := by
  unfold readStoreExtras storeExtras
  rw [List.take_left' (length_beBytes 4 _), List.drop_left' (length_beBytes 4 _),
    ofNat_beNat_four, ofNat_beNat_four, if_pos (by simp)]

theorem readMutateInExtras_written (expiry : UInt32) (flags : SubdocDocFlag) :
    readMutateInExtras (if flags = 0 then beBytes 4 expiry.toNat
      else beBytes 4 expiry.toNat ++ [flags]) = some (expiry, flags) := by
  unfold readMutateInExtras
  split
  · rename_i hzero
    rw [if_pos (length_beBytes 4 _), ofNat_beNat_four, hzero]
  · have hlength : (beBytes 4 expiry.toNat ++ [flags]).length = 5 := by simp
    rw [hlength, if_neg (by decide), if_pos rfl, List.take_left' (length_beBytes 4 _),
      List.drop_left' (length_beBytes 4 _), ofNat_beNat_four]
    rfl

theorem readCounterValues_bytes (delta initial : UInt64) (expiry : UInt32) :
    readCounterValues (beBytes 8 delta.toNat ++ (beBytes 8 initial.toNat ++
        beBytes 4 expiry.toNat)) =
      some (delta, if expiry = 0xFFFFFFFF then none else some (initial, expiry)) := by
  have hlength : (beBytes 8 delta.toNat ++ (beBytes 8 initial.toNat ++
      beBytes 4 expiry.toNat)).length = 20 := by simp
  have hdrop : (beBytes 8 delta.toNat ++ (beBytes 8 initial.toNat ++ beBytes 4 expiry.toNat)).drop
      8 = beBytes 8 initial.toNat ++ beBytes 4 expiry.toNat :=
    List.drop_left' (length_beBytes 8 _)
  have hlast : (beBytes 8 delta.toNat ++ (beBytes 8 initial.toNat ++ beBytes 4 expiry.toNat)).drop
      16 = beBytes 4 expiry.toNat := by
    rw [show 16 = 8 + 8 from rfl, ← List.drop_drop, hdrop,
      List.drop_left' (length_beBytes 8 _)]
  unfold readCounterValues
  rw [if_pos hlength, hdrop, hlast, List.take_left' (length_beBytes 8 _),
    List.take_left' (length_beBytes 8 _), ofNat_beNat_eight, ofNat_beNat_eight, ofNat_beNat_four]

/-- An initial value is read back unless its expiry says that nothing is to be created. -/
theorem readCounterValues_written_iff (delta : UInt64) (initial : Option UInt64)
    (expiry : Option UInt32) :
    readCounterValues (encodeCounterValues delta initial expiry) =
        some (delta, initial.map fun initial => (initial, expiry.getD 0)) <->
      (initial.isSome = true -> expiry ≠ some 0xFFFFFFFF) := by
  unfold encodeCounterValues
  cases initial with
  | none =>
      have hread := readCounterValues_bytes delta 0 0xFFFFFFFF
      exact iff_of_true hread nofun
  | some initial =>
      dsimp only
      rw [readCounterValues_bytes]
      split
      · rename_i hexpiry
        have hsome : expiry = some 0xFFFFFFFF := by
          cases expiry with
          | none => cases hexpiry
          | some e => exact congrArg some hexpiry
        exact iff_of_false nofun fun h => h rfl hsome
      · rename_i hexpiry
        apply iff_of_true rfl
        intro _ hsome
        rw [hsome] at hexpiry
        exact hexpiry rfl

theorem saysDocument {flags : UInt32} {expiry : Option UInt32} {datatype : UInt8}
    {value : Buffer}
    (h : Fills packet datatype (some (storeExtras flags expiry)) (some value)) :
    SaysDocument packet flags (expiry.getD 0) datatype value := by
  rcases h with ⟨hdatatype, hextras, hvalue⟩
  refine ⟨?_, hdatatype, hvalue⟩
  rw [hextras, Option.bind_some, readStoreExtras_storeExtras]

theorem saysCounter_iff {r : IncrementRequest}
    (h : Fills packet 0 (some (encodeCounterValues r.delta r.initial r.expiry)) none) :
    SaysCounter packet r <-> (r.initial.isSome = true -> r.expiry ≠ some 0xFFFFFFFF) := by
  rcases h with ⟨_, hextras, hvalue⟩
  rw [← readCounterValues_written_iff r.delta]
  constructor
  · intro hsays
    have hread := hsays.extras
    rw [hextras] at hread
    exact hread
  · intro hread
    refine ⟨?_, hvalue⟩
    rw [hextras]
    exact hread

theorem saysBody_iff (h : FillsBody packet request) :
    SaysBody packet request <-> BodyFits request := by
  cases request with
  | set r => exact iff_of_true (saysDocument h) trivial
  | add r => exact iff_of_true (saysDocument h) trivial
  | replace r => exact iff_of_true (saysDocument h) trivial
  | delete r => exact iff_of_true h.2 trivial
  | append r => exact iff_of_true ⟨h.2.1, h.1, h.2.2⟩ trivial
  | prepend r => exact iff_of_true ⟨h.2.1, h.1, h.2.2⟩ trivial
  | increment r => exact saysCounter_iff h
  | decrement r => exact saysCounter_iff h
  | mutateIn r =>
      rcases h with ⟨_, hextras, hvalue⟩
      show SaysMutations packet r <-> forall op, op ∈ r.ops -> _
      rw [← mutateIn_reads_iff]
      constructor
      · intro hsays
        rcases hsays.value with ⟨value, hsome, hreads⟩
        rw [hvalue] at hsome
        cases hsome
        exact hreads
      · intro hreads
        refine ⟨?_, _, hvalue, hreads⟩
        rw [hextras, Option.bind_some, readMutateInExtras_written]

/-- The packet that is dispatched for a write says what the request asks for, field by field, if and
only if its options are plain and its body fits. -/
theorem write_packet_says_iff (overflowChecks : Bool) (crud : OpsCrud) (request : WriteRequest)
    (packet : RequestPacket) (h : writePacket crud request = .ok packet) :
    Says overflowChecks crud packet request <->
      Plain request.durabilityLevel request.preserveExpiry request.onBehalfOf ∧
        BodyFits request := by
  rcases writePacket_enveloped h with ⟨henvelope, hbody⟩
  rcases @frames_say_iff crud overflowChecks _ _ _ _ _ _ henvelope.frames with ⟨hmagic, hframes⟩
  constructor
  · intro hsays
    exact ⟨hframes.mp hsays.frames, (saysBody_iff hbody).mp hsays.body⟩
  · intro hplain
    rcases henvelope.key with ⟨bytes, hkey, hencoded⟩
    refine ⟨henvelope.opCode, henvelope.vbucketId, henvelope.cas, ?_, hmagic,
      hframes.mpr hplain.1, (saysBody_iff hbody).mpr hplain.2⟩
    rw [hkey, Option.bind_some, readKey_encoded hencoded]

end Packets

def counterOps : OpsCrud :=
  { collectionsEnabled := false, durabilityEnabled := true, preserveExpiryEnabled := false
    extFramesEnabled := true }

def countVisit : WriteRequest :=
  .increment
    { collectionId := 0, key := [0x76], vbucketId := 3, initial := some 1, delta := 5
      expiry := none, onBehalfOf := none, durabilityLevel := some .majority
      durabilityLevelTimeout := none }

def countVisitPacket : RequestPacket :=
  { magic := .reqExt, opCode := .increment, datatype := 0, vbucketId := some 3
    extras := some [0, 0, 0, 0, 0, 0, 0, 5, 0, 0, 0, 0, 0, 0, 0, 1, 0, 0, 0, 0]
    key := some [0x76], framingExtras := some [0x11, 0x01] }

theorem countVisit_plain :
    Plain countVisit.durabilityLevel countVisit.preserveExpiry countVisit.onBehalfOf := by
  refine ⟨nofun, nofun, ?_⟩
  intro l hl
  cases hl
  exact nofun

set_option maxRecDepth 4000 in
theorem write_packet_says_visit : Says true counterOps countVisitPacket countVisit :=
  (write_packet_says_iff true counterOps countVisit countVisitPacket rfl).mpr
    ⟨countVisit_plain, fun _ => nofun⟩

end Memdx
end CouchbaseSdk
