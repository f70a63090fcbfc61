import CouchbaseSdk.Foundation.Floating
import CouchbaseSdk.Kv.CoreKvClient
import CouchbaseSdk.Kv.Results
import CouchbaseSdk.Memdx.Client.Model
import CouchbaseSdk.Memdx.SubdocResponse
import CouchbaseSdk.Memdx.WritePackets

/-!
# Documents that are written and read

The value of a document may be compressed on its way to the server, and it may be decompressed
there or on its way back.  What is read is what has been written.
-/

namespace CouchbaseSdk

open Foundation

/-!
# Compression
-/

/-- The encoder and the decoder. -/
structure Snappy where
  compress : Buffer -> Except String Buffer
  decompress : Buffer -> Option Buffer
  decompress_compress : forall input compressed, compress input = .ok compressed ->
    decompress compressed = some input

namespace Crud

inductive CompressionMode (f64 : F64) where
  | enabled (minSize : Nat) (minRatio : f64.Number)
  | disabled

structure StdCompressor (f64 : F64) where
  compressionEnabled : Bool
  compressionMinSize : Nat
  compressionMinRatio : f64.Number

namespace StdCompressor

variable {f64 : F64}

def new : CompressionMode f64 -> StdCompressor f64
  | .enabled minSize minRatio =>
      { compressionEnabled := true
        compressionMinSize := minSize
        compressionMinRatio := minRatio }
  | .disabled =>
      { compressionEnabled := false
        compressionMinSize := 0
        compressionMinRatio := f64.ofU64 0 }

/-- What is compressed already, is small, or would not become much smaller is left as it is. -/
def compress (compressor : StdCompressor f64) (snappy : Snappy)
    (connectionSupportsSnappy : Bool) : Compress Retry.ErrorKind := fun datatype input =>
  if !connectionSupportsSnappy || !compressor.compressionEnabled then .ok (input, datatype)
  else if datatype &&& Memdx.DataTypeFlag.compressed.toU8 != 0 then .ok (input, datatype)
  else if input.length ≤ compressor.compressionMinSize then .ok (input, datatype)
  else
    match snappy.compress input with
    | .error msg => .error (.compression msg)
    | .ok compressed =>
        if f64.lt compressor.compressionMinRatio
            (f64.div (f64.ofU64 compressed.length) (f64.ofU64 input.length)) then
          .ok (input, datatype)
        else .ok (compressed, datatype ||| Memdx.DataTypeFlag.compressed.toU8)

end StdCompressor

end Crud

/-!
# Responses
-/

namespace Memdx

def parseFlags : Option Buffer -> Except ResponseError UInt32
  | some extras =>
      if extras.length ≠ 4 then .error (.protocol "bad extras length reading flags")
      else .ok (UInt32.ofNat (beNat extras))
  | none => .error (.protocol "no extras in response")

structure GetResponse where
  cas : UInt64
  flags : UInt32
  value : Buffer
  datatype : UInt8
  serverDuration : Option Duration

def GetResponse.tryFrom (overflowChecks : Bool) (durationOf : UInt32 -> Duration)
    (resp : ClientResponse) : Exec ResponseError GetResponse :=
  match resp.packet.status with
  | .success => do
      let flags <- Exec.ofExcept (parseFlags resp.packet.extras)
      let duration <- readServerDuration overflowChecks durationOf resp.packet
      pure
        { cas := resp.packet.cas.getD 0
          flags := flags
          value := resp.packet.value.getD []
          datatype := resp.packet.datatype
          serverDuration := duration }
  | status => .err (.failed (getFailure status))

end Memdx

/-!
# Writing and reading
-/

namespace Kv

open Crud (Compress SimpleCrud StdCompressor)
open Memdx (Client.Config DataTypeFlag GetResponse OpsCrud RequestPacket ResponseError
  ResponsePacket WriteRequest Fills readServerDuration storeExtras writePacket
  writePacket_enveloped)

def encodeCommonFlags : DataType -> UInt32
  | .json => CF_FMT_JSON
  | .binary => CF_FMT_BINARY
  | .string => CF_FMT_STRING
  | .unknown => 0

/-- The raw transcoders leave the bytes as they are. -/
def encodeRaw (valueType : DataType) (value : Buffer) : Buffer × UInt32 :=
  (value, encodeCommonFlags valueType)

def decodeRaw (valueType : DataType) (value : Buffer) (flags : UInt32) :
    Except ErrorKind Buffer :=
  if decodeCommonFlags flags ≠ valueType then .error (.otherFailure "datatype not supported")
  else .ok value

/-- A transcoder reads what it has written, and nothing that another one has written. -/
theorem decodeRaw_encodeRaw {valueType : DataType} (h : valueType ≠ .unknown)
    (readType : DataType) (value : Buffer) :
    decodeRaw readType (encodeRaw valueType value).1 (encodeRaw valueType value).2 =
      if valueType = readType then .ok value
      else .error (.otherFailure "datatype not supported") := by
  have hflags : decodeCommonFlags (encodeCommonFlags valueType) = valueType := by
    cases valueType with
    | unknown => exact absurd rfl h
    | json => decide
    | binary => decide
    | string => decide
  unfold decodeRaw encodeRaw
  rw [hflags, ite_not]

/-- The operations of a collection that store a whole document, with their options. -/
inductive Store (strategy : Type) where
  | upsertRaw (options : UpsertOptions strategy)
  | insertRaw (options : InsertOptions strategy)
  | replaceRaw (options : ReplaceOptions strategy)

def Store.write {strategy error : Type} (client : CoreKvClient strategy) (now : UInt64)
    (compress : Compress error) (libraryRetryStrategy : strategy) (id : String)
    (value : Buffer) (flags : UInt32) :
    Store strategy -> Except Error (SimpleCrud strategy error)
  | .upsertRaw options => upsert client now compress libraryRetryStrategy id value flags options
  | .insertRaw options => insert client now compress libraryRetryStrategy id value flags options
  | .replaceRaw options => replace client now compress libraryRetryStrategy id value flags options

/-- The options of a connection that decompresses. -/
def readConfig (snappy : Snappy) : Memdx.Client.Config :=
  { disableDecompression := false
    decompress := snappy.decompress
    hasOrphanHandler := false }

def getResult (response : GetResponse) : GetResult :=
  { content := response.value, flags := response.flags, cas := response.cas }

def GetResult.contentAsRaw (result : GetResult) : Buffer × UInt32 :=
  (result.content, result.flags)

/-- What a caller gets for the response to a get, unless the value cannot be decompressed. -/
def received (snappy : Snappy) (overflowChecks : Bool) (durationOf : UInt32 -> Duration)
    (packet : ResponsePacket) : Option (Exec ResponseError GetResult) :=
  (Memdx.Client.decompressed (readConfig snappy) packet).map fun packet =>
    (GetResponse.tryFrom overflowChecks durationOf
      { packet := packet, responseContext := none }).map getResult

/-- What a value stands for. -/
def plainValue (snappy : Snappy) (datatype : UInt8) (value : Buffer) : Option Buffer :=
  if datatype &&& DataTypeFlag.compressed.toU8 != 0 then snappy.decompress value else some value

/-- The response to a get for the document that a request has stored.  A server may compress and
decompress what it keeps. -/
structure Answers (snappy : Snappy) (packet : RequestPacket) (resp : ResponsePacket) : Prop where
  status : resp.status = .success
  extras : resp.extras = packet.extras.map (List.take 4)
  value : exists stored sent, packet.value = some stored ∧ resp.value = some sent ∧
    plainValue snappy resp.datatype sent = plainValue snappy packet.datatype stored

theorem or_and_self (datatype flag : UInt8) : (datatype ||| flag) &&& flag = flag := by
  apply UInt8.toBitVec_inj.mp
  ext i
  simp only [UInt8.toBitVec_and, UInt8.toBitVec_or, BitVec.getElem_and, BitVec.getElem_or]
  cases datatype.toBitVec[i] with
  | true => simp
  | false => simp

/-- A value stands for the same before and after compression. -/
theorem plainValue_compress {f64 : F64} (compressor : StdCompressor f64) (snappy : Snappy)
    {connectionSupportsSnappy : Bool} {datatype datatype' : UInt8} {input value : Buffer}
    (h : compressor.compress snappy connectionSupportsSnappy datatype input =
      .ok (value, datatype')) :
    plainValue snappy datatype' value = plainValue snappy datatype input := by
  unfold StdCompressor.compress at h
  split at h
  · cases h
    rfl
  · split at h
    · cases h
      rfl
    · rename_i hplain
      split at h
      · cases h
        rfl
      · split at h
        · cases h
        · rename_i compressed hcompressed
          split at h
          · cases h
            rfl
          · cases h
            unfold plainValue
            rw [or_and_self, if_neg hplain]
            exact snappy.decompress_compress input _ hcompressed

/-- What is received has the value that was sent, whether it was sent compressed or not. -/
theorem decompressed_plainValue {snappy : Snappy} {packet : ResponsePacket} {sent value : Buffer}
    (hsent : packet.value = some sent)
    (h : plainValue snappy packet.datatype sent = some value) : exists datatype,
    Memdx.Client.decompressed (readConfig snappy) packet =
      some { packet with datatype := datatype, value := some value } := by
  unfold Memdx.Client.decompressed
  unfold plainValue at h
  rw [hsent]
  dsimp only
  split
  · rename_i hcompressed
    rw [if_pos (Bool.and_eq_true_iff.mp hcompressed).2] at h
    exact ⟨packet.datatype &&& ~~~ DataTypeFlag.compressed.toU8,
      congrArg (Option.map fun newValue =>
        ({ packet with
          datatype := packet.datatype &&& ~~~ DataTypeFlag.compressed.toU8
          value := some newValue } : ResponsePacket)) h⟩
  · rename_i hplain
    have hdatatype : ¬(packet.datatype &&& DataTypeFlag.compressed.toU8 != 0) = true :=
      fun hcompressed => hplain hcompressed
    rw [if_neg hdatatype] at h
    cases h
    exact ⟨packet.datatype, by rw [← hsent]⟩

/-!
# What is stored
-/

/-- The parts of a request, or of its packet, that make up the document. -/
structure Document where
  value : Buffer
  datatype : UInt8
  flags : UInt32
  expiry : Option UInt32

def storedDocument : WriteRequest -> Option Document
  | .set r =>
      some { value := r.value, datatype := r.datatype, flags := r.flags, expiry := r.expiry }
  | .add r =>
      some { value := r.value, datatype := r.datatype, flags := r.flags, expiry := r.expiry }
  | .replace r =>
      some { value := r.value, datatype := r.datatype, flags := r.flags, expiry := r.expiry }
  | _ => none

def HoldsDocument (packet : RequestPacket) (document : Document) : Prop :=
  Fills packet document.datatype (some (storeExtras document.flags document.expiry))
    (some document.value)

theorem writePacket_holds {crud : OpsCrud} {request : WriteRequest} {packet : RequestPacket}
    {document : Document} (h : writePacket crud request = .ok packet)
    (hdocument : storedDocument request = some document) : HoldsDocument packet document := by
  have hbody := (writePacket_enveloped h).2
  cases request with
  | set r =>
      cases hdocument
      exact hbody
  | add r =>
      cases hdocument
      exact hbody
  | replace r =>
      cases hdocument
      exact hbody
  | _ => cases hdocument

/-- What an operation has compressed is part of its request. -/
theorem compressed_stored {error : Type} {compressed : Except error (Buffer × UInt8)}
    {toRequest : Buffer × UInt8 -> WriteRequest} {request : WriteRequest} {flags : UInt32}
    {expiry : Option UInt32} (h : compressed.map toRequest = .ok request)
    (hdocument : forall value datatype, storedDocument (toRequest (value, datatype)) =
      some { value := value, datatype := datatype, flags := flags, expiry := expiry }) :
    exists value datatype, compressed = .ok (value, datatype) ∧ storedDocument request =
      some { value := value, datatype := datatype, flags := flags, expiry := expiry } := by
  cases compressed with
  | error e => cases h
  | ok p =>
      cases h
      exact ⟨p.1, p.2, rfl, hdocument p.1 p.2⟩

/-- What an operation makes once it has its expiry. -/
theorem expiry_ok {alpha : Type} {strategy : Type} {client : CoreKvClient strategy}
    {now : UInt64} {duration : Option Duration} {f : Option UInt32 -> alpha} {a : alpha}
    (h : (do
      upgradeAgent client
      let expiry <- optionalExpiry now duration
      pure (f expiry)) = Except.ok a) : exists expiry, f expiry = a := by
  cases hagent : upgradeAgent client with
  | error e =>
      rw [hagent] at h
      cases h
  | ok u =>
      cases hexpiry : optionalExpiry now duration with
      | error e =>
          rw [hagent, hexpiry] at h
          cases h
      | ok expiry =>
          rw [hagent, hexpiry] at h
          cases h
          exact ⟨expiry, rfl⟩

/-- Every store operation stores the compressed value with its flags. -/
theorem write_operation {strategy error : Type} {client : CoreKvClient strategy} {now : UInt64}
    {compress : Compress error} {libraryRetryStrategy : strategy} {id : String} {value : Buffer}
    {flags : UInt32} {store : Store strategy} {crud : SimpleCrud strategy error}
    (h : store.write client now compress libraryRetryStrategy id value flags = .ok crud)
    {collectionId : UInt32} {vbucketId : UInt16} {request : WriteRequest}
    (hrequest : crud.operation collectionId vbucketId = .ok request) :
    exists value' datatype' expiry, compress 0 value = .ok (value', datatype') ∧
      storedDocument request =
        some { value := value', datatype := datatype', flags := flags, expiry := expiry } := by
  cases store with
  | upsertRaw options =>
      rcases expiry_ok h with ⟨expiry, rfl⟩
      rcases compressed_stored hrequest (fun _ _ => rfl) with ⟨value', datatype', hstored⟩
      exact ⟨value', datatype', expiry, hstored⟩
  | insertRaw options =>
      rcases expiry_ok h with ⟨expiry, rfl⟩
      rcases compressed_stored hrequest (fun _ _ => rfl) with ⟨value', datatype', hstored⟩
      exact ⟨value', datatype', expiry, hstored⟩
  | replaceRaw options =>
      rcases expiry_ok h with ⟨expiry, rfl⟩
      rcases compressed_stored hrequest (fun _ _ => rfl) with ⟨value', datatype', hstored⟩
      exact ⟨value', datatype', expiry, hstored⟩

/-- The flags come back in the extras. -/
theorem parseFlags_storeExtras (flags : UInt32) (expiry : Option UInt32) :
    Memdx.parseFlags (some ((storeExtras flags expiry).take 4)) = .ok flags := by
  unfold Memdx.parseFlags storeExtras
  rw [List.take_left' (length_beBytes 4 flags.toNat)]
  dsimp only
  have hflags : flags.toNat % 256 ^ 4 = flags.toNat := Nat.mod_eq_of_lt flags.toNat_lt
  rw [if_neg (not_not_intro (length_beBytes 4 flags.toNat)), beNat_beBytes, hflags,
    UInt32.ofNat_toNat]

/-- A short input is one literal, with its length in front. -/
def compressShort (input : Buffer) : Except String Buffer :=
  if input.length ≤ 16 then
    .ok (UInt8.ofNat input.length :: UInt8.ofNat ((input.length - 1) * 4) :: input)
  else .error "input is not short"

theorem drop_compressShort (input compressed : Buffer) (h : compressShort input = .ok compressed) :
    some (compressed.drop 2) = some input := by
  unfold compressShort at h
  split at h
  · cases h
    rfl
  · cases h

def shortSnappy : Snappy :=
  { compress := compressShort
    decompress := fun compressed => some (compressed.drop 2)
    decompress_compress := drop_compressShort }

def eagerCompressor : StdCompressor F64.exact :=
  StdCompressor.new (.enabled 0 (2 : ℚ))

theorem compress_braces :
    eagerCompressor.compress shortSnappy true 0 [123, 125] = .ok ([2, 4, 123, 125], 2) := by
  have hratio : F64.exact.lt (2 : ℚ)
      (F64.exact.div (F64.exact.ofU64 4) (F64.exact.ofU64 2)) = false := by
    have hle : ¬ (2 : ℚ) < ((4 : Nat) : ℚ) / ((2 : Nat) : ℚ) := by norm_num
    show decide ((2 : ℚ) < ((4 : Nat) : ℚ) / ((2 : Nat) : ℚ)) = false
    exact decide_eq_false hle
  show (if F64.exact.lt (2 : ℚ) (F64.exact.div (F64.exact.ofU64 4) (F64.exact.ofU64 2)) then
    Except.ok ([123, 125], 0) else Except.ok ([2, 4, 123, 125], 2)) = _
  rw [hratio]
  rfl

def emptyDocument : Crud.UpsertOptions Unit :=
  { key := asBytes "k", scopeName := "_default", collectionName := "_default"
    value := [123, 125], flags := CF_FMT_JSON, datatype := 0, expiry := none
    preserveExpiry := none, cas := none, durabilityLevel := none, retryStrategy := () }

def emptyDocumentRequest : Memdx.SetRequest :=
  { collectionId := 0, key := asBytes "k", vbucketId := 5, flags := CF_FMT_JSON
    value := [2, 4, 123, 125], datatype := 2, expiry := none, preserveExpiry := none
    cas := none, onBehalfOf := none, durabilityLevel := none, durabilityLevelTimeout := none }

def emptyDocumentPacket : RequestPacket :=
  { magic := .req, opCode := .set, datatype := 2, vbucketId := some 5, cas := none
    extras := some [2, 0, 0, 0, 0, 0, 0, 0], key := some [107], value := some [2, 4, 123, 125]
    framingExtras := none, opaqueId := none }

/-- The server has kept the document as it came. -/
def emptyDocumentResponse : ResponsePacket :=
  { magic := .res, opCode := .get, datatype := 2, status := .success, opaqueId := 7
    cas := some 3, extras := some [2, 0, 0, 0], value := some [2, 4, 123, 125] }

theorem emptyDocument_answers :
    Answers shortSnappy emptyDocumentPacket emptyDocumentResponse where
  status := rfl
  extras := rfl
  value := ⟨_, _, rfl, rfl, rfl⟩

theorem emptyDocument_operation :
    (Crud.upsert (eagerCompressor.compress shortSnappy true) emptyDocument).operation 0 5 =
      .ok (.set emptyDocumentRequest) := by
  show (eagerCompressor.compress shortSnappy true 0 [123, 125]).map _ = _
  rw [compress_braces]
  rfl

end Kv
end CouchbaseSdk
