import CouchbaseSdk.Foundation.Bytes
import CouchbaseSdk.Memdx.Wire

/-!
# KV packets

The packet a caller hands to the encoder, the packet the decoder produces, and
the response a pending operation receives.
-/

namespace CouchbaseSdk
namespace Memdx

open Foundation

structure ResponsePacket where
  magic : Magic
  opCode : OpCode
  datatype : UInt8
  status : Status
  opaqueId : UInt32
  vbucketId : Option UInt16 := none
  cas : Option UInt64 := none
  extras : Option Buffer := none
  key : Option Buffer := none
  value : Option Buffer := none
  framingExtras : Option Buffer := none
deriving DecidableEq

structure RequestPacket where
  magic : Magic
  opCode : OpCode
  datatype : UInt8
  vbucketId : Option UInt16 := none
  cas : Option UInt64 := none
  extras : Option Buffer := none
  key : Option Buffer := none
  value : Option Buffer := none
  framingExtras : Option Buffer := none
  opaqueId : Option UInt32 := none
deriving DecidableEq

structure SubdocRequestInfo where
  flags : UInt8
  opCount : UInt8
deriving DecidableEq

structure ResponseContext where
  cas : Option UInt64
  subdocInfo : Option SubdocRequestInfo
  scopeName : Option String
  collectionName : Option String
deriving DecidableEq

structure ClientResponse where
  packet : ResponsePacket
  responseContext : Option ResponseContext
deriving DecidableEq

/-- The number of bytes of an optional section. -/
def sectionLen (section? : Option Buffer) : Nat :=
  (section?.getD []).length

/-- An empty section reads back as an absent one. -/
def nonempty (bytes : Buffer) : Option Buffer :=
  if 0 < bytes.length then some bytes else none

@[simp] theorem sectionLen_none : sectionLen none = 0 := rfl

@[simp] theorem sectionLen_some (bytes : Buffer) :
    sectionLen (some bytes) = bytes.length := rfl

@[simp] theorem sectionLen_nonempty (bytes : Buffer) :
    sectionLen (nonempty bytes) = bytes.length := by
  unfold nonempty
  split
  · rfl
  · simp only [sectionLen_none]
    omega

/-!
# The KV codec

`decode` takes one packet off the front of the read buffer and `encode` appends
one packet to the write buffer.  Lengths are `usize` in the source and natural
numbers here; a buffer is never longer than memory, so only the subtraction in
`decode` can leave the range of `usize`.  Builds differ in what they do there:
with overflow checks it panics, without them it wraps.  Every result below is
stated for both.
-/

def headerSize : Nat := 24

/-- Subtraction of machine words, in a build with or without overflow checks. -/
def usizeSub (overflowChecks : Bool) (a b : Nat) : Exec Error Nat :=
  if b ≤ a then .ok (a - b)
  else if overflowChecks then .panic
  else .ok (a + 2 ^ 64 - b)

/-- The fixed part of a frame, as the decoder reads it. -/
structure Header where
  magic : Magic
  opCode : OpCode
  flexibleExtrasLen : Nat
  keyLen : Nat
  extrasLen : Nat
  datatype : UInt8
  status : Status
  totalBodyLen : Nat
  opaqueId : UInt32
  cas : UInt64
deriving DecidableEq

namespace KeyValueCodec

/-!
# Decoding
-/

/-- Bytes 2 and 3: two one-byte lengths in the extended layout, one two-byte length otherwise. -/
def decodeKeyLens (flexible : Bool) (slice : Buffer) :
    Exec Error ((Nat × Nat) × Buffer) :=
  if flexible then do
    let (flexibleExtrasLen, slice) ← Cursor.getU8 slice
    let (keyLen, slice) ← Cursor.getU8 slice
    pure ((flexibleExtrasLen.toNat, keyLen.toNat), slice)
  else do
    let (keyLen, slice) ← Cursor.getU16 slice
    pure ((0, keyLen.toNat), slice)

def decodeHeader (slice : Buffer) : Exec Error (Header × Buffer) := do
  -- 0
  let (magicByte, slice) ← Cursor.getU8 slice
  let magic ← Exec.ofExcept (Magic.tryFrom magicByte)
  let flexible := magic.isExtended
  -- 1
  let (opCodeByte, slice) ← Cursor.getU8 slice
  let opCode ← Exec.ofExcept (OpCode.tryFrom opCodeByte)
  -- 2, 3
  let ((flexibleExtrasLen, keyLen), slice) ← decodeKeyLens flexible slice
  -- 4
  let (extrasLen, slice) ← Cursor.getU8 slice
  -- 5
  let (datatype, slice) ← Cursor.getU8 slice
  -- 6, 7
  let (status, slice) ← Cursor.getU16 slice
  -- 8 to 11
  let (totalBodyLen, slice) ← Cursor.getU32 slice
  -- 12 to 15
  let (opaqueId, slice) ← Cursor.getU32 slice
  -- 16 to 23
  let (cas, slice) ← Cursor.getU64 slice
  pure ({ magic := magic, opCode := opCode, flexibleExtrasLen := flexibleExtrasLen,
          keyLen := keyLen, extrasLen := extrasLen.toNat, datatype := datatype,
          status := Status.ofU16 status, totalBodyLen := totalBodyLen.toNat,
          opaqueId := opaqueId, cas := cas }, slice)

/-- A section is split off only when its length is not zero. -/
def splitSection (len : Nat) (slice : Buffer) : Exec Error (Option Buffer × Buffer) :=
  if 0 < len then
    (Cursor.splitTo len slice).map fun (bytes, rest) => (some bytes, rest)
  else
    pure (none, slice)

def decodeBody (overflowChecks : Bool) (h : Header) (slice : Buffer) :
    Exec Error ResponsePacket := do
  let bodyLen ← usizeSub overflowChecks h.totalBodyLen h.keyLen
  let bodyLen ← usizeSub overflowChecks bodyLen h.extrasLen
  let bodyLen ← usizeSub overflowChecks bodyLen h.flexibleExtrasLen
  let (framingExtras, slice) ← splitSection h.flexibleExtrasLen slice
  let (extras, slice) ← splitSection h.extrasLen slice
  let (key, slice) ← splitSection h.keyLen slice
  let value := if 0 < bodyLen then some slice else none
  pure { magic := h.magic, opCode := h.opCode, datatype := h.datatype,
         status := h.status, opaqueId := h.opaqueId, cas := some h.cas,
         framingExtras := framingExtras, extras := extras, key := key,
         value := value }

def decodeFrame (overflowChecks : Bool) (slice : Buffer) : Exec Error ResponsePacket := do
  let (h, slice) ← decodeHeader slice
  decodeBody overflowChecks h slice

/-- The body length announced by bytes 8 to 11 of the buffer. -/
def announcedLen (buf : Buffer) : Nat :=
  beField 8 4 buf

/-- The result of the call and the buffer it leaves. -/
def decode (overflowChecks : Bool) (buf : Buffer) :
    Exec Error (Option ResponsePacket) × Buffer :=
  if buf.length < headerSize then (.ok none, buf)
  else if buf.length < headerSize + announcedLen buf then
    -- Reserving capacity does not change the content.
    (.ok none, buf)
  else
    ((decodeFrame overflowChecks (buf.take (headerSize + announcedLen buf))).map some,
      buf.drop (headerSize + announcedLen buf))

/-!
# Encoding
-/

/-- Bytes 4 to 23 and the four sections, after the key lengths have been written. -/
def encodeTail (item : RequestPacket) (totalBodySize : Nat) : Buffer :=
  beBytes 1 (sectionLen item.extras)
    ++ beBytes 1 item.datatype.toNat
    ++ beBytes 2 (item.vbucketId.getD 0).toNat
    ++ beBytes 4 totalBodySize
    ++ beBytes 4 (item.opaqueId.getD 0).toNat
    ++ beBytes 8 (item.cas.getD 0).toNat
    ++ item.framingExtras.getD []
    ++ item.extras.getD []
    ++ item.key.getD []
    ++ item.value.getD []

/-- The result of the call and the buffer it leaves. -/
def encode (item : RequestPacket) (dst : Buffer) : Except Error Unit × Buffer :=
  let keySize := sectionLen item.key
  let framingExtrasSize := sectionLen item.framingExtras
  let totalBodySize :=
    keySize + sectionLen item.extras + framingExtrasSize + sectionLen item.value
  let dst := dst ++ beBytes 1 item.magic.toU8.toNat
  let dst := dst ++ beBytes 1 item.opCode.toU8.toNat
  if item.framingExtras.isSome then
    if keySize > 255 then
      (.error (.invalidArgument "key size too large" (some "key")), dst)
    else if framingExtrasSize > 255 then
      (.error (.invalidArgument "frame extras too large" (some "frame extras")), dst)
    else
      (.ok (), dst ++ beBytes 1 framingExtrasSize ++ beBytes 1 keySize
        ++ encodeTail item totalBodySize)
  else if keySize > 65535 then
    (.error (.invalidArgument "key size too large" (some "key")), dst)
  else
    (.ok (), dst ++ beBytes 2 keySize ++ encodeTail item totalBodySize)

end KeyValueCodec
end Memdx
end CouchbaseSdk
