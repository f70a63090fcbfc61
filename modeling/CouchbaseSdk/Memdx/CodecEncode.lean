import CouchbaseSdk.Memdx.CodecStream

/-!
# What the encoder writes

A successful call appends one frame.  The size checks come after the first two
bytes have been written and cover the key and the framing extras only, so this
module says for which packets the frame is what its header announces.
-/

namespace CouchbaseSdk
namespace Memdx

open Foundation

namespace RequestPacket

def totalBodySize (item : RequestPacket) : Nat :=
  sectionLen item.key + sectionLen item.extras + sectionLen item.framingExtras +
    sectionLen item.value

/-- The sections of the packet, in the order they are written. -/
def sections (item : RequestPacket) : Buffer :=
  item.framingExtras.getD [] ++ (item.extras.getD [] ++
    (item.key.getD [] ++ item.value.getD []))

theorem length_sections (item : RequestPacket) :
    item.sections.length = item.totalBodySize := by
  simp only [sections, totalBodySize, List.length_append, sectionLen]
  omega

end RequestPacket

namespace KeyValueCodec

/-!
# The frame of a packet
-/

/-- The two bytes that open every frame. -/
def opening (item : RequestPacket) : Buffer :=
  beBytes 1 item.magic.toU8.toNat ++ beBytes 1 item.opCode.toU8.toNat

/-- Byte 2: the framing extras length, or the high byte of the key length. -/
def lenByte (item : RequestPacket) : Nat :=
  if item.framingExtras.isSome then sectionLen item.framingExtras
  else sectionLen item.key / 256

def frame (item : RequestPacket) : Buffer :=
  opening item ++ (beBytes 1 (lenByte item) ++ (beBytes 1 (sectionLen item.key) ++
    encodeTail item item.totalBodySize))

/-- The size checks the encoder makes. -/
def SizesChecked (item : RequestPacket) : Prop :=
  if item.framingExtras.isSome then
    sectionLen item.key ≤ 255 ∧ sectionLen item.framingExtras ≤ 255
  else sectionLen item.key ≤ 65535

theorem encode_ok {item : RequestPacket} (dst : Buffer) (h : SizesChecked item) :
    encode item dst = (.ok (), dst ++ frame item) := by
  unfold SizesChecked at h
  unfold encode frame opening lenByte
  split at h
  · rename_i hframing
    rw [if_pos hframing, if_neg (by omega), if_neg (by omega), if_pos hframing]
    simp only [List.append_assoc]
    rfl
  · rename_i hframing
    rw [if_neg hframing, if_neg (by omega), if_neg hframing]
    simp only [List.append_assoc, beBytes_two]
    rfl

theorem encode_error {item : RequestPacket} (dst : Buffer) (h : ¬ SizesChecked item) :
    exists e, encode item dst = (.error e, dst ++ opening item) := by
  unfold SizesChecked at h
  unfold encode opening
  split at h
  · rename_i hframing
    rw [if_pos hframing]
    by_cases hkey : sectionLen item.key > 255
    · rw [if_pos hkey]
      exact ⟨_, by rw [List.append_assoc]⟩
    · have hextras : sectionLen item.framingExtras > 255 := by
        by_contra hextras
        exact h ⟨by omega, by omega⟩
      rw [if_neg hkey, if_pos hextras]
      exact ⟨_, by rw [List.append_assoc]⟩
  · rename_i hframing
    rw [if_neg hframing, if_pos (by omega)]
    exact ⟨_, by rw [List.append_assoc]⟩

/-!
# Reading a frame back
-/

/-- The header that a reader finds in the frame of a packet. -/
def frameHeader (item : RequestPacket) : Header :=
  { magic := item.magic
    opCode := OpCode.ofU8 item.opCode.toU8
    flexibleExtrasLen := if item.magic.isExtended then lenByte item % 256 else 0
    keyLen :=
      if item.magic.isExtended then sectionLen item.key % 256
      else lenByte item % 256 * 256 + sectionLen item.key % 256
    extrasLen := sectionLen item.extras % 256
    datatype := item.datatype
    status := Status.ofU16 (item.vbucketId.getD 0)
    totalBodyLen := item.totalBodySize % 2 ^ 32
    opaqueId := item.opaqueId.getD 0
    cas := item.cas.getD 0 }

theorem decodeKeyLens_frame (flexible : Bool) (a b : Nat) (rest : Buffer) :
    decodeKeyLens flexible (beBytes 1 a ++ (beBytes 1 b ++ rest)) =
      .ok ((if flexible then a % 256 else 0,
        if flexible then b % 256 else a % 256 * 256 + b % 256), rest) := by
  unfold decodeKeyLens
  cases flexible with
  | true =>
      simp only [if_true, Cursor.getU8_beBytes, Exec.ok_bind, Exec.pure_eq_ok,
        UInt8.toNat_ofNat']
  | false =>
      have hhigh : (a % 256 * 256 + b % 256) / 256 = a % 256 := by omega
      have hjoin : beBytes 1 a ++ (beBytes 1 b ++ rest) =
          beBytes 2 (a % 256 * 256 + b % 256) ++ rest := by
        rw [beBytes_two, hhigh, List.append_assoc,
          beBytes_one_congr (show a % 256 % 256 = a % 256 by omega),
          beBytes_one_congr (show (a % 256 * 256 + b % 256) % 256 = b % 256 by omega)]
      have hsmall : (a % 256 * 256 + b % 256) % 2 ^ 16 = a % 256 * 256 + b % 256 := by
        omega
      rw [hjoin]
      simp only [Bool.false_eq_true, if_false, Cursor.getU16_beBytes, Exec.ok_bind,
        Exec.pure_eq_ok, UInt16.toNat_ofNat', hsmall]

theorem decodeHeader_frame (item : RequestPacket) (rest : Buffer) :
    decodeHeader (frame item ++ rest) = .ok (frameHeader item, item.sections ++ rest) := by
  unfold decodeHeader frame opening encodeTail
  simp only [List.append_assoc, Cursor.getU8_beBytes, Exec.ok_bind, UInt8.ofNat_toNat,
    Magic.tryFrom_toU8, Exec.ofExcept_ok, OpCode.tryFrom]
  rw [decodeKeyLens_frame]
  simp only [Cursor.getU8_beBytes, Cursor.getU16_beBytes, Cursor.getU32_beBytes,
    Cursor.getU64_beBytes, Exec.ok_bind, Exec.pure_eq_ok, UInt8.ofNat_toNat,
    UInt16.ofNat_toNat, UInt32.ofNat_toNat, UInt64.ofNat_toNat, UInt8.toNat_ofNat',
    UInt32.toNat_ofNat', frameHeader, RequestPacket.sections, List.append_assoc]

/-!
# Which packets are framed faithfully

The reader takes the layout of the length bytes from the magic, the writer from the
presence of framing extras.  They agree when the two are in step, and also when
the section they disagree about is empty or short.
-/

/-- The bytes are one frame of the packet, and its header announces the true lengths. -/
def CompleteFrame (item : RequestPacket) (bytes : Buffer) : Prop :=
  exists h : Header, decodeHeader bytes = .ok (h, item.sections) ∧
    h.magic = item.magic ∧
    h.flexibleExtrasLen = sectionLen item.framingExtras ∧
    h.extrasLen = sectionLen item.extras ∧
    h.keyLen = sectionLen item.key ∧
    h.totalBodyLen = item.totalBodySize

def LayoutAgrees (item : RequestPacket) : Prop :=
  if item.framingExtras.isSome then
    item.magic.isExtended = true ∨ sectionLen item.framingExtras = 0
  else item.magic.isExtended = true -> sectionLen item.key ≤ 255

/-- The lengths fit the fields of the header that announce them. -/
structure Encodable (item : RequestPacket) : Prop where
  sizes_checked : SizesChecked item
  extras_fit : sectionLen item.extras ≤ 255
  body_fits : item.totalBodySize < 2 ^ 32
  layout_agrees : LayoutAgrees item

theorem sectionLen_of_isNone {section? : Option Buffer} (h : ¬ section?.isSome) :
    sectionLen section? = 0 := by
  cases section? with
  | none => rfl
  | some bytes => exact absurd rfl h

theorem frameHeader_lens_iff {item : RequestPacket} (h : SizesChecked item) :
    ((frameHeader item).flexibleExtrasLen = sectionLen item.framingExtras ∧
      (frameHeader item).keyLen = sectionLen item.key) <-> LayoutAgrees item := by
  unfold SizesChecked at h
  unfold LayoutAgrees frameHeader lenByte
  simp only
  split at h
  · rename_i hframing
    rw [if_pos hframing]
    split
    · rename_i hext
      simp only [hext, true_or, iff_true]
      omega
    · rename_i hext
      simp only [hext, false_or, Bool.false_eq_true]
      omega
  · rename_i hframing
    rw [if_neg hframing, sectionLen_of_isNone hframing]
    split
    · rename_i hext
      simp only [hext, true_implies]
      omega
    · rename_i hext
      simp only [hext, false_implies, iff_true, true_and, Bool.false_eq_true]
      omega

theorem completeFrame_frame_iff {item : RequestPacket} (h : SizesChecked item) :
    CompleteFrame item (frame item) <-> Encodable item := by
  have hdecode := decodeHeader_frame item []
  rw [List.append_nil, List.append_nil] at hdecode
  have hlens := frameHeader_lens_iff h
  constructor
  · rintro ⟨header, hheader, _, hframing, hextras, hkey, hbody⟩
    rw [hdecode] at hheader
    cases hheader
    refine ⟨h, ?_, ?_, hlens.mp ⟨hframing, hkey⟩⟩
    · rw [← hextras]
      have hlt : sectionLen item.extras % 256 < 256 := Nat.mod_lt _ (by decide)
      exact Nat.le_of_lt_succ hlt
    · rw [← hbody]
      exact Nat.mod_lt _ (by decide)
  · intro henc
    have hagree := hlens.mpr henc.layout_agrees
    refine ⟨frameHeader item, hdecode, rfl, hagree.left, ?_, hagree.right, ?_⟩
    · exact Nat.mod_eq_of_lt (Nat.lt_succ_of_le henc.extras_fit)
    · exact Nat.mod_eq_of_lt henc.body_fits

/-!
# The outgoing stream
-/

/-- What an encoder that never corrupts the stream owes its caller. -/
structure EncodeSound (item : RequestPacket) (dst : Buffer) : Prop where
  error_keeps : forall e, (encode item dst).1 = .error e -> (encode item dst).2 = dst
  ok_frames : (encode item dst).1 = .ok () ->
    exists bytes, (encode item dst).2 = dst ++ bytes ∧ CompleteFrame item bytes

theorem encodeSound_iff_encodable (item : RequestPacket) (dst : Buffer) :
    EncodeSound item dst <-> Encodable item := by
  by_cases hsizes : SizesChecked item
  · have hencode := encode_ok dst hsizes
    rw [← completeFrame_frame_iff hsizes]
    constructor
    · intro hsound
      have hok : (encode item dst).1 = .ok () := by rw [hencode]
      rcases hsound.ok_frames hok with ⟨bytes, hbytes, hframe⟩
      rw [hencode] at hbytes
      rw [List.append_cancel_left hbytes]
      exact hframe
    · intro hframe
      constructor
      · intro e he
        rw [hencode] at he
        cases he
      · intro _
        exact ⟨frame item, by rw [hencode], hframe⟩
  · rcases encode_error dst hsizes with ⟨e, hencode⟩
    constructor
    · -- The two opening bytes are already in the buffer.
      intro hsound
      have hkeeps := hsound.error_keeps e (by rw [hencode])
      rw [hencode] at hkeeps
      have hlen := congrArg List.length hkeeps
      simp only [List.length_append, opening, length_beBytes] at hlen
      omega
    · intro henc
      exact absurd henc.sizes_checked hsizes

/-- Send the packets one after another into the same write buffer. -/
def sendAll : Buffer -> List RequestPacket -> Buffer
  | dst, [] => dst
  | dst, item :: items => sendAll (encode item dst).2 items

theorem sendAll_encodable (dst : Buffer) {items : List RequestPacket}
    (h : forall item, item ∈ items -> Encodable item) :
    sendAll dst items = dst ++ (items.map frame).flatten := by
  induction items generalizing dst with
  | nil => simp [sendAll]
  | cons item items ih =>
      have hitem := h item List.mem_cons_self
      have hrest : forall item', item' ∈ items -> Encodable item' := by
        intro item' hmem
        exact h item' (List.mem_cons_of_mem item hmem)
      rw [sendAll, encode_ok dst hitem.sizes_checked, ih _ hrest]
      simp [List.append_assoc]

/--
The encoder keeps the stream sound exactly for the encodable packets, and a
stream of encodable packets is the sequence of their frames.
-/
theorem encode_sound_iff (dst : Buffer) :
    (forall item, EncodeSound item dst <-> Encodable item) ∧
      forall items, (forall item, item ∈ items -> Encodable item) ->
        exists frames, List.Forall₂ CompleteFrame items frames ∧
          sendAll dst items = dst ++ frames.flatten := by
  constructor
  · intro item
    exact encodeSound_iff_encodable item dst
  · intro items h
    refine ⟨items.map frame, ?_, sendAll_encodable dst h⟩
    rw [List.forall₂_map_right_iff, List.forall₂_same]
    intro item hmem
    have hitem := h item hmem
    exact (completeFrame_frame_iff hitem.sizes_checked).mpr hitem

def noop : RequestPacket :=
  { magic := .req, opCode := .noop, datatype := 0 }

/-- The request `select_bucket` builds. -/
def selectBucket (bucketName : Buffer) : RequestPacket :=
  { magic := .req, opCode := .selectBucket, datatype := 0, key := some bucketName }

theorem noop_encodable : Encodable noop := by
  constructor
  · show sectionLen noop.key ≤ 65535
    decide
  · decide
  · decide
  · show noop.magic.isExtended = true -> sectionLen noop.key ≤ 255
    decide

theorem encode_sound_iff_noop :
    Encodable noop ∧ EncodeSound noop [] ∧
      exists frames, List.Forall₂ CompleteFrame [noop, noop] frames ∧
        sendAll [] [noop, noop] = [] ++ frames.flatten := by
  refine ⟨noop_encodable, ((encode_sound_iff []).left noop).mpr noop_encodable, ?_⟩
  apply (encode_sound_iff []).right
  intro item hmem
  simp only [List.mem_cons, List.not_mem_nil, or_false, or_self] at hmem
  rw [hmem]
  exact noop_encodable

theorem selectBucket_unchecked {bucketName : Buffer} (h : 65535 < bucketName.length) :
    ¬ SizesChecked (selectBucket bucketName) := by
  show ¬ bucketName.length ≤ 65535
  omega

/-- After a refused bucket name the next frame starts two bytes late. -/
theorem sendAll_selectBucket_noop {bucketName : Buffer}
    (h : ¬ SizesChecked (selectBucket bucketName)) :
    sendAll [] [selectBucket bucketName, noop] = [0x80, 0x89] ++ frame noop := by
  have hopening : opening (selectBucket bucketName) = [0x80, 0x89] := by
    simp [opening, selectBucket, beBytes, Magic.toU8, OpCode.toU8]
  rcases encode_error [] h with ⟨e, hencode⟩
  rw [sendAll, hencode, sendAll, encode_ok _ noop_encodable.sizes_checked, sendAll,
    hopening, List.nil_append]

/-- A packet whose extras are one byte longer than their length field can say. -/
def longExtras : RequestPacket :=
  { magic := .req, opCode := .set, datatype := 0, extras := some (List.replicate 256 0) }

/--
A bucket name of 65536 bytes makes the call fail after two bytes, a reader of the
stream then takes the next request for the rest of that header, and 256 bytes of
extras are announced as none.
-/
theorem encode_not_sound :
    ¬ EncodeSound (selectBucket (List.replicate 65536 0x61)) [] ∧
      (exists h rest,
        decodeHeader (sendAll [] [selectBucket (List.replicate 65536 0x61), noop]) =
            .ok (h, rest) ∧
          h.opCode = .selectBucket ∧ h.keyLen = 0x800a) ∧
      ¬ EncodeSound longExtras [] := by
  have hlong : ¬ SizesChecked (selectBucket (List.replicate 65536 0x61)) :=
    selectBucket_unchecked (by rw [List.length_replicate]; decide)
  refine ⟨?_, ?_, ?_⟩
  · intro h
    exact hlong ((encodeSound_iff_encodable _ _).mp h).sizes_checked
  · rw [sendAll_selectBucket_noop hlong]
    exact ⟨_, _, rfl, rfl, rfl⟩
  · intro h
    have hextras : (List.replicate 256 (0 : UInt8)).length ≤ 255 :=
      ((encodeSound_iff_encodable _ _).mp h).extras_fit
    rw [List.length_replicate] at hextras
    omega

end KeyValueCodec
end Memdx
end CouchbaseSdk
