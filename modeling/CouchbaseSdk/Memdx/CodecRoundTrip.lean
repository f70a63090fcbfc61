import CouchbaseSdk.Memdx.CodecEncode

/-!
# Decoding what was encoded

The frame of an encodable packet is a well-formed frame, so the decoder takes it off
the stream and leaves what follows.  The packet it yields is the one that was
written, up to the opcode: the decoder's opcode table lacks an entry that the
encoder's table has.
-/

namespace CouchbaseSdk
namespace Memdx

open Foundation

namespace KeyValueCodec

/-!
# The frame of an encodable packet
-/

theorem header_complete_frame (item : RequestPacket) : headerSize ≤ (frame item).length := by
  simp only [frame, opening, encodeTail, List.length_append, length_beBytes, headerSize]
  omega

/-- The fields of the frame, read off the bytes. -/
theorem frame_fields (item : RequestPacket) :
    magicAt (frame item) = .ok item.magic ∧
      headerAt item.magic (frame item) = frameHeader item ∧
      (frame item).drop headerSize = item.sections := by
  have hlen := header_complete_frame item
  have hdecode := decodeHeader_frame item []
  rw [List.append_nil, List.append_nil, decodeHeader_eq hlen] at hdecode
  cases hmagic : magicAt (frame item) with
  | error e =>
      rw [hmagic] at hdecode
      cases hdecode
  | ok magic =>
      rw [hmagic] at hdecode
      injection hdecode with hpair
      have hheader : headerAt magic (frame item) = frameHeader item :=
        congrArg Prod.fst hpair
      have hsections : (frame item).drop headerSize = item.sections :=
        congrArg Prod.snd hpair
      have heq : magic = item.magic := congrArg Header.magic hheader
      rw [heq] at hheader
      exact ⟨by rw [heq], hheader, hsections⟩

theorem length_frame (item : RequestPacket) :
    (frame item).length = headerSize + item.totalBodySize := by
  have hsections := item.length_sections
  have hdrop := congrArg List.length (frame_fields item).right.right
  have hlen := header_complete_frame item
  rw [List.length_drop] at hdrop
  omega

theorem announcedLen_frame {item : RequestPacket} (h : Encodable item) :
    announcedLen (frame item) = item.totalBodySize := by
  have hheader := congrArg Header.totalBodyLen (frame_fields item).right.left
  have hbody : (frameHeader item).totalBodyLen = item.totalBodySize :=
    Nat.mod_eq_of_lt h.body_fits
  rw [hbody] at hheader
  exact hheader

theorem frameHeader_lens {item : RequestPacket} (h : Encodable item) :
    (frameHeader item).flexibleExtrasLen = sectionLen item.framingExtras ∧
      (frameHeader item).extrasLen = sectionLen item.extras ∧
      (frameHeader item).keyLen = sectionLen item.key := by
  have hagree := (frameHeader_lens_iff h.sizes_checked).mpr h.layout_agrees
  have hextras : (frameHeader item).extrasLen = sectionLen item.extras :=
    Nat.mod_eq_of_lt (Nat.lt_succ_of_le h.extras_fit)
  exact ⟨hagree.left, hextras, hagree.right⟩

theorem length_announced_frame {item : RequestPacket} (h : Encodable item) :
    (frame item).length = headerSize + announcedLen (frame item) := by
  rw [announcedLen_frame h, length_frame]

theorem sections_fit_frame {item : RequestPacket} (h : Encodable item) :
    (headerAt item.magic (frame item)).sectionsLen ≤ announcedLen (frame item) := by
  rw [(frame_fields item).right.left, announcedLen_frame h, Header.sectionsLen,
    (frameHeader_lens h).left, (frameHeader_lens h).right.left,
    (frameHeader_lens h).right.right, RequestPacket.totalBodySize]
  omega

def frameOf (item : RequestPacket) (h : Encodable item) : Frame where
  bytes := frame item
  magic := item.magic
  magic_known := (frame_fields item).left
  header_complete := header_complete_frame item
  length_announced := length_announced_frame h
  sections_fit := sections_fit_frame h

theorem frameOf_bytes (item : RequestPacket) (h : Encodable item) :
    (frameOf item h).bytes = frame item := rfl

/-!
# The packet that comes back
-/

/-- The response packet with the fields of a request; empty sections read as absent. -/
def responseOf (item : RequestPacket) : ResponsePacket :=
  { magic := item.magic
    opCode := item.opCode
    datatype := item.datatype
    status := Status.ofU16 (item.vbucketId.getD 0)
    opaqueId := item.opaqueId.getD 0
    cas := some (item.cas.getD 0)
    framingExtras := nonempty (item.framingExtras.getD [])
    extras := nonempty (item.extras.getD [])
    key := nonempty (item.key.getD [])
    value := nonempty (item.value.getD []) }

/-- The packet the decoder yields: its opcode went through both tables. -/
def decodedAs (item : RequestPacket) : ResponsePacket :=
  { responseOf item with opCode := OpCode.ofU8 item.opCode.toU8 }

theorem decodedAs_eq_iff (item : RequestPacket) :
    decodedAs item = responseOf item <-> OpCode.ofU8 item.opCode.toU8 = item.opCode := by
  constructor
  · intro h
    exact congrArg ResponsePacket.opCode h
  · intro h
    rw [decodedAs, h]
    rfl

theorem packet_frameOf {item : RequestPacket} (h : Encodable item) :
    (frameOf item h).packet = decodedAs item := by
  have hfields := (frame_fields item).right
  have hlens := frameHeader_lens h
  show packetOf (headerAt item.magic (frame item)) ((frame item).drop headerSize) = _
  rw [hfields.left, hfields.right, packetOf, hlens.left, hlens.right.left,
    hlens.right.right]
  simp only [RequestPacket.sections, sectionLen, List.take_left, List.drop_left]
  rfl

theorem decode_encoded (overflowChecks : Bool) {item : RequestPacket} (h : Encodable item)
    (rest : Buffer) :
    decode overflowChecks (frame item ++ rest) = (.ok (some (decodedAs item)), rest) := by
  have hframe := (frameOf item h).hasFrame
  have hdecode := (frameOf item h).decode_eq overflowChecks
  rw [frameOf_bytes] at hframe hdecode
  rw [decode_append overflowChecks hframe rest, hdecode, packet_frameOf h]
  simp only [List.nil_append]

theorem encodable_of_encode {item : RequestPacket} {dst : Buffer}
    (hlayout : item.magic.isExtended = item.framingExtras.isSome)
    (hextras : sectionLen item.extras ≤ 255) (hbody : item.totalBodySize < 2 ^ 32)
    (hok : (encode item dst).1 = .ok ()) : Encodable item := by
  have hsizes : SizesChecked item := by
    by_contra hsizes
    rcases encode_error dst hsizes with ⟨e, hencode⟩
    rw [hencode] at hok
    cases hok
  refine ⟨hsizes, hextras, hbody, ?_⟩
  unfold LayoutAgrees
  rw [hlayout]
  split
  · rename_i hframing
    exact Or.inl hframing
  · rename_i hframing
    intro hcontra
    exact absurd hcontra hframing

/-- The bytes appended by the call decode to the packet, in front of anything. -/
def RoundTrips (overflowChecks : Bool) (item : RequestPacket) (dst rest : Buffer) : Prop :=
  exists bytes, (encode item dst).2 = dst ++ bytes ∧
    decode overflowChecks (bytes ++ rest) = (.ok (some (responseOf item)), rest)

theorem roundTrips_iff_opCode (overflowChecks : Bool) {item : RequestPacket}
    (h : Encodable item) (dst rest : Buffer) :
    RoundTrips overflowChecks item dst rest <->
      OpCode.ofU8 item.opCode.toU8 = item.opCode := by
  have hencode := encode_ok dst h.sizes_checked
  have hdecode := decode_encoded overflowChecks h rest
  constructor
  · rintro ⟨bytes, hbytes, hround⟩
    rw [hencode] at hbytes
    rw [← List.append_cancel_left hbytes, hdecode] at hround
    have hpacket : some (decodedAs item) = some (responseOf item) :=
      Exec.ok.inj (congrArg Prod.fst hround)
    exact (decodedAs_eq_iff item).mp (Option.some.inj hpacket)
  · intro hop
    refine ⟨frame item, by rw [hencode], ?_⟩
    rw [hdecode, (decodedAs_eq_iff item).mpr hop]

/--
An accepted packet in the right layout round trips exactly when its opcode is not
`getMeta` and not an `unknown` wrapped around an assigned byte.
-/
theorem roundTrips_iff (overflowChecks : Bool) (item : RequestPacket) (dst rest : Buffer)
    (hlayout : item.magic.isExtended = item.framingExtras.isSome)
    (hextras : sectionLen item.extras ≤ 255) (hbody : item.totalBodySize < 2 ^ 32)
    (hok : (encode item dst).1 = .ok ()) :
    RoundTrips overflowChecks item dst rest <->
      item.opCode ≠ .getMeta ∧
        forall code, item.opCode = .unknown code -> code ∉ OpCode.assigned := by
  rw [roundTrips_iff_opCode overflowChecks (encodable_of_encode hlayout hextras hbody hok),
    OpCode.ofU8_toU8_iff]

theorem roundTrips_noop :
    (encode noop [0x01]).1 = .ok () ∧ RoundTrips true noop [0x01] [0x02] := by
  have hok : (encode noop [0x01]).1 = .ok () := rfl
  refine ⟨hok, ?_⟩
  rw [roundTrips_iff true noop [0x01] [0x02] rfl (by decide) (by decide) hok]
  constructor
  · decide
  · intro code hcode
    cases hcode

/-- A request for the metadata of a key. -/
def getMetaRequest : RequestPacket :=
  { magic := .req, opCode := .getMeta, datatype := 0, key := some [0x6b] }

theorem getMeta_not_roundTrips :
    getMetaRequest.magic.isExtended = getMetaRequest.framingExtras.isSome ∧
      sectionLen getMetaRequest.extras ≤ 255 ∧
      getMetaRequest.totalBodySize < 2 ^ 32 ∧
      (encode getMetaRequest []).1 = .ok () ∧
      ¬ RoundTrips true getMetaRequest [] [] := by
  have hok : (encode getMetaRequest []).1 = .ok () := rfl
  refine ⟨rfl, by decide, by decide, hok, ?_⟩
  rw [roundTrips_iff_opCode true
    (encodable_of_encode rfl (by decide) (by decide) hok)]
  decide

end KeyValueCodec
end Memdx
end CouchbaseSdk
