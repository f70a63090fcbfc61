import CouchbaseSdk.Memdx.CodecDecode

/-!
# The decoder on a byte stream

The decoder is an incremental decoder in the sense of the framing library, so the
packets it yields do not depend on how the network cut the bytes.  It is not total:
the lengths in a header are combined without a check, and a header whose sections
exceed its body aborts the call.
-/

namespace CouchbaseSdk
namespace Memdx

open Foundation

namespace KeyValueCodec

/-!
# Stability under further input
-/

theorem hasFrame_append {buf : Buffer} (h : HasFrame buf) (more : Buffer) :
    HasFrame (buf ++ more) ∧ announcedLen (buf ++ more) = announcedLen buf := by
  have hlen : 8 + 4 ≤ buf.length := Nat.le_trans (by decide) h.left
  have hann : announcedLen (buf ++ more) = announcedLen buf := beField_append more hlen
  have hleft := h.left
  have hright := h.right
  refine ⟨⟨?_, ?_⟩, hann⟩
  · rw [List.length_append]
    omega
  · rw [hann, List.length_append]
    omega

theorem frameAt_append (magic : Magic) {buf : Buffer} (h : HasFrame buf) (more : Buffer) :
    magicAt (buf ++ more) = magicAt buf ∧
      headerAt magic (buf ++ more) = headerAt magic buf ∧
      bodyAt (buf ++ more) = bodyAt buf := by
  have happend := hasFrame_append h more
  have htake : (buf ++ more).take buf.length = buf := List.take_left
  have hheader :
      magicAt ((buf ++ more).take buf.length) = magicAt (buf ++ more) ∧
        headerAt magic ((buf ++ more).take buf.length) = headerAt magic (buf ++ more) :=
    headerAt_take magic h.left happend.left.left
  rw [htake] at hheader
  refine ⟨hheader.left.symm, hheader.right.symm, ?_⟩
  have hright := h.right
  unfold bodyAt
  rw [happend.right, List.drop_append_of_le_length h.left,
    List.take_append_of_le_length (by rw [List.length_drop]; omega)]

theorem decode_append (overflowChecks : Bool) {buf : Buffer} (h : HasFrame buf)
    (more : Buffer) :
    decode overflowChecks (buf ++ more) =
      ((decode overflowChecks buf).1, (decode overflowChecks buf).2 ++ more) := by
  have happend := hasFrame_append h more
  have hright := h.right
  rw [decode_frame overflowChecks happend.left, decode_frame overflowChecks h,
    happend.right, (frameAt_append .req h more).left,
    List.drop_append_of_le_length hright]
  cases magicAt buf with
  | error e => rfl
  | ok magic =>
      have hfields := (frameAt_append magic h more).right
      simp only [hfields.left, hfields.right]

theorem hasFrame_of_decode {overflowChecks : Bool} {buf rest : Buffer}
    {r : Exec Error (Option ResponsePacket)}
    (h : decode overflowChecks buf = (r, rest)) (hr : r ≠ .ok none) : HasFrame buf := by
  by_contra hframe
  rw [decode_incomplete overflowChecks hframe] at h
  cases h
  exact hr rfl

theorem decode_none {overflowChecks : Bool} {buf rest : Buffer}
    (h : decode overflowChecks buf = (.ok none, rest)) : rest = buf := by
  by_cases hframe : HasFrame buf
  · -- A complete frame yields a packet, an error or a panic.
    rw [decode_frame overflowChecks hframe] at h
    have hresult := congrArg Prod.fst h
    cases hmagic : magicAt buf with
    | error e =>
        rw [hmagic] at hresult
        cases hresult
    | ok magic =>
        rw [hmagic] at hresult
        rcases Exec.map_eq_ok.mp hresult with ⟨p, _, hp⟩
        cases hp
  · rw [decode_incomplete overflowChecks hframe] at h
    exact (congrArg Prod.snd h).symm

/-- The codec as an incremental decoder. -/
def decoder (overflowChecks : Bool) : StreamDecoder UInt8 Error ResponsePacket where
  decode := decode overflowChecks
  keeps := decode_none
  shrinks := by
    intro buf rest p h
    have hframe := hasFrame_of_decode h (by intro hnone; cases hnone)
    have hleft : 24 ≤ buf.length := hframe.left
    rw [decode_frame overflowChecks hframe] at h
    have hrest : buf.drop (headerSize + announcedLen buf) = rest := congrArg Prod.snd h
    rw [← hrest, List.length_drop, headerSize]
    omega
  stable := by
    intro buf rest r more h hr
    rw [decode_append overflowChecks (hasFrame_of_decode h hr) more, h]

/-!
# Well-formed frames
-/

/-- A frame that is as long as it announces, with a known magic and sections that fit. -/
structure Frame where
  bytes : Buffer
  magic : Magic
  magic_known : magicAt bytes = .ok magic
  header_complete : headerSize ≤ bytes.length
  length_announced : bytes.length = headerSize + announcedLen bytes
  sections_fit : (headerAt magic bytes).sectionsLen ≤ announcedLen bytes

/-- The packet of a frame: its header fields, and its body cut into sections. -/
def Frame.packet (f : Frame) : ResponsePacket :=
  packetOf (headerAt f.magic f.bytes) (f.bytes.drop headerSize)

theorem Frame.hasFrame (f : Frame) : HasFrame f.bytes :=
  ⟨f.header_complete, Nat.le_of_eq f.length_announced.symm⟩

theorem Frame.bodyAt_eq (f : Frame) : bodyAt f.bytes = f.bytes.drop headerSize := by
  have hlen := f.length_announced
  unfold bodyAt
  apply List.take_of_length_le
  rw [List.length_drop]
  omega

theorem Frame.decode_eq (overflowChecks : Bool) (f : Frame) :
    decode overflowChecks f.bytes = (.ok (some f.packet), []) := by
  have hlen := length_bodyAt f.hasFrame
  rw [f.bodyAt_eq] at hlen
  rw [decode_frame overflowChecks f.hasFrame, f.magic_known, f.bodyAt_eq]
  simp only
  rw [decodeBody_fits overflowChecks hlen f.sections_fit, ← f.length_announced,
    List.drop_length]
  rfl

/--
Feeding the bytes of well-formed frames in any chunks yields the packets of the
frames in order and leaves nothing over; and a call that asks for more input leaves
the buffer as it was.
-/
theorem decode_chunks (overflowChecks : Bool) (frames : List Frame) (chunks : List Buffer)
    (hchunks : chunks.flatten = (frames.map Frame.bytes).flatten) :
    (decoder overflowChecks).feed [] chunks = (frames.map Frame.packet, .ok []) ∧
      (forall f, f ∈ frames ->
        decode overflowChecks f.bytes = (.ok (some f.packet), [])) ∧
      (forall buf rest, decode overflowChecks buf = (.ok none, rest) -> rest = buf) := by
  have hempty : (decoder overflowChecks).decode [] = (.ok none, []) :=
    decode_incomplete overflowChecks (show ¬ HasFrame [] by decide)
  have hframes : List.Forall₂ (decoder overflowChecks).Decodes
      (frames.map Frame.bytes) (frames.map Frame.packet) := by
    rw [List.forall₂_map_left_iff, List.forall₂_map_right_iff, List.forall₂_same]
    intro f _
    exact f.decode_eq overflowChecks
  refine ⟨?_, ?_, ?_⟩
  · exact (decoder overflowChecks).feed_frames hempty hframes hchunks
  · intro f _
    exact f.decode_eq overflowChecks
  · intro buf rest h
    exact decode_none h

/-- A header-only response frame: magic, opcode, then zero lengths. -/
def emptyFrame : Frame where
  bytes := 0x81 :: List.replicate 23 0
  magic := .res
  magic_known := rfl
  header_complete := by decide
  length_announced := by decide
  sections_fit := by decide

/-- Two frames, cut inside the first header and inside the second one. -/
theorem decode_chunks_two_frames :
    (decoder true).feed []
        [List.take 7 emptyFrame.bytes, emptyFrame.bytes.drop 7 ++ [0x81],
          emptyFrame.bytes.drop 1] =
      ([emptyFrame.packet, emptyFrame.packet], .ok []) :=
  (decode_chunks true [emptyFrame, emptyFrame] _ (by decide)).left

/-!
# Hostile headers

The body length is the announced length less three lengths that the peer also
chooses.  Nothing compares them first.
-/

/-- The frame at the front of the buffer announces sections that exceed its body. -/
def Oversized (buf : Buffer) : Prop :=
  HasFrame buf ∧
    exists magic, magicAt buf = .ok magic ∧
      announcedLen buf < (headerAt magic buf).sectionsLen

/-- What a total decoder owes its caller on a buffer. -/
structure DecodeTotal (overflowChecks : Bool) (buf : Buffer) : Prop where
  returns : (decode overflowChecks buf).1.Returns
  sections_add_up : forall p, (decode overflowChecks buf).1 = .ok (some p) ->
    sectionLen p.framingExtras + sectionLen p.extras + sectionLen p.key +
      sectionLen p.value = announcedLen buf
  rejects_oversized : Oversized buf -> exists e, (decode overflowChecks buf).1 = .err e

theorem sectionLen_packetOf {h : Header} {body : Buffer}
    (hlen : body.length = h.totalBodyLen) (hfit : h.sectionsLen ≤ h.totalBodyLen) :
    sectionLen (packetOf h body).framingExtras + sectionLen (packetOf h body).extras +
      sectionLen (packetOf h body).key + sectionLen (packetOf h body).value =
      h.totalBodyLen := by
  unfold Header.sectionsLen at hfit
  simp only [packetOf, sectionLen_nonempty, List.length_take, List.length_drop]
  omega

theorem decode_oversized (overflowChecks : Bool) {buf : Buffer} (h : Oversized buf) :
    (decode overflowChecks buf).1 = .panic := by
  rcases h with ⟨hframe, magic, hmagic, hover⟩
  rw [decode_frame overflowChecks hframe, hmagic]
  simp only
  rw [decodeBody_oversized overflowChecks (length_bodyAt hframe) hover]
  rfl

/-- A complete frame that is not oversized is rejected for its magic or decoded. -/
theorem decode_not_oversized (overflowChecks : Bool) {buf : Buffer} (hframe : HasFrame buf)
    (h : ¬ Oversized buf) :
    (exists e, (decode overflowChecks buf).1 = .err e) ∨
      exists header, header.totalBodyLen = announcedLen buf ∧
        header.sectionsLen ≤ header.totalBodyLen ∧
        (decode overflowChecks buf).1 = .ok (some (packetOf header (bodyAt buf))) := by
  rw [decode_frame overflowChecks hframe]
  cases hmagic : magicAt buf with
  | error e => exact Or.inl ⟨e, rfl⟩
  | ok magic =>
      have hfit : (headerAt magic buf).sectionsLen ≤ announcedLen buf := by
        by_contra hover
        exact h ⟨hframe, magic, hmagic, Nat.not_le.mp hover⟩
      refine Or.inr ⟨headerAt magic buf, rfl, hfit, ?_⟩
      simp only
      rw [decodeBody_fits overflowChecks (length_bodyAt hframe) hfit]
      rfl

/-- The decoder is total exactly on the buffers without an oversized frame in front. -/
theorem decodeTotal_iff (overflowChecks : Bool) (buf : Buffer) :
    DecodeTotal overflowChecks buf <-> ¬ Oversized buf := by
  constructor
  · intro htotal hover
    have hreturns := htotal.returns
    rw [decode_oversized overflowChecks hover] at hreturns
    exact hreturns
  · intro hover
    by_cases hframe : HasFrame buf
    · rcases decode_not_oversized overflowChecks hframe hover with
        ⟨e, he⟩ | ⟨header, htotal, hfit, hok⟩
      · constructor
        · rw [he]
          trivial
        · intro p hp
          rw [he] at hp
          cases hp
        · intro hcontra
          exact absurd hcontra hover
      · constructor
        · rw [hok]
          trivial
        · intro p hp
          rw [hok] at hp
          cases hp
          rw [← htotal]
          exact sectionLen_packetOf ((length_bodyAt hframe).trans htotal.symm) hfit
        · intro hcontra
          exact absurd hcontra hover
    · have hnone := decode_incomplete overflowChecks hframe
      constructor
      · rw [hnone]
        trivial
      · intro p hp
        rw [hnone] at hp
        cases hp
      · intro hcontra
        exact absurd hcontra hover

/-- A response header that announces a key of one byte in an empty body. -/
def keyBeyondBody : Buffer :=
  [0x81, 0x00, 0x00, 0x01] ++ List.replicate 20 0

theorem decode_keyBeyondBody_not_total :
    ¬ DecodeTotal true keyBeyondBody ∧ ¬ DecodeTotal false keyBeyondBody := by
  have hpanic : forall checks, (decode checks keyBeyondBody).1 = .panic := by
    decide
  constructor
  · intro h
    have hreturns := h.returns
    rw [hpanic true] at hreturns
    exact hreturns
  · intro h
    have hreturns := h.returns
    rw [hpanic false] at hreturns
    exact hreturns

end KeyValueCodec
end Memdx
end CouchbaseSdk
