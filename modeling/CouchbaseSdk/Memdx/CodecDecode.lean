import CouchbaseSdk.Foundation.Framing
import CouchbaseSdk.Memdx.Codec

/-!
# What the decoder reads

The cursor reads of `decode` are summarised by the fields of the buffer: the
header of a complete frame is a function of its first 24 bytes, and the body is
cut at the lengths the header announces.
-/

namespace CouchbaseSdk
namespace Memdx

open Foundation

/-- The bytes the sections before the value take. -/
def Header.sectionsLen (h : Header) : Nat :=
  h.flexibleExtrasLen + h.extrasLen + h.keyLen

namespace KeyValueCodec

/-!
# The header as fields of the buffer
-/

def magicAt (buf : Buffer) : Except Error Magic :=
  Magic.tryFrom (UInt8.ofNat (beField 0 1 buf))

def flexibleExtrasLenAt (magic : Magic) (buf : Buffer) : Nat :=
  if magic.isExtended then beField 2 1 buf else 0

def keyLenAt (magic : Magic) (buf : Buffer) : Nat :=
  if magic.isExtended then beField 3 1 buf else beField 2 2 buf

def extrasLenAt (buf : Buffer) : Nat :=
  beField 4 1 buf

def headerAt (magic : Magic) (buf : Buffer) : Header :=
  { magic := magic
    opCode := OpCode.ofU8 (UInt8.ofNat (beField 1 1 buf))
    flexibleExtrasLen := flexibleExtrasLenAt magic buf
    keyLen := keyLenAt magic buf
    extrasLen := extrasLenAt buf
    datatype := UInt8.ofNat (beField 5 1 buf)
    status := Status.ofU16 (UInt16.ofNat (beField 6 2 buf))
    totalBodyLen := announcedLen buf
    opaqueId := UInt32.ofNat (beField 12 4 buf)
    cas := UInt64.ofNat (beField 16 8 buf) }

theorem toNat_ofNat_beField_one (off : Nat) (buf : Buffer) :
    (UInt8.ofNat (beField off 1 buf)).toNat = beField off 1 buf :=
  Nat.mod_eq_of_lt (beField_lt off 1 buf)

theorem toNat_ofNat_beField_two (off : Nat) (buf : Buffer) :
    (UInt16.ofNat (beField off 2 buf)).toNat = beField off 2 buf :=
  Nat.mod_eq_of_lt (beField_lt off 2 buf)

theorem toNat_ofNat_beField_four (off : Nat) (buf : Buffer) :
    (UInt32.ofNat (beField off 4 buf)).toNat = beField off 4 buf :=
  Nat.mod_eq_of_lt (beField_lt off 4 buf)

theorem decodeKeyLens_drop (magic : Magic) {buf : Buffer} (h : 4 ≤ buf.length) :
    decodeKeyLens magic.isExtended (buf.drop 2) =
      .ok ((flexibleExtrasLenAt magic buf, keyLenAt magic buf), buf.drop 4) := by
  unfold decodeKeyLens flexibleExtrasLenAt keyLenAt
  split
  · rw [Cursor.getU8_drop (by omega)]
    simp only [Exec.ok_bind]
    rw [Cursor.getU8_drop (by omega)]
    simp only [Exec.ok_bind, Exec.pure_eq_ok, toNat_ofNat_beField_one]
  · rw [Cursor.getU16_drop (by omega)]
    simp only [Exec.ok_bind, Exec.pure_eq_ok, toNat_ofNat_beField_two]

theorem decodeHeader_eq {buf : Buffer} (h : headerSize ≤ buf.length) :
    decodeHeader buf =
      match magicAt buf with
      | .error e => .err e
      | .ok magic => .ok (headerAt magic buf, buf.drop headerSize) := by
  have hlen : 24 ≤ buf.length := h
  have hzero : (Cursor.getU8 buf : Exec Error _) =
      .ok (UInt8.ofNat (beField 0 1 buf), buf.drop 1) := by
    exact Cursor.getU8_drop (show 0 + 1 ≤ buf.length by omega)
  unfold decodeHeader
  rw [hzero, Exec.ok_bind]
  show (Exec.ofExcept (magicAt buf) >>= _) = _
  cases magicAt buf with
  | error e => rfl
  | ok magic =>
      simp only [Exec.ofExcept_ok, Exec.ok_bind, OpCode.tryFrom]
      rw [Cursor.getU8_drop (by omega)]
      simp only [Exec.ok_bind]
      rw [decodeKeyLens_drop magic (by omega)]
      simp only [Exec.ok_bind]
      rw [Cursor.getU8_drop (by omega)]
      simp only [Exec.ok_bind]
      rw [Cursor.getU8_drop (by omega)]
      simp only [Exec.ok_bind]
      rw [Cursor.getU16_drop (by omega)]
      simp only [Exec.ok_bind]
      rw [Cursor.getU32_drop (by omega)]
      simp only [Exec.ok_bind]
      rw [Cursor.getU32_drop (by omega)]
      simp only [Exec.ok_bind]
      rw [Cursor.getU64_drop (by omega)]
      simp only [Exec.ok_bind, Exec.pure_eq_ok, toNat_ofNat_beField_one,
        toNat_ofNat_beField_four]
      rfl

/-!
# The body

A body as long as the header announces is cut into its four sections when they
fit, and cannot be cut when they do not.
-/

/-- The packet of a header and the bytes of its body. -/
def packetOf (h : Header) (body : Buffer) : ResponsePacket :=
  { magic := h.magic, opCode := h.opCode, datatype := h.datatype
    status := h.status, opaqueId := h.opaqueId, cas := some h.cas
    framingExtras := nonempty (body.take h.flexibleExtrasLen)
    extras := nonempty ((body.drop h.flexibleExtrasLen).take h.extrasLen)
    key := nonempty
      (((body.drop h.flexibleExtrasLen).drop h.extrasLen).take h.keyLen)
    value := nonempty
      (((body.drop h.flexibleExtrasLen).drop h.extrasLen).drop h.keyLen) }

theorem splitSection_of_le {len : Nat} {slice : Buffer} (h : len ≤ slice.length) :
    splitSection len slice = .ok (nonempty (slice.take len), slice.drop len) := by
  unfold splitSection nonempty
  by_cases hlen : 0 < len
  · have htake : 0 < (slice.take len).length := by
      rw [List.length_take]
      omega
    rw [if_pos hlen, if_pos htake, Cursor.splitTo_of_le h, Exec.map_ok]
  · have hzero : len = 0 := by omega
    subst hzero
    rfl

theorem splitSection_panic {len : Nat} {slice : Buffer} (h : slice.length < len) :
    splitSection len slice = .panic := by
  rw [splitSection, if_pos (by omega), Cursor.splitTo_panic h, Exec.map_panic]

theorem usizeSub_of_le {overflowChecks : Bool} {a b : Nat} (h : b ≤ a) :
    usizeSub overflowChecks a b = .ok (a - b) := by
  rw [usizeSub, if_pos h]

/-- Without overflow checks the subtraction returns; with them it panics or returns. -/
theorem usizeSub_panic_or_ok (overflowChecks : Bool) (a b : Nat) :
    usizeSub overflowChecks a b = .panic ∨
      exists n, usizeSub overflowChecks a b = .ok n := by
  unfold usizeSub
  split
  · exact Or.inr ⟨_, rfl⟩
  · split
    · exact Or.inl rfl
    · exact Or.inr ⟨_, rfl⟩

theorem decodeBody_fits (overflowChecks : Bool) {h : Header} {body : Buffer}
    (hlen : body.length = h.totalBodyLen) (hfit : h.sectionsLen ≤ h.totalBodyLen) :
    decodeBody overflowChecks h body = .ok (packetOf h body) := by
  unfold Header.sectionsLen at hfit
  unfold decodeBody
  rw [usizeSub_of_le (by omega), Exec.ok_bind, usizeSub_of_le (by omega), Exec.ok_bind,
    usizeSub_of_le (by omega), Exec.ok_bind]
  rw [splitSection_of_le (by omega)]
  simp only [Exec.ok_bind]
  rw [splitSection_of_le (by rw [List.length_drop]; omega)]
  simp only [Exec.ok_bind]
  rw [splitSection_of_le (by simp only [List.length_drop]; omega)]
  simp only [Exec.ok_bind, Exec.pure_eq_ok, packetOf, nonempty, List.length_drop]
  have hvalue :
      h.totalBodyLen - h.keyLen - h.extrasLen - h.flexibleExtrasLen =
        body.length - h.flexibleExtrasLen - h.extrasLen - h.keyLen := by
    omega
  rw [hvalue]

theorem decodeBody_oversized (overflowChecks : Bool) {h : Header} {body : Buffer}
    (hlen : body.length = h.totalBodyLen) (hover : h.totalBodyLen < h.sectionsLen) :
    decodeBody overflowChecks h body = .panic := by
  unfold decodeBody
  rcases usizeSub_panic_or_ok overflowChecks h.totalBodyLen h.keyLen with hsub | ⟨a, hsub⟩
  · rw [hsub]
    rfl
  rw [hsub, Exec.ok_bind]
  rcases usizeSub_panic_or_ok overflowChecks a h.extrasLen with hsub | ⟨b, hsub⟩
  · rw [hsub]
    rfl
  rw [hsub, Exec.ok_bind]
  rcases usizeSub_panic_or_ok overflowChecks b h.flexibleExtrasLen with hsub | ⟨c, hsub⟩
  · rw [hsub]
    rfl
  rw [hsub, Exec.ok_bind]
  -- The subtractions returned, so the cuts have to run out of bytes.
  unfold Header.sectionsLen at hover
  by_cases hframing : h.flexibleExtrasLen ≤ body.length
  · rw [splitSection_of_le hframing]
    simp only [Exec.ok_bind]
    by_cases hextras : h.extrasLen ≤ (body.drop h.flexibleExtrasLen).length
    · rw [splitSection_of_le hextras]
      simp only [Exec.ok_bind]
      rw [splitSection_panic (by simp only [List.length_drop] at hextras ⊢; omega)]
      rfl
    · rw [splitSection_panic (Nat.not_le.mp hextras)]
      rfl
  · rw [splitSection_panic (Nat.not_le.mp hframing)]
    rfl

/-!
# One call of the decoder
-/

/-- A complete frame stands at the front of the buffer. -/
def HasFrame (buf : Buffer) : Prop :=
  headerSize ≤ buf.length ∧ headerSize + announcedLen buf ≤ buf.length

instance decidableHasFrame (buf : Buffer) : Decidable (HasFrame buf) :=
  inferInstanceAs (Decidable (_ ∧ _))

/-- The frame at the front of the buffer, without its header. -/
def bodyAt (buf : Buffer) : Buffer :=
  (buf.drop headerSize).take (announcedLen buf)

theorem decode_incomplete (overflowChecks : Bool) {buf : Buffer} (h : ¬ HasFrame buf) :
    decode overflowChecks buf = (.ok none, buf) := by
  unfold decode
  split
  · rfl
  · rename_i hheader
    rw [if_pos]
    by_contra hbody
    exact h ⟨Nat.not_lt.mp hheader, Nat.not_lt.mp hbody⟩

theorem length_bodyAt {buf : Buffer} (h : HasFrame buf) :
    (bodyAt buf).length = announcedLen buf := by
  have hlen := h.right
  rw [bodyAt, List.length_take, List.length_drop]
  omega

/-- The fields of a frame do not change when the buffer grows. -/
theorem headerAt_take (magic : Magic) {buf : Buffer} {n : Nat}
    (hn : headerSize ≤ n) (h : headerSize ≤ buf.length) :
    magicAt (buf.take n) = magicAt buf ∧
      headerAt magic (buf.take n) = headerAt magic buf := by
  have hlen : headerSize ≤ (buf.take n).length := by
    rw [List.length_take]
    omega
  have hfield : forall off width, off + width ≤ headerSize ->
      beField off width (buf.take n) = beField off width buf := by
    intro off width hle
    have happend := beField_append (buf.drop n) (Nat.le_trans hle hlen)
    rw [List.take_append_drop] at happend
    exact happend.symm
  have hle : headerSize = 24 := rfl
  constructor
  · unfold magicAt
    rw [hfield 0 1 (by omega)]
  · unfold headerAt flexibleExtrasLenAt keyLenAt extrasLenAt announcedLen
    rw [hfield 1 1 (by omega), hfield 2 1 (by omega), hfield 3 1 (by omega),
      hfield 2 2 (by omega), hfield 4 1 (by omega), hfield 5 1 (by omega),
      hfield 6 2 (by omega), hfield 8 4 (by omega), hfield 12 4 (by omega),
      hfield 16 8 (by omega)]

/-- One call on a buffer that holds a complete frame. -/
theorem decode_frame (overflowChecks : Bool) {buf : Buffer} (h : HasFrame buf) :
    decode overflowChecks buf =
      (match magicAt buf with
        | .error e => .err e
        | .ok magic => (decodeBody overflowChecks (headerAt magic buf) (bodyAt buf)).map some,
        buf.drop (headerSize + announcedLen buf)) := by
  have hheader : headerSize ≤ (buf.take (headerSize + announcedLen buf)).length := by
    rw [List.length_take]
    have := h.right
    omega
  unfold decode
  rw [if_neg (Nat.not_lt.mpr h.left), if_neg (Nat.not_lt.mpr h.right)]
  unfold decodeFrame
  rw [decodeHeader_eq hheader, (headerAt_take .req (by omega) h.left).left]
  cases magicAt buf with
  | error e => rfl
  | ok magic =>
      simp only [Exec.ok_bind]
      rw [(headerAt_take magic (by omega) h.left).right, List.drop_take]
      simp only [Nat.add_sub_cancel_left]
      rfl

end KeyValueCodec
end Memdx
end CouchbaseSdk
