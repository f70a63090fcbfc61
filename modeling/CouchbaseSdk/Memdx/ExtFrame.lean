import CouchbaseSdk.Foundation.Bytes
import CouchbaseSdk.Memdx.Wire

/-!
# Frame infos

A request carries frame infos in front of its extras, each of them a code and a body.  The
first byte of a frame has the code in its high half and the length of the body in its low
half; a half of 15 says that more follows.
-/

namespace CouchbaseSdk
namespace Memdx

open Foundation

/-!
# Codes
-/

inductive ExtReqFrameCode where
  | barrier | durability | streamID | otelContext | onBehalfOf | preserveTTL | extraPerm
  | unknown (code : UInt16)
deriving DecidableEq

def ExtReqFrameCode.toU16 : ExtReqFrameCode -> UInt16
  | .barrier => 0x00
  | .durability => 0x01
  | .streamID => 0x02
  | .otelContext => 0x03
  | .onBehalfOf => 0x04
  | .preserveTTL => 0x05
  | .extraPerm => 0x06
  | .unknown code => code

inductive ExtResFrameCode where
  | serverDuration | readUnits | writeUnits | throttleDuration
  | unknown (code : UInt16)
deriving DecidableEq

def ExtResFrameCode.toU16 : ExtResFrameCode -> UInt16
  | .serverDuration => 0x00
  | .readUnits => 0x01
  | .writeUnits => 0x02
  | .throttleDuration => 0x03
  | .unknown code => code

def ExtResFrameCode.ofU16 (value : UInt16) : ExtResFrameCode :=
  if value = 0x00 then .serverDuration
  else if value = 0x01 then .readUnits
  else if value = 0x02 then .writeUnits
  else if value = 0x03 then .throttleDuration
  else .unknown value

@[simp] theorem ExtResFrameCode.toU16_ofU16 (value : UInt16) :
    (ExtResFrameCode.ofU16 value).toU16 = value := by
  unfold ofU16
  split
  · rename_i h
    rw [h]
    rfl
  · split
    · rename_i h
      rw [h]
      rfl
    · split
      · rename_i h
        rw [h]
        rfl
      · split
        · rename_i h
          rw [h]
          rfl
        · rfl

/-!
# Decoding
-/

/-- Addition of bytes, in a build with or without overflow checks. -/
def u8Add (overflowChecks : Bool) (a b : UInt8) : Exec Error UInt8 :=
  if overflowChecks && 256 ≤ a.toNat + b.toNat then .panic else .ok (a + b)

def unexpectedEof : Error :=
  .protocol "unexpected eof decoding ext frame"

/-- A half of the first byte, and what follows if it is 15. -/
def decodeEscape (overflowChecks : Bool) (half : UInt8) (buf : Buffer) (bufPos : Nat) :
    Exec Error (UInt8 × Nat) :=
  if half = 15 then
    match buf[bufPos]? with
    | some ext => (u8Add overflowChecks 15 ext).map fun sum => (sum, bufPos + 1)
    | none => .err unexpectedEof
  else .ok (half, bufPos)

/-- The code, the body and the position after the frame. -/
def decodeExtFrame (overflowChecks : Bool) (buf : Buffer) :
    Exec Error (ExtResFrameCode × Buffer × Nat) :=
  match buf with
  | [] => .err (.protocol "empty value buffer when decoding ext frame")
  | frameHeader :: _ => do
      let (uFrameCode, bufPos) ←
        decodeEscape overflowChecks ((frameHeader &&& 0xF0) >>> 4) buf 1
      let (frameLen, bufPos) ← decodeEscape overflowChecks (frameHeader &&& 0x0F) buf bufPos
      if buf.length < bufPos + frameLen.toNat then .err unexpectedEof
      else pure (.ofU16 uFrameCode.toUInt16, (buf.drop bufPos).take frameLen.toNat,
        bufPos + frameLen.toNat)

/-!
# Encoding
-/

/-- A buffer and how much of it is used. -/
structure FrameBuffer where
  buf : Buffer
  offset : Nat
deriving DecidableEq

def FrameBuffer.write (s : FrameBuffer) (bytes : Buffer) : FrameBuffer :=
  { buf := s.buf.take s.offset ++ bytes ++ s.buf.drop (s.offset + bytes.length)
    offset := s.offset + bytes.length }

def FrameBuffer.orByte (s : FrameBuffer) (i : Nat) (b : UInt8) : FrameBuffer :=
  { s with buf := s.buf.set i (s.buf.getD i 0 ||| b) }

def extFrameError (msg : String) : Error :=
  .invalidArgument msg (some "ext frame")

def appendCode (uFrameCode : UInt16) (hdrBytePtr : Nat) (s : FrameBuffer) :
    Except Error Unit × FrameBuffer :=
  if uFrameCode < 15 then
    (.ok (), s.orByte hdrBytePtr ((uFrameCode &&& 0x0f) <<< 4).toUInt8)
  else if 15 ≤ uFrameCode - 15 then
    (.error (extFrameError "ext frame code too large to encode"), s)
  else
    let s := s.orByte hdrBytePtr 0xF0
    if s.buf.length < s.offset + 2 then (.error (extFrameError "buffer overflow"), s)
    else (.ok (), s.write (beBytes 2 uFrameCode.toNat))

def appendLen (frameLen : Nat) (hdrBytePtr : Nat) (s : FrameBuffer) :
    Except Error Unit × FrameBuffer :=
  if frameLen < 15 then (.ok (), s.orByte hdrBytePtr (UInt8.ofNat frameLen &&& 0xF))
  else if 15 ≤ frameLen - 15 then
    (.error (extFrameError "ext frame len too large to encode"), s)
  else
    let s := s.orByte hdrBytePtr 0x0F
    if s.buf.length < s.offset + 2 then (.error (extFrameError "buffer overflow"), s)
    else (.ok (), s.write (beBytes 2 (frameLen - 15)))

def appendBody (frameBody : Buffer) (s : FrameBuffer) : Except Error Unit × FrameBuffer :=
  if 0 < frameBody.length then
    if s.buf.length < s.offset + frameBody.length then
      (.error (extFrameError "buffer overflow"), s)
    else (.ok (), s.write frameBody)
  else (.ok (), s)

/-- The offset is moved along with each part that is written. -/
def appendExtFrame (frameCode : ExtReqFrameCode) (frameBody : Buffer) (s : FrameBuffer) :
    Except Error Unit × FrameBuffer :=
  if s.buf.length ≤ s.offset then (.error (extFrameError "buffer overflow"), s)
  else
    match appendCode frameCode.toU16 s.offset (s.write [0]) with
    | (.error e, t) => (.error e, t)
    | (.ok (), t) =>
        match appendLen frameBody.length s.offset t with
        | (.error e, u) => (.error e, u)
        | (.ok (), u) => appendBody frameBody u

/-- Frames are appended in turn, up to the first one that fails. -/
def appendExtFrames : List (ExtReqFrameCode × Buffer) -> FrameBuffer ->
    Except Error Unit × FrameBuffer
  | [], s => (.ok (), s)
  | (frameCode, frameBody) :: frames, s =>
      match appendExtFrame frameCode frameBody s with
      | (.error e, t) => (.error e, t)
      | (.ok (), t) => appendExtFrames frames t

/-!
# What is written
-/

def frameHeader (code len : Nat) : UInt8 :=
  UInt8.ofNat (min code 15 * 16 + min len 15)

/-- Both escapes take two bytes.  The one of a code has the code itself. -/
def frameBytes (code : Nat) (body : Buffer) : Buffer :=
  frameHeader code body.length ::
    ((if code < 15 then [] else beBytes 2 code) ++
      (if body.length < 15 then [] else beBytes 2 (body.length - 15)) ++ body)

def framesBytes (frames : List (ExtReqFrameCode × Buffer)) : Buffer :=
  (frames.map fun frame => frameBytes frame.1.toU16.toNat frame.2).flatten

/-!
# Frame infos read back

The encoder and the decoder agree on frames whose code and length fit into a half byte.
They disagree on every escape: the encoder writes two bytes for it and the decoder reads
one, and the encoder writes a code where the decoder reads what the code has above 15.
-/

/-!
# What the encoder writes
-/

def codeEscape (code : Nat) : Buffer :=
  if code < 15 then [] else beBytes 2 code

def lenEscape (len : Nat) : Buffer :=
  if len < 15 then [] else beBytes 2 (len - 15)

theorem frameBytes_eq (code : Nat) (body : Buffer) :
    frameBytes code body = frameHeader code body.length ::
      (codeEscape code ++ lenEscape body.length ++ body) := rfl

theorem write_append (pre tail bytes : Buffer) :
    FrameBuffer.write { buf := pre ++ tail, offset := pre.length } bytes =
      { buf := pre ++ bytes ++ tail.drop bytes.length
        offset := pre.length + bytes.length } := by
  unfold FrameBuffer.write
  simp only [List.take_left', List.drop_append, Nat.add_sub_cancel_left]
  rw [List.drop_eq_nil_of_le (Nat.le_add_right _ _), List.nil_append]

theorem orByte_append (pre tail : Buffer) (x b : UInt8) (offset : Nat) :
    FrameBuffer.orByte { buf := pre ++ x :: tail, offset := offset } pre.length b =
      { buf := pre ++ (x ||| b) :: tail, offset := offset } := by
  unfold FrameBuffer.orByte
  simp

def highHalf (code : UInt16) : UInt8 :=
  if code < 15 then ((code &&& 0x0f) <<< 4).toUInt8 else 0xF0

def lowHalf (len : Nat) : UInt8 :=
  if len < 15 then UInt8.ofNat len &&& 0xF else 0x0F

theorem highHalf_eq (code : UInt16) : highHalf code = UInt8.ofNat (min code.toNat 15 * 16) := by
  have hsmall : forall k : Fin 15, ((UInt16.ofNat k &&& 0x0f) <<< 4).toUInt8 =
      UInt8.ofNat (k * 16) := by decide
  unfold highHalf
  split
  · rename_i hlt
    have hk : code.toNat < 15 := UInt16.lt_iff_toNat_lt.mp hlt
    have heq := hsmall ⟨code.toNat, hk⟩
    rw [UInt16.ofNat_toNat] at heq
    rw [heq, Nat.min_eq_left (Nat.le_of_lt hk)]
  · rename_i hlt
    have hk : 15 ≤ code.toNat := Nat.le_of_not_lt (fun h => hlt (UInt16.lt_iff_toNat_lt.mpr h))
    rw [Nat.min_eq_right hk]
    rfl

theorem lowHalf_eq (len : Nat) : lowHalf len = UInt8.ofNat (min len 15) := by
  have hsmall : forall k : Fin 15, UInt8.ofNat k &&& 0xF = UInt8.ofNat k := by decide
  unfold lowHalf
  split
  · rename_i hlt
    rw [hsmall ⟨len, hlt⟩, Nat.min_eq_left (Nat.le_of_lt hlt)]
  · rename_i hlt
    rw [Nat.min_eq_right (Nat.le_of_not_lt hlt)]
    rfl

theorem halves_eq (code : UInt16) (len : Nat) :
    (0 ||| highHalf code) ||| lowHalf len = frameHeader code.toNat len := by
  have hall : forall k l : Fin 16, (0 ||| UInt8.ofNat (k * 16)) ||| UInt8.ofNat l =
      UInt8.ofNat (k * 16 + l) := by decide +kernel
  rw [highHalf_eq, lowHalf_eq]
  exact hall ⟨min code.toNat 15, by omega⟩ ⟨min len 15, by omega⟩

theorem appendCode_ok {code : UInt16} {pre tail : Buffer} {x : UInt8} {t : FrameBuffer}
    (h : appendCode code pre.length { buf := pre ++ x :: tail, offset := pre.length + 1 } =
      (.ok (), t)) :
    code.toNat < 30 ∧ exists rest, t =
      { buf := pre ++ (x ||| highHalf code) :: (codeEscape code.toNat ++ rest)
        offset := pre.length + 1 + (codeEscape code.toNat).length } := by
  unfold appendCode at h
  unfold highHalf codeEscape
  split at h
  · rename_i hlt
    have hk : code.toNat < 15 := UInt16.lt_iff_toNat_lt.mp hlt
    rw [orByte_append] at h
    cases h
    rw [if_pos hlt, if_pos hk]
    exact ⟨Nat.lt_trans hk (by decide), tail, rfl⟩
  · rename_i hlt
    have hk : 15 ≤ code.toNat := Nat.le_of_not_lt (fun h => hlt (UInt16.lt_iff_toNat_lt.mpr h))
    split at h
    · cases h
    · rename_i hsmall
      rw [orByte_append] at h
      dsimp only at h
      split at h
      · cases h
      · have hsub : (code - 15).toNat = code.toNat - 15 :=
          UInt16.toNat_sub_of_le code 15 (UInt16.le_iff_toNat_le.mpr hk)
        have hcode : code.toNat < 30 := by
          refine Nat.lt_of_not_le (fun hle => hsmall (UInt16.le_iff_toNat_le.mpr ?_))
          rw [hsub]
          exact Nat.le_sub_of_add_le hle
        have hsplit : pre ++ (x ||| 0xF0) :: tail = (pre ++ [x ||| 0xF0]) ++ tail := by simp
        have hoffset : pre.length + 1 = (pre ++ [x ||| 0xF0]).length := by simp
        rw [hsplit, hoffset, write_append] at h
        cases h
        rw [if_neg hlt, if_neg (Nat.not_lt.mpr hk)]
        refine ⟨hcode, tail.drop (beBytes 2 code.toNat).length, ?_⟩
        simp

theorem appendLen_ok {len : Nat} {pre mid tail : Buffer} {x : UInt8} {t : FrameBuffer}
    (h : appendLen len pre.length
      { buf := pre ++ x :: (mid ++ tail), offset := pre.length + 1 + mid.length } =
        (.ok (), t)) :
    len < 30 ∧ exists rest, t =
      { buf := pre ++ (x ||| lowHalf len) :: (mid ++ lenEscape len ++ rest)
        offset := pre.length + 1 + mid.length + (lenEscape len).length } := by
  unfold appendLen at h
  unfold lowHalf lenEscape
  split at h
  · rename_i hlt
    rw [orByte_append] at h
    cases h
    rw [if_pos hlt, if_pos hlt]
    exact ⟨Nat.lt_trans hlt (by decide), tail, by simp⟩
  · rename_i hlt
    split at h
    · cases h
    · rename_i hsmall
      rw [orByte_append] at h
      dsimp only at h
      split at h
      · cases h
      · have hsplit : pre ++ (x ||| 0x0F) :: (mid ++ tail) =
            (pre ++ (x ||| 0x0F) :: mid) ++ tail := by simp
        have hoffset : pre.length + 1 + mid.length = (pre ++ (x ||| 0x0F) :: mid).length := by
          simp only [List.length_append, List.length_cons]
          omega
        rw [hsplit, hoffset, write_append] at h
        cases h
        rw [if_neg hlt, if_neg hlt]
        refine ⟨by omega, tail.drop (beBytes 2 (len - 15)).length, ?_⟩
        simp only [List.append_assoc, List.cons_append, List.length_append, List.length_cons,
          FrameBuffer.mk.injEq, true_and]
        omega

theorem appendBody_ok {body pre tail : Buffer} {t : FrameBuffer}
    (h : appendBody body { buf := pre ++ tail, offset := pre.length } = (.ok (), t)) :
    exists rest, t = { buf := pre ++ body ++ rest, offset := pre.length + body.length } := by
  unfold appendBody at h
  split at h
  · split at h
    · cases h
    · rw [write_append] at h
      cases h
      exact ⟨tail.drop body.length, rfl⟩
  · rename_i hempty
    have hnil : body = [] := List.length_eq_zero_iff.mp (Nat.eq_zero_of_not_pos hempty)
    cases h
    exact ⟨tail, by simp [hnil]⟩

theorem appendExtFrame_ok {code : ExtReqFrameCode} {body pre tail : Buffer} {t : FrameBuffer}
    (h : appendExtFrame code body { buf := pre ++ tail, offset := pre.length } = (.ok (), t)) :
    code.toU16.toNat < 30 ∧ body.length < 30 ∧ exists rest, t =
      { buf := pre ++ frameBytes code.toU16.toNat body ++ rest
        offset := (pre ++ frameBytes code.toU16.toNat body).length } := by
  unfold appendExtFrame at h
  split at h
  · cases h
  · rw [write_append] at h
    have hsplit : pre ++ [0] ++ tail.drop [(0 : UInt8)].length = pre ++ 0 :: tail.drop 1 := by
      simp
    dsimp only [List.length_singleton] at h
    rw [List.length_singleton] at hsplit
    rw [hsplit] at h
    split at h
    · cases h
    · rename_i t hcode
      rcases appendCode_ok hcode with ⟨hcodeLt, mid, rfl⟩
      split at h
      · cases h
      · rename_i u hlen
        rcases appendLen_ok hlen with ⟨hlenLt, rest, rfl⟩
        rw [halves_eq] at h
        have hfront : pre ++ frameHeader code.toU16.toNat body.length ::
            (codeEscape code.toU16.toNat ++ lenEscape body.length ++ rest) =
            (pre ++ frameHeader code.toU16.toNat body.length ::
              (codeEscape code.toU16.toNat ++ lenEscape body.length)) ++ rest := by simp
        have hoffset : pre.length + 1 + (codeEscape code.toU16.toNat).length +
            (lenEscape body.length).length =
            (pre ++ frameHeader code.toU16.toNat body.length ::
              (codeEscape code.toU16.toNat ++ lenEscape body.length)).length := by
          simp only [List.length_append, List.length_cons]
          omega
        rw [hfront, hoffset] at h
        rcases appendBody_ok h with ⟨last, rfl⟩
        refine ⟨hcodeLt, hlenLt, last, ?_⟩
        rw [frameBytes_eq]
        simp only [FrameBuffer.mk.injEq, List.append_assoc, List.cons_append,
          List.length_append, List.length_cons, true_and]
        omega

theorem appendExtFrames_ok {frames : List (ExtReqFrameCode × Buffer)} {pre tail : Buffer}
    {t : FrameBuffer}
    (h : appendExtFrames frames { buf := pre ++ tail, offset := pre.length } = (.ok (), t)) :
    (forall frame, frame ∈ frames -> frame.1.toU16.toNat < 30 ∧ frame.2.length < 30) ∧
      exists rest, t =
        { buf := pre ++ framesBytes frames ++ rest
          offset := (pre ++ framesBytes frames).length } := by
  induction frames generalizing pre tail with
  | nil =>
      cases h
      exact ⟨nofun, tail, by simp [framesBytes]⟩
  | cons frame frames ih =>
      unfold appendExtFrames at h
      split at h
      · cases h
      · rename_i u hframe
        rcases appendExtFrame_ok hframe with ⟨hcode, hlen, rest, rfl⟩
        rcases ih h with ⟨hall, last, rfl⟩
        refine ⟨?_, last, ?_⟩
        · intro other hmem
          rcases List.mem_cons.mp hmem with rfl | hmem
          · exact ⟨hcode, hlen⟩
          · exact hall other hmem
        · simp [framesBytes]

/-!
# What the decoder reads
-/

theorem decodeEscape_small {checks : Bool} {half : Nat} (h : half < 15) (buf : Buffer)
    (bufPos : Nat) :
    decodeEscape checks (UInt8.ofNat half) buf bufPos = .ok (UInt8.ofNat half, bufPos) := by
  have hne : UInt8.ofNat half ≠ 15 := by
    intro heq
    have hnat := congrArg UInt8.toNat heq
    rw [UInt8.toNat_ofNat', Nat.mod_eq_of_lt (by omega)] at hnat
    exact Nat.ne_of_lt h hnat
  unfold decodeEscape
  rw [if_neg hne]

theorem decodeExtFrame_header (checks : Bool) {code len : Nat} (hcode : code ≤ 15)
    (hlen : len ≤ 15) (rest : Buffer) :
    decodeExtFrame checks (frameHeader code len :: rest) = (do
      let (uFrameCode, bufPos) ←
        decodeEscape checks (UInt8.ofNat code) (frameHeader code len :: rest) 1
      let (frameLen, bufPos) ←
        decodeEscape checks (UInt8.ofNat len) (frameHeader code len :: rest) bufPos
      if rest.length + 1 < bufPos + frameLen.toNat then .err unexpectedEof
      else pure (.ofU16 uFrameCode.toUInt16,
        ((frameHeader code len :: rest).drop bufPos).take frameLen.toNat,
        bufPos + frameLen.toNat)) := by
  have hhigh : forall k l : Fin 16, (UInt8.ofNat (k * 16 + l) &&& 0xF0) >>> 4 =
      UInt8.ofNat k := by decide +kernel
  have hlow : forall k l : Fin 16, UInt8.ofNat (k * 16 + l) &&& 0x0F = UInt8.ofNat l := by
    decide +kernel
  have hheader : frameHeader code len = UInt8.ofNat (code * 16 + len) := by
    unfold frameHeader
    rw [Nat.min_eq_left hcode, Nat.min_eq_left hlen]
  have hfst := hhigh ⟨code, Nat.lt_succ_of_le hcode⟩ ⟨len, Nat.lt_succ_of_le hlen⟩
  have hsnd := hlow ⟨code, Nat.lt_succ_of_le hcode⟩ ⟨len, Nat.lt_succ_of_le hlen⟩
  dsimp only at hfst hsnd
  unfold decodeExtFrame
  simp only [hheader, hfst, hsnd, List.length_cons]

/-- A frame whose halves both fit. -/
theorem decodeExtFrame_small (checks : Bool) {code : Nat} {body : Buffer} (hcode : code < 15)
    (hlen : body.length < 15) (rest : Buffer) :
    decodeExtFrame checks (frameBytes code body ++ rest) =
      .ok (.ofU16 (UInt16.ofNat code), body, body.length + 1) := by
  have hbytes : frameBytes code body ++ rest =
      frameHeader code body.length :: (body ++ rest) := by
    rw [frameBytes_eq]
    unfold codeEscape lenEscape
    rw [if_pos hcode, if_pos hlen]
    rfl
  have hlenByte : (UInt8.ofNat body.length).toNat = body.length := by
    rw [UInt8.toNat_ofNat', Nat.mod_eq_of_lt (by omega)]
  have hcodeByte : (UInt8.ofNat code).toUInt16 = UInt16.ofNat code := by
    apply UInt16.toNat_inj.mp
    rw [UInt8.toNat_toUInt16, UInt8.toNat_ofNat', UInt16.toNat_ofNat',
      Nat.mod_eq_of_lt (by omega), Nat.mod_eq_of_lt (by omega)]
  rw [hbytes, decodeExtFrame_header checks (Nat.le_of_lt hcode) (Nat.le_of_lt hlen),
    decodeEscape_small hcode]
  simp only [Exec.ok_bind, decodeEscape_small hlen, hlenByte, List.length_append]
  rw [if_neg (by omega)]
  simp only [List.drop_succ_cons, List.drop_zero, List.take_left', hcodeByte, Exec.pure_eq_ok]
  rw [Nat.add_comm]

/-- The frames that repeated calls of `decode_ext_frame` find, up to the end. -/
inductive Decodes (overflowChecks : Bool) : Buffer -> List (UInt16 × Buffer) -> Prop where
  | nil : Decodes overflowChecks [] []
  | cons {buf : Buffer} {frames : List (UInt16 × Buffer)} (frameCode : ExtResFrameCode)
      (frameBody : Buffer) (bufPos : Nat) :
      decodeExtFrame overflowChecks buf = .ok (frameCode, frameBody, bufPos) ->
        Decodes overflowChecks (buf.drop bufPos) frames ->
          Decodes overflowChecks buf ((frameCode.toU16, frameBody) :: frames)

def frameItems (frames : List (ExtReqFrameCode × Buffer)) : List (UInt16 × Buffer) :=
  frames.map fun frame => (frame.1.toU16, frame.2)

/-- Both halves of the first byte say what there is to say. -/
def FitsHeader (frame : ExtReqFrameCode × Buffer) : Prop :=
  frame.1.toU16.toNat < 15 ∧ frame.2.length < 15

/-- What the encoder accepts. -/
def FitsEscape (frame : ExtReqFrameCode × Buffer) : Prop :=
  frame.1.toU16.toNat < 30 ∧ frame.2.length < 30

variable {checks : Bool} {frame : ExtReqFrameCode × Buffer}
  {frames : List (ExtReqFrameCode × Buffer)}

theorem framesBytes_cons (frame : ExtReqFrameCode × Buffer)
    (frames : List (ExtReqFrameCode × Buffer)) :
    framesBytes (frame :: frames) =
      frameBytes frame.1.toU16.toNat frame.2 ++ framesBytes frames := rfl

theorem decodes_cons_inv {buf body : Buffer} {code : UInt16} {items : List (UInt16 × Buffer)}
    (h : Decodes checks buf ((code, body) :: items)) :
    exists frameCode bufPos, decodeExtFrame checks buf = .ok (frameCode, body, bufPos) ∧
      frameCode.toU16 = code ∧ Decodes checks (buf.drop bufPos) items := by
  generalize hitems : (code, body) :: items = all at h
  cases h with
  | nil => cases hitems
  | cons frameCode frameBody bufPos hhead hrest =>
      cases hitems
      exact ⟨frameCode, bufPos, hhead, rfl, hrest⟩

theorem decodes_nil_inv {buf : Buffer} (h : Decodes checks buf []) : buf = [] := by
  cases h
  rfl

theorem decodes_small_cons (h : FitsHeader frame) :
    Decodes checks (framesBytes (frame :: frames)) (frameItems (frame :: frames)) <->
      Decodes checks (framesBytes frames) (frameItems frames) := by
  have hdecode := decodeExtFrame_small checks h.1 h.2 (framesBytes frames)
  have hdrop : (framesBytes (frame :: frames)).drop (frame.2.length + 1) =
      framesBytes frames := by
    rw [framesBytes_cons, frameBytes_eq]
    unfold codeEscape lenEscape
    rw [if_pos h.1, if_pos h.2]
    simp
  rw [UInt16.ofNat_toNat] at hdecode
  constructor
  · intro hall
    rcases decodes_cons_inv hall with ⟨frameCode, bufPos, hhead, hcode, hrest⟩
    cases hhead.symm.trans hdecode
    rw [hdrop] at hrest
    exact hrest
  · intro hrest
    have hcons := Decodes.cons _ _ _ hdecode (hdrop ▸ hrest)
    rw [ExtResFrameCode.toU16_ofU16] at hcons
    exact hcons

/-!
A misread escape leaves its last byte over, which is then read as the header of the next
frame.
-/

theorem u8Add_ok {a b sum : UInt8} (h : u8Add checks a b = .ok sum) : sum = a + b := by
  unfold u8Add at h
  split at h
  · cases h
  · cases h
    rfl

theorem decodeEscape_inv {half bufPos next : Nat} {buf : Buffer} {value : UInt8}
    (hle : half ≤ 15)
    (h : decodeEscape checks (UInt8.ofNat half) buf bufPos = .ok (value, next)) :
    (half < 15 ∧ value = UInt8.ofNat half ∧ next = bufPos) ∨
      (half = 15 ∧ next = bufPos + 1 ∧
        exists ext, buf[bufPos]? = some ext ∧ value = 15 + ext) := by
  rcases Nat.lt_or_eq_of_le hle with hlt | rfl
  · rw [decodeEscape_small hlt] at h
    cases h
    exact Or.inl ⟨hlt, rfl, rfl⟩
  · refine Or.inr ⟨rfl, ?_⟩
    unfold decodeEscape at h
    rw [if_pos (by decide)] at h
    split at h
    · rename_i ext hext
      rcases Exec.map_eq_ok.mp h with ⟨sum, hsum, hpair⟩
      cases hpair
      exact ⟨rfl, ext, hext, u8Add_ok hsum⟩
    · cases h

theorem decodeExtFrame_inv {code len bufPos : Nat} {rest frameBody : Buffer}
    {frameCode : ExtResFrameCode} (hcode : code ≤ 15) (hlen : len ≤ 15)
    (h : decodeExtFrame checks (frameHeader code len :: rest) =
      .ok (frameCode, frameBody, bufPos)) :
    exists uFrameCode first frameLen second,
      decodeEscape checks (UInt8.ofNat code) (frameHeader code len :: rest) 1 =
        .ok (uFrameCode, first) ∧
      decodeEscape checks (UInt8.ofNat len) (frameHeader code len :: rest) first =
        .ok (frameLen, second) ∧
      frameCode.toU16 = uFrameCode.toUInt16 ∧ frameBody.length = frameLen.toNat ∧
      ((frameHeader code len :: rest).drop second).take frameLen.toNat = frameBody ∧
      bufPos = second + frameLen.toNat := by
  rw [decodeExtFrame_header checks hcode hlen] at h
  cases hfirst : decodeEscape checks (UInt8.ofNat code) (frameHeader code len :: rest) 1 with
  | err e =>
      rw [hfirst] at h
      cases h
  | panic =>
      rw [hfirst] at h
      cases h
  | ok fst =>
      rcases fst with ⟨uFrameCode, first⟩
      rw [hfirst, Exec.ok_bind] at h
      dsimp only at h
      cases hsecond : decodeEscape checks (UInt8.ofNat len) (frameHeader code len :: rest)
          first with
      | err e =>
          rw [hsecond] at h
          cases h
      | panic =>
          rw [hsecond] at h
          cases h
      | ok snd =>
          rcases snd with ⟨frameLen, second⟩
          rw [hsecond, Exec.ok_bind] at h
          dsimp only at h
          split at h
          · cases h
          · rename_i hroom
            cases h
            refine ⟨uFrameCode, first, frameLen, second, rfl, hsecond,
              ExtResFrameCode.toU16_ofU16 _, ?_, rfl, rfl⟩
            rw [List.length_take, List.length_drop, List.length_cons]
            omega

/-- A body that comes one byte too late is made of that byte. -/
theorem take_shifted {x : UInt8} {body rest : Buffer}
    (h : (x :: (body ++ rest)).take body.length = body) :
    (x :: (body ++ rest)).drop body.length = x :: rest := by
  induction body generalizing x with
  | nil => rfl
  | cons b body ih =>
      simp only [List.cons_append, List.length_cons, List.take_succ_cons, List.cons.injEq] at h
      rw [List.length_cons, List.cons_append, List.drop_succ_cons, ih h.2, h.1]

/-- A zero is read as a frame of its own. -/
theorem decodes_zero_inv {buf : Buffer} {items : List (UInt16 × Buffer)}
    (h : Decodes checks (0 :: buf) items) :
    exists rest, items = (0, []) :: rest ∧ Decodes checks buf rest := by
  cases items with
  | nil => cases decodes_nil_inv h
  | cons item items =>
      have hdecode := @decodeExtFrame_small checks 0 [] (by decide) (by decide) buf
      rcases decodes_cons_inv h with ⟨frameCode, bufPos, hhead, hcode, hrest⟩
      have hsame := hhead.symm.trans hdecode
      simp only [Exec.ok.injEq, Prod.mk.injEq] at hsame
      rcases hsame with ⟨rfl, hbody, rfl⟩
      refine ⟨items, ?_, hrest⟩
      have hitem : item = (0, []) := Prod.ext hcode.symm hbody
      rw [hitem]

theorem not_decodes_zero (frames : List (ExtReqFrameCode × Buffer)) :
    ¬ Decodes checks (0 :: framesBytes frames) (frameItems frames) := by
  induction frames with
  | nil =>
      intro h
      cases decodes_nil_inv h
  | cons frame frames ih =>
      intro h
      rcases decodes_zero_inv h with ⟨rest, hitems, hrest⟩
      have hitem := List.cons.inj hitems
      have hzero : frame.1.toU16 = 0 := congrArg Prod.fst hitem.1
      have hbody : frame.2 = [] := congrArg Prod.snd hitem.1
      have hbytes : framesBytes (frame :: frames) = 0 :: framesBytes frames := by
        rw [framesBytes_cons, hzero, hbody]
        rfl
      rw [hbytes, ← hitem.2] at hrest
      exact ih hrest

theorem not_decodes_fifteen (h : forall frame, frame ∈ frames -> FitsEscape frame) :
    ¬ Decodes checks (15 :: framesBytes frames) (frameItems frames) := by
  intro hall
  cases frames with
  | nil => cases decodes_nil_inv hall
  | cons frame frames =>
      rcases decodes_cons_inv hall with ⟨frameCode, bufPos, hhead, hcode, -⟩
      have hheader : (15 : UInt8) = frameHeader 0 15 := by decide
      rw [hheader] at hhead
      rcases decodeExtFrame_inv (by decide) (by decide) hhead with
        ⟨uFrameCode, first, frameLen, second, hfirst, hsecond, hframeCode, hlength, -, -⟩
      rcases decodeEscape_inv (by decide) hfirst with ⟨-, rfl, rfl⟩ | ⟨habs, -, -⟩
      case inr => cases habs
      rcases decodeEscape_inv (by decide) hsecond with ⟨habs, -, -⟩ | ⟨-, -, ext, hext, rfl⟩
      case inl => exact absurd habs (by decide)
      have hzero : frame.1.toU16 = 0 := hcode.symm.trans hframeCode
      have hfits : frame.2.length < 30 := (h frame List.mem_cons_self).2
      rw [framesBytes_cons, hzero] at hext
      have hextHeader : ext = frameHeader 0 frame.2.length := (Option.some.inj hext).symm
      have hextNat : ext.toNat = min frame.2.length 15 := by
        rw [hextHeader, frameHeader, UInt8.toNat_ofNat']
        omega
      rw [UInt8.toNat_add, hextNat] at hlength
      have hfifteen : (15 : UInt8).toNat = 15 := rfl
      omega

theorem frameHeader_min (code len : Nat) :
    frameHeader code len = frameHeader (min code 15) (min len 15) := by
  unfold frameHeader
  rw [Nat.min_assoc, Nat.min_assoc, Nat.min_self]

theorem beBytes_small {n : Nat} (h : n < 256) : beBytes 2 n = [0, UInt8.ofNat n] := by
  have hzero : n / 256 = 0 := Nat.div_eq_of_lt h
  simp [beBytes, hzero]

theorem framesBytes_header (frame : ExtReqFrameCode × Buffer)
    (frames : List (ExtReqFrameCode × Buffer)) :
    framesBytes (frame :: frames) =
      frameHeader (min frame.1.toU16.toNat 15) (min frame.2.length 15) ::
        (codeEscape frame.1.toU16.toNat ++ (lenEscape frame.2.length ++
          (frame.2 ++ framesBytes frames))) := by
  rw [framesBytes_cons, frameBytes_eq, frameHeader_min]
  simp only [List.cons_append, List.append_assoc]

/-- An escaped code: the first byte of its escape, a zero, is read as the whole of it. -/
theorem not_decodes_code (hcode : 15 ≤ frame.1.toU16.toNat)
    (hfits : forall other, other ∈ frame :: frames -> FitsEscape other) :
    ¬ Decodes checks (framesBytes (frame :: frames)) (frameItems (frame :: frames)) := by
  intro hall
  rcases decodes_cons_inv hall with ⟨frameCode, bufPos, hhead, hsame, hrest⟩
  have hframe := hfits frame List.mem_cons_self
  have hescape : codeEscape frame.1.toU16.toNat =
      [0, UInt8.ofNat frame.1.toU16.toNat] := by
    unfold codeEscape
    rw [if_neg (Nat.not_lt.mpr hcode), beBytes_small (Nat.lt_trans hframe.1 (by decide))]
  rw [framesBytes_header, hescape, Nat.min_eq_right hcode] at hhead hrest
  rcases decodeExtFrame_inv (Nat.le_refl 15) (Nat.min_le_right _ 15) hhead with
    ⟨uFrameCode, first, frameLen, second, hfirst, hsecond, hframeCode, hlength, hbody, rfl⟩
  rcases decodeEscape_inv (Nat.le_refl 15) hfirst with ⟨habs, -, -⟩ | ⟨-, rfl, ext, hext, rfl⟩
  case inl => exact absurd habs (by decide)
  cases hext
  have hfifteen : frame.1.toU16.toNat = 15 := by
    rw [← hsame, hframeCode]
    rfl
  rcases decodeEscape_inv (Nat.min_le_right _ 15) hsecond with
    ⟨hlt, rfl, rfl⟩ | ⟨heq, rfl, ext, hext, rfl⟩
  · have hsmall : frame.2.length < 15 := by omega
    have hnone : lenEscape frame.2.length = [] := by
      unfold lenEscape
      rw [if_pos hsmall]
    rw [← hlength, hnone, hfifteen] at hbody hrest
    have hshift := @take_shifted (UInt8.ofNat 15) frame.2 (framesBytes frames) hbody
    have hleft : Decodes checks (15 :: framesBytes frames) (frameItems frames) := by
      rw [← List.drop_drop] at hrest
      exact hshift ▸ hrest
    exact not_decodes_fifteen (fun other hmem => hfits other (List.mem_cons_of_mem _ hmem)) hleft
  · have hlong : frame.2.length < 30 := hframe.2
    rw [hfifteen] at hext
    cases hext
    have hthirty : (15 + UInt8.ofNat 15).toNat = 30 := rfl
    omega

/-- An escaped length: likewise. -/
theorem decodes_len_shifted {items : List (UInt16 × Buffer)} (hcode : frame.1.toU16.toNat < 15)
    (hlen : 15 ≤ frame.2.length) (hfits : FitsEscape frame)
    (h : Decodes checks (framesBytes (frame :: frames)) ((frame.1.toU16, frame.2) :: items)) :
    Decodes checks (0 :: framesBytes frames) items := by
  rcases decodes_cons_inv h with ⟨frameCode, bufPos, hhead, -, hrest⟩
  have hlong : frame.2.length < 30 := hfits.2
  have hnone : codeEscape frame.1.toU16.toNat = [] := by
    unfold codeEscape
    rw [if_pos hcode]
  have hescape : lenEscape frame.2.length = [0, UInt8.ofNat (frame.2.length - 15)] := by
    unfold lenEscape
    rw [if_neg (Nat.not_lt.mpr hlen), beBytes_small (by omega)]
  rw [framesBytes_header, hnone, hescape, Nat.min_eq_right hlen,
    Nat.min_eq_left (Nat.le_of_lt hcode)] at hhead hrest
  rcases decodeExtFrame_inv (Nat.le_of_lt hcode) (Nat.le_refl 15) hhead with
    ⟨uFrameCode, first, frameLen, second, hfirst, hsecond, -, hlength, hbody, rfl⟩
  rcases decodeEscape_inv (Nat.le_of_lt hcode) hfirst with ⟨-, -, rfl⟩ | ⟨habs, -, -⟩
  case inr => exact absurd habs (Nat.ne_of_lt hcode)
  rcases decodeEscape_inv (Nat.le_refl 15) hsecond with ⟨habs, -, -⟩ | ⟨-, rfl, ext, hext, rfl⟩
  case inl => exact absurd habs (by decide)
  cases hext
  have hfifteen : frame.2.length = 15 := hlength
  rw [hfifteen] at hbody hrest
  have hshift : List.drop 15 (0 :: (frame.2 ++ framesBytes frames)) = 0 :: framesBytes frames :=
    hfifteen ▸ take_shifted (hfifteen.symm ▸ hbody)
  rw [← List.drop_drop] at hrest
  exact hshift ▸ hrest

theorem not_decodes_len (hcode : frame.1.toU16.toNat < 15) (hlen : 15 ≤ frame.2.length)
    (hfits : FitsEscape frame) :
    ¬ Decodes checks (framesBytes (frame :: frames)) (frameItems (frame :: frames)) :=
  fun hall => not_decodes_zero frames (decodes_len_shifted hcode hlen hfits hall)

theorem decodes_framesBytes_iff (hfits : forall frame, frame ∈ frames -> FitsEscape frame) :
    Decodes checks (framesBytes frames) (frameItems frames) <->
      forall frame, frame ∈ frames -> FitsHeader frame := by
  induction frames with
  | nil => exact ⟨fun _ => nofun, fun _ => Decodes.nil⟩
  | cons frame frames ih =>
      have htail := ih (fun other hmem => hfits other (List.mem_cons_of_mem _ hmem))
      by_cases hheader : FitsHeader frame
      · rw [decodes_small_cons hheader, htail, List.forall_mem_cons]
        exact (and_iff_right hheader).symm
      · have hnot : ¬ Decodes checks (framesBytes (frame :: frames))
            (frameItems (frame :: frames)) := by
          rcases Nat.lt_or_ge frame.1.toU16.toNat 15 with hcode | hcode
          · have hlen : 15 ≤ frame.2.length := Nat.le_of_not_lt (fun hlt => hheader ⟨hcode, hlt⟩)
            exact not_decodes_len hcode hlen (hfits frame List.mem_cons_self)
          · exact not_decodes_code hcode hfits
        exact ⟨fun hall => absurd hall hnot,
          fun hall => absurd (hall frame List.mem_cons_self) hheader⟩

/-!
# Failing appends
-/

theorem appendCode_offset {code : UInt16} {hdr : Nat} {s : FrameBuffer} :
    s.offset ≤ (appendCode code hdr s).2.offset := by
  unfold appendCode
  split
  · exact Nat.le_refl _
  · split
    · exact Nat.le_refl _
    · dsimp only
      split
      · exact Nat.le_refl _
      · exact Nat.le_add_right _ _

theorem appendLen_offset {len hdr : Nat} {s : FrameBuffer} :
    s.offset ≤ (appendLen len hdr s).2.offset := by
  unfold appendLen
  split
  · exact Nat.le_refl _
  · split
    · exact Nat.le_refl _
    · dsimp only
      split
      · exact Nat.le_refl _
      · exact Nat.le_add_right _ _

theorem appendBody_offset {body : Buffer} {s : FrameBuffer} :
    s.offset ≤ (appendBody body s).2.offset := by
  unfold appendBody
  split
  · split
    · exact Nat.le_refl _
    · exact Nat.le_add_right _ _
  · exact Nat.le_refl _

/-- The byte of the header is counted at once. -/
theorem appendExtFrame_offset {code : ExtReqFrameCode} {body : Buffer} {s : FrameBuffer}
    (h : s.offset < s.buf.length) :
    s.offset < (appendExtFrame code body s).2.offset := by
  unfold appendExtFrame
  rw [if_neg (Nat.not_le.mpr h)]
  have hcode := @appendCode_offset code.toU16 s.offset (s.write [0])
  have hstart : (s.write [0]).offset = s.offset + 1 := rfl
  split
  · rename_i t heq
    rw [heq, hstart] at hcode
    exact hcode
  · rename_i t heq
    rw [heq, hstart] at hcode
    have hlen := @appendLen_offset body.length s.offset t
    split
    · rename_i u heq
      rw [heq] at hlen
      exact Nat.le_trans hcode hlen
    · rename_i u heq
      rw [heq] at hlen
      exact Nat.le_trans hcode (Nat.le_trans hlen appendBody_offset)

theorem appendExtFrame_offset_iff (code : ExtReqFrameCode) (body : Buffer) (s : FrameBuffer) :
    (appendExtFrame code body s).2.offset = s.offset <-> s.buf.length ≤ s.offset := by
  constructor
  · intro hoffset
    refine Nat.le_of_not_lt (fun hlt => ?_)
    exact absurd hoffset.symm (Nat.ne_of_lt (appendExtFrame_offset hlt))
  · intro hfull
    unfold appendExtFrame
    rw [if_pos hfull]

/-!
# The round trip
-/

/-- What has been written since the offset was `start`. -/
def FrameBuffer.written (s : FrameBuffer) (start : Nat) : Buffer :=
  (s.buf.take s.offset).drop start

theorem written_framesBytes {s t : FrameBuffer} (h : appendExtFrames frames s = (.ok (), t)) :
    (forall frame, frame ∈ frames -> FitsEscape frame) ∧
      t.written s.offset = framesBytes frames := by
  rcases Nat.lt_or_ge s.buf.length s.offset with hbeyond | hwithin
  · cases frames with
    | nil =>
        cases h
        refine ⟨nofun, List.drop_eq_nil_of_le ?_⟩
        exact List.length_take_le _ _
    | cons frame frames =>
        unfold appendExtFrames appendExtFrame at h
        rw [if_pos (Nat.le_of_lt hbeyond)] at h
        cases h
  · have hstart : s = { buf := s.buf.take s.offset ++ s.buf.drop s.offset
                        offset := (s.buf.take s.offset).length } := by
      rw [List.take_append_drop, List.length_take, Nat.min_eq_left hwithin]
    rw [hstart] at h
    rcases appendExtFrames_ok h with ⟨hfits, rest, rfl⟩
    refine ⟨hfits, ?_⟩
    have hlength : s.offset = (s.buf.take s.offset).length := by
      rw [List.length_take, Nat.min_eq_left hwithin]
    unfold FrameBuffer.written
    rw [List.take_left', List.drop_left' hlength.symm]
    rfl

/-- Frames are read back if and only if none of them is escaped, and a failing append leaves
the offset alone if and only if there was no room for the first byte. -/
theorem ext_frames_round_trip_iff (overflowChecks : Bool)
    (frames : List (ExtReqFrameCode × Buffer)) (s : FrameBuffer) (frameCode : ExtReqFrameCode)
    (frameBody : Buffer) :
    ((appendExtFrames frames s).1 = .ok () ->
      (Decodes overflowChecks ((appendExtFrames frames s).2.written s.offset)
          (frameItems frames) <->
        forall frame, frame ∈ frames -> FitsHeader frame)) ∧
    ((appendExtFrame frameCode frameBody s).1 ≠ .ok () ->
      ((appendExtFrame frameCode frameBody s).2.offset = s.offset <->
        s.buf.length ≤ s.offset)) := by
  constructor
  · intro hok
    have happend : appendExtFrames frames s = (.ok (), (appendExtFrames frames s).2) :=
      Prod.ext hok rfl
    rcases written_framesBytes happend with ⟨hfits, hwritten⟩
    rw [hwritten]
    exact decodes_framesBytes_iff hfits
  · intro _
    exact appendExtFrame_offset_iff frameCode frameBody s

/-- Two frames of a request are read back, and one more does not find room in a full buffer. -/
theorem ext_frames_round_trip_preserve_ttl :
    (Decodes true [0x50, 0x11, 0x01] [(0x05, []), (0x01, [0x01])] <->
      forall frame, frame ∈ [(ExtReqFrameCode.preserveTTL, ([] : Buffer)),
        (ExtReqFrameCode.durability, [0x01])] -> FitsHeader frame) ∧
    (appendExtFrame .preserveTTL [] { buf := [0x50], offset := 1 }).2.offset = 1 :=
  ⟨(ext_frames_round_trip_iff true [(.preserveTTL, []), (.durability, [0x01])]
      { buf := [0, 0, 0], offset := 0 } .barrier []).1 (by decide),
    ((ext_frames_round_trip_iff true [] { buf := [0x50], offset := 1 } .preserveTTL []).2
      (by decide)).mpr (by decide)⟩

/-- A user name of 15 bytes for on-behalf-of. -/
def longUser : List (ExtReqFrameCode × Buffer) :=
  [(.onBehalfOf, List.replicate 15 0x61)]

theorem ext_frames_not_round_trip :
    ¬ forall (overflowChecks : Bool) (frames : List (ExtReqFrameCode × Buffer))
      (s : FrameBuffer),
      ((appendExtFrames frames s).1 = .ok () ->
        Decodes overflowChecks ((appendExtFrames frames s).2.written s.offset)
          (frameItems frames)) ∧
      (forall frameCode frameBody, (appendExtFrame frameCode frameBody s).1 ≠ .ok () ->
        (appendExtFrame frameCode frameBody s).2.offset = s.offset) := by
  intro hall
  have hdecodes := (hall true longUser { buf := List.replicate 18 0, offset := 0 }).1
    (by decide)
  have hfits : forall frame, frame ∈ longUser -> FitsEscape frame := by
    unfold FitsEscape
    decide
  have hheader := (decodes_framesBytes_iff hfits).mp hdecodes
  exact absurd (hheader _ List.mem_cons_self).2 (by decide)

end Memdx
end CouchbaseSdk
