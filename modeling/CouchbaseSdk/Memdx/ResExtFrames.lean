import CouchbaseSdk.Foundation.Duration
import CouchbaseSdk.Memdx.ExtFrame

/-!
# Frame infos of a response

Of the frame infos that a server sends, the duration it measured is read.
-/

namespace CouchbaseSdk
namespace Memdx

open Foundation

section Decoding

variable (overflowChecks : Bool) (durationOf : UInt32 -> Duration)

/-- `durationOf` is the formula for the 16 bits that are sent. -/
def decodeServerDurationExtFrame (data : Buffer) : Except Error Duration :=
  match data with
  | [high, low] => .ok (durationOf ((high.toUInt32 <<< 8) ||| low.toUInt32))
  | _ => .error (.protocol "invalid server duration ext frame length")

/-- The callback is given what it has collected, and the buffer behind the frame is returned. -/
def iterExtFrames {collected : Type} (cb : collected -> ExtResFrameCode -> Buffer -> collected)
    (start : collected) (buf : Buffer) : Exec Error (collected × Buffer) :=
  match buf with
  | [] => .ok (start, buf)
  | _ :: _ => do
      let (frameCode, frameBody, bufPos) <- decodeExtFrame overflowChecks buf
      pure (cb start frameCode frameBody, buf.drop bufPos)

def decodeResExtFrames (buf : Buffer) : Exec Error (Option Duration) := do
  let (serverDurationData, _) <- iterExtFrames overflowChecks
    (fun data code body =>
      if code = .serverDuration then some (decodeServerDurationExtFrame durationOf body) else data)
    none buf
  match serverDurationData with
  | some data => (Exec.ofExcept data).map some
  | none => pure none

end Decoding

/-!
# The frames of the format
-/

/-- A half byte and an escape of one byte reach up to 270. -/
structure ResFrame where
  code : Nat
  body : Buffer
  codeLe : code ≤ 270
  bodyLe : body.length ≤ 270

def resEscape (n : Nat) : Buffer :=
  if n < 15 then [] else [UInt8.ofNat (n - 15)]

namespace ResFrame

def bytes (frame : ResFrame) : Buffer :=
  frameHeader frame.code frame.body.length ::
    (resEscape frame.code ++ (resEscape frame.body.length ++ frame.body))

def isServerDuration (frame : ResFrame) : Bool :=
  frame.code == 0

end ResFrame

def resFramesBytes (frames : List ResFrame) : Buffer :=
  frames.flatMap ResFrame.bytes

/-- The beginning of a frame that is cut off. -/
def CutFrame (piece : Buffer) : Prop :=
  piece ≠ [] ∧ exists (frame : ResFrame) (missing : Buffer),
    missing ≠ [] ∧ piece ++ missing = frame.bytes

section Meaning

variable (durationOf : UInt32 -> Duration)

/-- The answer is the duration of the only frame that has one. -/
def AnswersFrames (frames : List ResFrame) (answer : Exec Error (Option Duration)) : Prop :=
  match frames.filter ResFrame.isServerDuration with
  | [] => answer = .ok none
  | [frame] =>
      answer = (Exec.ofExcept (decodeServerDurationExtFrame durationOf frame.body)).map some
  | _ => True

/-- No sum overflows, the duration is found among the frames, and a frame that is cut off is an
error. -/
def ReadsFrames (buf : Buffer) : Prop :=
  (decodeResExtFrames true durationOf buf).Returns ∧
  (forall overflowChecks frames, buf = resFramesBytes frames ->
    AnswersFrames durationOf frames (decodeResExtFrames overflowChecks durationOf buf)) ∧
  (forall overflowChecks frames piece, CutFrame piece -> buf = resFramesBytes frames ++ piece ->
    exists e, decodeResExtFrames overflowChecks durationOf buf = .err e)

end Meaning

/-- What is added to 15 leaves a byte. -/
def EscapeFits (half : UInt8) (rest : Buffer) : Prop :=
  half = 15 -> forall ext, rest.head? = some ext -> ext.toNat ≤ 240

/-- The escapes of the first frame. -/
def EscapesFit : Buffer -> Prop
  | [] => True
  | header :: rest =>
      EscapeFits ((header &&& 0xF0) >>> 4) rest ∧
        EscapeFits (header &&& 0x0F)
          (if (header &&& 0xF0) >>> 4 = 15 then rest.tail else rest)

/-- The only frame with a duration is the first one, and a frame that is cut off is the first one
or stands behind a frame with a duration that is malformed. -/
def FirstDecides (buf : Buffer) : Prop :=
  (forall frames frame, buf = resFramesBytes frames ->
    frames.filter ResFrame.isServerDuration = [frame] -> frames.head? = some frame) ∧
  (forall frames piece, CutFrame piece -> buf = resFramesBytes frames ++ piece ->
    forall first, frames.head? = some first ->
      first.isServerDuration = true ∧ first.body.length ≠ 2)

/-!
# Overflow
-/

theorem getElem?_behind (pre rest : Buffer) : (pre ++ rest)[pre.length]? = rest.head? := by
  cases rest with
  | nil => simp
  | cons b rest => simp

/-- What an escape does to the bytes that are left. -/
inductive Escaped (half : UInt8) (rest : Buffer) (start : Nat) :
    Exec Error (UInt8 × Nat) -> Prop where
  | plain : half ≠ 15 -> Escaped half rest start (.ok (half, start))
  | missing : half = 15 -> rest = [] -> Escaped half rest start (.err unexpectedEof)
  | read (ext sum : UInt8) (tail : Buffer) : half = 15 -> rest = ext :: tail ->
      ext.toNat ≤ 240 -> Escaped half rest start (.ok (sum, start + 1))
  | overflow (ext : UInt8) (tail : Buffer) : half = 15 -> rest = ext :: tail ->
      240 < ext.toNat -> Escaped half rest start .panic

theorem decodeEscape_escaped (half : UInt8) (pre rest : Buffer) :
    Escaped half rest pre.length (decodeEscape true half (pre ++ rest) pre.length) := by
  unfold decodeEscape
  by_cases hhalf : half = 15
  · rw [if_pos hhalf, getElem?_behind]
    cases rest with
    | nil => exact .missing hhalf rfl
    | cons ext tail =>
        dsimp only [List.head?_cons]
        by_cases hext : ext.toNat ≤ 240
        · have hsum : u8Add true 15 ext = .ok (15 + ext) := by
            unfold u8Add
            simp
            omega
          rw [hsum]
          exact .read ext _ tail hhalf rfl hext
        · have hsum : u8Add true 15 ext = .panic := by
            unfold u8Add
            simp
            omega
          rw [hsum]
          exact .overflow ext tail hhalf rfl (Nat.lt_of_not_le hext)
  · rw [if_neg hhalf]
    exact .plain hhalf

theorem escapeFits_nil (half : UInt8) : EscapeFits half [] := by
  intro _ ext h
  cases h

theorem escape_bind_returns {result : Type} (half : UInt8) (pre rest : Buffer)
    {k : UInt8 × Nat -> Exec Error result} (hk : forall p, (k p).Returns) :
    (decodeEscape true half (pre ++ rest) pre.length >>= k).Returns <-> EscapeFits half rest := by
  have hescaped := decodeEscape_escaped half pre rest
  generalize decodeEscape true half (pre ++ rest) pre.length = first at hescaped
  cases hescaped with
  | plain hne => exact iff_of_true (hk _) fun heq => absurd heq hne
  | missing _ hnil =>
      subst hnil
      exact iff_of_true trivial (escapeFits_nil half)
  | read ext sum tail _ hcons hext =>
      subst hcons
      refine iff_of_true (hk _) ?_
      intro _ ext' h
      cases h
      exact hext
  | overflow ext tail hhalf hcons hext =>
      subst hcons
      refine iff_of_false id ?_
      intro hfits
      exact absurd (hfits hhalf ext rfl) (Nat.not_le.mpr hext)

/-- The first frame is read without overflow if and only if its escapes fit. -/
theorem decodeExtFrame_returns (header : UInt8) (rest : Buffer) :
    (decodeExtFrame true (header :: rest)).Returns <-> EscapesFit (header :: rest) := by
  unfold decodeExtFrame EscapesFit
  dsimp only
  have hk : forall uFrameCode (p : UInt8 × Nat),
      (if (header :: rest).length < p.2 + p.1.toNat then .err unexpectedEof
        else pure (ExtResFrameCode.ofU16 uFrameCode,
          ((header :: rest).drop p.2).take p.1.toNat, p.2 + p.1.toNat) :
        Exec Error (ExtResFrameCode × Buffer × Nat)).Returns := by
    intro uFrameCode p
    split
    · trivial
    · trivial
  have hescaped := decodeEscape_escaped ((header &&& 0xF0) >>> 4) [header] rest
  change Escaped _ _ 1 (decodeEscape true _ (header :: rest) 1) at hescaped
  generalize decodeEscape true ((header &&& 0xF0) >>> 4) (header :: rest) 1 = first at hescaped
  cases hescaped with
  | plain hne =>
      rw [if_neg hne, Exec.ok_bind]
      have hsecond := escape_bind_returns (header &&& 0x0F) [header] rest
        (hk ((header &&& 0xF0) >>> 4).toUInt16)
      exact hsecond.trans (and_iff_right fun heq => absurd heq hne).symm
  | missing heq hnil =>
      subst hnil
      rw [if_pos heq]
      exact iff_of_true trivial ⟨escapeFits_nil _, escapeFits_nil _⟩
  | read ext sum tail heq hcons hext =>
      subst hcons
      rw [if_pos heq, Exec.ok_bind]
      have hsecond := escape_bind_returns (header &&& 0x0F) [header, ext] tail
        (hk sum.toUInt16)
      refine hsecond.trans (and_iff_right ?_).symm
      intro _ ext' h
      cases h
      exact hext
  | overflow ext tail heq hcons hext =>
      subst hcons
      refine iff_of_false id ?_
      intro hfits
      exact absurd (hfits.1 heq ext rfl) (Nat.not_le.mpr hext)

/-!
# One frame
-/

theorem high_frameHeader (code len : Nat) :
    (frameHeader code len &&& 0xF0) >>> 4 = UInt8.ofNat (min code 15) := by
  have hall : forall k l : Fin 16, (UInt8.ofNat (k * 16 + l) &&& 0xF0) >>> 4 =
      UInt8.ofNat k := by decide +kernel
  exact hall ⟨min code 15, by omega⟩ ⟨min len 15, by omega⟩

theorem low_frameHeader (code len : Nat) :
    frameHeader code len &&& 0x0F = UInt8.ofNat (min len 15) := by
  have hall : forall k l : Fin 16, UInt8.ofNat (k * 16 + l) &&& 0x0F = UInt8.ofNat l := by
    decide +kernel
  exact hall ⟨min code 15, by omega⟩ ⟨min len 15, by omega⟩

theorem half_eq_fifteen (n : Nat) : UInt8.ofNat (min n 15) = 15 <-> 15 ≤ n := by
  rw [← UInt8.toNat_inj, UInt8.toNat_ofNat', Nat.mod_eq_of_lt (by omega)]
  change min n 15 = 15 <-> 15 ≤ n
  omega

theorem escapeFits_resEscape {n : Nat} (h : n ≤ 270) (rest : Buffer) :
    EscapeFits (UInt8.ofNat (min n 15)) (resEscape n ++ rest) <-> n ≤ 255 := by
  unfold EscapeFits resEscape
  rw [half_eq_fifteen]
  split
  · omega
  · next hlarge =>
      have hext : (UInt8.ofNat (n - 15)).toNat = n - 15 := by
        rw [UInt8.toNat_ofNat']
        omega
      constructor
      · intro hfits
        have hle := hfits (Nat.le_of_not_lt hlarge) _ rfl
        omega
      · intro hle _ ext hhead
        cases hhead
        omega

theorem behind_resEscape (n : Nat) (rest : Buffer) :
    (if UInt8.ofNat (min n 15) = 15 then (resEscape n ++ rest).tail else resEscape n ++ rest) =
      rest := by
  unfold resEscape
  split
  · next h => rw [if_neg (Nat.not_lt.mpr ((half_eq_fifteen n).mp h))]; rfl
  · next h =>
      rw [if_pos (Nat.lt_of_not_le fun hle => h ((half_eq_fifteen n).mpr hle))]
      rfl

theorem escapesFit_bytes (frame : ResFrame) (rest : Buffer) :
    EscapesFit (frame.bytes ++ rest) <-> frame.code ≤ 255 ∧ frame.body.length ≤ 255 := by
  unfold ResFrame.bytes
  rw [List.cons_append, List.append_assoc, List.append_assoc]
  unfold EscapesFit
  dsimp only
  rw [high_frameHeader, low_frameHeader, behind_resEscape, escapeFits_resEscape frame.codeLe,
    escapeFits_resEscape frame.bodyLe]

theorem decodeEscape_present (checks : Bool) {n : Nat} (h : n ≤ 255) (pre rest : Buffer) :
    decodeEscape checks (UInt8.ofNat (min n 15)) (pre ++ (resEscape n ++ rest)) pre.length =
      .ok (UInt8.ofNat n, pre.length + (resEscape n).length) := by
  unfold resEscape
  split
  · next hsmall =>
      rw [Nat.min_eq_left (Nat.le_of_lt hsmall), decodeEscape_small hsmall]
      rfl
  · next hlarge =>
      have hle : 15 ≤ n := Nat.le_of_not_lt hlarge
      have hext : (UInt8.ofNat (n - 15)).toNat = n - 15 := by
        rw [UInt8.toNat_ofNat']
        omega
      have hsum : u8Add checks 15 (UInt8.ofNat (n - 15)) = .ok (UInt8.ofNat n) := by
        unfold u8Add
        have hfifteen : (15 : UInt8).toNat = 15 := rfl
        have hno : ¬ 256 ≤ (15 : UInt8).toNat + (UInt8.ofNat (n - 15)).toNat := by omega
        have hbyte : 15 + UInt8.ofNat (n - 15) = UInt8.ofNat n := by
          apply UInt8.toNat_inj.mp
          rw [UInt8.toNat_add, hext, hfifteen, UInt8.toNat_ofNat']
          omega
        rw [decide_eq_false hno, Bool.and_false, if_neg Bool.false_ne_true, hbyte]
      rw [Nat.min_eq_right hle]
      unfold decodeEscape
      rw [if_pos (show UInt8.ofNat 15 = 15 from rfl), getElem?_behind]
      dsimp only [List.cons_append, List.head?_cons]
      rw [hsum]
      rfl

theorem decodeEscape_missing (checks : Bool) {n : Nat} (h : 15 ≤ n) (pre : Buffer) :
    decodeEscape checks (UInt8.ofNat (min n 15)) (pre ++ []) pre.length = .err unexpectedEof := by
  unfold decodeEscape
  rw [if_pos ((half_eq_fifteen n).mpr h), getElem?_behind]
  rfl

/-- The escapes of a header, and then the length of the body. -/
theorem decodeExtFrame_halves (checks : Bool) (code len : Nat) (rest : Buffer) :
    decodeExtFrame checks (frameHeader code len :: rest) = (do
      let (uFrameCode, bufPos) ←
        decodeEscape checks (UInt8.ofNat (min code 15)) (frameHeader code len :: rest) 1
      let (frameLen, bufPos) ←
        decodeEscape checks (UInt8.ofNat (min len 15)) (frameHeader code len :: rest) bufPos
      if rest.length + 1 < bufPos + frameLen.toNat then .err unexpectedEof
      else pure (.ofU16 uFrameCode.toUInt16,
        ((frameHeader code len :: rest).drop bufPos).take frameLen.toNat,
        bufPos + frameLen.toNat)) := by
  rw [frameHeader_min, decodeExtFrame_header checks (Nat.min_le_right _ _) (Nat.min_le_right _ _)]

theorem decodeExtFrame_bytes (checks : Bool) {frame : ResFrame} (hcode : frame.code ≤ 255)
    (hbody : frame.body.length ≤ 255) (rest : Buffer) :
    decodeExtFrame checks (frame.bytes ++ rest) =
      .ok (.ofU16 (UInt16.ofNat frame.code), frame.body, frame.bytes.length) := by
  have hfirst := decodeEscape_present checks hcode
    [frameHeader frame.code frame.body.length]
    (resEscape frame.body.length ++ (frame.body ++ rest))
  have hsecond := decodeEscape_present checks hbody
    (frameHeader frame.code frame.body.length :: resEscape frame.code) (frame.body ++ rest)
  have hcodeByte : (UInt8.ofNat frame.code).toUInt16 = UInt16.ofNat frame.code := by
    apply UInt16.toNat_inj.mp
    rw [UInt8.toNat_toUInt16, UInt8.toNat_ofNat', UInt16.toNat_ofNat']
    omega
  have hlen : (UInt8.ofNat frame.body.length).toNat = frame.body.length := by
    rw [UInt8.toNat_ofNat']
    omega
  unfold ResFrame.bytes
  rw [List.cons_append, List.append_assoc, List.append_assoc, decodeExtFrame_halves]
  simp only [List.cons_append, List.nil_append, List.length_cons, List.length_nil] at hfirst hsecond
  rw [hfirst, Exec.ok_bind]
  dsimp only
  rw [Nat.zero_add, Nat.add_comm 1, hsecond, Exec.ok_bind]
  dsimp only
  have hbuf : frameHeader frame.code frame.body.length ::
      (resEscape frame.code ++ (resEscape frame.body.length ++ (frame.body ++ rest))) =
      (frameHeader frame.code frame.body.length ::
        (resEscape frame.code ++ resEscape frame.body.length)) ++ (frame.body ++ rest) := by simp
  have hstart : (resEscape frame.code).length + 1 + (resEscape frame.body.length).length =
      (frameHeader frame.code frame.body.length ::
        (resEscape frame.code ++ resEscape frame.body.length)).length := by
    simp only [List.length_cons, List.length_append]
    omega
  rw [if_neg, hlen, hcodeByte, hbuf, hstart, List.drop_left, List.take_left]
  · simp only [Exec.pure_eq_ok, List.length_cons, List.length_append]
    rw [Nat.add_assoc, Nat.add_comm 1, ← Nat.add_assoc, ← Nat.add_assoc]
  · simp only [List.length_append, hlen]
    omega

theorem cut_resEscape {n : Nat} {piece missing more : Buffer}
    (h : piece ++ missing = resEscape n ++ more) :
    (piece = [] ∧ 15 ≤ n) ∨ exists rest, piece = resEscape n ++ rest ∧ rest ++ missing = more := by
  unfold resEscape at h ⊢
  by_cases hsmall : n < 15
  · rw [if_pos hsmall] at h ⊢
    exact .inr ⟨piece, rfl, h⟩
  · rw [if_neg hsmall] at h ⊢
    cases piece with
    | nil => exact .inl ⟨rfl, Nat.le_of_not_lt hsmall⟩
    | cons b rest =>
        have hparts := List.cons.inj h
        exact .inr ⟨rest, by rw [hparts.1]; rfl, hparts.2⟩

theorem decodeExtFrame_cut (checks : Bool) {piece : Buffer} (hcut : CutFrame piece)
    (hfit : EscapesFit piece) : exists e, decodeExtFrame checks piece = .err e := by
  rcases hcut with ⟨hne, frame, missing, hmissing, hbytes⟩
  cases piece with
  | nil => exact absurd rfl hne
  | cons header piece =>
      have hparts := List.cons.inj hbytes
      rcases hparts with ⟨rfl, hrest⟩
      unfold EscapesFit at hfit
      dsimp only at hfit
      rw [high_frameHeader, low_frameHeader] at hfit
      refine ⟨unexpectedEof, ?_⟩
      rw [decodeExtFrame_halves]
      rcases cut_resEscape hrest with ⟨rfl, hcode⟩ | ⟨rest, rfl, hinner⟩
      · have hfirst := decodeEscape_missing checks hcode [frameHeader frame.code frame.body.length]
        rw [List.append_nil, List.length_singleton] at hfirst
        rw [hfirst]
        rfl
      · rw [behind_resEscape, escapeFits_resEscape frame.codeLe] at hfit
        have hfirst := decodeEscape_present checks hfit.1
          [frameHeader frame.code frame.body.length] rest
        rw [List.length_singleton, List.cons_append, List.nil_append] at hfirst
        rw [hfirst, Exec.ok_bind]
        dsimp only
        have hstart : 1 + (resEscape frame.code).length =
            (frameHeader frame.code frame.body.length :: resEscape frame.code).length :=
          Nat.add_comm _ _
        rcases cut_resEscape hinner with ⟨rfl, hbody⟩ | ⟨body, rfl, hbody⟩
        · have hsecond := decodeEscape_missing checks hbody
            (frameHeader frame.code frame.body.length :: resEscape frame.code)
          rw [List.cons_append] at hsecond
          rw [hstart, hsecond]
          rfl
        · rw [escapeFits_resEscape frame.bodyLe] at hfit
          have hsecond := decodeEscape_present checks hfit.2
            (frameHeader frame.code frame.body.length :: resEscape frame.code) body
          have hlen : (UInt8.ofNat frame.body.length).toNat = frame.body.length := by
            rw [UInt8.toNat_ofNat']
            omega
          have hshort : body.length < frame.body.length := by
            rw [← hbody, List.length_append]
            exact Nat.lt_add_of_pos_right (List.length_pos_iff.mpr hmissing)
          rw [List.cons_append] at hsecond
          rw [hstart, hsecond, Exec.ok_bind]
          dsimp only
          rw [if_pos]
          simp only [List.length_append, List.length_cons, hlen]
          omega

/-!
# The answer
-/

section Answer

variable {durationOf : UInt32 -> Duration} {buf : Buffer}

theorem decodeResExtFrames_err {checks : Bool} {e : Error} (hne : buf ≠ [])
    (h : decodeExtFrame checks buf = .err e) :
    decodeResExtFrames checks durationOf buf = .err e := by
  cases buf with
  | nil => exact absurd rfl hne
  | cons header rest =>
      unfold decodeResExtFrames iterExtFrames
      dsimp only
      rw [h]
      rfl

theorem decodeResExtFrames_returns (durationOf : UInt32 -> Duration) (buf : Buffer) :
    (decodeResExtFrames true durationOf buf).Returns <-> EscapesFit buf := by
  cases buf with
  | nil => exact iff_of_true trivial trivial
  | cons header rest =>
      rw [← decodeExtFrame_returns]
      unfold decodeResExtFrames iterExtFrames
      dsimp only
      cases decodeExtFrame true (header :: rest) with
      | panic => exact Iff.rfl
      | err e => exact Iff.rfl
      | ok first =>
          rcases first with ⟨frameCode, frameBody, bufPos⟩
          refine iff_of_true ?_ trivial
          simp only [Exec.ok_bind, Exec.pure_eq_ok]
          split
          · next data _ =>
              cases data with
              | error e => trivial
              | ok duration => trivial
          · trivial

/-- Only the first frame counts. -/
theorem decodeResExtFrames_bytes (checks : Bool) (durationOf : UInt32 -> Duration)
    {frame : ResFrame} (hcode : frame.code ≤ 255) (hbody : frame.body.length ≤ 255)
    (rest : Buffer) :
    decodeResExtFrames checks durationOf (frame.bytes ++ rest) =
      if frame.isServerDuration then
        (Exec.ofExcept (decodeServerDurationExtFrame durationOf frame.body)).map some
      else .ok none := by
  have hdecode := decodeExtFrame_bytes checks hcode hbody rest
  have hduration : ExtResFrameCode.ofU16 (UInt16.ofNat frame.code) = .serverDuration <->
      frame.isServerDuration = true := by
    unfold ResFrame.isServerDuration
    rw [beq_iff_eq]
    constructor
    · intro h
      have hcodes := congrArg ExtResFrameCode.toU16 h
      rw [ExtResFrameCode.toU16_ofU16] at hcodes
      have hnat := congrArg UInt16.toNat hcodes
      rw [UInt16.toNat_ofNat'] at hnat
      change frame.code % 2 ^ 16 = 0 at hnat
      omega
    · intro h
      rw [h]
      rfl
  unfold ResFrame.bytes at hdecode ⊢
  rw [List.cons_append] at hdecode ⊢
  unfold decodeResExtFrames iterExtFrames
  dsimp only
  rw [hdecode]
  simp only [Exec.ok_bind, Exec.pure_eq_ok]
  by_cases h : frame.isServerDuration = true
  · rw [if_pos (hduration.mpr h), if_pos h]
  · rw [if_neg fun heq => h (hduration.mp heq), if_neg h]

theorem resFramesBytes_cons (frame : ResFrame) (frames : List ResFrame) :
    resFramesBytes (frame :: frames) = frame.bytes ++ resFramesBytes frames := List.flatMap_cons

theorem filter_first {first : ResFrame} {frames : List ResFrame}
    (h : first.isServerDuration = true) :
    (first :: frames).filter ResFrame.isServerDuration =
      first :: frames.filter ResFrame.isServerDuration := List.filter_cons_of_pos h

/-- The answer is right for these frames if and only if the only frame with a duration is the
first one. -/
theorem answersFrames_iff (checks : Bool) {frames : List ResFrame}
    (hfit : EscapesFit (resFramesBytes frames)) :
    AnswersFrames durationOf frames
        (decodeResExtFrames checks durationOf (resFramesBytes frames)) <->
      forall frame, frames.filter ResFrame.isServerDuration = [frame] ->
        frames.head? = some frame := by
  unfold AnswersFrames
  cases frames with
  | nil => exact iff_of_true rfl fun frame h => by cases h
  | cons first frames =>
      rw [resFramesBytes_cons] at hfit ⊢
      have hle := (escapesFit_bytes first (resFramesBytes frames)).mp hfit
      rw [decodeResExtFrames_bytes checks durationOf hle.1 hle.2]
      by_cases hfirst : first.isServerDuration = true
      · rw [if_pos hfirst, filter_first hfirst]
        cases frames.filter ResFrame.isServerDuration with
        | nil =>
            refine iff_of_true rfl ?_
            intro frame h
            cases h
            rfl
        | cons other others =>
            refine iff_of_true trivial ?_
            intro frame h
            cases h
      · rw [if_neg hfirst, List.filter_cons_of_neg hfirst]
        cases hothers : frames.filter ResFrame.isServerDuration with
        | nil => exact iff_of_true rfl fun frame h => by cases h
        | cons other others =>
            cases others with
            | nil =>
                refine iff_of_false ?_ ?_
                · dsimp only
                  cases decodeServerDurationExtFrame durationOf other.body with
                  | error e =>
                      intro h
                      cases h
                  | ok duration =>
                      intro h
                      cases h
                · intro hall
                  have hsame : first = other := Option.some.inj (hall other rfl)
                  have hmem : other ∈ frames.filter ResFrame.isServerDuration := by
                    rw [hothers]
                    exact List.mem_cons_self
                  rw [hsame] at hfirst
                  exact hfirst (List.mem_filter.mp hmem).2
            | cons another others =>
                refine iff_of_true trivial ?_
                intro frame h
                cases h

theorem serverDuration_error_iff (body : Buffer) :
    (exists e, (Exec.ofExcept (decodeServerDurationExtFrame durationOf body)).map some = .err e) <->
      body.length ≠ 2 := by
  unfold decodeServerDurationExtFrame
  split
  · refine iff_of_false nofun ?_
    intro h
    exact h rfl
  · next hother =>
      refine iff_of_true ⟨_, rfl⟩ ?_
      intro hlen
      rcases List.length_eq_two.mp hlen with ⟨high, low, rfl⟩
      exact hother high low rfl

/-- There is an error for a frame that is cut off if and only if the first frame gives one. -/
theorem cut_error_iff (checks : Bool) {frames : List ResFrame} {piece : Buffer}
    (hcut : CutFrame piece) (hfit : EscapesFit (resFramesBytes frames ++ piece)) :
    (exists e, decodeResExtFrames checks durationOf (resFramesBytes frames ++ piece) = .err e) <->
      forall first, frames.head? = some first ->
        first.isServerDuration = true ∧ first.body.length ≠ 2 := by
  cases frames with
  | nil =>
      refine iff_of_true ?_ fun first h => by cases h
      rcases decodeExtFrame_cut checks hcut hfit with ⟨e, he⟩
      exact ⟨e, decodeResExtFrames_err hcut.1 he⟩
  | cons first frames =>
      rw [resFramesBytes_cons, List.append_assoc] at hfit ⊢
      have hle := (escapesFit_bytes first (resFramesBytes frames ++ piece)).mp hfit
      rw [decodeResExtFrames_bytes checks durationOf hle.1 hle.2]
      simp only [List.head?_cons, Option.some.injEq, forall_eq']
      by_cases hfirst : first.isServerDuration = true
      · rw [if_pos hfirst, serverDuration_error_iff]
        exact (and_iff_right hfirst).symm
      · rw [if_neg hfirst]
        exact iff_of_false nofun fun h => hfirst h.1

end Answer

/-- The frame infos of a response are read as they should be if and only if no escape of the first
frame overflows a byte and everything that counts is decided by the first frame. -/
theorem res_ext_frames_read_iff (durationOf : UInt32 -> Duration) (buf : Buffer) :
    ReadsFrames durationOf buf <-> EscapesFit buf ∧ FirstDecides buf := by
  constructor
  · rintro ⟨hreturns, hanswers, hcuts⟩
    have hfit := (decodeResExtFrames_returns durationOf buf).mp hreturns
    refine ⟨hfit, ?_, ?_⟩
    · intro frames frame hbuf
      subst hbuf
      exact (answersFrames_iff true hfit).mp (hanswers true frames rfl) frame
    · intro frames piece hcut hbuf
      subst hbuf
      exact (cut_error_iff true hcut hfit).mp (hcuts true frames piece hcut rfl)
  · rintro ⟨hfit, hfirst, hcuts⟩
    refine ⟨(decodeResExtFrames_returns durationOf buf).mpr hfit, ?_, ?_⟩
    · intro checks frames hbuf
      subst hbuf
      exact (answersFrames_iff checks hfit).mpr fun frame => hfirst frames frame rfl
    · intro checks frames piece hcut hbuf
      subst hbuf
      exact (cut_error_iff checks hcut hfit).mpr (hcuts frames piece hcut rfl)

/-- One read unit in front of the duration hides it. -/
def readUnitsFirst : List ResFrame :=
  [{ code := 1, body := [0, 1], codeLe := by decide, bodyLe := by decide },
    { code := 0, body := [0, 10], codeLe := by decide, bodyLe := by decide }]

theorem res_ext_frames_not_read :
    ¬ forall (durationOf : UInt32 -> Duration) (buf : Buffer), ReadsFrames durationOf buf := by
  intro hall
  have hanswer : (Exec.ok none : Exec Error (Option Duration)) = .ok (some (.fromMillis 1)) :=
    (hall (fun _ => .fromMillis 1) (resFramesBytes readUnitsFirst)).2.1 true readUnitsFirst rfl
  cases hanswer

end Memdx
end CouchbaseSdk
