import CouchbaseSdk.Foundation.Duration
import CouchbaseSdk.Memdx.CollectionKey
import CouchbaseSdk.Memdx.ExtFrame

/-!
# Frame infos of a request

The options of a request that go into its frame infos: the user it is made for, the durability
level with its timeout, and whether the expiry is preserved.
-/

namespace CouchbaseSdk
namespace Memdx

open Foundation

/-!
# Durability
-/

/-- Levels outside the three are kept by their number. -/
inductive DurabilityLevel where
  | majority | majorityAndPersistActive | persistToMajority
  | other (value : UInt8) (unassigned : value ≠ 1 ∧ value ≠ 2 ∧ value ≠ 3)
deriving DecidableEq

namespace DurabilityLevel

def toU8 : DurabilityLevel -> UInt8
  | majority => 1
  | majorityAndPersistActive => 2
  | persistToMajority => 3
  | other _ _ => 0

def ofU8 (data : UInt8) : DurabilityLevel :=
  if h1 : data = 1 then majority
  else if h2 : data = 2 then majorityAndPersistActive
  else if h3 : data = 3 then persistToMajority
  else other data ⟨h1, h2, h3⟩

/-- A level with a number of its own on the wire. -/
def Numbered (level : DurabilityLevel) : Prop :=
  forall value unassigned, level = other value unassigned -> value = 0

theorem ofU8_toU8_iff (level : DurabilityLevel) : ofU8 level.toU8 = level <-> level.Numbered := by
  cases level with
  | majority => exact iff_of_true rfl nofun
  | majorityAndPersistActive => exact iff_of_true rfl nofun
  | persistToMajority => exact iff_of_true rfl nofun
  | other value unassigned =>
      have hzero : ofU8 (other value unassigned).toU8 = other 0 (by decide) := rfl
      rw [hzero]
      constructor
      · intro heq value' unassigned' hother
        cases heq
        cases hother
        rfl
      · intro hnumbered
        have hvalue := hnumbered value unassigned rfl
        subst hvalue
        rfl

end DurabilityLevel

structure DurabilityLevelSettings where
  durabilityLevel : DurabilityLevel
  timeout : Option Duration
deriving DecidableEq

def encodeDurabilityExtFrame (level : DurabilityLevel) (timeout : Option Duration) :
    Except Error Buffer :=
  match timeout with
  | none => .ok [level.toU8]
  | some timeout =>
      if 65535 < timeout.asMillis then
        .error (.invalidArgument
          "cannot encode durability timeout greater than 65535 milliseconds"
          (some "durability_level_timeout"))
      else
        let timeoutMillis := if timeout.asMillis = 0 then 1 else timeout.asMillis
        .ok [level.toU8, UInt8.ofNat (timeoutMillis >>> 8), UInt8.ofNat timeoutMillis]

def decodeDurabilityLevelExtFrame (data : Buffer) : Except Error DurabilityLevelSettings :=
  match data with
  | [level] => .ok { durabilityLevel := .ofU8 level, timeout := none }
  | [level, high, low] =>
      let timeoutMillis := (high.toUInt32 <<< 8) ||| low.toUInt32
      .ok { durabilityLevel := .ofU8 level, timeout := some (.fromMillis timeoutMillis.toUInt64) }
  | _ => .error (.message "invalid durability ext frame length")

/-!
# The frames
-/

abbrev Append := FrameBuffer -> Except Error Unit × FrameBuffer

/-- Go on where nothing has failed. -/
def Append.andThen (m n : Append) : Append :=
  fun s =>
    match m s with
    | (.error e, t) => (.error e, t)
    | (.ok (), t) => n t

def appendOnBehalfOf (onBehalfOf : Option Buffer) : Append :=
  match onBehalfOf with
  | some obo => appendExtFrame .onBehalfOf obo
  | none => fun s => (.ok (), s)

def appendDurability (ops : OpsCrud) (durabilityLevel : Option DurabilityLevel)
    (durabilityTimeout : Option Duration) : Append :=
  fun s =>
    match durabilityLevel with
    | some dura =>
        if ¬ ops.durabilityEnabled then
          (.error (.invalidArgument "cannot use synchronous durability when its not enabled"
            (some "durability_level")), s)
        else
          match encodeDurabilityExtFrame dura durabilityTimeout with
          | .error e => (.error e, s)
          | .ok duraBuf => appendExtFrame .durability duraBuf s
    | none =>
        if durabilityTimeout.isSome then
          (.error (.invalidArgument
            "cannot encode durability timeout without durability level"
            (some "durability_timeout")), s)
        else (.ok (), s)

def appendPreserveExpiry (ops : OpsCrud) (preserveExpiry : Option Bool) : Append :=
  fun s =>
    if preserveExpiry.isSome then
      if ¬ ops.preserveExpiryEnabled then
        (.error (.invalidArgument "cannot use preserve expiry when its not enabled"
          (some "preserve_expiry")), s)
      else appendExtFrame .preserveTTL [] s
    else (.ok (), s)

def reqMagic (ops : OpsCrud) (offset : Nat) : Except Error Magic :=
  if 0 < offset then
    if ¬ ops.extFramesEnabled then
      .error (.invalidArgument "cannot use framing extras when its not enabled"
        (some "ext_frames_enabled"))
    else .ok .reqExt
  else .ok .req

/-- The magic and the number of bytes used, and the buffer.  The user is given by the bytes of
the name. -/
def encodeReqExtFrames (ops : OpsCrud) (durabilityLevel : Option DurabilityLevel)
    (durabilityTimeout : Option Duration) (preserveExpiry : Option Bool)
    (onBehalfOf : Option Buffer) (buf : Buffer) : Except Error (Magic × Nat) × Buffer :=
  let append := (appendOnBehalfOf onBehalfOf).andThen
    ((appendDurability ops durabilityLevel durabilityTimeout).andThen
      (appendPreserveExpiry ops preserveExpiry))
  match append { buf := buf, offset := 0 } with
  | (.error e, s) => (.error e, s.buf)
  | (.ok (), s) => ((reqMagic ops s.offset).map fun magic => (magic, s.offset), s.buf)

/-!
# Requested frames

The frames that are written are the ones that the options ask for, unless the user's name is
too long for the low half of a header, or a preserved expiry is turned off.
-/

/-!
# Room
-/

theorem write_length {s : FrameBuffer} {bytes : Buffer}
    (h : s.offset + bytes.length ≤ s.buf.length) : (s.write bytes).buf.length = s.buf.length := by
  unfold FrameBuffer.write
  simp only [List.length_append, List.length_take, List.length_drop]
  omega

theorem orByte_length (s : FrameBuffer) (i : Nat) (b : UInt8) :
    (s.orByte i b).buf.length = s.buf.length := List.length_set

theorem appendCode_length (code : UInt16) (hdr : Nat) (s : FrameBuffer) :
    (appendCode code hdr s).2.buf.length = s.buf.length := by
  unfold appendCode
  split
  · exact orByte_length _ _ _
  · split
    · rfl
    · dsimp only
      split
      · exact orByte_length _ _ _
      · next hroom =>
          rw [write_length, orByte_length]
          rw [length_beBytes]
          exact Nat.le_of_not_lt hroom

theorem appendLen_length (len hdr : Nat) (s : FrameBuffer) :
    (appendLen len hdr s).2.buf.length = s.buf.length := by
  unfold appendLen
  split
  · exact orByte_length _ _ _
  · split
    · rfl
    · dsimp only
      split
      · exact orByte_length _ _ _
      · next hroom =>
          rw [write_length, orByte_length]
          rw [length_beBytes]
          exact Nat.le_of_not_lt hroom

theorem appendBody_length (body : Buffer) (s : FrameBuffer) :
    (appendBody body s).2.buf.length = s.buf.length := by
  unfold appendBody
  split
  · split
    · rfl
    · next hroom => exact write_length (Nat.le_of_not_lt hroom)
  · rfl

theorem appendExtFrame_length (code : ExtReqFrameCode) (body : Buffer) (s : FrameBuffer) :
    (appendExtFrame code body s).2.buf.length = s.buf.length := by
  unfold appendExtFrame
  split
  · rfl
  · next hroom =>
      have hstart : (s.write [0]).buf.length = s.buf.length :=
        write_length (Nat.lt_of_not_le hroom)
      have hcode := appendCode_length code.toU16 s.offset (s.write [0])
      rw [hstart] at hcode
      split
      · next t heq => rw [heq] at hcode; exact hcode
      · next t heq =>
          rw [heq] at hcode
          have hlen := appendLen_length body.length s.offset t
          rw [hcode] at hlen
          split
          · next u heq => rw [heq] at hlen; exact hlen
          · next u heq =>
              rw [heq] at hlen
              rw [appendBody_length]
              exact hlen

theorem appendExtFrames_length (frames : List (ExtReqFrameCode × Buffer)) (s : FrameBuffer) :
    (appendExtFrames frames s).2.buf.length = s.buf.length := by
  induction frames generalizing s with
  | nil => rfl
  | cons frame frames ih =>
      have hframe := appendExtFrame_length frame.1 frame.2 s
      unfold appendExtFrames
      split
      · next t heq => rw [heq] at hframe; exact hframe
      · next t heq =>
          rw [heq] at hframe
          rw [ih]
          exact hframe

theorem length_frameBytes_small {code : Nat} {body : Buffer} (hcode : code < 15)
    (hlen : body.length < 15) : (frameBytes code body).length = 1 + body.length := by
  rw [frameBytes_eq]
  unfold codeEscape lenEscape
  rw [if_pos hcode, if_pos hlen]
  simp [Nat.add_comm]

/-- A frame whose halves both fit is appended where there is room for it. -/
theorem appendExtFrame_room {code : ExtReqFrameCode} {body : Buffer} {s : FrameBuffer}
    (hfits : FitsHeader (code, body))
    (hroom : s.offset + (frameBytes code.toU16.toNat body).length ≤ s.buf.length) :
    (appendExtFrame code body s).1 = .ok () := by
  have hcode : code.toU16 < 15 := UInt16.lt_iff_toNat_lt.mpr hfits.1
  have hlen : body.length < 15 := hfits.2
  rw [length_frameBytes_small hfits.1 hlen] at hroom
  have hstart : (s.write [0]).buf.length = s.buf.length := by
    apply write_length
    rw [List.length_singleton]
    omega
  have hfirst : appendCode code.toU16 s.offset (s.write [0]) =
      (.ok (), (s.write [0]).orByte s.offset ((code.toU16 &&& 0x0f) <<< 4).toUInt8) := by
    rw [appendCode, if_pos hcode]
  have hsecond : forall t, appendLen body.length s.offset t =
      (.ok (), t.orByte s.offset (UInt8.ofNat body.length &&& 0xF)) := by
    intro t
    rw [appendLen, if_pos hlen]
  rw [appendExtFrame, if_neg (by omega), hfirst]
  dsimp only
  rw [hsecond]
  dsimp only
  unfold appendBody
  split
  · rw [if_neg]
    rw [orByte_length, orByte_length, hstart]
    change ¬ s.buf.length < s.offset + 1 + body.length
    omega
  · rfl

theorem appendExtFrames_room {frames : List (ExtReqFrameCode × Buffer)} {pre tail : Buffer}
    (hfits : forall frame, frame ∈ frames -> FitsHeader frame)
    (hroom : (framesBytes frames).length ≤ tail.length) :
    (appendExtFrames frames { buf := pre ++ tail, offset := pre.length }).1 = .ok () := by
  induction frames generalizing pre tail with
  | nil => rfl
  | cons frame frames ih =>
      rw [framesBytes_cons, List.length_append] at hroom
      have hframe : (appendExtFrame frame.1 frame.2
          { buf := pre ++ tail, offset := pre.length }).1 = .ok () := by
        apply appendExtFrame_room (hfits frame List.mem_cons_self)
        change pre.length + (frameBytes frame.1.toU16.toNat frame.2).length ≤ (pre ++ tail).length
        rw [List.length_append]
        omega
      have hlength := appendExtFrame_length frame.1 frame.2
        { buf := pre ++ tail, offset := pre.length }
      unfold appendExtFrames
      split
      · next e t heq => rw [heq] at hframe; cases hframe
      · next t heq =>
          rcases appendExtFrame_ok heq with ⟨-, -, rest, rfl⟩
          rw [heq] at hlength
          simp only [List.length_append] at hlength
          apply ih fun other hmem => hfits other (List.mem_cons_of_mem _ hmem)
          omega

/-!
# Durability
-/

/-- A timeout in whole milliseconds, of which there is at least one. -/
def wholeMillis (timeout : Duration) : Duration :=
  .fromMillis (UInt64.ofNat (max 1 timeout.asMillis))

theorem millis_bytes {n : Nat} (h : n ≤ 65535) :
    (((UInt8.ofNat (n >>> 8)).toUInt32 <<< 8) ||| (UInt8.ofNat n).toUInt32).toUInt64 =
      UInt64.ofNat n := by
  apply UInt64.toNat_inj.mp
  have hhigh : n >>> 8 = n / 256 := Nat.shiftRight_eq_div_pow n 8
  have hshift : (UInt8.ofNat (n >>> 8)).toNat <<< 8 ||| (UInt8.ofNat n).toNat = n := by
    rw [← Nat.shiftLeft_add_eq_or_of_lt (UInt8.ofNat n).toNat_lt, Nat.shiftLeft_eq,
      UInt8.toNat_ofNat', UInt8.toNat_ofNat', hhigh]
    omega
  have hsmall : (UInt8.ofNat (n >>> 8)).toNat <<< 8 < 2 ^ 32 := by
    have hlt := (UInt8.ofNat (n >>> 8)).toNat_lt
    rw [Nat.shiftLeft_eq]
    omega
  have height : (8 : UInt32).toNat % 32 = 8 := rfl
  rw [UInt32.toNat_toUInt64, UInt32.toNat_or, UInt32.toNat_shiftLeft, UInt8.toNat_toUInt32,
    UInt8.toNat_toUInt32, UInt64.toNat_ofNat', height, Nat.mod_eq_of_lt hsmall, hshift]
  exact (Nat.mod_eq_of_lt (by omega)).symm

theorem durability_read_back {level : DurabilityLevel} {timeout : Option Duration}
    {body : Buffer} (h : encodeDurabilityExtFrame level timeout = .ok body) :
    body.length = (if timeout.isSome then 3 else 1) ∧
      decodeDurabilityLevelExtFrame body =
        .ok { durabilityLevel := .ofU8 level.toU8, timeout := timeout.map wholeMillis } := by
  unfold encodeDurabilityExtFrame at h
  cases timeout with
  | none =>
      cases h
      exact ⟨rfl, rfl⟩
  | some timeout =>
      dsimp only at h
      split at h
      · cases h
      · next hshort =>
          have hmax : (if timeout.asMillis = 0 then 1 else timeout.asMillis) =
              max 1 timeout.asMillis := by
            split
            · omega
            · omega
          have hle : max 1 timeout.asMillis ≤ 65535 := by omega
          rw [hmax] at h
          cases h
          refine ⟨rfl, ?_⟩
          unfold decodeDurabilityLevelExtFrame wholeMillis
          dsimp only [Option.map_some]
          rw [millis_bytes hle]

theorem encodeDurability_ok {level : DurabilityLevel} {timeout : Option Duration}
    (h : forall t, timeout = some t -> t.asMillis ≤ 65535) :
    exists body, encodeDurabilityExtFrame level timeout = .ok body := by
  unfold encodeDurabilityExtFrame
  cases timeout with
  | none => exact ⟨_, rfl⟩
  | some t =>
      dsimp only
      rw [if_neg (Nat.not_lt.mpr (h t rfl))]
      exact ⟨_, rfl⟩

theorem encodeDurability_short {level : DurabilityLevel} {timeout : Option Duration}
    {body : Buffer} (h : encodeDurabilityExtFrame level timeout = .ok body) {t : Duration}
    (ht : timeout = some t) : t.asMillis ≤ 65535 := by
  subst ht
  unfold encodeDurabilityExtFrame at h
  dsimp only at h
  split at h
  · cases h
  · next hshort => exact Nat.le_of_not_lt hshort

/-!
# The frames that are appended
-/

abbrev Frames := List (ExtReqFrameCode × Buffer)

def onBehalfOfFrames (onBehalfOf : Option Buffer) : Frames :=
  (onBehalfOf.map fun user => (.onBehalfOf, user)).toList

def durabilityFrames (ops : OpsCrud) (level : Option DurabilityLevel)
    (timeout : Option Duration) : Except Error Frames :=
  match level with
  | some dura =>
      if ¬ ops.durabilityEnabled then
        .error (.invalidArgument "cannot use synchronous durability when its not enabled"
          (some "durability_level"))
      else (encodeDurabilityExtFrame dura timeout).map fun body => [(.durability, body)]
  | none =>
      if timeout.isSome then
        .error (.invalidArgument
          "cannot encode durability timeout without durability level"
          (some "durability_timeout"))
      else .ok []

def preserveFrames (ops : OpsCrud) (preserveExpiry : Option Bool) : Except Error Frames :=
  if preserveExpiry.isSome then
    if ¬ ops.preserveExpiryEnabled then
      .error (.invalidArgument "cannot use preserve expiry when its not enabled"
        (some "preserve_expiry"))
    else .ok [(.preserveTTL, [])]
  else .ok []

/-- Append the frames, if there are any to append. -/
def appendAll (frames : Except Error Frames) : Append :=
  fun s =>
    match frames with
    | .error e => (.error e, s)
    | .ok frames => appendExtFrames frames s

theorem appendExtFrames_single (code : ExtReqFrameCode) (body : Buffer) (s : FrameBuffer) :
    appendExtFrames [(code, body)] s = appendExtFrame code body s := by
  unfold appendExtFrames
  split
  · next heq => exact heq.symm
  · next heq => exact heq.symm

theorem appendExtFrames_append (frames more : Frames) (s : FrameBuffer) :
    appendExtFrames (frames ++ more) s =
      Append.andThen (appendExtFrames frames) (appendExtFrames more) s := by
  induction frames generalizing s with
  | nil => rfl
  | cons frame frames ih =>
      rw [List.cons_append, appendExtFrames, Append.andThen, appendExtFrames]
      cases hframe : appendExtFrame frame.1 frame.2 s with
      | mk res t =>
          cases res with
          | error e => rfl
          | ok _ => exact ih t

theorem appendOnBehalfOf_eq (onBehalfOf : Option Buffer) :
    appendOnBehalfOf onBehalfOf = appendExtFrames (onBehalfOfFrames onBehalfOf) := by
  funext s
  cases onBehalfOf with
  | none => rfl
  | some user => exact (appendExtFrames_single .onBehalfOf user s).symm

theorem appendDurability_eq (ops : OpsCrud) (level : Option DurabilityLevel)
    (timeout : Option Duration) :
    appendDurability ops level timeout = appendAll (durabilityFrames ops level timeout) := by
  funext s
  unfold appendDurability durabilityFrames appendAll
  cases level with
  | none =>
      dsimp only
      split
      · rfl
      · rfl
  | some dura =>
      dsimp only
      split
      · rfl
      · cases encodeDurabilityExtFrame dura timeout with
        | error e => rfl
        | ok body => exact (appendExtFrames_single _ _ s).symm

theorem appendPreserveExpiry_eq (ops : OpsCrud) (preserveExpiry : Option Bool) :
    appendPreserveExpiry ops preserveExpiry = appendAll (preserveFrames ops preserveExpiry) := by
  funext s
  unfold appendPreserveExpiry preserveFrames appendAll
  split
  · split
    · rfl
    · exact (appendExtFrames_single _ _ s).symm
  · rfl

section Encoding

variable {ops : OpsCrud} {level : Option DurabilityLevel} {timeout : Option Duration}
  {preserveExpiry : Option Bool} {onBehalfOf : Option Buffer} {buf : Buffer}
  {dura ttl : Frames}

/-- Where nothing is refused, the frames are appended one after the other. -/
theorem encodeReqExtFrames_eq (hdura : durabilityFrames ops level timeout = .ok dura)
    (httl : preserveFrames ops preserveExpiry = .ok ttl) :
    encodeReqExtFrames ops level timeout preserveExpiry onBehalfOf buf =
      match appendExtFrames (onBehalfOfFrames onBehalfOf ++ (dura ++ ttl))
        { buf := buf, offset := 0 } with
      | (.error e, s) => (.error e, s.buf)
      | (.ok (), s) => ((reqMagic ops s.offset).map fun magic => (magic, s.offset), s.buf) := by
  have hall : (appendOnBehalfOf onBehalfOf).andThen
      ((appendDurability ops level timeout).andThen (appendPreserveExpiry ops preserveExpiry)) =
      appendExtFrames (onBehalfOfFrames onBehalfOf ++ (dura ++ ttl)) := by
    funext s
    rw [appendOnBehalfOf_eq, appendDurability_eq, appendPreserveExpiry_eq, hdura, httl,
      appendExtFrames_append]
    unfold Append.andThen
    cases appendExtFrames (onBehalfOfFrames onBehalfOf) s with
    | mk res t =>
        cases res with
        | error e => rfl
        | ok _ => exact (appendExtFrames_append dura ttl t).symm
  have happend := congrFun hall { buf := buf, offset := 0 }
  unfold encodeReqExtFrames
  cases hs : appendExtFrames (onBehalfOfFrames onBehalfOf ++ (dura ++ ttl))
      { buf := buf, offset := 0 } with
  | mk res s =>
      rw [hs] at happend
      cases res with
      | error e => simp only [happend]
      | ok _ => simp only [happend]

theorem andThen_ok {m n : Append} {s u : FrameBuffer} (h : m.andThen n s = (.ok (), u)) :
    exists t, m s = (.ok (), t) ∧ n t = (.ok (), u) := by
  unfold Append.andThen at h
  cases hm : m s with
  | mk res t =>
      rw [hm] at h
      cases res with
      | error e => cases h
      | ok _ => exact ⟨t, rfl, h⟩

theorem appendAll_ok {frames : Except Error Frames} {s t : FrameBuffer}
    (h : appendAll frames s = (.ok (), t)) : exists all, frames = .ok all := by
  cases frames with
  | error e => cases h
  | ok all => exact ⟨all, rfl⟩

theorem encodeReqExtFrames_ok {magic : Magic} {used : Nat}
    (h : (encodeReqExtFrames ops level timeout preserveExpiry onBehalfOf buf).1 =
      .ok (magic, used)) :
    exists dura ttl t, durabilityFrames ops level timeout = .ok dura ∧
      preserveFrames ops preserveExpiry = .ok ttl ∧
      appendExtFrames (onBehalfOfFrames onBehalfOf ++ (dura ++ ttl))
        { buf := buf, offset := 0 } = (.ok (), t) ∧
      reqMagic ops t.offset = .ok magic ∧ used = t.offset ∧
      (encodeReqExtFrames ops level timeout preserveExpiry onBehalfOf buf).2 = t.buf := by
  have hparts : exists dura ttl, durabilityFrames ops level timeout = .ok dura ∧
      preserveFrames ops preserveExpiry = .ok ttl := by
    unfold encodeReqExtFrames at h
    dsimp only at h
    split at h
    · cases h
    · next heq =>
        rcases andThen_ok heq with ⟨s, -, hrest⟩
        rcases andThen_ok hrest with ⟨t, hdura, httl⟩
        rw [appendDurability_eq] at hdura
        rw [appendPreserveExpiry_eq] at httl
        rcases appendAll_ok hdura with ⟨dura, hdura⟩
        rcases appendAll_ok httl with ⟨ttl, httl⟩
        exact ⟨dura, ttl, hdura, httl⟩
  rcases hparts with ⟨dura, ttl, hdura, httl⟩
  rw [encodeReqExtFrames_eq hdura httl] at h ⊢
  cases happend : appendExtFrames (onBehalfOfFrames onBehalfOf ++ (dura ++ ttl))
      { buf := buf, offset := 0 } with
  | mk res t =>
      rw [happend] at h
      cases res with
      | error e => cases h
      | ok _ =>
          dsimp only at h
          cases hmagic : reqMagic ops t.offset with
          | error e =>
              rw [hmagic] at h
              cases h
          | ok m =>
              rw [hmagic] at h
              cases h
              exact ⟨dura, ttl, t, hdura, httl, happend, hmagic, rfl, rfl⟩

end Encoding

end Memdx
end CouchbaseSdk
