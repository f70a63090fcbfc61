import CouchbaseSdk.Memdx.ReqExtFrames

/-!
# Frame infos and options

What the frame infos of a request say, compared with what its options ask for.
-/

namespace CouchbaseSdk
namespace Memdx

open Foundation

section Meaning

variable (level : Option DurabilityLevel) (timeout : Option Duration)
  (preserveExpiry : Option Bool) (onBehalfOf : Option Buffer)

/-- A durability frame if and only if there is a level; it says the level and the timeout. -/
def DurabilityItem : List (UInt16 × Buffer) -> Prop :=
  match level with
  | none => fun items => items = []
  | some dura => fun items =>
      exists body, items = [(0x01, body)] ∧ decodeDurabilityLevelExtFrame body =
        .ok { durabilityLevel := dura, timeout := timeout.map wholeMillis }

/-- The frames say what the options ask for. -/
def MeansOptions (items : List (UInt16 × Buffer)) : Prop :=
  exists dura, DurabilityItem level timeout dura ∧
    items = (onBehalfOf.map fun user => ((0x04 : UInt16), user)).toList ++
      (dura ++ if preserveExpiry = some true then [(0x05, [])] else [])

/-- The bytes of a frame: an escaped length takes one more. -/
def frameSize (len : Nat) : Nat :=
  1 + (if len < 15 then 0 else 1) + len

/-- The frames that are asked for can be written into the buffer. -/
def FramesFit (buf : Buffer) : Prop :=
  (forall user, onBehalfOf = some user -> user.length ≤ 270) ∧
    (onBehalfOf.map fun user => frameSize user.length).getD 0 +
      (level.map fun _ => frameSize (if timeout.isSome then 3 else 1)).getD 0 +
        (if preserveExpiry = some true then frameSize 0 else 0) ≤ buf.length

/-- What the options ask for cannot be had: a feature is off, the timeout is too long or has no
level, or the frames do not fit. -/
def Refused (ops : OpsCrud) (buf : Buffer) : Prop :=
  (level.isSome ∧ ops.durabilityEnabled = false) ∨
  (preserveExpiry = some true ∧ ops.preserveExpiryEnabled = false) ∨
  ((onBehalfOf.isSome ∨ level.isSome ∨ preserveExpiry = some true) ∧
    ops.extFramesEnabled = false) ∨
  (exists t, timeout = some t ∧ 65535 < t.asMillis) ∨
  (timeout.isSome ∧ level = none) ∨
  ¬ FramesFit level timeout preserveExpiry onBehalfOf buf

/-- No expiry is asked not to be preserved, the user's name has less than 15 bytes, and the level
has a number. -/
def Plain : Prop :=
  preserveExpiry ≠ some false ∧ (forall user, onBehalfOf = some user -> user.length < 15) ∧
    (forall l, level = some l -> l.Numbered)

/-- The frame infos say what the options ask for, and there is an error if and only if that
cannot be had. -/
def FollowsOptions (overflowChecks : Bool) (ops : OpsCrud) (buf : Buffer) : Prop :=
  (forall magic used,
    (encodeReqExtFrames ops level timeout preserveExpiry onBehalfOf buf).1 = .ok (magic, used) ->
      (exists items, MeansOptions level timeout preserveExpiry onBehalfOf items ∧
        Decodes overflowChecks
          ((encodeReqExtFrames ops level timeout preserveExpiry onBehalfOf buf).2.take used)
          items) ∧
      (magic = .reqExt <-> 0 < used)) ∧
  ((exists e,
    (encodeReqExtFrames ops level timeout preserveExpiry onBehalfOf buf).1 = .error e) <->
      Refused level timeout preserveExpiry onBehalfOf ops buf)

end Meaning

/-!
# What is decoded
-/

theorem decodes_unique {checks : Bool} {buf : Buffer} {items other : List (UInt16 × Buffer)}
    (h : Decodes checks buf items) (hother : Decodes checks buf other) : items = other := by
  induction h generalizing other with
  | nil =>
      cases hother with
      | nil => rfl
      | cons frameCode frameBody bufPos hhead _ => cases hhead
  | cons frameCode frameBody bufPos hhead _ ih =>
      cases hother with
      | nil => cases hhead
      | cons frameCode' frameBody' bufPos' hhead' hrest' =>
          cases hhead.symm.trans hhead'
          rw [ih hrest']

section Cases

variable {checks : Bool} {ops : OpsCrud} {level : Option DurabilityLevel}
  {timeout : Option Duration} {preserveExpiry : Option Bool} {onBehalfOf : Option Buffer}
  {buf : Buffer} {dura ttl : Frames}

theorem durabilityFrames_ok (h : durabilityFrames ops level timeout = .ok dura) :
    (level = none ∧ timeout = none ∧ dura = []) ∨
      exists l body, level = some l ∧ ops.durabilityEnabled = true ∧
        encodeDurabilityExtFrame l timeout = .ok body ∧ dura = [(.durability, body)] := by
  unfold durabilityFrames at h
  cases level with
  | none =>
      cases timeout with
      | none =>
          cases h
          exact .inl ⟨rfl, rfl, rfl⟩
      | some t => cases h
  | some l =>
      dsimp only at h
      split at h
      · cases h
      · next henabled =>
          cases hbody : encodeDurabilityExtFrame l timeout with
          | error e =>
              rw [hbody] at h
              cases h
          | ok body =>
              rw [hbody] at h
              cases h
              exact .inr ⟨l, body, rfl, Decidable.not_not.mp henabled, hbody, rfl⟩

theorem preserveFrames_ok (h : preserveFrames ops preserveExpiry = .ok ttl) :
    (preserveExpiry = none ∧ ttl = []) ∨
      (preserveExpiry.isSome ∧ ops.preserveExpiryEnabled = true ∧ ttl = [(.preserveTTL, [])]) := by
  unfold preserveFrames at h
  cases preserveExpiry with
  | none =>
      cases h
      exact .inl ⟨rfl, rfl⟩
  | some b =>
      rw [if_pos (show (some b).isSome = true from rfl)] at h
      split at h
      · cases h
      · next henabled =>
          cases h
          exact .inr ⟨rfl, Decidable.not_not.mp henabled, rfl⟩

theorem reqMagic_ok {offset : Nat} {magic : Magic} (h : reqMagic ops offset = .ok magic) :
    (magic = .reqExt <-> 0 < offset) ∧ (0 < offset -> ops.extFramesEnabled = true) := by
  unfold reqMagic at h
  split at h
  · next hpos =>
      split at h
      · cases h
      · next henabled =>
          cases h
          exact ⟨iff_of_true rfl hpos, fun _ => Decidable.not_not.mp henabled⟩
  · next hpos =>
      cases h
      exact ⟨iff_of_false nofun hpos, fun h => absurd h hpos⟩

/-- What has been used of the buffer. -/
theorem used_framesBytes {frames : Frames} {t : FrameBuffer}
    (h : appendExtFrames frames { buf := buf, offset := 0 } = (.ok (), t)) :
    (forall frame, frame ∈ frames -> FitsEscape frame) ∧
      t.buf.take t.offset = framesBytes frames ∧ t.offset = (framesBytes frames).length ∧
      (framesBytes frames).length ≤ buf.length := by
  have hlength := appendExtFrames_length frames { buf := buf, offset := 0 }
  rw [h] at hlength
  have hok := @appendExtFrames_ok frames [] buf t h
  rcases hok with ⟨hfits, rest, rfl⟩
  simp only [List.nil_append, List.length_append] at hlength
  refine ⟨hfits, List.take_left, rfl, ?_⟩
  omega

/-!
# Room
-/

theorem framesBytes_append (frames more : Frames) :
    framesBytes (frames ++ more) = framesBytes frames ++ framesBytes more := by
  simp [framesBytes]

theorem framesBytes_single (code : ExtReqFrameCode) (body : Buffer) :
    framesBytes [(code, body)] = frameBytes code.toU16.toNat body := List.append_nil _

theorem framesBytes_pos {frames : Frames} (h : frames ≠ []) : 0 < (framesBytes frames).length := by
  cases frames with
  | nil => exact absurd rfl h
  | cons frame frames =>
      rw [framesBytes_cons, frameBytes_eq, List.cons_append]
      exact Nat.succ_pos _

theorem frameSize_small {code : Nat} {body : Buffer} (hcode : code < 15)
    (hlen : body.length < 15) : frameSize body.length = (frameBytes code body).length := by
  rw [length_frameBytes_small hcode hlen, frameSize, if_pos hlen]

theorem frameSize_le {code : Nat} {body : Buffer} :
    frameSize body.length ≤ (frameBytes code body).length := by
  rw [frameBytes_eq]
  unfold lenEscape frameSize
  split
  · simp only [List.length_cons, List.length_append, List.length_nil]
    omega
  · simp only [List.length_cons, List.length_append, length_beBytes]
    omega

theorem onBehalfOf_size :
    (onBehalfOf.map fun user => frameSize user.length).getD 0 ≤
      (framesBytes (onBehalfOfFrames onBehalfOf)).length := by
  cases onBehalfOf with
  | none => exact Nat.le_refl _
  | some user =>
      change frameSize user.length ≤ (framesBytes [(.onBehalfOf, user)]).length
      rw [framesBytes_single]
      exact frameSize_le

theorem onBehalfOf_size_plain (h : forall user, onBehalfOf = some user -> user.length < 15) :
    (framesBytes (onBehalfOfFrames onBehalfOf)).length =
      (onBehalfOf.map fun user => frameSize user.length).getD 0 := by
  cases onBehalfOf with
  | none => rfl
  | some user =>
      change (framesBytes [(.onBehalfOf, user)]).length = frameSize user.length
      rw [framesBytes_single]
      exact (frameSize_small (by decide) (h user rfl)).symm

theorem durability_size (h : durabilityFrames ops level timeout = .ok dura) :
    (framesBytes dura).length =
      (level.map fun _ => frameSize (if timeout.isSome then 3 else 1)).getD 0 := by
  rcases durabilityFrames_ok h with ⟨rfl, -, rfl⟩ | ⟨l, body, rfl, -, hbody, rfl⟩
  · rfl
  · have hlength := (durability_read_back hbody).1
    have hsmall : body.length < 15 := by
      rw [hlength]
      split
      · decide
      · decide
    rw [framesBytes_single, Option.map_some, Option.getD_some, ← hlength]
    exact (frameSize_small (by decide) hsmall).symm

theorem preserve_size (h : preserveFrames ops preserveExpiry = .ok ttl) :
    (if preserveExpiry = some true then frameSize 0 else 0) ≤ (framesBytes ttl).length := by
  rcases preserveFrames_ok h with ⟨rfl, rfl⟩ | ⟨hsome, -, rfl⟩
  · exact Nat.le_refl _
  · split
    · exact Nat.le_refl _
    · exact Nat.zero_le _

theorem preserve_size_plain (h : preserveFrames ops preserveExpiry = .ok ttl)
    (hplain : preserveExpiry ≠ some false) :
    (framesBytes ttl).length = if preserveExpiry = some true then frameSize 0 else 0 := by
  rcases preserveFrames_ok h with ⟨rfl, rfl⟩ | ⟨hsome, -, rfl⟩
  · rfl
  · cases preserveExpiry with
    | none => cases hsome
    | some b =>
        cases b with
        | false => exact absurd rfl hplain
        | true => rfl

/-!
# Refusals
-/

/-- Each option that is given asks for a frame. -/
theorem frames_eq_nil_iff (hdura : durabilityFrames ops level timeout = .ok dura)
    (httl : preserveFrames ops preserveExpiry = .ok ttl) :
    onBehalfOfFrames onBehalfOf ++ (dura ++ ttl) = [] <->
      onBehalfOf = none ∧ level = none ∧ preserveExpiry = none := by
  have huser : onBehalfOfFrames onBehalfOf = [] <-> onBehalfOf = none := by
    cases onBehalfOf with
    | none => exact iff_of_true rfl rfl
    | some user => exact iff_of_false (List.cons_ne_nil _ _) (Option.some_ne_none user)
  have hlevel : dura = [] <-> level = none := by
    rcases durabilityFrames_ok hdura with ⟨rfl, -, rfl⟩ | ⟨l, body, rfl, -, -, rfl⟩
    · exact iff_of_true rfl rfl
    · exact iff_of_false (List.cons_ne_nil _ _) (Option.some_ne_none l)
  have hexpiry : ttl = [] <-> preserveExpiry = none := by
    rcases preserveFrames_ok httl with ⟨rfl, rfl⟩ | ⟨hsome, -, rfl⟩
    · exact iff_of_true rfl rfl
    · exact iff_of_false (List.cons_ne_nil _ _) (Option.isSome_iff_ne_none.mp hsome)
  rw [List.append_eq_nil_iff, List.append_eq_nil_iff, huser, hlevel, hexpiry]

theorem ok_not_refused {magic : Magic} {used : Nat}
    (h : (encodeReqExtFrames ops level timeout preserveExpiry onBehalfOf buf).1 =
      .ok (magic, used)) :
    ¬ Refused level timeout preserveExpiry onBehalfOf ops buf := by
  rcases encodeReqExtFrames_ok h with ⟨dura, ttl, t, hdura, httl, happend, hmagic, -, -⟩
  rcases used_framesBytes happend with ⟨hfits, -, hoffset, hroom⟩
  have hlevel := durabilityFrames_ok hdura
  have hpreserve := preserveFrames_ok httl
  rintro (⟨hsome, hoff⟩ | ⟨htrue, hoff⟩ | ⟨hany, hoff⟩ | ⟨time, htime, hlong⟩ |
    ⟨hsome, hnone⟩ | hfit)
  · rcases hlevel with ⟨rfl, -, -⟩ | ⟨l, body, -, hon, -, -⟩
    · cases hsome
    · exact absurd (hoff.symm.trans hon) (by decide)
  · rcases hpreserve with ⟨rfl, -⟩ | ⟨-, hon, -⟩
    · cases htrue
    · exact absurd (hoff.symm.trans hon) (by decide)
  · have hne : onBehalfOfFrames onBehalfOf ++ (dura ++ ttl) ≠ [] := by
      intro hnil
      rcases (frames_eq_nil_iff hdura httl).mp hnil with ⟨rfl, rfl, rfl⟩
      rcases hany with hsome | hsome | htrue
      · cases hsome
      · cases hsome
      · cases htrue
    have hpos : 0 < t.offset := by
      rw [hoffset]
      exact framesBytes_pos hne
    exact absurd (hoff.symm.trans ((reqMagic_ok hmagic).2 hpos)) (by decide)
  · rcases hlevel with ⟨-, rfl, -⟩ | ⟨l, body, -, -, hbody, -⟩
    · cases htime
    · exact absurd (encodeDurability_short hbody htime) (Nat.not_le.mpr hlong)
  · rcases hlevel with ⟨-, rfl, -⟩ | ⟨l, body, rfl, -, -, -⟩
    · cases hsome
    · cases hnone
  · apply hfit
    constructor
    · intro user huser
      subst huser
      have hlen := (hfits (.onBehalfOf, user) List.mem_cons_self).2
      change user.length < 30 at hlen
      omega
    · have hfirst := @onBehalfOf_size onBehalfOf
      have hsecond := durability_size hdura
      have hthird := preserve_size httl
      rw [framesBytes_append, framesBytes_append, List.length_append, List.length_append] at hroom
      omega

theorem durabilityFrames_fits (h : durabilityFrames ops level timeout = .ok dura) :
    forall frame, frame ∈ dura -> FitsHeader frame := by
  intro frame hmem
  rcases durabilityFrames_ok h with ⟨-, -, rfl⟩ | ⟨l, body, -, -, hbody, rfl⟩
  · cases hmem
  · cases List.mem_singleton.mp hmem
    constructor
    · exact (by decide : (0x01 : UInt16).toNat < 15)
    · change body.length < 15
      rw [(durability_read_back hbody).1]
      split
      · decide
      · decide

theorem preserveFrames_fits (h : preserveFrames ops preserveExpiry = .ok ttl) :
    forall frame, frame ∈ ttl -> FitsHeader frame := by
  intro frame hmem
  rcases preserveFrames_ok h with ⟨-, rfl⟩ | ⟨-, -, rfl⟩
  · cases hmem
  · cases List.mem_singleton.mp hmem
    unfold FitsHeader
    decide

theorem frames_fit_header (husers : forall user, onBehalfOf = some user -> user.length < 15)
    (hdura : durabilityFrames ops level timeout = .ok dura)
    (httl : preserveFrames ops preserveExpiry = .ok ttl) :
    forall frame, frame ∈ onBehalfOfFrames onBehalfOf ++ (dura ++ ttl) -> FitsHeader frame := by
  intro frame hmem
  rcases List.mem_append.mp hmem with huser | hrest
  · cases onBehalfOf with
    | none => cases huser
    | some user =>
        cases List.mem_singleton.mp huser
        exact ⟨(by decide : (0x04 : UInt16).toNat < 15), husers user rfl⟩
  · rcases List.mem_append.mp hrest with hmem | hmem
    · exact durabilityFrames_fits hdura frame hmem
    · exact preserveFrames_fits httl frame hmem

theorem durabilityFrames_plain
    (hrefused : ¬ Refused level timeout preserveExpiry onBehalfOf ops buf) :
    exists dura, durabilityFrames ops level timeout = .ok dura := by
  unfold durabilityFrames
  cases level with
  | none =>
      have htimeout : ¬ timeout.isSome := fun hsome =>
        hrefused (.inr (.inr (.inr (.inr (.inl ⟨hsome, rfl⟩)))))
      dsimp only
      rw [if_neg htimeout]
      exact ⟨[], rfl⟩
  | some l =>
      have hon : ¬ ¬ ops.durabilityEnabled = true := fun hoff =>
        hrefused (.inl ⟨rfl, Bool.eq_false_iff.mpr hoff⟩)
      have hshort : forall t, timeout = some t -> t.asMillis ≤ 65535 := fun t htime =>
        Nat.le_of_not_lt fun hlong => hrefused (.inr (.inr (.inr (.inl ⟨t, htime, hlong⟩))))
      rcases @encodeDurability_ok l timeout hshort with ⟨body, hbody⟩
      dsimp only
      rw [if_neg hon, hbody]
      exact ⟨_, rfl⟩

theorem preserveFrames_plain
    (hrefused : ¬ Refused level timeout preserveExpiry onBehalfOf ops buf)
    (hplain : preserveExpiry ≠ some false) :
    exists ttl, preserveFrames ops preserveExpiry = .ok ttl := by
  unfold preserveFrames
  cases preserveExpiry with
  | none => exact ⟨[], rfl⟩
  | some b =>
      cases b with
      | false => exact absurd rfl hplain
      | true =>
          have hon : ¬ ¬ ops.preserveExpiryEnabled = true := fun hoff =>
            hrefused (.inr (.inl ⟨rfl, Bool.eq_false_iff.mpr hoff⟩))
          rw [if_pos (show (some true).isSome = true from rfl), if_neg hon]
          exact ⟨_, rfl⟩

/-- Where frames are to be sent, one of the options asks for them. -/
theorem asked_of_frames (hdura : durabilityFrames ops level timeout = .ok dura)
    (httl : preserveFrames ops preserveExpiry = .ok ttl) (hexpiry : preserveExpiry ≠ some false)
    (hframes : onBehalfOfFrames onBehalfOf ++ (dura ++ ttl) ≠ []) :
    onBehalfOf.isSome ∨ level.isSome ∨ preserveExpiry = some true := by
  cases onBehalfOf with
  | some user => exact .inl rfl
  | none =>
      cases level with
      | some l => exact .inr (.inl rfl)
      | none =>
          cases preserveExpiry with
          | some b =>
              cases b with
              | false => exact absurd rfl hexpiry
              | true => exact .inr (.inr rfl)
          | none => exact absurd ((frames_eq_nil_iff hdura httl).mpr ⟨rfl, rfl, rfl⟩) hframes

/-- Plain options that are not refused are encoded. -/
theorem plain_ok (hrefused : ¬ Refused level timeout preserveExpiry onBehalfOf ops buf)
    (hplain : Plain level preserveExpiry onBehalfOf) :
    exists magic used,
      (encodeReqExtFrames ops level timeout preserveExpiry onBehalfOf buf).1 =
        .ok (magic, used) := by
  rcases hplain with ⟨hexpiry, husers, -⟩
  rcases durabilityFrames_plain hrefused with ⟨dura, hdura⟩
  rcases preserveFrames_plain hrefused hexpiry with ⟨ttl, httl⟩
  have hfit : FramesFit level timeout preserveExpiry onBehalfOf buf := by
    by_contra hnot
    exact hrefused (.inr (.inr (.inr (.inr (.inr hnot)))))
  have hroom : (framesBytes (onBehalfOfFrames onBehalfOf ++ (dura ++ ttl))).length ≤
      buf.length := by
    rw [framesBytes_append, framesBytes_append, List.length_append, List.length_append,
      onBehalfOf_size_plain husers, durability_size hdura, preserve_size_plain httl hexpiry,
      ← Nat.add_assoc]
    exact hfit.2
  have happend : (appendExtFrames (onBehalfOfFrames onBehalfOf ++ (dura ++ ttl))
      { buf := buf, offset := 0 }).1 = .ok () :=
    @appendExtFrames_room _ [] buf (frames_fit_header husers hdura httl) hroom
  rw [encodeReqExtFrames_eq hdura httl]
  cases happended : appendExtFrames (onBehalfOfFrames onBehalfOf ++ (dura ++ ttl))
      { buf := buf, offset := 0 } with
  | mk res t =>
      rw [happended] at happend
      cases happend
      dsimp only
      rcases used_framesBytes happended with ⟨-, -, hoffset, -⟩
      unfold reqMagic
      split
      · next hpos =>
          have hon : ¬ ¬ ops.extFramesEnabled = true := by
            intro hoff
            apply hrefused
            refine .inr (.inr (.inl ⟨asked_of_frames hdura httl hexpiry ?_,
              Bool.eq_false_iff.mpr hoff⟩))
            intro hnil
            rw [hoffset, hnil] at hpos
            cases hpos
          rw [if_neg hon]
          exact ⟨_, _, rfl⟩
      · exact ⟨_, _, rfl⟩

/-!
# What the frames say
-/

theorem frameItems_append (frames more : Frames) :
    frameItems (frames ++ more) = frameItems frames ++ frameItems more := List.map_append

theorem frameItems_onBehalfOf (onBehalfOf : Option Buffer) :
    frameItems (onBehalfOfFrames onBehalfOf) =
      (onBehalfOf.map fun user => ((0x04 : UInt16), user)).toList := by
  cases onBehalfOf with
  | none => rfl
  | some user => rfl

/-- What plain options are encoded to is what they ask for. -/
theorem plain_means (hplain : Plain level preserveExpiry onBehalfOf)
    (hdura : durabilityFrames ops level timeout = .ok dura)
    (httl : preserveFrames ops preserveExpiry = .ok ttl) :
    MeansOptions level timeout preserveExpiry onBehalfOf
      (frameItems (onBehalfOfFrames onBehalfOf ++ (dura ++ ttl))) := by
  rcases hplain with ⟨hexpiry, -, hlevels⟩
  have hpreserve : frameItems ttl =
      if preserveExpiry = some true then [(0x05, [])] else [] := by
    rcases preserveFrames_ok httl with ⟨rfl, rfl⟩ | ⟨hsome, -, rfl⟩
    · rfl
    · cases preserveExpiry with
      | none => cases hsome
      | some b =>
          cases b with
          | false => exact absurd rfl hexpiry
          | true => rfl
  refine ⟨frameItems dura, ?_, by
    rw [frameItems_append, frameItems_append, frameItems_onBehalfOf, hpreserve]⟩
  rcases durabilityFrames_ok hdura with ⟨rfl, -, rfl⟩ | ⟨l, body, rfl, -, hbody, rfl⟩
  · rfl
  · refine ⟨body, rfl, ?_⟩
    rw [(durability_read_back hbody).2, (DurabilityLevel.ofU8_toU8_iff l).mpr (hlevels l rfl)]

/-- A name of 15 bytes or more is not read back: an empty barrier frame would follow it. -/
theorem long_user_not_read {items : List (UInt16 × Buffer)} {user : Buffer}
    {frames : Frames} (hlen : 15 ≤ user.length)
    (hfits : FitsEscape (.onBehalfOf, user))
    (hmeans : MeansOptions level timeout preserveExpiry (some user) items) :
    ¬ Decodes checks (framesBytes ((.onBehalfOf, user) :: frames)) items := by
  intro hdecodes
  rcases hmeans with ⟨dura, hdura, rfl⟩
  have hcodeSmall : (0x04 : UInt16).toNat < 15 := by decide
  have hshifted := @decodes_len_shifted checks (.onBehalfOf, user) frames _ hcodeSmall hlen
    hfits hdecodes
  rcases decodes_zero_inv hshifted with ⟨rest, hrest, -⟩
  have hcode : forall item, item ∈
      dura ++ (if preserveExpiry = some true then [((0x05 : UInt16), ([] : Buffer))] else []) ->
      item.1 ≠ 0 := by
    intro item hmem
    rcases List.mem_append.mp hmem with hmem | hmem
    · cases level with
      | none =>
          cases hdura
          cases hmem
      | some l =>
          rcases hdura with ⟨body, rfl, -⟩
          cases List.mem_singleton.mp hmem
          exact (by decide : (0x01 : UInt16) ≠ 0)
    · split at hmem
      · cases List.mem_singleton.mp hmem
        decide
      · cases hmem
  apply hcode (0, [])
  · change (0, []) ∈ _
    rw [show dura ++ _ = (0, []) :: rest from hrest]
    exact List.mem_cons_self
  · rfl

theorem not_false_of_items (httl : preserveFrames ops preserveExpiry = .ok ttl)
    (h : (if preserveExpiry = some true then [((0x05 : UInt16), ([] : Buffer))] else []) =
      frameItems ttl) : preserveExpiry ≠ some false := by
  rintro rfl
  rcases preserveFrames_ok httl with ⟨hnone, -⟩ | ⟨-, -, rfl⟩
  · cases hnone
  · cases h

/-- Where the frames say what the options ask for, the options are plain. -/
theorem means_plain {items : List (UInt16 × Buffer)}
    (hdura : durabilityFrames ops level timeout = .ok dura)
    (httl : preserveFrames ops preserveExpiry = .ok ttl)
    (hfits : forall frame, frame ∈ onBehalfOfFrames onBehalfOf ++ (dura ++ ttl) ->
      FitsEscape frame)
    (hmeans : MeansOptions level timeout preserveExpiry onBehalfOf items)
    (hdecodes : Decodes checks (framesBytes (onBehalfOfFrames onBehalfOf ++ (dura ++ ttl)))
      items) :
    Plain level preserveExpiry onBehalfOf := by
  have husers : forall user, onBehalfOf = some user -> user.length < 15 := by
    intro user huser
    subst huser
    by_contra hlong
    exact long_user_not_read (Nat.le_of_not_lt hlong)
      (hfits (.onBehalfOf, user) List.mem_cons_self) hmeans hdecodes
  have hread : Decodes checks (framesBytes (onBehalfOfFrames onBehalfOf ++ (dura ++ ttl)))
      (frameItems (onBehalfOfFrames onBehalfOf ++ (dura ++ ttl))) :=
    (decodes_framesBytes_iff hfits).mpr (frames_fit_header husers hdura httl)
  have hitems := decodes_unique hdecodes hread
  rcases hmeans with ⟨said, hsaid, rfl⟩
  rw [frameItems_append, frameItems_append, frameItems_onBehalfOf] at hitems
  have hrest := List.append_cancel_left hitems
  rcases durabilityFrames_ok hdura with ⟨rfl, -, rfl⟩ | ⟨l, body, rfl, -, hbody, rfl⟩
  · cases hsaid
    exact ⟨not_false_of_items httl hrest, husers, nofun⟩
  · rcases hsaid with ⟨body', rfl, hdecode⟩
    have hparts := List.cons.inj hrest
    have hsame : body' = body := congrArg Prod.snd hparts.1
    subst hsame
    refine ⟨not_false_of_items httl hparts.2, husers, ?_⟩
    intro l' hl
    cases hl
    rw [(durability_read_back hbody).2] at hdecode
    have hlevel := congrArg DurabilityLevelSettings.durabilityLevel (Except.ok.inj hdecode)
    exact (DurabilityLevel.ofU8_toU8_iff l).mp hlevel

end Cases

/-!
# The options are followed
-/

/-- The frame infos say what the options ask for if and only if that cannot be had and is refused,
or the options are plain. -/
theorem req_ext_frames_follow_options_iff (overflowChecks : Bool) (ops : OpsCrud)
    (level : Option DurabilityLevel) (timeout : Option Duration) (preserveExpiry : Option Bool)
    (onBehalfOf : Option Buffer) (buf : Buffer) :
    FollowsOptions level timeout preserveExpiry onBehalfOf overflowChecks ops buf <->
      Refused level timeout preserveExpiry onBehalfOf ops buf ∨
        Plain level preserveExpiry onBehalfOf := by
  cases hencoded : (encodeReqExtFrames ops level timeout preserveExpiry onBehalfOf buf).1 with
  | error e =>
      constructor
      · intro hfollows
        exact .inl (hfollows.2.mp ⟨e, hencoded⟩)
      · intro hwhen
        have hrefused : Refused level timeout preserveExpiry onBehalfOf ops buf := by
          rcases hwhen with hrefused | hplain
          · exact hrefused
          · by_contra hnot
            rcases plain_ok hnot hplain with ⟨magic, used, hok⟩
            cases hencoded.symm.trans hok
        constructor
        · intro magic used hok
          cases hencoded.symm.trans hok
        · exact iff_of_true ⟨e, hencoded⟩ hrefused
  | ok res =>
      rcases res with ⟨magic, used⟩
      have hnot := ok_not_refused hencoded
      rcases encodeReqExtFrames_ok hencoded with
        ⟨dura, ttl, t, hdura, httl, happend, hmagic, hused, hbuf⟩
      rcases used_framesBytes happend with ⟨hfits, htake, hlength, -⟩
      have hbytes : (encodeReqExtFrames ops level timeout preserveExpiry onBehalfOf buf).2.take
          used = framesBytes (onBehalfOfFrames onBehalfOf ++ (dura ++ ttl)) := by
        rw [hbuf, hused]
        exact htake
      constructor
      · intro hfollows
        rcases (hfollows.1 magic used hencoded).1 with ⟨items, hmeans, hdecodes⟩
        rw [hbytes] at hdecodes
        exact .inr (means_plain hdura httl hfits hmeans hdecodes)
      · intro hwhen
        have hplain := hwhen.resolve_left hnot
        constructor
        · intro magic' used' hok
          cases hencoded.symm.trans hok
          rw [hbytes]
          refine ⟨⟨_, plain_means hplain hdura httl, ?_⟩, ?_⟩
          · exact (decodes_framesBytes_iff hfits).mpr (frames_fit_header hplain.2.1 hdura httl)
          · have hpos := (reqMagic_ok hmagic).1
            rw [← hused] at hpos
            exact hpos
        · refine iff_of_false ?_ hnot
          rintro ⟨e, herror⟩
          cases hencoded.symm.trans herror

/-- A frame is sent where the expiry is asked not to be preserved. -/
theorem req_ext_frames_not_follow_options :
    ¬ FollowsOptions none none (some false) none true
      { extFramesEnabled := true, collectionsEnabled := true, durabilityEnabled := true
        preserveExpiryEnabled := true } [0, 0, 0, 0] := by
  intro hfollows
  rcases (hfollows.1 .reqExt 1 rfl).1 with ⟨items, ⟨dura, hdura, hitems⟩, hdecodes⟩
  cases hdura
  cases hitems
  cases decodes_nil_inv hdecodes

end Memdx
end CouchbaseSdk
