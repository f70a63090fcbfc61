import CouchbaseSdk.Httpx.Blocked
import CouchbaseSdk.Httpx.Members

/-!
# The end of a row stream

A row stream that is not blocked reads on with every call of `next`, so it comes to its end.
An error leaves the state of the streamer as it is, and a blocked stream answers every call with
an error.
-/

namespace CouchbaseSdk
namespace Httpx

open Foundation

namespace RawJsonRowStreamer

variable {input value result : Type} {json : SerdeJson value}

/-!
# The metadata come last
-/

section Last

variable {s s' : RawJsonRowStreamer input value}

theorem encodeAttribs_keeps {context : String} {res : Except ErrorKind Buffer}
    (h : encodeAttribs json context s = some (res, s')) : s' = s := by
  unfold encodeAttribs at h
  rw [Method.bind_ok _ (Method.gets_apply _ _)] at h
  cases hbytes : json.toVec s.attribs with
  | ok bytes =>
      rw [hbytes] at h
      cases h
      rfl
  | error e =>
      rw [hbytes] at h
      cases h
      rfl

variable [ByteSource input]

theorem metadataLoop_ended {rounds : Nat} {item : RawJsonRowItem}
    (h : metadataLoop json rounds s = some (.ok item, s')) :
    s'.state = .ended := by
  induction rounds generalizing s with
  | zero => cases h
  | succ rounds ih =>
      rcases Method.bind_eq_ok h with ⟨token, t, _, hrest⟩
      split at hrest
      · rcases Method.bind_eq_ok hrest with ⟨_, t', hset, hrest⟩
        rcases Method.bind_eq_ok hrest with ⟨bytes, t'', hencode, hpure⟩
        cases hset
        cases hpure
        rw [encodeAttribs_keeps hencode]
        rfl
      · cases token with
        | string key =>
            rcases Method.bind_eq_ok hrest with ⟨_, t', _, hloop⟩
            exact ih hloop
        | delim c => cases hrest
        | value v => cases hrest

theorem nextRow_row {item : RawJsonRowItem} (h : nextRow json s = some (.ok item, s')) :
    exists row, item = .row row := by
  rcases Method.bind_eq_ok h with ⟨row, t, _, h⟩
  rcases Method.bind_eq_ok h with ⟨more, t', _, h⟩
  split at h
  · cases h
    exact ⟨row, rfl⟩
  · rcases Method.bind_eq_ok h with ⟨_, t'', _, h⟩
    cases h
    exact ⟨row, rfl⟩

/-- Behind the metadata the stream is at its end. -/
theorem next_metadata_ended {metadata : Buffer}
    (h : next json s = some (.ok (some (.metadata metadata)), s')) :
    s'.state = .ended := by
  unfold next at h
  rcases Method.bind_eq_ok h with ⟨state, t, hget, h⟩
  split at h
  · cases h
  · split at h
    · rcases Method.bind_eq_ok h with ⟨n, t', hsize, h⟩
      rcases Method.bind_eq_ok h with ⟨item, t'', hloop, hpure⟩
      cases hpure
      exact metadataLoop_ended hloop
    · rcases Method.bind_eq_ok h with ⟨item, t', hrow, hpure⟩
      cases hpure
      rcases nextRow_row hrow with ⟨row, hitem⟩
      cases hitem

end Last

/-!
# Calls that read on
-/

section Bytes

variable {s : RawJsonRowStreamer Unread value}

/-- What is left to read. -/
def left (s : RawJsonRowStreamer Unread value) : Nat := s.stream.left

/-- The next token, or the next row, cannot be read, now or later. -/
def Blocked (s : RawJsonRowStreamer Unread value) : Prop :=
  match s.state with
  | .ended => False
  | .postRows => s.stream.TokenBlocked
  | .start | .rows => s.stream.RowsBlocked

theorem onStream_neverGrows {m : Method (Decoder Unread) ErrorKind result}
    (h : Method.NeverGrows Decoder.left m) :
    Method.NeverGrows left
      (onStream m : Method (RawJsonRowStreamer Unread value) ErrorKind result) :=
  .within h fun _ _ hle => hle

theorem setState_neverGrows (state : RowStreamState) :
    Method.NeverGrows left
      (Method.update (setState state) :
        Method (RawJsonRowStreamer Unread value) ErrorKind Unit) :=
  .update fun _ => Nat.le_refl _

theorem encodeAttribs_neverGrows (context : String) :
    Method.NeverGrows left
      (encodeAttribs json context : Method (RawJsonRowStreamer Unread value) ErrorKind Buffer) :=
  .bind (.gets _) fun _ => .ofExcept _

theorem readAttrib_neverGrows (key : String) :
    Method.NeverGrows left
      (readAttrib json key : Method (RawJsonRowStreamer Unread value) ErrorKind Unit) := by
  apply Method.NeverGrows.bind (onStream_neverGrows Decoder.decode_neverGrows)
  intro text
  apply Method.NeverGrows.bind (Method.NeverGrows.ofExcept _)
  intro v
  exact .update fun _ => Nat.le_refl _

theorem closeRows_neverGrows :
    Method.NeverGrows left
      (closeRows json : Method (RawJsonRowStreamer Unread value) ErrorKind Unit) :=
  .bind (onStream_neverGrows Decoder.token_neverGrows) fun _ =>
    .ite (setState_neverGrows _) (.fail _)

/-- What follows a token behind the rows. -/
def afterToken (json : SerdeJson value) (rounds : Nat) (token : Token) :
    Method (RawJsonRowStreamer Unread value) ErrorKind RawJsonRowItem :=
  if token = .delim '\x7d' then do
    Method.update (setState .ended)
    let metadata <- encodeAttribs json "failed to encode metadata: "
    pure (.metadata metadata)
  else
    match token with
    | .string key => do
        readAttrib json key
        metadataLoop json rounds
    | _ => Method.fail (.message "expected a string key for the result")

theorem afterToken_neverGrows {rounds : Nat}
    (h : Method.NeverGrows left
      (metadataLoop json rounds : Method (RawJsonRowStreamer Unread value) ErrorKind _))
    (token : Token) : Method.NeverGrows left (afterToken json rounds token) := by
  apply Method.NeverGrows.ite
  · exact .bind (setState_neverGrows _) fun _ => .bind (encodeAttribs_neverGrows _) fun _ => .pure _
  · cases token with
    | string key => exact .bind (readAttrib_neverGrows key) fun _ => h
    | delim c => exact .fail _
    | value v => exact .fail _

theorem metadataLoop_neverGrows (rounds : Nat) :
    Method.NeverGrows left
      (metadataLoop json rounds : Method (RawJsonRowStreamer Unread value) ErrorKind _) := by
  induction rounds with
  | zero => exact .abort
  | succ rounds ih =>
      exact .bind (onStream_neverGrows Decoder.token_neverGrows) fun token =>
        afterToken_neverGrows ih token

theorem metadataLoop_shrinks (rounds : Nat) (h : ¬ s.stream.TokenBlocked) :
    Method.Shrinks left (metadataLoop json (rounds + 1)) s := by
  have htoken : Method.Shrinks left (onStream (Decoder.token json)) s :=
    .within (Decoder.token_shrinks h) fun _ hlt => hlt
  exact htoken.bind fun token => afterToken_neverGrows (metadataLoop_neverGrows rounds) token

theorem nextRow_shrinks (h : ¬ s.stream.RowsBlocked) :
    Method.Shrinks left (nextRow json) s := by
  have hdecode : Method.Shrinks left (onStream Decoder.decode) s :=
    .within (Decoder.decode_shrinks h) fun _ hlt => hlt
  apply hdecode.bind
  intro row
  apply Method.NeverGrows.bind (onStream_neverGrows Decoder.more_neverGrows)
  intro more
  exact .ite (.pure _) (.bind closeRows_neverGrows fun _ => .pure _)

/-!
# The calls of `next`
-/

theorem next_postRows_eq (h : s.state = .postRows) :
    next json s = (metadataLoop json (s.size + 1) >>= fun item => pure (some item)) s := by
  unfold next
  rw [Method.bind_ok _ (Method.gets_apply _ _), h]
  rfl

theorem next_row_eq (hended : s.state ≠ .ended) (hpost : s.state ≠ .postRows) :
    next json s = (nextRow json >>= fun item => pure (some item)) s := by
  unfold next
  rw [Method.bind_ok _ (Method.gets_apply _ _), if_neg hended, if_neg hpost]

theorem next_shrinks (hstate : s.state ≠ .ended) (h : ¬ Blocked s) :
    Method.Shrinks left (next json) s := by
  unfold Blocked at h
  by_cases hpost : s.state = .postRows
  · rw [hpost] at h
    exact .of_call (next_postRows_eq hpost) (Nat.le_refl _)
      ((metadataLoop_shrinks _ h).bind fun _ => .pure _)
  · have hrows : ¬ s.stream.RowsBlocked := by
      cases hs : s.state with
      | ended => exact absurd hs hstate
      | postRows => exact absurd hs hpost
      | start | rows =>
          rw [hs] at h
          exact h
    exact .of_call (next_row_eq hstate hpost) (Nat.le_refl _)
      ((nextRow_shrinks hrows).bind fun _ => .pure _)

/-- A part of a call that fails leaves the state of the streamer as it is. -/
theorem FailsInto.onStream {P : Decoder Unread -> Prop}
    {m : Method (Decoder Unread) ErrorKind result} (h : Method.FailsInto P m s.stream) :
    Method.FailsInto (fun s' => s'.state = s.state ∧ P s'.stream) (onStream m) s :=
  h.within fun _ hd => ⟨rfl, hd⟩

theorem nextRow_blocked (h : s.stream.RowsBlocked) :
    Method.FailsInto (fun s' => s'.state = s.state ∧ s'.stream.RowsBlocked) (nextRow json) s := by
  rcases Decoder.decode_blocked h with hfails | ⟨v, hdecode, hblocked, hfault⟩
  · exact (FailsInto.onStream hfails).bind _
  · have hnone := Decoder.atEnd_firstByte s.stream
    have hfault' := (Decoder.atEnd_fault s.stream).trans hfault
    have hmore : Decoder.more s.stream.atEnd = some (.ok false, s.stream.atEnd) := by
      unfold Decoder.more
      rw [Method.bind_ok _ (Decoder.peek_nothing hnone hfault')]
      rfl
    have hnext : Method.FailsInto Decoder.RowsBlocked Decoder.nextByte s.stream.atEnd :=
      ⟨_, _, Decoder.nextByte_nothing hnone hfault', hblocked⟩
    have htoken : Method.FailsInto Decoder.RowsBlocked (Decoder.token json) s.stream.atEnd :=
      hnext.bind _
    have hclose : Method.FailsInto (fun s' => s'.state = s.state ∧ s'.stream.RowsBlocked)
        (closeRows json) { s with stream := s.stream.atEnd } :=
      (FailsInto.onStream (s := { s with stream := s.stream.atEnd }) htoken).bind _
    exact .bind_ok (onStream_some hdecode) (.bind_ok (onStream_some hmore) (hclose.bind _))

theorem metadataLoop_blocked (rounds : Nat) (h : s.stream.TokenBlocked) :
    Method.FailsInto (fun s' => s'.state = s.state ∧ s'.stream.TokenBlocked)
      (metadataLoop json (rounds + 1)) s :=
  (FailsInto.onStream (Decoder.token_blocked h)).bind _

theorem next_blocked (h : Blocked s) : Method.FailsInto Blocked (next json) s := by
  unfold Blocked at h ⊢
  cases hs : s.state with
  | ended =>
      rw [hs] at h
      exact h.elim
  | postRows =>
      rw [hs] at h
      have hloop := @metadataLoop_blocked _ json s s.size h
      refine .of_eq (next_postRows_eq hs) ((hloop.mono ?_).bind _)
      rintro s' ⟨hstate, hblocked⟩
      rw [hstate, hs]
      exact hblocked
  | start | rows =>
      rw [hs] at h
      have hnext : next json s = (nextRow json >>= fun item => pure (some item)) s := by
        apply next_row_eq
        all_goals
          rw [hs]
          decide
      refine .of_eq hnext (((nextRow_blocked h).mono ?_).bind _)
      rintro s' ⟨hstate, hblocked⟩
      rw [hstate, hs]
      exact hblocked

/-- Each call finds the stream at its end, or blocked, or reads on. -/
theorem next_progresses :
    Method.Progresses (next json : Method (RawJsonRowStreamer Unread value) ErrorKind _) Sound
      (fun s => s.state = .ended) Blocked left where
  keeps := fun _ hs => (next_returns.after hs).2
  done := by
    intro s hs
    rw [Method.after_eq (next_ended hs)]
    refine ⟨hs, ?_⟩
    unfold Blocked
    rw [hs]
    exact id
  blocked := fun _ _ hs => (next_blocked hs).after
  shrinks := fun _ hsound hstate hs => (next_shrinks hstate hs).after (next_returns.after hsound).1

/-- At the end, and only there, `next` has nothing more. -/
theorem answer_none_iff :
    (next json).answer s = some (.ok none) ↔ s.state = .ended := by
  constructor
  · intro h
    by_contra hstate
    have hitem : exists m : Method _ ErrorKind RawJsonRowItem,
        next json s = (m >>= fun item => pure (some item)) s := by
      by_cases hpost : s.state = .postRows
      · exact ⟨_, next_postRows_eq hpost⟩
      · exact ⟨_, next_row_eq hstate hpost⟩
    rcases hitem with ⟨m, hm⟩
    rcases Option.map_eq_some_iff.mp h with ⟨⟨res, s'⟩, hnext, hres⟩
    change res = .ok none at hres
    rw [hm, hres] at hnext
    rcases Method.bind_eq_ok hnext with ⟨item, t, _, hpure⟩
    cases hpure
  · intro hstate
    unfold Method.answer
    rw [next_ended hstate]
    rfl

theorem ends_iff_unblocked (h : Sound s) :
    Method.Ends (next json) s ↔ forall n, ¬ Blocked ((next json).after^[n] s) := by
  rw [← next_progresses.done_iff h]
  exact exists_congr fun _ => answer_none_iff

end Bytes
end RawJsonRowStreamer

/-!
# Streams of chunks
-/

namespace Window

def chunkError : Except ErrorKind Buffer -> Option ErrorKind
  | .ok _ => none
  | .error e => some e

/-- The bytes that are not read yet, in the buffer and in the stream. -/
def unread (w : Window) : Unread where
  rest := w.buf.drop w.scanp ++ (w.r.filterMap Except.toOption).flatten
  fault := (w.r.filterMap chunkError).head?
  err := w.err

theorem Holds.unread_eq {w : Window} {u : Unread} (h : w.Holds u) : w.unread = u := by
  rcases h.stream with ⟨chunks, hr, hrest⟩
  have hok : (chunks.map (Except.ok : Buffer -> Except ErrorKind Buffer)).filterMap
      Except.toOption = chunks := by
    rw [List.filterMap_map]
    exact List.filterMap_some
  have herror : (chunks.map (Except.ok : Buffer -> Except ErrorKind Buffer)).filterMap
      chunkError = [] := by
    rw [List.filterMap_map]
    exact List.filterMap_eq_nil_iff.mpr fun _ _ => rfl
  have hfault : (u.fault.toList.map (Except.error : ErrorKind -> Except ErrorKind Buffer)).filterMap
      Except.toOption = [] := by
    cases u.fault <;> rfl
  have hhead : ((u.fault.toList.map (Except.error : ErrorKind -> Except ErrorKind Buffer)).filterMap
      chunkError).head? = u.fault := by
    cases u.fault <;> rfl
  unfold unread
  rw [hr, List.filterMap_append, List.filterMap_append, hok, herror, hfault, List.append_nil,
    List.nil_append, hhead, ← hrest, h.err]

end Window

namespace RawJsonRowStreamer

variable {input value : Type} {json : SerdeJson value}

/-- The streamer, over the bytes it has not read yet. -/
def unread (s : RawJsonRowStreamer Window value) : RawJsonRowStreamer Unread value where
  stream := { input := s.stream.input.unread
              tokenState := s.stream.tokenState
              tokenStack := s.stream.tokenStack }
  rowsAttrib := s.rowsAttrib
  attribs := s.attribs
  state := s.state

theorem Over.unread_eq {s : RawJsonRowStreamer Window value} {s' : RawJsonRowStreamer Unread value}
    (h : Over Window.Holds s s') : s.unread = s' := by
  rcases s' with ⟨⟨u, tokenState, tokenStack⟩, rowsAttrib, attribs, state⟩
  unfold unread
  rw [h.stream.input.unread_eq, h.stream.tokenState, h.stream.tokenStack, h.rowsAttrib, h.attribs,
    h.state]

/-- The streamer behind the calls. -/
def behind [ByteSource input] (json : SerdeJson value) (s : RawJsonRowStreamer input value)
    (calls : List Call) : RawJsonRowStreamer input value :=
  calls.foldl (fun s c => (call json c).after s) s

theorem behind_over {s : RawJsonRowStreamer Window value} {s' : RawJsonRowStreamer Unread value}
    (h : Over Window.Holds s s') (calls : List Call) :
    Over Window.Holds (behind json s calls) (behind json s' calls) := by
  induction calls generalizing s s' with
  | nil => exact h
  | cons c calls ih => exact ih ((call_same Window.alike json c).after h)

theorem behind_sound {s : RawJsonRowStreamer Unread value} (h : Sound s) (calls : List Call) :
    Sound (behind json s calls) := by
  induction calls generalizing s with
  | nil => exact h
  | cons c calls ih => exact ih ((call_returns c).after h).2

/-- The stream is not blocked before any call of `next`. -/
def NeverBlocked (json : SerdeJson value) (s : RawJsonRowStreamer Window value) : Prop :=
  forall n, ¬ Blocked ((next json).after^[n] s).unread

/-- Whether a stream is blocked can be seen from the bytes of the response. -/
theorem neverBlocked_ofStream (chunks : List Buffer) (fault : Option ErrorKind)
    (rowsAttrib : String) (calls : List Call) :
    NeverBlocked json
        (behind json (ofStream (chunks.map .ok ++ fault.toList.map .error) rowsAttrib) calls) ↔
      forall n, ¬ Blocked ((next json).after^[n]
        (behind json (ofBytes chunks.flatten fault rowsAttrib) calls)) := by
  have hover := @behind_over value json _ _ (ofStream_over chunks fault rowsAttrib) calls
  apply forall_congr'
  intro n
  rw [((next_same Window.alike json).iterate hover n).unread_eq]

/-- A streamer over chunks comes to its end exactly if it is never blocked. -/
theorem ends_ofStream (chunks : List Buffer) (fault : Option ErrorKind) (rowsAttrib : String)
    (calls : List Call) :
    Method.Ends (next json)
        (behind json (ofStream (chunks.map .ok ++ fault.toList.map .error) rowsAttrib) calls) ↔
      NeverBlocked json
        (behind json (ofStream (chunks.map .ok ++ fault.toList.map .error) rowsAttrib) calls) := by
  have hover := @behind_over value json _ _ (ofStream_over chunks fault rowsAttrib) calls
  have hsound : Sound (behind json (ofBytes chunks.flatten fault rowsAttrib) calls) :=
    behind_sound (s := ofBytes chunks.flatten fault rowsAttrib) rfl calls
  rw [(next_same Window.alike json).ends_iff hover, ends_iff_unblocked hsound,
    neverBlocked_ofStream]

end RawJsonRowStreamer
end Httpx
end CouchbaseSdk
