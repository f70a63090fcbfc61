import CouchbaseSdk.Httpx.RowStreamer

/-!
# Sources that answer alike

The token machine and the row streamer see of the bytes only what a source answers.  Over two
sources that answer alike they do the same.
-/

namespace CouchbaseSdk
namespace Httpx

open Foundation

variable {input other value result : Type}

/-!
# Token machines in the same state
-/

namespace Decoder

/-- The same token machine over related sources. -/
structure Over (R : input -> other -> Prop) (d : Decoder input) (d' : Decoder other) : Prop where
  input : R d.input d'.input
  tokenState : d.tokenState = d'.tokenState
  tokenStack : d.tokenStack = d'.tokenStack

variable {R P : input -> other -> Prop}

abbrev SameAnswers (R : input -> other -> Prop) (P : input -> other -> Prop)
    (Q : value -> input -> other -> Prop) (m : Method (Decoder input) ErrorKind value)
    (m' : Method (Decoder other) ErrorKind value) : Prop :=
  Method.Related (Over R) (Over P) (fun v => Over (Q v)) m m'

theorem Over.mono (h : forall x y, P x y -> R x y) (d : Decoder input) (d' : Decoder other)
    (hd : Over P d d') : Over R d d' :=
  ⟨h _ _ hd.input, hd.tokenState, hd.tokenStack⟩

theorem onInput_same {Q : value -> input -> other -> Prop} {m : Method input ErrorKind value}
    {m' : Method other ErrorKind value} (h : Method.Related R P Q m m') :
    SameAnswers R P Q (onInput m) (onInput m') := by
  apply Method.Related.within h
  · exact fun _ _ hd => hd.input
  · exact fun _ _ _ _ hd hi => ⟨hi, hd.tokenState, hd.tokenStack⟩
  · exact fun _ _ _ _ _ hd hi => ⟨hi, hd.tokenState, hd.tokenStack⟩

theorem getTokenState_same :
    SameAnswers R P (fun _ => P) (Method.gets Decoder.tokenState)
      (Method.gets Decoder.tokenState) :=
  (Method.Related.gets fun _ _ hd => hd.tokenState).mono (fun _ _ h => h) fun _ _ _ h => h.1

theorem setTokenState_same (state : TokenState) :
    SameAnswers R P (fun _ => P) (Method.update (setTokenState state))
      (Method.update (setTokenState state)) :=
  Method.Related.update fun _ _ hd => ⟨hd.input, rfl, hd.tokenStack⟩

theorem pushTokenState_same (state : TokenState) :
    SameAnswers R P (fun _ => P) (Method.update (pushTokenState state))
      (Method.update (pushTokenState state)) := by
  apply Method.Related.update
  intro d d' hd
  refine ⟨hd.input, rfl, ?_⟩
  simp only [pushTokenState, hd.tokenState, hd.tokenStack]

theorem tokenValueEnd_same :
    SameAnswers R P (fun _ => P) (Method.update tokenValueEnd)
      (Method.update tokenValueEnd) := by
  apply Method.Related.update
  intro d d' hd
  unfold tokenValueEnd
  rw [hd.tokenState]
  split
  · exact ⟨hd.input, rfl, hd.tokenStack⟩
  · exact ⟨hd.input, rfl, hd.tokenStack⟩
  · exact ⟨hd.input, rfl, hd.tokenStack⟩
  · exact hd

theorem popTokenState_same : SameAnswers R R (fun _ => R) popTokenState popTokenState := by
  intro d d' hd
  unfold popTokenState
  rw [← hd.tokenStack]
  cases d.tokenStack with
  | nil => trivial
  | cons state stack => exact ⟨rfl, hd.input, rfl, rfl⟩

theorem fail_same {Q : value -> input -> other -> Prop} (e : ErrorKind)
    (h : forall x y, P x y -> R x y) :
    SameAnswers R P Q (Method.fail e) (Method.fail e) :=
  Method.Related.fail (Over.mono h)

theorem tokenError_same {Q : Token -> input -> other -> Prop} (c : UInt8)
    (h : forall x y, P x y -> R x y) :
    SameAnswers R P Q (tokenError c) (tokenError c) :=
  Method.Related.bind getTokenState_same fun _ => fail_same _ h

end Decoder

/-!
# Sources
-/

variable [ByteSource input] [ByteSource other]

/-- Sources related by `R` answer alike.  `Ready` says that a byte is there to go over. -/
structure Alike (R Ready : input -> other -> Prop) : Prop where
  ready : forall x y, Ready x y -> R x y
  peek : Method.Related R R
    (fun res x y => R x y ∧ forall c, res = some (.ok c) -> Ready x y)
    (ByteSource.peek : Method input ErrorKind _) ByteSource.peek
  advance : forall x y, Ready x y -> R (ByteSource.advance 1 x) (ByteSource.advance 1 y)
  takeValue : Method.Related R R (fun _ => R)
    (ByteSource.takeValue : Method input ErrorKind _) ByteSource.takeValue
  err : forall x y, R x y -> ByteSource.err x = ByteSource.err y
  size : forall x y, R x y -> ByteSource.size x = ByteSource.size y

namespace Decoder

section Same

variable {R Ready : input -> other -> Prop} (h : Alike R Ready)

include h

theorem advance_same : SameAnswers R Ready (fun _ => R) advance advance :=
  onInput_same (Method.Related.update h.advance)

theorem peek_same :
    SameAnswers R R (fun res x y => R x y ∧ forall c, res = some (.ok c) -> Ready x y) peek peek :=
  onInput_same h.peek

theorem nextByte_same : SameAnswers R R (fun _ => Ready) nextByte nextByte := by
  apply Method.Related.bind (peek_same h)
  intro c
  match c with
  | some (.ok c) => exact Method.Related.pure (Over.mono fun _ _ hxy => hxy.2 c rfl)
  | some (.error e) => exact fail_same e fun _ _ hxy => hxy.1
  | none => exact fail_same _ fun _ _ hxy => hxy.1

theorem tokenPrepareForDecode_same :
    SameAnswers R R (fun _ => R) tokenPrepareForDecode tokenPrepareForDecode := by
  apply Method.Related.bind getTokenState_same
  intro state
  apply Method.Related.ite
  · apply Method.Related.bind (nextByte_same h)
    intro c
    apply Method.Related.ite
    · exact Method.Related.bind (advance_same h) fun _ => setTokenState_same _
    · exact fail_same _ h.ready
  apply Method.Related.ite
  · apply Method.Related.bind (nextByte_same h)
    intro c
    apply Method.Related.ite
    · exact Method.Related.bind (advance_same h) fun _ => setTokenState_same _
    · exact fail_same _ h.ready
  · exact Method.Related.pure fun _ _ hd => hd

theorem decodeValue_same : SameAnswers R R (fun _ => R) decodeValue decodeValue := by
  apply Method.Related.bind (tokenPrepareForDecode_same h)
  intro _
  apply Method.Related.bind getTokenState_same
  intro state
  apply Method.Related.ite
  · apply Method.Related.bind (onInput_same h.takeValue)
    intro val
    apply Method.Related.bind tokenValueEnd_same
    intro _
    exact Method.Related.pure fun _ _ hd => hd
  · exact fail_same _ fun _ _ hxy => hxy

theorem decode_same : SameAnswers R R (fun _ => R) decode decode := by
  apply Method.Related.bind (Method.Related.gets fun d d' hd => h.err _ _ hd.input)
  intro err
  apply Method.Related.of_pre _ fun _ _ hd => hd.1
  cases err with
  | none => exact decodeValue_same h
  | some e => exact fail_same e fun _ _ hxy => hxy

theorem keyToken_same (json : SerdeJson value) :
    SameAnswers R R (fun _ => R) (keyToken json) (keyToken json) := by
  apply Method.Related.bind (setTokenState_same _)
  intro _
  apply Method.Related.bind (decode_same h)
  intro decoded
  apply Method.Related.bind
    (Method.Related.ofExcept (fun _ _ hd => hd) fun _ _ _ hd => hd)
  intro x
  apply Method.Related.bind (setTokenState_same _)
  intro _
  exact Method.Related.pure fun _ _ hd => hd

theorem valueToken_same : SameAnswers R R (fun _ => R) valueToken valueToken := by
  apply Method.Related.bind (decode_same h)
  intro decoded
  exact Method.Related.pure fun _ _ hd => hd

theorem openDelim_same (c : Char) (state : TokenState) :
    SameAnswers R Ready (fun _ => R) (openDelim c state) (openDelim c state) := by
  apply Method.Related.bind (advance_same h)
  intro _
  apply Method.Related.bind (pushTokenState_same _)
  intro _
  exact Method.Related.pure fun _ _ hd => hd

theorem closeDelim_same (c : Char) :
    SameAnswers R Ready (fun _ => R) (closeDelim c) (closeDelim c) := by
  apply Method.Related.bind (advance_same h)
  intro _
  apply Method.Related.bind popTokenState_same
  intro _
  apply Method.Related.bind tokenValueEnd_same
  intro _
  exact Method.Related.pure fun _ _ hd => hd

/-- A separator is gone over, and the next round follows. -/
theorem separator_same (state : TokenState) {again : Method (Decoder input) ErrorKind Token}
    {again' : Method (Decoder other) ErrorKind Token}
    (hagain : SameAnswers R R (fun _ => R) again again') :
    SameAnswers R Ready (fun _ => R)
      (advance >>= fun _ => Method.update (setTokenState state) >>= fun _ => again)
      (advance >>= fun _ => Method.update (setTokenState state) >>= fun _ => again') := by
  apply Method.Related.bind (advance_same h)
  intro _
  exact Method.Related.bind (setTokenState_same _) fun _ => hagain

theorem tokenAt_same (json : SerdeJson value)
    {again : Method (Decoder input) ErrorKind Token}
    {again' : Method (Decoder other) ErrorKind Token}
    (hagain : SameAnswers R R (fun _ => R) again again') (c : UInt8) (state : TokenState) :
    SameAnswers R Ready (fun _ => R) (tokenAt json again c state)
      (tokenAt json again' c state) := by
  have herror : SameAnswers R Ready (fun _ => R) (tokenError c) (tokenError c) :=
    tokenError_same c h.ready
  have hready : forall d d', Over Ready d d' -> Over R d d' := Over.mono h.ready
  apply Method.Related.ite (.ite (openDelim_same h _ _) herror)
  apply Method.Related.ite (.ite (closeDelim_same h _) herror)
  apply Method.Related.ite (.ite (openDelim_same h _ _) herror)
  apply Method.Related.ite (.ite (closeDelim_same h _) herror)
  apply Method.Related.ite (.ite (separator_same h _ hagain) herror)
  apply Method.Related.ite
    (.ite (separator_same h _ hagain) (.ite (separator_same h _ hagain) herror))
  apply Method.Related.ite
  · apply Method.Related.ite ((keyToken_same h json).of_pre hready)
    exact .ite ((valueToken_same h).of_pre hready) herror
  · exact .ite ((valueToken_same h).of_pre hready) herror

theorem tokenRound_same (json : SerdeJson value)
    {again : Method (Decoder input) ErrorKind Token}
    {again' : Method (Decoder other) ErrorKind Token}
    (hagain : SameAnswers R R (fun _ => R) again again') :
    SameAnswers R R (fun _ => R) (tokenRound json again) (tokenRound json again') := by
  apply Method.Related.bind (nextByte_same h)
  intro c
  apply Method.Related.bind getTokenState_same
  exact fun state => tokenAt_same h json hagain c state

theorem token_same (json : SerdeJson value) :
    SameAnswers R R (fun _ => R) (token json) (token json) :=
  tokenRound_same h json (tokenRound_same h json Method.Related.abort)

theorem more_same : SameAnswers R R (fun _ => R) more more := by
  apply Method.Related.bind (peek_same h)
  intro c
  match c with
  | some (.ok c) => exact Method.Related.pure (Over.mono fun _ _ hxy => hxy.1)
  | some (.error e) => exact Method.Related.pure (Over.mono fun _ _ hxy => hxy.1)
  | none => exact Method.Related.pure (Over.mono fun _ _ hxy => hxy.1)

end Same
end Decoder

/-!
# The row streamer
-/

namespace RawJsonRowStreamer

/-- The same row streamer over related sources. -/
structure Over (R : input -> other -> Prop) (s : RawJsonRowStreamer input value)
    (s' : RawJsonRowStreamer other value) : Prop where
  stream : Decoder.Over R s.stream s'.stream
  rowsAttrib : s.rowsAttrib = s'.rowsAttrib
  attribs : s.attribs = s'.attribs
  state : s.state = s'.state

abbrev SameAnswers (value : Type) (R : input -> other -> Prop)
    (m : Method (RawJsonRowStreamer input value) ErrorKind result)
    (m' : Method (RawJsonRowStreamer other value) ErrorKind result) : Prop :=
  Method.Related (Over R) (Over R) (fun _ => Over R) m m'

section Frame

variable {R : input -> other -> Prop}

omit [ByteSource input] [ByteSource other]

theorem onStream_same {m : Method (Decoder input) ErrorKind result}
    {m' : Method (Decoder other) ErrorKind result}
    (h : Decoder.SameAnswers R R (fun _ => R) m m') :
    SameAnswers value R (onStream m) (onStream m') := by
  apply Method.Related.within h
  · exact fun _ _ hs => hs.stream
  · exact fun _ _ _ _ hs hd => ⟨hd, hs.rowsAttrib, hs.attribs, hs.state⟩
  · exact fun _ _ _ _ _ hs hd => ⟨hd, hs.rowsAttrib, hs.attribs, hs.state⟩

theorem gets_same {f : RawJsonRowStreamer input value -> result}
    {g : RawJsonRowStreamer other value -> result}
    (hfg : forall s s', Over R s s' -> f s = g s') :
    SameAnswers value R (Method.gets f) (Method.gets g) :=
  (Method.Related.gets hfg).mono (fun _ _ h => h) fun _ _ _ h => h.1

theorem setState_same (state : RowStreamState) :
    SameAnswers value R (Method.update (setState state))
      (Method.update (setState state)) :=
  Method.Related.update fun _ _ hs => ⟨hs.stream, hs.rowsAttrib, hs.attribs, rfl⟩

theorem insertAttrib_same (key : String) (v : value) :
    SameAnswers value R (Method.update (insertAttrib key v))
      (Method.update (insertAttrib key v)) := by
  apply Method.Related.update
  intro s s' hs
  refine ⟨hs.stream, hs.rowsAttrib, ?_, hs.state⟩
  simp only [insertAttrib, hs.attribs]

theorem pure_same (v : result) :
    SameAnswers value R (pure v) (pure v) :=
  Method.Related.pure fun _ _ hs => hs

theorem fail_same (e : ErrorKind) :
    SameAnswers value R (Method.fail e : Method _ ErrorKind result) (Method.fail e) :=
  Method.Related.fail fun _ _ hs => hs

theorem ofExcept_same (r : Except ErrorKind result) :
    SameAnswers value R (Method.ofExcept r) (Method.ofExcept r) :=
  Method.Related.ofExcept (fun _ _ hs => hs) fun _ _ _ hs => hs

theorem encodeAttribs_same (json : SerdeJson value) (context : String) :
    SameAnswers value R (encodeAttribs json context) (encodeAttribs json context) :=
  Method.Related.bind (gets_same fun _ _ hs => hs.attribs) fun _ => ofExcept_same _

end Frame

section Same

variable {R Ready : input -> other -> Prop} (h : Alike R Ready) (json : SerdeJson value)

include h

theorem readAttrib_same (key : String) :
    SameAnswers value R (readAttrib json key) (readAttrib json key) := by
  apply Method.Related.bind (onStream_same (Decoder.decode_same h))
  intro text
  exact Method.Related.bind (ofExcept_same _) fun v => insertAttrib_same key v

theorem closeRows_same : SameAnswers value R (closeRows json) (closeRows json) := by
  apply Method.Related.bind (onStream_same (Decoder.token_same h json))
  intro token
  exact Method.Related.ite (setState_same _) (fail_same _)

theorem beginRows_same {again : Method (RawJsonRowStreamer input value) ErrorKind Unit}
    {again' : Method (RawJsonRowStreamer other value) ErrorKind Unit}
    (hagain : SameAnswers value R again again') :
    SameAnswers value R (beginRows json again) (beginRows json again') := by
  apply Method.Related.bind (onStream_same (Decoder.token_same h json))
  intro token
  apply Method.Related.ite
  · apply Method.Related.bind (setState_same _)
    intro _
    apply Method.Related.bind (onStream_same (Decoder.more_same h))
    intro more
    apply Method.Related.ite (pure_same ())
    exact Method.Related.bind (closeRows_same h json) fun _ => hagain
  · exact Method.Related.ite hagain (fail_same _)

theorem beginLoop_same (rounds : Nat) :
    SameAnswers value R (beginLoop json rounds) (beginLoop json rounds) := by
  induction rounds with
  | zero => exact Method.Related.abort
  | succ rounds ih =>
      apply Method.Related.bind (onStream_same (Decoder.more_same h))
      intro more
      refine Method.Related.ite ?_ (setState_same _)
      apply Method.Related.bind (onStream_same (Decoder.token_same h json))
      intro token
      apply Method.Related.bind (gets_same fun _ _ hs => hs.rowsAttrib)
      intro rowsAttrib
      cases token with
      | string key =>
          apply Method.Related.ite (beginRows_same h json ih)
          exact Method.Related.bind (readAttrib_same h json key) fun _ => ih
      | delim c => exact fail_same _
      | value v => exact fail_same _

theorem begin_same : SameAnswers value R (begin json) (begin json) := by
  apply Method.Related.bind (gets_same fun _ _ hs => hs.state)
  intro state
  refine Method.Related.ite ?_ (fail_same _)
  apply Method.Related.bind (onStream_same (Decoder.token_same h json))
  intro first
  refine Method.Related.ite ?_ (fail_same _)
  apply Method.Related.bind (gets_same fun _ _ hs => h.size _ _ hs.stream.input)
  exact fun n => beginLoop_same h json (n + 1)

theorem metadataLoop_same (rounds : Nat) :
    SameAnswers value R (metadataLoop json rounds) (metadataLoop json rounds) := by
  induction rounds with
  | zero => exact Method.Related.abort
  | succ rounds ih =>
      apply Method.Related.bind (onStream_same (Decoder.token_same h json))
      intro token
      apply Method.Related.ite
      · apply Method.Related.bind (setState_same _)
        intro _
        exact Method.Related.bind (encodeAttribs_same json _) fun _ => pure_same _
      cases token with
      | string key => exact Method.Related.bind (readAttrib_same h json key) fun _ => ih
      | delim c => exact fail_same _
      | value v => exact fail_same _

theorem nextRow_same : SameAnswers value R (nextRow json) (nextRow json) := by
  apply Method.Related.bind (onStream_same (Decoder.decode_same h))
  intro row
  apply Method.Related.bind (onStream_same (Decoder.more_same h))
  intro more
  apply Method.Related.ite (pure_same _)
  exact Method.Related.bind (closeRows_same h json) fun _ => pure_same _

theorem next_same : SameAnswers value R (next json) (next json) := by
  apply Method.Related.bind (gets_same fun _ _ hs => hs.state)
  intro state
  apply Method.Related.ite (pure_same none)
  apply Method.Related.ite
  · apply Method.Related.bind (gets_same fun _ _ hs => h.size _ _ hs.stream.input)
    intro n
    exact Method.Related.bind (metadataLoop_same h json (n + 1)) fun _ => pure_same _
  · exact Method.Related.bind (nextRow_same h json) fun _ => pure_same _

theorem hasMoreRows_same :
    SameAnswers value R hasMoreRows hasMoreRows := by
  apply Method.Related.bind (gets_same fun _ _ hs => hs.state)
  intro state
  exact Method.Related.ite (onStream_same (Decoder.more_same h)) (pure_same false)

theorem call_same (c : Call) : SameAnswers value R (call json c) (call json c) := by
  cases c with
  | readPrelude =>
      apply Method.Related.bind _ fun _ => pure_same _
      exact Method.Related.bind (begin_same h json) fun _ => encodeAttribs_same json _
  | next => exact Method.Related.bind (next_same h json) fun _ => pure_same _
  | hasMoreRows => exact Method.Related.bind (hasMoreRows_same h) fun _ => pure_same _
  | epilog => exact Method.Related.bind (encodeAttribs_same json _) fun _ => pure_same _

/-- Over sources that answer alike, runs give the same answers. -/
theorem run_same (calls : List Call) {s : RawJsonRowStreamer input value}
    {s' : RawJsonRowStreamer other value} (hs : Over R s s') :
    run json s calls = run json s' calls := by
  induction calls generalizing s s' with
  | nil => rfl
  | cons c calls ih =>
      have hend := call_same h json c s s' hs
      rw [run, run]
      match hc : call json c s, hc' : call json c s', hend with
      | some (.ok v, t), some (.ok _, t'), ⟨rfl, ht⟩ => exact congrArg _ (ih ht)
      | some (.error e, t), some (.error _, t'), ⟨rfl, ht⟩ => exact congrArg _ (ih ht)
      | none, none, _ => rfl

end Same
end RawJsonRowStreamer
end Httpx
end CouchbaseSdk
