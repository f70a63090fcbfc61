import CouchbaseSdk.Httpx.Unread
import CouchbaseSdk.Httpx.ScannerSteps

/-!
# Calls return

None of the calls of a row streamer aborts: the state stack is not empty where it is popped, a
failed scan has an error to report, and every round of the two loops reads a byte.
-/

namespace CouchbaseSdk
namespace Httpx

open Foundation Foundation.Json

/-!
# Failed scans
-/

namespace Scanner

theorem popParseState_blamed (s : Scanner) : Blamed s.popParseState := by
  unfold popParseState
  split
  · exact fun h => by cases h
  · exact fun h => by cases h

/-- A step leaves an error where it fails. -/
theorem step_blamed {s s' : Scanner} {state : ScanState} {c : UInt8} (h : Blamed s)
    (hstep : s.step c = (state, s')) : Blamed s' ∧ (state = .error -> s'.err ≠ none) := by
  have hcases := step_stepped s c
  rw [hstep] at hcases
  cases hcases with
  | goesOn _ herror _ _ _ hsame =>
      refine ⟨?_, fun h => absurd h herror⟩
      rcases hsame with rfl | ⟨_, hnext⟩
      · exact h
      · exact fun h => absurd h hnext
  | popped hstate _ =>
      refine ⟨popParseState_blamed _, ?_⟩
      rintro rfl
      rcases hstate with hstate | hstate <;> cases hstate
  | ended _ hblamed => exact ⟨hblamed h, fun h => by cases h⟩
  | failed herr => exact ⟨fun _ => herr, fun _ => herr⟩
  | stuck hstuck => exact ⟨h, fun _ => h hstuck⟩

theorem round_goesOn {s s' : Scanner} {c : UInt8} (h : Blamed s)
    (hround : s.round c = .goesOn s') : Blamed s' := by
  unfold round at hround
  split at hround
  · cases hround
  · cases hround
  · next t _ _ hstep =>
      have hblamed := (step_blamed h hstep).1
      split at hround
      · split at hround
        · cases hround
        · next hspace =>
            cases hround
            exact (step_blamed hblamed hspace).1
      · cases hround
        exact hblamed

theorem round_failed {s s' : Scanner} {c : UInt8} (h : Blamed s)
    (hround : s.round c = .failed s') : s'.err ≠ none := by
  unfold round at hround
  split at hround
  · cases hround
  · next hstep =>
      cases hround
      exact (step_blamed h hstep).2 rfl
  · split at hround
    · split at hround <;> cases hround
    · cases hround

theorem scanBytes_blames {s s' : Scanner} {t : Buffer} {n : Nat} (h : Blamed s)
    (hscan : scanBytes s t n = .failed s') : s'.err ≠ none := by
  induction t generalizing s n with
  | nil => cases hscan
  | cons c t ih =>
      rw [scanBytes] at hscan
      cases hround : s.round c with
      | goesOn s'' =>
          rw [hround] at hscan
          exact ih (round_goesOn h hround) hscan
      | before s'' =>
          rw [hround] at hscan
          cases hscan
      | after s'' =>
          rw [hround] at hscan
          cases hscan
      | failed s'' =>
          rw [hround] at hscan
          cases hscan
          exact round_failed h hround

end Scanner

/-!
# Bytes
-/

namespace Unread

/-- Fewer than `n` bytes are left. -/
def Under (n : Nat) (u : Unread) : Prop := u.rest.length < n

/-- The next byte is `c`. -/
def Next (c : UInt8) (u : Unread) : Prop := exists rest, u.rest = c :: rest

theorem peek_returns (n : Nat) :
    Method.Returns (fun _ => True) (Under n)
      (fun res u => Under n u ∧ forall c, res = some (.ok c) -> Next c u) peek := by
  intro u hu
  have hle := (List.dropWhile_sublist (l := u.rest) isAsciiWhitespace).length_le
  unfold peek
  cases hrest : u.rest.dropWhile isAsciiWhitespace with
  | cons c rest =>
      rw [hrest] at hle
      refine ⟨Nat.lt_of_le_of_lt hle hu, ?_⟩
      intro b hb
      cases hb
      exact ⟨rest, rfl⟩
  | nil =>
      cases u.fault with
      | none => exact ⟨hu, fun c hc => by cases hc⟩
      | some e => exact ⟨hu, fun c hc => by cases hc⟩

theorem readValue_returns (n : Nat) :
    Method.Returns (fun _ => True) (Under n) (fun _ => Under n) readValue := by
  intro u hu
  unfold readValue
  cases hscan : Scanner.new.scanBytes u.rest 0 with
  | value m s => exact hu
  | failed s =>
      have herr := Scanner.scanBytes_blames (fun h => by cases h) hscan
      cases hs : s.err with
      | none => exact absurd hs herr
      | some e =>
          dsimp only
          rw [hs]
          trivial
  | more s =>
      dsimp only
      unfold valueAtEnd
      split
      · trivial
      · split
        · exact hu
        · split
          · trivial
          · split
            · trivial
            · exact hu

theorem takeValue_returns (n : Nat) :
    Method.Returns (fun _ => True) (Under n) (fun _ => Under n) takeValue := by
  apply Method.Returns.bind (readValue_returns n)
  intro m
  apply Method.Returns.bind (Method.Returns.gets _)
  intro val
  have hadvance : forall u, Under n u ∧ val = u.rest.take m -> Under n (advance m u) := by
    rintro u ⟨hu, _⟩
    have hle := (List.drop_sublist m u.rest).length_le
    exact Nat.lt_of_le_of_lt hle hu
  apply Method.Returns.bind (Method.Returns.update hadvance)
  intro _
  exact .pure fun _ h => h

end Unread

/-!
# Tokens
-/

namespace Decoder

variable {value : Type} {json : SerdeJson value} {n : Nat} {state : TokenState}
  {stack : List TokenState} {c : UInt8}

/-- Outside all arrays and objects a value is expected. -/
def Stacked : TokenState -> List TokenState -> Prop
  | state, [] => state = .topValue
  | _, state :: stack => Stacked state stack

theorem Stacked.change (h : Stacked state stack) (hstate : state ≠ .topValue)
    (state' : TokenState) : Stacked state' stack := by
  cases stack with
  | nil => exact absurd h hstate
  | cons _ _ => exact h

theorem Stacked.topValue (h : Stacked state stack) : Stacked .topValue stack := by
  cases stack with
  | nil => rfl
  | cons _ _ => exact h

def Sound (d : Decoder Unread) : Prop := Stacked d.tokenState d.tokenStack

/-- The token machine is sound, and fewer than `n` bytes are left. -/
structure Under (n : Nat) (d : Decoder Unread) : Prop where
  sound : Sound d
  size : d.input.Under n

/-- The same, with the state and the stack of the token machine. -/
structure At (n : Nat) (state : TokenState) (stack : List TokenState) (d : Decoder Unread) :
    Prop where
  tokenState : d.tokenState = state
  tokenStack : d.tokenStack = stack
  size : d.input.Under n
  stacked : Stacked state stack

theorem At.sound {d : Decoder Unread} (h : At n state stack d) : Sound d := by
  unfold Sound
  rw [h.tokenState, h.tokenStack]
  exact h.stacked

theorem At.under {d : Decoder Unread} (h : At n state stack d) : Under n d := ⟨h.sound, h.size⟩

theorem Under.at {d : Decoder Unread} (h : Under n d) : At n d.tokenState d.tokenStack d :=
  ⟨rfl, rfl, h.size, h.sound⟩

/-- Where the method is sound in every state, it is sound. -/
theorem of_at {Q : value -> Decoder Unread -> Prop} {m : Method (Decoder Unread) ErrorKind value}
    (h : forall state stack, Method.Returns Sound (At n state stack) Q m) :
    Method.Returns Sound (Under n) Q m :=
  fun d hd => h d.tokenState d.tokenStack d hd.at

theorem onInput_returns {Q : value -> Unread -> Prop} {m : Method Unread ErrorKind value}
    (h : Method.Returns (fun _ => True) (Unread.Under n) (fun v u => u.Under n ∧ Q v u) m) :
    Method.Returns Sound (At n state stack) (fun v d => At n state stack d ∧ Q v d.input)
      (onInput m) := by
  apply Method.Returns.within h
  · exact fun _ hd => hd.size
  · intro d u hd _
    exact hd.sound
  · intro v d u hd hu
    exact ⟨⟨hd.tokenState, hd.tokenStack, hu.1, hd.stacked⟩, hu.2⟩

theorem more_returns :
    Method.Returns Sound (At n state stack) (fun _ => At n state stack) more := by
  apply Method.Returns.bind (onInput_returns (Unread.peek_returns n))
  intro res
  match res with
  | some (.ok c) => exact .pure fun _ h => h.1
  | some (.error e) => exact .pure fun _ h => h.1
  | none => exact .pure fun _ h => h.1

theorem nextByte_returns :
    Method.Returns Sound (At n state stack) (fun c d => At n state stack d ∧ d.input.Next c)
      nextByte := by
  apply Method.Returns.bind (onInput_returns (Unread.peek_returns n))
  intro res
  match res with
  | some (.ok c) => exact .pure fun _ h => ⟨h.1, h.2 c rfl⟩
  | some (.error e) => exact .fail fun _ h => h.1.sound
  | none => exact .fail fun _ h => h.1.sound

/-- Going over a byte leaves fewer of them. -/
theorem advance_returns :
    Method.Returns Sound (fun d => At (n + 1) state stack d ∧ d.input.Next c)
      (fun _ => At n state stack) advance := by
  have hsource : Method.Returns (fun _ => True) (fun u => Unread.Under (n + 1) u ∧ u.Next c)
      (fun _ => Unread.Under n)
      (Method.update (ByteSource.advance 1) : Method Unread ErrorKind Unit) := by
    apply Method.Returns.update
    rintro u ⟨hu, rest, hrest⟩
    unfold Unread.Under at hu ⊢
    change (u.rest.drop 1).length < n
    rw [hrest] at hu ⊢
    exact Nat.lt_of_succ_lt_succ hu
  change Method.Returns Sound _ _ (Method.within Decoder.input (fun i d => { d with input := i })
    (Method.update (ByteSource.advance 1)))
  exact Method.Returns.within hsource (fun _ hd => ⟨hd.1.size, hd.2⟩)
    (fun _ _ hd _ => hd.1.sound)
    (fun _ _ _ hd hu => ⟨hd.1.tokenState, hd.1.tokenStack, hu, hd.1.stacked⟩)

theorem setTokenState_returns {state' : TokenState}
    (h : Stacked state stack -> Stacked state' stack) :
    Method.Returns Sound (At n state stack) (fun _ => At n state' stack)
      (Method.update (setTokenState state') : Method (Decoder Unread) ErrorKind Unit) :=
  .update fun _ hd => ⟨rfl, hd.tokenStack, hd.size, h hd.stacked⟩

theorem At.mono {m : Nat} {d : Decoder Unread} (h : At n state stack d) (hle : n ≤ m) :
    At m state stack d := ⟨h.tokenState, h.tokenStack, Nat.lt_of_lt_of_le h.size hle, h.stacked⟩

/-- Going over a byte, where it does not matter that there are fewer of them. -/
theorem advance_returns_le :
    Method.Returns Sound (fun d => At n state stack d ∧ d.input.Next c)
      (fun _ => At n state stack) advance := by
  cases n with
  | zero => exact fun d hd => absurd hd.1.size (Nat.not_lt_zero _)
  | succ n =>
      exact advance_returns.mono (fun _ h => h) (fun _ h => h) fun _ _ h => h.mono (Nat.le_succ n)

/-- In some state over the stack. -/
def OnStack (n : Nat) (stack : List TokenState) (d : Decoder Unread) : Prop :=
  exists state, At n state stack d

theorem OnStack.under {d : Decoder Unread} (h : OnStack n stack d) : Under n d := by
  rcases h with ⟨state, h⟩
  exact h.under

theorem tokenValueEnd_returns :
    Method.Returns Sound (OnStack n stack) (fun _ => OnStack n stack)
      (Method.update tokenValueEnd : Method (Decoder Unread) ErrorKind Unit) := by
  apply Method.Returns.update
  rintro d ⟨state, hd⟩
  unfold tokenValueEnd
  rw [hd.tokenState]
  cases state with
  | arrayStart => exact ⟨_, rfl, hd.tokenStack, hd.size, hd.stacked.change nofun _⟩
  | arrayValue => exact ⟨_, rfl, hd.tokenStack, hd.size, hd.stacked.change nofun _⟩
  | objectValue => exact ⟨_, rfl, hd.tokenStack, hd.size, hd.stacked.change nofun _⟩
  | _ => exact ⟨_, hd⟩

/-- The separator that is expected. -/
theorem separator_returns {state' : TokenState} (hstate : state ≠ .topValue) (separator : UInt8)
    (msg : String) :
    Method.Returns Sound (At (n + 1) state stack) (fun _ => At n state' stack)
      (do
        let c <- nextByte
        if c = separator then do
          advance
          Method.update (setTokenState state')
        else Method.fail (.message msg)) := by
  apply Method.Returns.bind nextByte_returns
  intro c
  apply Method.Returns.ite
  · intro _
    apply Method.Returns.bind advance_returns
    intro _
    exact setTokenState_returns fun h => h.change hstate state'
  · intro _
    exact .fail fun _ h => h.1.sound

/-- Behind a key the colon is read. -/
theorem prepare_returns_colon :
    Method.Returns Sound (At (n + 1) .objectColon stack) (fun _ => OnStack n stack)
      tokenPrepareForDecode := by
  apply Method.Returns.bind (Method.Returns.gets _)
  intro state
  apply Method.Returns.ite
  · rintro rfl d ⟨hd, hstate⟩
    rw [hd.tokenState] at hstate
    cases hstate
  · intro _
    apply Method.Returns.ite
    · intro _
      have h := @separator_returns n .objectColon stack .objectValue nofun nameSeparator
        "expected colon after object key"
      exact h.mono (fun _ h => h) (fun _ h => h.1) fun _ _ h => ⟨_, h⟩
    · rintro hother d ⟨hd, hstate⟩
      exact absurd (hstate.trans hd.tokenState) hother

theorem prepare_returns :
    Method.Returns Sound (At n state stack) (fun _ => OnStack n stack) tokenPrepareForDecode := by
  cases n with
  | zero => exact fun d hd => absurd hd.size (Nat.not_lt_zero _)
  | succ n =>
      apply Method.Returns.bind (Method.Returns.gets _)
      intro state'
      apply Method.Returns.ite
      · rintro rfl d ⟨hd, hstate⟩
        have h := @separator_returns n .arrayComma stack .arrayValue nofun valueSeparator
          "expected comma after array element"
        have hat : At (n + 1) .arrayComma stack d := ⟨hstate.symm, hd.tokenStack, hd.size,
          (hstate.trans hd.tokenState) ▸ hd.stacked⟩
        exact (h.mono (fun _ h => h) (fun _ h => h)
          fun _ _ h => ⟨_, h.mono (Nat.le_succ n)⟩) d hat
      · intro _
        apply Method.Returns.ite
        · rintro rfl d ⟨hd, hstate⟩
          have h := @separator_returns n .objectColon stack .objectValue nofun nameSeparator
            "expected colon after object key"
          have hat : At (n + 1) .objectColon stack d := ⟨hstate.symm, hd.tokenStack, hd.size,
            (hstate.trans hd.tokenState) ▸ hd.stacked⟩
          exact (h.mono (fun _ h => h) (fun _ h => h)
            fun _ _ h => ⟨_, h.mono (Nat.le_succ n)⟩) d hat
        · exact fun _ => .pure fun _ h => ⟨_, h.1⟩

theorem gets_returns {P : Decoder Unread -> Prop} (f : Decoder Unread -> value) :
    Method.Returns Sound P (fun _ => P) (Method.gets f : Method (Decoder Unread) ErrorKind value) :=
  (Method.Returns.gets f).mono (fun _ h => h) (fun _ h => h) fun _ _ h => h.1

theorem decodeValue_returns {P : Decoder Unread -> Prop}
    (hprepare : Method.Returns Sound P (fun _ => OnStack n stack) tokenPrepareForDecode) :
    Method.Returns Sound P (fun _ => OnStack n stack) decodeValue := by
  have hsource : Method.Returns (fun _ => True) (Unread.Under n)
      (fun _ u => u.Under n ∧ True) Unread.takeValue :=
    (Unread.takeValue_returns n).mono (fun _ h => h) (fun _ h => h) fun _ _ h => ⟨h, trivial⟩
  apply Method.Returns.bind hprepare
  intro _
  apply Method.Returns.bind (gets_returns _)
  intro state
  apply Method.Returns.ite
  · intro _
    have htake : Method.Returns Sound (OnStack n stack) (fun _ => OnStack n stack)
        (onInput ByteSource.takeValue) :=
      .exists_pre fun state => (onInput_returns hsource).mono (fun _ h => h) (fun _ h => h)
        fun _ _ h => ⟨state, h.1⟩
    apply Method.Returns.bind htake
    intro val
    apply Method.Returns.bind tokenValueEnd_returns
    intro _
    exact .pure fun _ h => h
  · intro _
    exact .fail fun _ h => h.under.sound

theorem decode_of_decodeValue {P : Decoder Unread -> Prop} {Q : Buffer -> Decoder Unread -> Prop}
    (hP : forall d, P d -> Sound d) (h : Method.Returns Sound P Q decodeValue) :
    Method.Returns Sound P Q decode := by
  apply Method.Returns.bind (gets_returns _)
  intro err
  cases err with
  | none => exact h
  | some e => exact .fail hP

theorem decode_returns :
    Method.Returns Sound (At n state stack) (fun _ => OnStack n stack) decode :=
  decode_of_decodeValue (fun _ h => h.sound) (decodeValue_returns prepare_returns)

theorem decode_returns_under : Method.Returns Sound (Under n) (fun _ => Under n) decode :=
  of_at fun _ _ => decode_returns.mono (fun _ h => h) (fun _ h => h) fun _ _ h => h.under

/-- Behind a key there is the colon to read. -/
theorem decode_returns_colon :
    Method.Returns Sound (At (n + 1) .objectColon stack) (fun _ => Under n) decode := by
  have h := decodeValue_returns (@prepare_returns_colon n stack)
  have hdecode := decode_of_decodeValue (fun _ h => h.sound) h
  exact hdecode.mono (fun _ h => h) (fun _ h => h) fun _ _ h => h.under

/-- A token; behind a key a colon is expected. -/
def Tokened (n : Nat) (token : Token) (d : Decoder Unread) : Prop :=
  Under n d ∧ forall key, token = .string key -> d.tokenState = .objectColon

theorem tokened_of_under {token : Token} {d : Decoder Unread}
    (htoken : forall key, token ≠ .string key) (h : Under n d) : Tokened n token d :=
  ⟨h, fun key heq => absurd heq (htoken key)⟩

theorem keyToken_returns (hstate : state ≠ .topValue) :
    Method.Returns Sound (At n state stack) (Tokened n) (keyToken json) := by
  intro d hd
  have hcolon := hd.stacked.change hstate .objectColon
  have hkey : Method.Returns Sound (At n state stack) (Tokened n) (keyToken json) := by
    apply Method.Returns.bind (setTokenState_returns fun h => h.topValue)
    intro _
    apply Method.Returns.bind decode_returns
    intro text
    apply Method.Returns.bind
      (Method.Returns.ofExcept (fun _ h => h.under.sound) fun _ _ h => h)
    intro name
    have hset : Method.Returns Sound (OnStack n stack) (fun _ => At n .objectColon stack)
        (Method.update (setTokenState .objectColon) : Method (Decoder Unread) ErrorKind Unit) :=
      .exists_pre fun _ => setTokenState_returns fun _ => hcolon
    apply Method.Returns.bind hset
    intro _
    exact .pure fun _ h => ⟨h.under, fun _ _ => h.tokenState⟩
  exact hkey d hd

theorem openDelim_returns (b : Char) (state' : TokenState) :
    Method.Returns Sound (fun d => At n state stack d ∧ d.input.Next c) (Tokened n)
      (openDelim b state') := by
  apply Method.Returns.bind advance_returns_le
  intro _
  have hpush : Method.Returns Sound (At n state stack) (fun _ => At n state' (state :: stack))
      (Method.update (pushTokenState state') : Method (Decoder Unread) ErrorKind Unit) := by
    apply Method.Returns.update
    intro d hd
    refine ⟨rfl, ?_, hd.size, hd.stacked⟩
    change d.tokenState :: d.tokenStack = state :: stack
    rw [hd.tokenState, hd.tokenStack]
  apply Method.Returns.bind hpush
  intro _
  exact .pure fun _ h => tokened_of_under nofun h.under

theorem popTokenState_returns (hstate : state ≠ .topValue) :
    Method.Returns Sound (At n state stack) (fun _ d => exists rest, OnStack n rest d)
      popTokenState := by
  intro d hd
  unfold popTokenState
  rw [hd.tokenStack]
  cases stack with
  | nil => exact absurd hd.stacked hstate
  | cons state' rest => exact ⟨rest, state', rfl, rfl, hd.size, hd.stacked⟩

theorem closeDelim_returns (b : Char) (hstate : state ≠ .topValue) :
    Method.Returns Sound (fun d => At n state stack d ∧ d.input.Next c) (Tokened n)
      (closeDelim b) := by
  apply Method.Returns.bind advance_returns_le
  intro _
  apply Method.Returns.bind (popTokenState_returns hstate)
  intro _
  apply Method.Returns.exists_pre
  intro rest
  apply Method.Returns.bind tokenValueEnd_returns
  intro _
  exact .pure fun _ h => tokened_of_under nofun h.under

theorem valueToken_returns :
    Method.Returns Sound (At n state stack) (Tokened n) valueToken := by
  apply Method.Returns.bind decode_returns
  intro text
  exact .pure fun _ h => tokened_of_under nofun h.under

theorem tokenError_returns {P : Decoder Unread -> Prop} (hP : forall d, P d -> Sound d)
    (c : UInt8) : Method.Returns Sound P (Tokened n) (tokenError c) := by
  apply Method.Returns.bind (gets_returns _)
  intro _
  exact .fail hP

/-- Behind a separator the next round begins. -/
theorem nextRound_returns {again : Method (Decoder Unread) ErrorKind Token} {state' : TokenState}
    (hstate : state ≠ .topValue)
    (hagain : Method.Returns Sound (At n state' stack) (Tokened n) again) :
    Method.Returns Sound (At n state stack) (Tokened n)
      (do
        Method.update (setTokenState state')
        again) := by
  apply Method.Returns.bind (setTokenState_returns fun h => h.change hstate state')
  intro _
  exact hagain

theorem again_returns {again : Method (Decoder Unread) ErrorKind Token} {state' : TokenState}
    (hstate : state ≠ .topValue)
    (hagain : Method.Returns Sound (At n state' stack) (Tokened n) again) :
    Method.Returns Sound (fun d => At n state stack d ∧ d.input.Next c) (Tokened n)
      (do
        advance
        Method.update (setTokenState state')
        again) :=
  .bind advance_returns_le fun _ => nextRound_returns hstate hagain

/-- `state'` is a state behind a separator. -/
def AfterSeparator (state' : TokenState) : Prop :=
  state' = .arrayValue ∨ state' = .objectKey ∨ state' = .objectValue

theorem tokenAt_returns {again : Method (Decoder Unread) ErrorKind Token}
    (hagain : ¬ AfterSeparator state -> forall state', AfterSeparator state' ->
      Method.Returns Sound (At n state' stack) (Tokened n) again) :
    Method.Returns Sound (fun d => At n state stack d ∧ d.input.Next c) (Tokened n)
      (tokenAt json again c state) := by
  have hsound : forall d, (At n state stack d ∧ d.input.Next c) -> Sound d := fun _ h => h.1.sound
  have herror := @tokenError_returns n _ hsound c
  have hvalue : Method.Returns Sound (fun d => At n state stack d ∧ d.input.Next c) (Tokened n)
      valueToken := valueToken_returns.of_pre fun _ h => h.1
  have hkey (hstate : state ≠ .topValue) : Method.Returns Sound
      (fun d => At n state stack d ∧ d.input.Next c) (Tokened n) (keyToken json) :=
    (keyToken_returns hstate).of_pre fun _ h => h.1
  unfold tokenAt
  refine .ite (fun _ => ?_) fun _ => ?_
  · exact .ite (fun _ => openDelim_returns _ _) fun _ => herror
  refine .ite (fun _ => ?_) fun _ => ?_
  · refine .ite (fun hstate => closeDelim_returns _ ?_) fun _ => herror
    rintro rfl
    rcases hstate with h | h <;> cases h
  refine .ite (fun _ => ?_) fun _ => ?_
  · exact .ite (fun _ => openDelim_returns _ _) fun _ => herror
  refine .ite (fun _ => ?_) fun _ => ?_
  · refine .ite (fun hstate => closeDelim_returns _ ?_) fun _ => herror
    rintro rfl
    rcases hstate with h | h <;> cases h
  refine .ite (fun _ => ?_) fun _ => ?_
  · refine .ite (fun hstate => ?_) fun _ => herror
    subst hstate
    exact again_returns nofun (hagain (by unfold AfterSeparator; decide) _ (.inr (.inr rfl)))
  refine .ite (fun _ => ?_) fun _ => ?_
  · refine .ite (fun hstate => ?_) fun _ => .ite (fun hstate => ?_) fun _ => herror
    · subst hstate
      exact again_returns nofun (hagain (by unfold AfterSeparator; decide) _ (.inl rfl))
    · subst hstate
      exact again_returns nofun (hagain (by unfold AfterSeparator; decide) _ (.inr (.inl rfl)))
  refine .ite (fun _ => ?_) fun _ => ?_
  · refine .ite (fun hstate => hkey ?_) fun _ => .ite (fun _ => hvalue) fun _ => herror
    rintro rfl
    rcases hstate with h | h <;> cases h
  · exact .ite (fun _ => hvalue) fun _ => herror

theorem tokenRound_returns {again : Method (Decoder Unread) ErrorKind Token}
    (hagain : ¬ AfterSeparator state -> forall state', AfterSeparator state' ->
      Method.Returns Sound (At n state' stack) (Tokened n) again) :
    Method.Returns Sound (At n state stack) (Tokened n) (tokenRound json again) := by
  apply Method.Returns.bind nextByte_returns
  intro c
  apply Method.Returns.bind (Method.Returns.gets _)
  rintro state' d ⟨hd, hstate⟩
  rw [hd.1.tokenState] at hstate
  subst hstate
  exact tokenAt_returns hagain d hd

theorem token_at_returns :
    Method.Returns Sound (At n state stack) (Tokened n) (token json) := by
  apply tokenRound_returns
  intro _ state' hstate
  apply tokenRound_returns
  exact fun hother => absurd hstate hother

theorem token_returns : Method.Returns Sound (Under n) (Tokened n) (token json) :=
  of_at fun _ _ => token_at_returns

theorem Tokened.colon {d : Decoder Unread} {key : String} (h : Tokened n (.string key) d) :
    exists stack, At n .objectColon stack d := by
  have hstate := h.2 key rfl
  exact ⟨d.tokenStack, hstate, rfl, h.1.size, hstate ▸ h.1.sound⟩

/-- Behind a key the colon is read. -/
theorem token_returns_colon :
    Method.Returns Sound (At (n + 1) .objectColon stack) (Tokened n) (token json) := by
  apply Method.Returns.bind nextByte_returns
  intro c
  apply Method.Returns.bind (Method.Returns.gets _)
  rintro state d ⟨hd, hstate⟩
  rw [hd.1.tokenState] at hstate
  subst hstate
  have hsound : forall d, (At (n + 1) .objectColon stack d ∧ d.input.Next c) -> Sound d :=
    fun _ h => h.1.sound
  have herror := @tokenError_returns n _ hsound c
  have hsecond : Method.Returns Sound (fun d => At (n + 1) .objectColon stack d ∧ d.input.Next c)
      (Tokened n) (do
        advance
        Method.update (setTokenState .objectValue)
        tokenRound json Method.abort) := by
    apply Method.Returns.bind advance_returns
    intro _
    refine nextRound_returns (fun h => by cases h) ?_
    exact tokenRound_returns fun hother => absurd (.inr (.inr rfl)) hother
  have hat : Method.Returns Sound (fun d => At (n + 1) .objectColon stack d ∧ d.input.Next c)
      (Tokened n) (tokenAt json (tokenRound json Method.abort) c .objectColon) := by
    unfold tokenAt
    refine .ite (fun _ => herror) fun _ => ?_
    refine .ite (fun _ => herror) fun _ => ?_
    refine .ite (fun _ => herror) fun _ => ?_
    refine .ite (fun _ => herror) fun _ => ?_
    refine .ite (fun _ => hsecond) fun _ => ?_
    refine .ite (fun _ => herror) fun _ => ?_
    exact .ite (fun _ => herror) fun _ => herror
  exact hat d hd

theorem more_returns_under : Method.Returns Sound (Under n) (fun _ => Under n) more :=
  of_at fun _ _ => more_returns.mono (fun _ h => h) (fun _ h => h) fun _ _ h => h.under

end Decoder

/-!
# Rows
-/

namespace RawJsonRowStreamer

variable {value result : Type} {n : Nat}

/-- The token machine is sound. -/
def Sound (s : RawJsonRowStreamer Unread value) : Prop := s.stream.Sound

/-- The token machine is sound, and fewer than `n` bytes are left. -/
def Under (n : Nat) (s : RawJsonRowStreamer Unread value) : Prop := s.stream.Under n

/-- The stream is behind the key of an attribute. -/
def BehindKey (n : Nat) (s : RawJsonRowStreamer Unread value) : Prop :=
  exists stack, s.stream.At n .objectColon stack

theorem onStream_returns {P : Decoder Unread -> Prop} {Q : result -> Decoder Unread -> Prop}
    {m : Method (Decoder Unread) ErrorKind result} (h : Method.Returns Decoder.Sound P Q m) :
    Method.Returns Sound (fun s => P s.stream) (fun v s => Q v s.stream)
      (onStream m : Method (RawJsonRowStreamer Unread value) ErrorKind result) :=
  .within h (fun _ hs => hs) (fun _ _ _ hd => hd) fun _ _ _ _ hd => hd

theorem onStream_returns_key
    {Q : result -> Decoder Unread -> Prop} {m : Method (Decoder Unread) ErrorKind result}
    (h : forall stack, Method.Returns Decoder.Sound (Decoder.At n .objectColon stack) Q m) :
    Method.Returns Sound (BehindKey n) (fun v s => Q v s.stream)
      (onStream m : Method (RawJsonRowStreamer Unread value) ErrorKind result) :=
  .exists_pre fun stack => onStream_returns (h stack)

theorem setState_returns {P : Decoder Unread -> Prop} (state : RowStreamState) :
    Method.Returns Sound (fun s => P s.stream) (fun _ s => P s.stream)
      (Method.update (setState state) : Method (RawJsonRowStreamer Unread value) ErrorKind Unit) :=
  .update fun _ h => h

/-- Where the number of bytes does not matter. -/
theorem of_under {Q : result -> RawJsonRowStreamer Unread value -> Prop}
    {m : Method (RawJsonRowStreamer Unread value) ErrorKind result}
    (h : forall n, Method.Returns Sound (Under n) Q m) : Method.Returns Sound Sound Q m :=
  fun s hs => h (s.stream.input.rest.length + 1) s ⟨hs, Nat.lt_succ_self _⟩

theorem token_returns (json : SerdeJson value) :
    Method.Returns Sound Sound (fun _ => Sound)
      (onStream (Decoder.token json) : Method (RawJsonRowStreamer Unread value) ErrorKind Token) :=
  of_under fun _ => (onStream_returns Decoder.token_returns).mono (fun _ h => h) (fun _ h => h)
    fun _ _ h => h.1.sound

theorem encodeAttribs_returns (json : SerdeJson value) (context : String)
    {P : RawJsonRowStreamer Unread value -> Prop} (hP : forall s, P s -> Sound s) :
    Method.Returns Sound P (fun _ => P) (encodeAttribs json context) := by
  apply Method.Returns.bind (Method.Returns.gets _)
  intro attribs
  exact .ofExcept (fun s h => hP s h.1) fun _ _ h => h.1

variable {json : SerdeJson value}

/-- The value of an attribute: the colon at least is read. -/
theorem readAttrib_returns (key : String) :
    Method.Returns Sound (BehindKey (n + 1)) (fun _ => Under n) (readAttrib json key) := by
  apply Method.Returns.bind (onStream_returns_key fun _ => Decoder.decode_returns_colon)
  intro text
  apply Method.Returns.bind (Method.Returns.ofExcept (fun _ h => h.sound) fun _ _ h => h)
  intro v
  exact .update fun _ h => h

theorem closeRows_returns :
    Method.Returns Sound (Under n) (fun _ => Under n) (closeRows json) := by
  apply Method.Returns.bind (onStream_returns Decoder.token_returns)
  intro token
  refine .ite (fun _ => .update fun _ h => h.1) fun _ => ?_
  exact .fail fun _ h => h.1.sound

theorem beginRows_returns {again : Method (RawJsonRowStreamer Unread value) ErrorKind Unit}
    (hagain : Method.Returns Sound (Under n) (fun _ => Sound) again) :
    Method.Returns Sound (BehindKey (n + 1)) (fun _ => Sound) (beginRows json again) := by
  apply Method.Returns.bind (onStream_returns_key fun _ => Decoder.token_returns_colon)
  intro token
  refine .ite (fun _ => ?_) fun _ => .ite (fun _ => hagain.of_pre fun _ h => h.1) fun _ => ?_
  · apply Method.Returns.bind ((setState_returns _).of_pre fun _ h => h.1)
    intro _
    apply Method.Returns.bind (onStream_returns Decoder.more_returns_under)
    intro more
    refine .ite (fun _ => .pure fun _ h => h.sound) fun _ => ?_
    exact .bind closeRows_returns fun _ => hagain
  · exact .fail fun _ h => h.1.sound

/-- A round for every byte is enough, as each round reads the colon behind a key. -/
theorem beginLoop_returns (rounds : Nat) :
    Method.Returns Sound (Under rounds) (fun _ => Sound) (beginLoop json rounds) := by
  induction rounds with
  | zero => exact fun s hs => absurd hs.size (Nat.not_lt_zero _)
  | succ rounds ih =>
      apply Method.Returns.bind (onStream_returns Decoder.more_returns_under)
      intro more
      refine .ite (fun _ => ?_) fun _ => .update fun _ h => h.sound
      apply Method.Returns.bind (onStream_returns Decoder.token_returns)
      intro token
      apply Method.Returns.bind (Method.Returns.gets _)
      intro rowsAttrib
      cases token with
      | string key =>
          refine .ite (fun _ => ?_) fun _ => ?_
          · exact (beginRows_returns ih).of_pre fun _ h => h.1.colon
          · apply Method.Returns.bind ((readAttrib_returns key).of_pre fun _ h => h.1.colon)
            exact fun _ => ih
      | delim c => exact .fail fun _ h => h.1.1.sound
      | value v => exact .fail fun _ h => h.1.1.sound

theorem begin_returns : Method.Returns Sound Sound (fun _ => Sound) (begin json) := by
  apply Method.Returns.bind (Method.Returns.gets _)
  intro state
  refine .ite (fun _ => ?_) fun _ => .fail fun _ h => h.1
  apply Method.Returns.bind ((token_returns json).of_pre fun _ h => h.1)
  intro first
  refine .ite (fun _ => ?_) fun _ => .fail fun _ h => h
  apply Method.Returns.bind (Method.Returns.gets _)
  rintro size s ⟨hs, rfl⟩
  exact beginLoop_returns _ s ⟨hs, Nat.lt_succ_self _⟩

theorem metadataLoop_returns (rounds : Nat) :
    Method.Returns Sound (Under rounds) (fun _ => Sound) (metadataLoop json rounds) := by
  induction rounds with
  | zero => exact fun s hs => absurd hs.size (Nat.not_lt_zero _)
  | succ rounds ih =>
      apply Method.Returns.bind (onStream_returns Decoder.token_returns)
      intro token
      refine .ite (fun _ => ?_) fun _ => ?_
      · apply Method.Returns.bind ((setState_returns _).of_pre fun _ h => h.1.sound)
        intro _
        apply Method.Returns.bind (encodeAttribs_returns json _ fun _ h => h)
        exact fun _ => .pure fun _ h => h
      · cases token with
        | string key =>
            apply Method.Returns.bind ((readAttrib_returns key).of_pre fun _ h => h.colon)
            exact fun _ => ih
        | delim c => exact .fail fun _ h => h.1.sound
        | value v => exact .fail fun _ h => h.1.sound

theorem nextRow_returns : Method.Returns Sound Sound (fun _ => Sound) (nextRow json) := by
  apply of_under
  intro n
  apply Method.Returns.bind (onStream_returns Decoder.decode_returns_under)
  intro row
  apply Method.Returns.bind (onStream_returns Decoder.more_returns_under)
  intro more
  refine .ite (fun _ => .pure fun _ h => h.sound) fun _ => ?_
  exact .bind closeRows_returns fun _ => .pure fun _ h => h.sound

theorem next_returns : Method.Returns Sound Sound (fun _ => Sound) (next json) := by
  apply Method.Returns.bind (Method.Returns.gets _)
  intro state
  refine .ite (fun _ => .pure fun _ h => h.1) fun _ => .ite (fun _ => ?_) fun _ => ?_
  · apply Method.Returns.bind (Method.Returns.gets _)
    rintro size s ⟨hs, rfl⟩
    have hloop := @metadataLoop_returns value json (ByteSource.size s.stream.input + 1)
    exact Method.Returns.bind hloop (fun _ => .pure fun _ h => h) s ⟨hs.1, Nat.lt_succ_self _⟩
  · apply Method.Returns.bind (nextRow_returns.of_pre fun _ h => h.1)
    exact fun _ => .pure fun _ h => h

theorem hasMoreRows_returns :
    Method.Returns Sound Sound (fun _ => Sound)
      (hasMoreRows : Method (RawJsonRowStreamer Unread value) ErrorKind Bool) := by
  apply Method.Returns.bind (Method.Returns.gets _)
  intro state
  refine .ite (fun _ => ?_) fun _ => .pure fun _ h => h.1
  apply Method.Returns.of_pre _ fun _ h => h.1
  apply of_under
  intro n
  apply (onStream_returns Decoder.more_returns_under).mono (fun _ h => h) fun _ h => h
  exact fun _ _ h => h.sound

theorem call_returns (c : Call) : Method.Returns Sound Sound (fun _ => Sound) (call json c) := by
  cases c with
  | readPrelude =>
      have hprelude : Method.Returns Sound Sound (fun _ => Sound) (readPrelude json) :=
        .bind begin_returns fun _ => encodeAttribs_returns json _ fun _ h => h
      exact Method.Returns.bind hprelude fun _ => .pure fun _ h => h
  | next => exact Method.Returns.bind next_returns fun _ => .pure fun _ h => h
  | hasMoreRows => exact Method.Returns.bind hasMoreRows_returns fun _ => .pure fun _ h => h
  | epilog =>
      apply Method.Returns.bind (encodeAttribs_returns json _ fun _ h => h)
      exact fun _ => .pure fun _ h => h

/-- A run answers every call. -/
theorem run_sound (calls : List Call) {s : RawJsonRowStreamer Unread value} (hs : Sound s) :
    none ∉ run json s calls := by
  induction calls generalizing s with
  | nil => exact List.not_mem_nil
  | cons c calls ih =>
      have hend := @call_returns value json c s hs
      rw [run]
      rcases hcall : call json c s with _ | ⟨v | e, t⟩
      · rw [hcall] at hend
        exact hend.elim
      · rw [hcall] at hend
        exact List.not_mem_cons_of_ne_of_not_mem (Option.some_ne_none _).symm (ih hend)
      · rw [hcall] at hend
        exact List.not_mem_cons_of_ne_of_not_mem (Option.some_ne_none _).symm (ih hend)

/-- A streamer over a stream of chunks answers every call, in whatever order they come: it
neither panics nor goes on for ever. -/
theorem run_returns (chunks : List Buffer) (fault : Option ErrorKind) (rowsAttrib : String)
    (calls : List Call) :
    none ∉ run json (ofStream (chunks.map .ok ++ fault.toList.map .error) rowsAttrib) calls := by
  rw [run_ofStream]
  exact run_sound calls rfl

end RawJsonRowStreamer
end Httpx
end CouchbaseSdk
