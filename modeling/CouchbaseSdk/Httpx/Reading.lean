import CouchbaseSdk.Httpx.Unread
import CouchbaseSdk.Httpx.ScannerGrammar

/-!
# Reading JSON texts

What the token machine makes of the pieces of a JSON text.
-/

namespace CouchbaseSdk
namespace Httpx

open Foundation Foundation.Json

/-!
# Whitespace
-/

theorem Blank.dropWhile {w : Buffer} (hw : Blank w) (rest : Buffer) :
    (w ++ rest).dropWhile isAsciiWhitespace = rest.dropWhile isAsciiWhitespace := by
  induction w with
  | nil => rfl
  | cons c w ih =>
      rw [List.cons_append, List.dropWhile_cons_of_pos (whitespace_of_blank hw.head)]
      exact ih hw.tail

theorem Blank.dropWhile_self {w : Buffer} (hw : Blank w) :
    w.dropWhile isAsciiWhitespace = [] := by
  have h := Blank.dropWhile hw []
  rw [List.append_nil] at h
  exact h

theorem opens_dropWhile {c : UInt8} (hc : isAsciiWhitespace c = false) (rest : Buffer) :
    (c :: rest).dropWhile isAsciiWhitespace = c :: rest := by
  apply List.dropWhile_cons_of_neg
  rw [hc]
  decide

theorem shuts_no_whitespace {c : UInt8} (h : Shuts c) : isAsciiWhitespace c = false := by
  cases h with
  | digit hd =>
      rcases digit_cases hd with rfl | rfl | rfl | rfl | rfl | rfl | rfl | rfl | rfl | rfl <;> rfl
  | _ => rfl

theorem trimAscii_value {w t : Buffer} (hw : Blank w) (ht : Value t) :
    trimAscii (w ++ t) = t := by
  rcases ht.head with ⟨c, rest, heq, hc⟩
  have hleft : (w ++ t).dropWhile isAsciiWhitespace = t := by
    rw [Blank.dropWhile hw, heq]
    exact opens_dropWhile (Scanner.opens_no_whitespace hc) rest
  rcases ht.last with ⟨front, d, hlast, hd⟩
  rw [trimAscii, hleft, hlast]
  apply List.rdropWhile_concat_neg
  rw [shuts_no_whitespace hd]
  decide

/-!
# Values
-/

/-- The value `t` can be told to end before `rest`. -/
inductive Ends (fault : Option ErrorKind) (t : Buffer) : Buffer -> Prop where
  | container {rest : Buffer} (h : Container t) : Ends fault t rest
  | delimiter {c : UInt8} {rest : Buffer} (hc : Scanner.isDelimiter c = true) :
      Ends fault t (c :: rest)
  | finish (hfault : fault = none) : Ends fault t []

namespace Unread

/-- Nothing has gone wrong so far. -/
def clean (rest : Buffer) (fault : Option ErrorKind) : Unread :=
  { rest := rest, fault := fault, err := none }

theorem readValue_text {w t rest : Buffer} {fault : Option ErrorKind} (hw : Blank w)
    (ht : Value t) (hends : Ends fault t rest) :
    (clean (w ++ (t ++ rest)) fault).readValue =
      some (.ok (w.length + t.length), clean (w ++ (t ++ rest)) fault) := by
  have hblank := Scanner.blank_scan (Blank.ascii hw) (t ++ rest) 0
  rw [Nat.zero_add] at hblank
  have hvalue : forall s, Scanner.scanBytes Scanner.new (t ++ rest) w.length =
      .value (w.length + t.length) s ->
      (clean (w ++ (t ++ rest)) fault).readValue =
        some (.ok (w.length + t.length), clean (w ++ (t ++ rest)) fault) := by
    intro s hs
    unfold readValue clean
    dsimp only
    rw [hblank, hs]
  rcases ht.scalar_or_container with hscalar | hcontainer
  · cases hends with
    | container h =>
        rcases Scanner.container_scan (Container.ascii h) rest w.length with ⟨s, hs⟩
        exact hvalue s hs
    | delimiter hc =>
        rcases Scanner.scalar_scan hscalar hc _ w.length with ⟨s, hs⟩
        exact hvalue s hs
    | finish hfault =>
        rcases Scanner.scalar_scan_end hscalar w.length with ⟨s, hs, hstep⟩
        rw [List.append_nil] at hblank ⊢
        unfold readValue clean
        dsimp only
        rw [hblank, hs]
        unfold valueAtEnd
        dsimp only
        rw [hfault]
        dsimp only
        rw [if_pos hstep, List.length_append]
  · rcases Scanner.container_scan (Container.ascii hcontainer) rest w.length with ⟨s, hs⟩
    exact hvalue s hs

theorem takeValue_text {w t rest : Buffer} {fault : Option ErrorKind} (hw : Blank w)
    (ht : Value t) (hends : Ends fault t rest) :
    takeValue (clean (w ++ (t ++ rest)) fault) =
      some (.ok (w ++ t), clean rest fault) := by
  have hlen : w.length + t.length = (w ++ t).length := List.length_append.symm
  have htake : (w ++ (t ++ rest)).take (w.length + t.length) = w ++ t := by
    rw [hlen, ← List.append_assoc, List.take_left]
  have hdrop : (w ++ (t ++ rest)).drop (w.length + t.length) = rest := by
    rw [hlen, ← List.append_assoc, List.drop_left]
  unfold takeValue
  rw [Method.bind_ok _ (readValue_text hw ht hends), Method.bind_ok _ (Method.gets_apply _ _),
    Method.bind_ok _ (Method.update_apply _ _), Method.pure_apply]
  simp only [clean, advance, htake, hdrop]

theorem peek_byte {w rest : Buffer} {c : UInt8} (fault : Option ErrorKind) (hw : Blank w)
    (hc : isAsciiWhitespace c = false) :
    peek (clean (w ++ c :: rest) fault) = some (.ok (some (.ok c)), clean (c :: rest) fault) := by
  unfold peek clean
  dsimp only
  rw [Blank.dropWhile hw, opens_dropWhile hc]

theorem peek_end {w : Buffer} (hw : Blank w) :
    peek (clean w none) = some (.ok none, clean w none) := by
  unfold peek clean
  dsimp only
  rw [Blank.dropWhile_self hw]

theorem peek_fault {w : Buffer} (e : ErrorKind) (hw : Blank w) :
    peek (clean w (some e)) = some (.ok (some (.error e)), clean w none) := by
  unfold peek clean
  dsimp only
  rw [Blank.dropWhile_self hw]

end Unread

/-!
# Tokens
-/

namespace Decoder

/-- The token machine before the bytes `rest`. -/
def machine (rest : Buffer) (fault : Option ErrorKind) (state : TokenState)
    (stack : List TokenState) : Decoder Unread :=
  { input := Unread.clean rest fault, tokenState := state, tokenStack := stack }

variable {value : Type} {json : SerdeJson value} {w t rest : Buffer} {c : UInt8}
  {fault : Option ErrorKind} {state : TokenState} {stack : List TokenState}

theorem onInput_some {m : Method Unread ErrorKind value} {d : Decoder Unread}
    {res : Except ErrorKind value} {u : Unread} (h : m d.input = some (res, u)) :
    onInput m d = some (res, { d with input := u }) :=
  Method.within_some _ h

theorem peek_byte (hw : Blank w) (hc : isAsciiWhitespace c = false) :
    peek (machine (w ++ c :: rest) fault state stack) =
      some (.ok (some (.ok c)), machine (c :: rest) fault state stack) :=
  onInput_some (Unread.peek_byte fault hw hc)

theorem peek_end (hw : Blank w) :
    peek (machine w none state stack) = some (.ok none, machine w none state stack) :=
  onInput_some (Unread.peek_end hw)

theorem peek_fault (e : ErrorKind) (hw : Blank w) :
    peek (machine w (some e) state stack) =
      some (.ok (some (.error e)), machine w none state stack) :=
  onInput_some (Unread.peek_fault e hw)

theorem nextByte_byte (hw : Blank w) (hc : isAsciiWhitespace c = false) :
    nextByte (machine (w ++ c :: rest) fault state stack) =
      some (.ok c, machine (c :: rest) fault state stack) := by
  unfold nextByte
  rw [Method.bind_ok _ (peek_byte hw hc)]
  rfl

theorem more_byte (hw : Blank w) (hc : isAsciiWhitespace c = false) :
    more (machine (w ++ c :: rest) fault state stack) =
      some (.ok (c != endArray && c != endObject), machine (c :: rest) fault state stack) := by
  unfold more
  rw [Method.bind_ok _ (peek_byte hw hc)]
  rfl

theorem decode_clean (d : Decoder Unread) (hd : d.input.err = none) :
    decode d = decodeValue d := by
  unfold decode
  rw [Method.bind_ok _ (Method.gets_apply _ _)]
  have herr : ByteSource.err d.input = none := hd
  rw [herr]

/-- The decoder reads a value where one is allowed. -/
theorem decode_prepared {d : Decoder Unread} (hd : d.input.err = none)
    (hprepare : tokenPrepareForDecode d =
      some (.ok (), machine (w ++ (t ++ rest)) fault state stack))
    (hw : Blank w) (ht : Value t) (hends : Ends fault t rest)
    (hstate : tokenValueAllowed state = true) :
    decode d = some (.ok t, (machine rest fault state stack).tokenValueEnd) := by
  have htake : onInput ByteSource.takeValue (machine (w ++ (t ++ rest)) fault state stack) =
      some (.ok (w ++ t), machine rest fault state stack) :=
    onInput_some (Unread.takeValue_text hw ht hends)
  have hallowed : tokenValueAllowed
      (machine (w ++ (t ++ rest)) fault state stack).tokenState = true := hstate
  rw [decode_clean d hd]
  unfold decodeValue
  rw [Method.bind_ok _ hprepare, Method.bind_ok _ (Method.gets_apply _ _), if_pos hallowed,
    Method.bind_ok _ htake, Method.bind_ok _ (Method.update_apply _ _), Method.pure_apply,
    trimAscii_value hw ht]

/-- No separator is expected. -/
theorem prepare_here (hstate : tokenValueAllowed state = true) :
    tokenPrepareForDecode (machine rest fault state stack) =
      some (.ok (), machine rest fault state stack) := by
  unfold tokenPrepareForDecode
  rw [Method.bind_ok _ (Method.gets_apply _ _)]
  cases state <;> first | rfl | contradiction

theorem prepare_colon (hw : Blank w) :
    tokenPrepareForDecode (machine (w ++ nameSeparator :: rest) fault .objectColon stack) =
      some (.ok (), machine rest fault .objectValue stack) := by
  unfold tokenPrepareForDecode
  rw [Method.bind_ok _ (Method.gets_apply _ _)]
  change (nextByte >>= _) _ = _
  rw [Method.bind_ok _ (nextByte_byte hw (by decide))]
  rfl

theorem prepare_comma (hw : Blank w) :
    tokenPrepareForDecode (machine (w ++ valueSeparator :: rest) fault .arrayComma stack) =
      some (.ok (), machine rest fault .arrayValue stack) := by
  unfold tokenPrepareForDecode
  rw [Method.bind_ok _ (Method.gets_apply _ _)]
  change (nextByte >>= _) _ = _
  rw [Method.bind_ok _ (nextByte_byte hw (by decide))]
  rfl

theorem decode_here (hw : Blank w) (ht : Value t) (hends : Ends fault t rest)
    (hstate : tokenValueAllowed state = true) :
    decode (machine (w ++ (t ++ rest)) fault state stack) =
      some (.ok t, (machine rest fault state stack).tokenValueEnd) :=
  decode_prepared rfl (prepare_here hstate) hw ht hends hstate

theorem decode_colon {w' : Buffer} (hw : Blank w) (hw' : Blank w') (ht : Value t)
    (hends : Ends fault t rest) :
    decode (machine (w ++ nameSeparator :: (w' ++ (t ++ rest))) fault .objectColon stack) =
      some (.ok t, machine rest fault .objectComma stack) :=
  decode_prepared rfl (prepare_colon hw) hw' ht hends rfl

theorem decode_comma {w' : Buffer} (hw : Blank w) (hw' : Blank w') (ht : Value t)
    (hends : Ends fault t rest) :
    decode (machine (w ++ valueSeparator :: (w' ++ (t ++ rest))) fault .arrayComma stack) =
      some (.ok t, machine rest fault .arrayComma stack) :=
  decode_prepared rfl (prepare_comma hw) hw' ht hends rfl

theorem tokenRound_byte (again : Method (Decoder Unread) ErrorKind Token) (hw : Blank w)
    (hc : isAsciiWhitespace c = false) :
    tokenRound json again (machine (w ++ c :: rest) fault state stack) =
      tokenAt json again c state (machine (c :: rest) fault state stack) := by
  unfold tokenRound
  rw [Method.bind_ok _ (nextByte_byte hw hc), Method.bind_ok _ (Method.gets_apply _ _)]
  rfl

/-- Behind a separator the token is read in the second round. -/
theorem token_colon {w' : Buffer} (hw : Blank w) (hw' : Blank w')
    (hc : isAsciiWhitespace c = false) :
    token json (machine (w ++ nameSeparator :: (w' ++ c :: rest)) fault .objectColon stack) =
      tokenAt json Method.abort c .objectValue (machine (c :: rest) fault .objectValue stack) := by
  unfold token
  rw [tokenRound_byte _ hw (by decide)]
  exact tokenRound_byte _ hw' hc

theorem token_comma {w' : Buffer} (hw : Blank w) (hw' : Blank w')
    (hc : isAsciiWhitespace c = false) :
    token json (machine (w ++ valueSeparator :: (w' ++ c :: rest)) fault .objectComma stack) =
      tokenAt json Method.abort c .objectKey (machine (c :: rest) fault .objectKey stack) := by
  unfold token
  rw [tokenRound_byte _ hw (by decide)]
  exact tokenRound_byte _ hw' hc

theorem keyToken_text {key : String} (ht : StringText t) (hends : Ends fault t rest)
    (hkey : json.stringFromSlice t = .ok key) :
    keyToken json (machine (t ++ rest) fault state stack) =
      some (.ok (.string key), machine rest fault .objectColon stack) := by
  have hdecode : decode (machine (t ++ rest) fault .topValue stack) =
      some (.ok t, machine rest fault .topValue stack) :=
    decode_here Blank.nil (.scalar (.string ht)) hends rfl
  unfold keyToken
  rw [Method.bind_ok _ (Method.update_apply _ _)]
  change (decode >>= _) (machine (t ++ rest) fault .topValue stack) = _
  rw [Method.bind_ok _ hdecode, hkey]
  rfl

/-- The first key of an object. -/
theorem token_firstKey {key : String} (hw : Blank w) (ht : StringText t)
    (hends : Ends fault t rest) (hkey : json.stringFromSlice t = .ok key) :
    token json (machine (w ++ (t ++ rest)) fault .objectStart stack) =
      some (.ok (.string key), machine rest fault .objectColon stack) := by
  have htoken := @keyToken_text _ json t rest fault .objectStart stack key ht hends hkey
  cases ht with
  | quoted h =>
      unfold token
      rw [List.cons_append, tokenRound_byte _ hw (by decide)]
      exact htoken

/-- A key behind a comma. -/
theorem token_nextKey {w' : Buffer} {key : String} (hw : Blank w) (hw' : Blank w')
    (ht : StringText t) (hends : Ends fault t rest) (hkey : json.stringFromSlice t = .ok key) :
    token json (machine (w ++ valueSeparator :: (w' ++ (t ++ rest))) fault .objectComma stack) =
      some (.ok (.string key), machine rest fault .objectColon stack) := by
  have htoken := @keyToken_text _ json t rest fault .objectKey stack key ht hends hkey
  cases ht with
  | quoted h =>
      rw [List.cons_append, token_comma hw hw' (by decide)]
      exact htoken

theorem token_beginObject (hw : Blank w) :
    token json (machine (w ++ beginObject :: rest) fault .topValue stack) =
      some (.ok (.delim '\x7b'), machine rest fault .objectStart (.topValue :: stack)) := by
  unfold token
  rw [tokenRound_byte _ hw (by decide)]
  rfl

theorem token_endObject (hw : Blank w) (hstate : state = .objectStart ∨ state = .objectComma) :
    token json (machine (w ++ endObject :: rest) fault state (.topValue :: stack)) =
      some (.ok (.delim '\x7d'), machine rest fault .topValue stack) := by
  unfold token
  rw [tokenRound_byte _ hw (by decide)]
  rcases hstate with rfl | rfl <;> rfl

/-- The opening bracket of an array that is the value of a member. -/
theorem token_beginArray {w' : Buffer} (hw : Blank w) (hw' : Blank w') :
    token json (machine (w ++ nameSeparator :: (w' ++ beginArray :: rest)) fault .objectColon
        stack) =
      some (.ok (.delim '['), machine rest fault .arrayStart (.objectValue :: stack)) := by
  rw [token_colon hw hw' (by decide)]
  rfl

theorem token_endArray (hw : Blank w) (hstate : state = .arrayStart ∨ state = .arrayComma) :
    token json (machine (w ++ endArray :: rest) fault state (.objectValue :: stack)) =
      some (.ok (.delim ']'), machine rest fault .objectComma stack) := by
  unfold token
  rw [tokenRound_byte _ hw (by decide)]
  rcases hstate with rfl | rfl <;> rfl

/-- A scalar that is the value of a member. -/
theorem token_null {w' : Buffer} (hw : Blank w) (hw' : Blank w')
    (hends : Ends fault nullText rest) :
    token json (machine (w ++ nameSeparator :: (w' ++ (nullText ++ rest))) fault .objectColon
        stack) =
      some (.ok (.value nullText), machine rest fault .objectComma stack) := by
  have hdecode : decode (machine (nullText ++ rest) fault .objectValue stack) =
      some (.ok nullText, machine rest fault .objectComma stack) :=
    decode_here Blank.nil (.scalar .null) hends rfl
  have hvalue : valueToken (machine (nullText ++ rest) fault .objectValue stack) =
      some (.ok (.value nullText), machine rest fault .objectComma stack) := by
    unfold valueToken
    rw [Method.bind_ok _ hdecode]
    rfl
  have hbyte : Json.nullText ++ rest = 0x6e :: ([0x75, 0x6c, 0x6c] ++ rest) := rfl
  rw [hbyte, token_colon hw hw' (by decide)]
  exact hvalue

end Decoder
end Httpx
end CouchbaseSdk
