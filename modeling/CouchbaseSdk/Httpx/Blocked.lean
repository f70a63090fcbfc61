import CouchbaseSdk.Httpx.Reading
import CouchbaseSdk.Httpx.Returns

/-!
# Blocked token machines

A call that fails leaves what it could not read where it is.  A token machine is blocked where
the next byte is refused in its state, or where the value that is to be read has no end: the
call fails, and every later call fails again.  A call of a token machine that is not blocked
reads on.
-/

namespace CouchbaseSdk
namespace Httpx

open Foundation Foundation.Json

/-!
# Scans
-/

namespace Scanner

theorem new_step_not_ends (c : UInt8) : (new.step c).1 ≠ .ends := by
  change (new.stateBeginValue c).1 ≠ .ends
  unfold stateBeginValue pushParseState beginLiteral error
  repeat' split
  all_goals exact fun h => by cases h

theorem scanBytes_ge {s s' : Scanner} {xs : Buffer} {n m : Nat}
    (h : scanBytes s xs n = .value m s') : n ≤ m := by
  induction xs generalizing s n with
  | nil => cases h
  | cons c xs ih =>
      rw [scanBytes] at h
      cases hround : s.round c with
      | before t =>
          rw [hround] at h
          cases h
          exact Nat.le_refl _
      | after t =>
          rw [hround] at h
          cases h
          exact Nat.le_succ _
      | failed t =>
          rw [hround] at h
          cases h
      | goesOn t =>
          rw [hround] at h
          exact Nat.le_of_succ_le (ih h)

/-- A value has a byte at least. -/
theorem scanBytes_pos {s : Scanner} {xs : Buffer} {n : Nat}
    (h : scanBytes new xs 0 = .value n s) : 0 < n := by
  cases xs with
  | nil => cases h
  | cons c xs =>
      rw [scanBytes] at h
      cases hround : new.round c with
      | before t =>
          have hends := new_step_not_ends c
          unfold round at hround
          split at hround
          · next heq => exact absurd (congrArg Prod.fst heq) hends
          · cases hround
          · split at hround
            · split at hround <;> cases hround
            · cases hround
      | after t =>
          rw [hround] at h
          cases h
          exact Nat.one_pos
      | failed t =>
          rw [hround] at h
          cases h
      | goesOn t =>
          rw [hround] at h
          exact scanBytes_ge h

end Scanner

/-!
# Bytes
-/

namespace Unread

/-- What is left to read: the bytes, and the error behind them. -/
def left (u : Unread) : Nat := u.rest.length + u.fault.toList.length

/-- The next byte that is no whitespace. -/
def firstByte (u : Unread) : Option UInt8 := (u.rest.dropWhile isAsciiWhitespace).head?

/-- Go over whitespace. -/
def skip (u : Unread) : Unread := { u with rest := u.rest.dropWhile isAsciiWhitespace }

/-- Another byte than `c` comes next, or nothing. -/
def Lacks (c : UInt8) (u : Unread) : Prop :=
  u.firstByte ≠ some c ∧ (u.firstByte = none -> u.fault = none)

/-- The bytes are not those of a value, nor of the beginning of one that an error comes
behind. -/
def NoValue (u : Unread) : Prop :=
  match Scanner.new.scanBytes u.rest 0 with
  | .value _ _ => False
  | .failed _ => True
  | .more s => u.fault = none ∧ (s.step 0x20).1 ≠ .ends

/-- There is an error that is kept, or no value to read. -/
def Unreadable (u : Unread) : Prop := u.err ≠ none ∨ u.NoValue

@[simp] theorem firstByte_skip (u : Unread) : u.skip.firstByte = u.firstByte := by
  unfold firstByte skip
  rw [List.dropWhile_idempotent]

@[simp] theorem skip_skip (u : Unread) : u.skip.skip = u.skip := by
  unfold skip
  rw [List.dropWhile_idempotent]

theorem left_skip (u : Unread) : u.skip.left ≤ u.left :=
  Nat.add_le_add_right (List.dropWhile_sublist _).length_le _

theorem left_drop (u : Unread) (n : Nat) : (advance n u).left ≤ u.left :=
  Nat.add_le_add_right (List.drop_sublist _ _).length_le _

theorem left_drop_lt {u : Unread} {n : Nat} (hn : 0 < n) (hrest : u.rest ≠ []) :
    (advance n u).left < u.left := by
  have hpos := List.length_pos_iff.mpr hrest
  apply Nat.add_lt_add_right
  change (u.rest.drop n).length < u.rest.length
  rw [List.length_drop]
  exact Nat.sub_lt hpos hn

/-- The error behind the bytes is read. -/
theorem left_fault_lt {u : Unread} {e : ErrorKind} (h : u.fault = some e)
    (err : Option ErrorKind) : left { u with fault := none, err := err } < u.left := by
  unfold left
  rw [h]
  exact Nat.lt_succ_self _

theorem skip_rest {u : Unread} {c : UInt8} (h : u.firstByte = some c) : u.skip.rest ≠ [] := by
  intro hnil
  unfold firstByte at h
  change u.rest.dropWhile isAsciiWhitespace = [] at hnil
  rw [hnil] at h
  cases h

theorem dropWhile_nil {u : Unread} (h : u.firstByte = none) :
    u.rest.dropWhile isAsciiWhitespace = [] := List.head?_eq_none_iff.mp h

/-!
# Looking for the next byte
-/

theorem peek_found {u : Unread} {c : UInt8} (h : u.firstByte = some c) :
    u.peek = some (.ok (some (.ok c)), u.skip) := by
  unfold firstByte at h
  unfold peek skip
  cases hdrop : u.rest.dropWhile isAsciiWhitespace with
  | nil =>
      rw [hdrop] at h
      cases h
  | cons b rest =>
      rw [hdrop] at h
      cases h
      rfl

theorem peek_nothing {u : Unread} (h : u.firstByte = none) (hfault : u.fault = none) :
    u.peek = some (.ok none, u) := by
  unfold peek
  rw [dropWhile_nil h, hfault]

theorem peek_error {u : Unread} {e : ErrorKind} (h : u.firstByte = none)
    (hfault : u.fault = some e) :
    u.peek = some (.ok (some (.error e)), { u with fault := none }) := by
  unfold peek
  rw [dropWhile_nil h, hfault]

theorem peek_neverGrows : Method.NeverGrows left peek := by
  intro u res u' h
  cases hbyte : u.firstByte with
  | some c =>
      rw [peek_found hbyte] at h
      cases h
      exact left_skip u
  | none =>
      cases hfault : u.fault with
      | none =>
          rw [peek_nothing hbyte hfault] at h
          cases h
          exact Nat.le_refl _
      | some e =>
          rw [peek_error hbyte hfault] at h
          cases h
          exact Nat.le_of_lt (left_fault_lt hfault u.err)

/-!
# Reading a value
-/

theorem takeValue_of_readValue {u : Unread} {n : Nat} (h : u.readValue = some (.ok n, u)) :
    takeValue u = some (.ok (u.rest.take n), advance n u) := by
  unfold takeValue
  rw [Method.bind_ok _ h, Method.bind_ok _ (Method.gets_apply _ _),
    Method.bind_ok _ (Method.update_apply _ _), Method.pure_apply]

theorem takeValue_error {u u' : Unread} {e : ErrorKind} (h : u.readValue = some (.error e, u')) :
    takeValue u = some (.error e, u') :=
  Method.bind_error _ h

theorem readValue_neverGrows : Method.NeverGrows left readValue := by
  intro u res u' h
  unfold readValue valueAtEnd at h
  repeat' split at h
  all_goals cases h
  all_goals first
    | exact Nat.le_refl _
    | next hfault => exact Nat.le_of_lt (left_fault_lt hfault _)

theorem takeValue_neverGrows : Method.NeverGrows left takeValue := by
  apply Method.NeverGrows.bind readValue_neverGrows
  intro n
  apply Method.NeverGrows.bind (Method.NeverGrows.gets _)
  intro val
  apply Method.NeverGrows.bind (Method.NeverGrows.update fun u => left_drop u n)
  intro _
  exact Method.NeverGrows.pure _

/-- Where there is a value, it is read. -/
theorem takeValue_shrinks {u : Unread} (h : ¬ u.NoValue) : Method.Shrinks left takeValue u := by
  unfold NoValue at h
  cases hscan : Scanner.new.scanBytes u.rest 0 with
  | value n s =>
      have hread : u.readValue = some (.ok n, u) := by
        unfold readValue
        rw [hscan]
      apply Method.Shrinks.of_eq (takeValue_of_readValue hread)
      apply left_drop_lt (Scanner.scanBytes_pos hscan)
      intro hrest
      rw [hrest] at hscan
      cases hscan
  | failed s =>
      rw [hscan] at h
      exact absurd trivial h
  | more s =>
      rw [hscan] at h
      cases hfault : u.fault with
      | some e =>
          have hread : u.readValue = some (.error e, { u with fault := none, err := some e }) := by
            unfold readValue
            rw [hscan]
            unfold valueAtEnd
            rw [hfault]
          exact Method.Shrinks.of_eq (takeValue_error hread) (left_fault_lt hfault _)
      | none =>
          have hends : (s.step 0x20).1 = .ends := by
            by_contra hends
            exact h ⟨hfault, hends⟩
          have hread : u.readValue = some (.ok u.rest.length, u) := by
            unfold readValue
            rw [hscan]
            unfold valueAtEnd
            rw [hfault]
            exact if_pos hends
          have hrest : u.rest ≠ [] := by
            intro hrest
            rw [hrest] at hscan
            cases hscan
            exact Scanner.new_step_not_ends 0x20 hends
          apply Method.Shrinks.of_eq (takeValue_of_readValue hread)
          exact left_drop_lt (List.length_pos_iff.mpr hrest) hrest

/-- All the bytes are whitespace. -/
theorem firstByte_of_any {u : Unread} (h : (u.rest.any fun b => !isAsciiWhitespace b) = false) :
    u.firstByte = none := by
  rw [List.any_eq_false] at h
  apply List.head?_eq_none_iff.mpr
  rw [List.dropWhile_eq_nil_iff]
  intro b hb
  have hwhite := h b hb
  simpa using hwhite

/-- Where there is no value, an error is found and kept; or there is nothing but whitespace,
which is read. -/
theorem takeValue_noValue {u : Unread} (herr : u.err = none) (h : u.NoValue) :
    (exists e, takeValue u = some (.error e, { u with err := some e })) ∨
      takeValue u = some (.ok u.rest, { u with rest := [] }) ∧ u.firstByte = none ∧
        u.fault = none := by
  unfold NoValue at h
  cases hscan : Scanner.new.scanBytes u.rest 0 with
  | value n s =>
      rw [hscan] at h
      cases h
  | failed s =>
      have hblamed := Scanner.scanBytes_blames (fun h => by cases h) hscan
      rcases Option.ne_none_iff_exists'.mp hblamed with ⟨e, he⟩
      left
      refine ⟨e, takeValue_error ?_⟩
      unfold readValue
      rw [hscan]
      dsimp only
      rw [he]
  | more s =>
      rw [hscan] at h
      rcases h with ⟨hfault, hends⟩
      rcases u with ⟨rest, fault, err⟩
      change fault = none at hfault
      change err = none at herr
      subst hfault herr
      have hread : readValue ⟨rest, none, none⟩ = valueAtEnd s ⟨rest, none, none⟩ := by
        unfold readValue
        rw [hscan]
      unfold valueAtEnd at hread
      dsimp only at hread
      rw [if_neg hends] at hread
      cases hany : rest.any fun b => !isAsciiWhitespace b with
      | true =>
          rw [hany] at hread
          exact Or.inl ⟨_, takeValue_error hread⟩
      | false =>
          rw [hany] at hread
          have htake := takeValue_of_readValue hread
          unfold advance at htake
          rw [List.take_length, List.drop_length] at htake
          exact Or.inr ⟨htake, firstByte_of_any hany, rfl⟩

end Unread

/-!
# Tokens
-/

namespace Decoder

variable {value : Type} {json : SerdeJson value} {again : Method (Decoder Unread) ErrorKind Token}
  {c : UInt8} {d : Decoder Unread} {state : TokenState}

/-- What is left to read. -/
def left (d : Decoder Unread) : Nat := d.input.left

def skip (d : Decoder Unread) : Decoder Unread := { d with input := d.input.skip }

/-- The bytes that are tokens of their own. -/
def punctuation : List UInt8 :=
  [beginArray, endArray, beginObject, endObject, nameSeparator, valueSeparator]

/-- In the state the token machine goes over the byte. -/
def Takes (c : UInt8) (state : TokenState) : Prop :=
  (c = beginArray ∨ c = beginObject) ∧ tokenValueAllowed state = true ∨
  c = endArray ∧ (state = .arrayStart ∨ state = .arrayComma) ∨
  c = endObject ∧ (state = .objectStart ∨ state = .objectComma) ∨
  c = nameSeparator ∧ state = .objectColon ∨
  c = valueSeparator ∧ (state = .arrayComma ∨ state = .objectComma)

/-- In the state the token machine reads a value that begins with the byte. -/
def ReadsValue (c : UInt8) (state : TokenState) : Prop :=
  c ∉ punctuation ∧
    (tokenValueAllowed state = true ∨
      c = quotationMark ∧ (state = .objectStart ∨ state = .objectKey))

/-- No token can be read, now or later. -/
def TokenBlocked (d : Decoder Unread) : Prop :=
  match d.input.firstByte with
  | none => d.input.fault = none
  | some c => ¬ Takes c d.tokenState ∧
      (ReadsValue c d.tokenState -> d.input.skip.Unreadable)

/-- No element of an array can be read to its end, now or later. -/
def RowsBlocked (d : Decoder Unread) : Prop :=
  d.input.err ≠ none ∨
    match d.tokenState with
    | .arrayComma => d.input.Lacks valueSeparator
    | .objectColon => d.input.Lacks nameSeparator
    | .objectStart | .objectKey | .objectComma => True
    | .topValue | .arrayStart | .arrayValue | .objectValue => d.input.NoValue

/-!
# What is left never grows
-/

theorem onInput_neverGrows {m : Method Unread ErrorKind value}
    (h : Method.NeverGrows Unread.left m) : Method.NeverGrows left (onInput m) :=
  .within h fun _ _ hle => hle

theorem update_neverGrows {f : Decoder Unread -> Decoder Unread}
    (h : forall d, (f d).input = d.input) :
    Method.NeverGrows left (Method.update f : Method (Decoder Unread) ErrorKind Unit) := by
  apply Method.NeverGrows.update
  intro d
  unfold left
  rw [h d]

theorem tokenValueEnd_input (d : Decoder Unread) : d.tokenValueEnd.input = d.input := by
  unfold tokenValueEnd
  split <;> rfl

theorem setTokenState_neverGrows (state : TokenState) :
    Method.NeverGrows left
      (Method.update (setTokenState state) : Method (Decoder Unread) ErrorKind Unit) :=
  update_neverGrows fun _ => rfl

theorem tokenValueEnd_neverGrows :
    Method.NeverGrows left
      (Method.update tokenValueEnd : Method (Decoder Unread) ErrorKind Unit) :=
  update_neverGrows tokenValueEnd_input

theorem advance_neverGrows : Method.NeverGrows left advance :=
  onInput_neverGrows (.update fun u => Unread.left_drop u 1)

theorem nextByte_neverGrows : Method.NeverGrows left nextByte := by
  apply Method.NeverGrows.bind (onInput_neverGrows Unread.peek_neverGrows)
  intro res
  match res with
  | some (.ok c) => exact .pure c
  | some (.error e) => exact .fail e
  | none => exact .fail _

/-- A separator is gone over. -/
theorem separate_neverGrows (state : TokenState) :
    Method.NeverGrows left
      (advance >>= fun _ => Method.update (setTokenState state)) :=
  .bind advance_neverGrows fun _ => setTokenState_neverGrows state

/-- The separator that `decode` expects in the states behind an element and behind a key. -/
def readSeparator (separator : UInt8) (state : TokenState) (msg : String) :
    Method (Decoder Unread) ErrorKind Unit := do
  let c <- nextByte
  if c = separator then do
    advance
    Method.update (setTokenState state)
  else Method.fail (.message msg)

theorem readSeparator_neverGrows (separator : UInt8) (state : TokenState) (msg : String) :
    Method.NeverGrows left (readSeparator separator state msg) :=
  .bind nextByte_neverGrows fun _ => .ite (separate_neverGrows state) (.fail _)

theorem prepare_neverGrows : Method.NeverGrows left tokenPrepareForDecode := by
  apply Method.NeverGrows.bind (Method.NeverGrows.gets _)
  intro state
  apply Method.NeverGrows.ite (readSeparator_neverGrows _ _ _)
  exact .ite (readSeparator_neverGrows _ _ _) (.pure ())

/-- The value of `decode`, where it is allowed. -/
def takeHere : Method (Decoder Unread) ErrorKind Buffer := do
  let val <- onInput ByteSource.takeValue
  Method.update tokenValueEnd
  pure (trimAscii val)

theorem takeHere_neverGrows : Method.NeverGrows left takeHere := by
  apply Method.NeverGrows.bind (onInput_neverGrows Unread.takeValue_neverGrows)
  intro val
  exact .bind tokenValueEnd_neverGrows fun _ => .pure _

theorem decodeRest_neverGrows :
    Method.NeverGrows left
      (do
        let state <- Method.gets (Decoder.tokenState : Decoder Unread -> TokenState)
        if tokenValueAllowed state then takeHere
        else Method.fail (.message "not at beginning of value")) :=
  .bind (.gets _) fun _ => .ite takeHere_neverGrows (.fail _)

theorem decode_neverGrows : Method.NeverGrows left decode := by
  apply Method.NeverGrows.bind (Method.NeverGrows.gets _)
  intro err
  cases err with
  | some e => exact .fail e
  | none => exact .bind prepare_neverGrows fun _ => decodeRest_neverGrows

theorem keyToken_neverGrows : Method.NeverGrows left (keyToken json) := by
  apply Method.NeverGrows.bind (setTokenState_neverGrows _)
  intro _
  apply Method.NeverGrows.bind decode_neverGrows
  intro text
  apply Method.NeverGrows.bind (Method.NeverGrows.ofExcept _)
  intro name
  exact .bind (setTokenState_neverGrows _) fun _ => .pure _

theorem valueToken_neverGrows : Method.NeverGrows left valueToken :=
  .bind decode_neverGrows fun _ => .pure _

theorem popTokenState_neverGrows :
    Method.NeverGrows left (popTokenState : Method (Decoder Unread) ErrorKind Unit) := by
  intro d res d' h
  unfold popTokenState at h
  cases hstack : d.tokenStack with
  | nil =>
      rw [hstack] at h
      cases h
  | cons state stack =>
      rw [hstack] at h
      cases h
      exact Nat.le_refl _

theorem tokenError_neverGrows (c : UInt8) :
    Method.NeverGrows left (tokenError c : Method (Decoder Unread) ErrorKind Token) :=
  .bind (.gets _) fun _ => .fail _

/-!
# Rounds of `token`
-/

/-- What a round comes to behind the byte `c`. -/
inductive RoundAt (json : SerdeJson value) (again : Method (Decoder Unread) ErrorKind Token)
    (c : UInt8) (state : TokenState) : Method (Decoder Unread) ErrorKind Token -> Prop where
  | takes {f : Unit -> Method (Decoder Unread) ErrorKind Token} (h : Takes c state)
      (hf : Method.NeverGrows left again -> forall v, Method.NeverGrows left (f v)) :
      RoundAt json again c state (advance >>= f)
  | key (hc : c = quotationMark) (h : state = .objectStart ∨ state = .objectKey) :
      RoundAt json again c state (keyToken json)
  | value (hc : c ∉ punctuation) (h : tokenValueAllowed state = true) :
      RoundAt json again c state valueToken
  | refused (htakes : ¬ Takes c state) (hvalue : ¬ ReadsValue c state) :
      RoundAt json again c state (tokenError c)

theorem Takes.mem_punctuation (h : Takes c state) : c ∈ punctuation := by
  rcases h with ⟨rfl | rfl, _⟩ | ⟨rfl, _⟩ | ⟨rfl, _⟩ | ⟨rfl, _⟩ | ⟨rfl, _⟩
  all_goals decide

theorem takes_beginArray : Takes beginArray state ↔ tokenValueAllowed state = true := by
  unfold Takes
  cases state <;> decide

theorem takes_beginObject : Takes beginObject state ↔ tokenValueAllowed state = true := by
  unfold Takes
  cases state <;> decide

theorem takes_endArray : Takes endArray state ↔ state = .arrayStart ∨ state = .arrayComma := by
  unfold Takes
  cases state <;> decide

theorem takes_endObject :
    Takes endObject state ↔ state = .objectStart ∨ state = .objectComma := by
  unfold Takes
  cases state <;> decide

theorem takes_nameSeparator : Takes nameSeparator state ↔ state = .objectColon := by
  unfold Takes
  cases state <;> decide

theorem takes_valueSeparator :
    Takes valueSeparator state ↔ state = .arrayComma ∨ state = .objectComma := by
  unfold Takes
  cases state <;> decide

theorem refused_punctuation (hc : c ∈ punctuation) (h : ¬ Takes c state) :
    RoundAt json again c state (tokenError c) :=
  .refused h fun hvalue => hvalue.1 hc

theorem openDelim_round (b : Char) (state' : TokenState) (h : Takes c state) :
    RoundAt json again c state (openDelim b state') :=
  .takes h fun _ _ => .bind (update_neverGrows fun _ => rfl) fun _ => .pure _

theorem closeDelim_round (b : Char) (h : Takes c state) :
    RoundAt json again c state (closeDelim b) :=
  .takes h fun _ _ => .bind popTokenState_neverGrows fun _ =>
    .bind tokenValueEnd_neverGrows fun _ => .pure _

theorem separator_round (state' : TokenState) (h : Takes c state) :
    RoundAt json again c state
      (advance >>= fun _ => Method.update (setTokenState state') >>= fun _ => again) :=
  .takes h fun hagain _ => .bind (setTokenState_neverGrows state') fun _ => hagain

/-- A byte that is no token of its own begins a value, or a key, or is refused. -/
theorem value_round (hc : c ∉ punctuation) :
    RoundAt json again c state
      (if c = quotationMark then
        if state = .objectStart ∨ state = .objectKey then keyToken json
        else if tokenValueAllowed state then valueToken
        else tokenError c
      else if tokenValueAllowed state then valueToken
      else tokenError c) := by
  have hrefused (hkey : ¬ (c = quotationMark ∧ (state = .objectStart ∨ state = .objectKey)))
      (hallowed : ¬ tokenValueAllowed state = true) :
      RoundAt json again c state (tokenError c) :=
    .refused (fun h => hc h.mem_punctuation) fun h => h.2.elim hallowed hkey
  split
  · next hquote =>
      split
      · next hkey => exact .key hquote hkey
      · next hkey =>
          split
          · next hallowed => exact .value hc hallowed
          · next hallowed => exact hrefused (fun h => hkey h.2) hallowed
  · next hquote =>
      split
      · next hallowed => exact .value hc hallowed
      · next hallowed => exact hrefused (fun h => hquote h.1) hallowed

theorem RoundAt.neverGrows {m : Method (Decoder Unread) ErrorKind Token}
    (h : RoundAt json again c state m) (hagain : Method.NeverGrows left again) :
    Method.NeverGrows left m := by
  cases h with
  | takes _ hf => exact .bind advance_neverGrows (hf hagain)
  | key _ _ => exact keyToken_neverGrows
  | value _ _ => exact valueToken_neverGrows
  | refused _ _ => exact tokenError_neverGrows c

theorem RoundAt.ite {p : Prop} [Decidable p] {m n : Method (Decoder Unread) ErrorKind Token}
    (hm : p -> RoundAt json again c state m) (hn : ¬ p -> RoundAt json again c state n) :
    RoundAt json again c state (if p then m else n) := by
  split
  · next h => exact hm h
  · next h => exact hn h

/-- The byte is gone over in some states and refused in the others. -/
theorem punctuation_round {p : Prop} [Decidable p] {m : Method (Decoder Unread) ErrorKind Token}
    (hc : c ∈ punctuation) (htakes : Takes c state ↔ p)
    (hm : Takes c state -> RoundAt json again c state m) :
    RoundAt json again c state (if p then m else tokenError c) :=
  .ite (fun h => hm (htakes.mpr h)) fun h => refused_punctuation hc fun ht => h (htakes.mp ht)

theorem tokenAt_round (c : UInt8) (state : TokenState) :
    RoundAt json again c state (tokenAt json again c state) := by
  unfold tokenAt
  refine .ite (fun hc => ?_) fun hbeginArray => ?_
  · subst hc
    exact punctuation_round (by decide) takes_beginArray (openDelim_round _ _)
  refine .ite (fun hc => ?_) fun hendArray => ?_
  · subst hc
    exact punctuation_round (by decide) takes_endArray (closeDelim_round _)
  refine .ite (fun hc => ?_) fun hbeginObject => ?_
  · subst hc
    exact punctuation_round (by decide) takes_beginObject (openDelim_round _ _)
  refine .ite (fun hc => ?_) fun hendObject => ?_
  · subst hc
    exact punctuation_round (by decide) takes_endObject (closeDelim_round _)
  refine .ite (fun hc => ?_) fun hname => ?_
  · subst hc
    exact punctuation_round (by decide) takes_nameSeparator (separator_round _)
  refine .ite (fun hc => ?_) fun hvalue => ?_
  · subst hc
    refine .ite (fun h => ?_) fun harray => .ite (fun h => ?_) fun hobject => ?_
    · exact separator_round _ (takes_valueSeparator.mpr (Or.inl h))
    · exact separator_round _ (takes_valueSeparator.mpr (Or.inr h))
    · exact refused_punctuation (by decide) fun ht =>
        (takes_valueSeparator.mp ht).elim harray hobject
  · apply value_round
    unfold punctuation
    simp only [List.mem_cons, List.not_mem_nil, or_false, not_or]
    exact ⟨hbeginArray, hendArray, hbeginObject, hendObject, hname, hvalue⟩

theorem tokenAt_neverGrows (hagain : Method.NeverGrows left again) (c : UInt8)
    (state : TokenState) : Method.NeverGrows left (tokenAt json again c state) :=
  (tokenAt_round c state).neverGrows hagain

theorem tokenRound_neverGrows (hagain : Method.NeverGrows left again) :
    Method.NeverGrows left (tokenRound json again) :=
  .bind nextByte_neverGrows fun c => .bind (.gets _) fun state => tokenAt_neverGrows hagain c state

theorem token_neverGrows : Method.NeverGrows left (token json) :=
  tokenRound_neverGrows (tokenRound_neverGrows .abort)

theorem more_neverGrows : Method.NeverGrows left more := by
  apply Method.NeverGrows.bind (onInput_neverGrows Unread.peek_neverGrows)
  intro res
  match res with
  | some (.ok c) => exact .pure _
  | some (.error e) => exact .pure _
  | none => exact .pure _

/-!
# Tokens that are blocked
-/

theorem nextByte_found (h : d.input.firstByte = some c) :
    nextByte d = some (.ok c, d.skip) := by
  have hpeek : peek d = some (.ok (some (.ok c)), d.skip) := onInput_some (Unread.peek_found h)
  unfold nextByte
  rw [Method.bind_ok _ hpeek]
  rfl

theorem peek_nothing (h : d.input.firstByte = none) (hfault : d.input.fault = none) :
    peek d = some (.ok none, d) :=
  onInput_some (Unread.peek_nothing h hfault)

theorem nextByte_nothing (h : d.input.firstByte = none) (hfault : d.input.fault = none) :
    nextByte d = some (.error (.message "unexpected EOF"), d) := by
  unfold nextByte
  rw [Method.bind_ok _ (peek_nothing h hfault)]
  rfl

/-- The error behind the bytes is reported once. -/
theorem nextByte_shrinks (h : d.input.firstByte = none) (hfault : d.input.fault ≠ none) :
    Method.Shrinks left nextByte d := by
  rcases Option.ne_none_iff_exists'.mp hfault with ⟨e, he⟩
  have hpeek : peek d =
      some (.ok (some (.error e)), { d with input := { d.input with fault := none } }) :=
    onInput_some (Unread.peek_error h he)
  have hnext : nextByte d =
      some (.error e, { d with input := { d.input with fault := none } }) := by
    unfold nextByte
    rw [Method.bind_ok _ hpeek]
    rfl
  exact .of_eq hnext (Unread.left_fault_lt he _)

theorem advance_shrinks (h : d.input.firstByte = some c) :
    Method.Shrinks left advance d.skip :=
  .of_eq (onInput_some (Method.update_apply _ _))
    (Unread.left_drop_lt Nat.one_pos (Unread.skip_rest h))

theorem tokenRound_found (h : d.input.firstByte = some c) :
    tokenRound json again d = tokenAt json again c d.tokenState d.skip := by
  unfold tokenRound
  rw [Method.bind_ok _ (nextByte_found h), Method.bind_ok _ (Method.gets_apply _ _)]
  rfl

theorem prepare_nothing (hcomma : d.tokenState ≠ .arrayComma)
    (hcolon : d.tokenState ≠ .objectColon) : tokenPrepareForDecode d = some (.ok (), d) := by
  unfold tokenPrepareForDecode
  rw [Method.bind_ok _ (Method.gets_apply _ _), if_neg hcomma, if_neg hcolon]
  rfl

theorem prepare_allowed (h : tokenValueAllowed d.tokenState = true) :
    tokenPrepareForDecode d = some (.ok (), d) := by
  apply prepare_nothing
  · intro hcomma
    rw [hcomma] at h
    cases h
  · intro hcolon
    rw [hcolon] at h
    cases h

theorem decode_here_eq (herr : d.input.err = none) (h : tokenValueAllowed d.tokenState = true) :
    decode d = takeHere d := by
  rw [decode_clean d herr]
  unfold decodeValue
  rw [Method.bind_ok _ (prepare_allowed h), Method.bind_ok _ (Method.gets_apply _ _), if_pos h]
  rfl

theorem decode_blamed {e : ErrorKind} (herr : d.input.err = some e) :
    decode d = some (.error e, d) := by
  unfold decode
  rw [Method.bind_ok _ (Method.gets_apply _ _)]
  have hsource : ByteSource.err d.input = some e := herr
  rw [hsource]
  rfl

/-- The token machine has kept an error, and has not moved since. -/
structure Blamed (d d' : Decoder Unread) : Prop where
  rest : d'.input.rest = d.input.rest
  tokenState : d'.tokenState = d.tokenState
  err : d'.input.err ≠ none

theorem takeHere_shrinks (h : ¬ d.input.NoValue) : Method.Shrinks left takeHere d := by
  have htake : Method.Shrinks left (onInput ByteSource.takeValue) d :=
    .within (Unread.takeValue_shrinks h) fun _ hlt => hlt
  exact htake.bind fun _ => .bind tokenValueEnd_neverGrows fun _ => .pure _

theorem decode_shrinks_here (h : tokenValueAllowed d.tokenState = true)
    (hread : ¬ d.input.Unreadable) : Method.Shrinks left decode d := by
  have herr : d.input.err = none := by
    by_contra herr
    exact hread (Or.inl herr)
  exact .of_call (decode_here_eq herr h) (Nat.le_refl _)
    (takeHere_shrinks fun hno => hread (Or.inr hno))

/-- Behind whitespace that was taken for a value, with nothing left. -/
def atEnd (d : Decoder Unread) : Decoder Unread :=
  tokenValueEnd { d with input := { d.input with rest := [] } }

/-- Where there is no value, `decode` fails and keeps an error, or nothing is left. -/
theorem decode_noValue (h : tokenValueAllowed d.tokenState = true)
    (hread : d.input.Unreadable) :
    Method.FailsInto (Blamed d) decode d ∨
      exists v, decode d = some (.ok v, d.atEnd) ∧ d.input.firstByte = none ∧
        d.input.fault = none := by
  cases herr : d.input.err with
  | some e =>
      left
      refine ⟨e, d, decode_blamed herr, rfl, rfl, ?_⟩
      rw [herr]
      exact Option.some_ne_none e
  | none =>
      have hno : d.input.NoValue := hread.resolve_left fun h => h herr
      rcases Unread.takeValue_noValue herr hno with ⟨e, htake⟩ | ⟨htake, hbyte, hfault⟩
      · left
        have hinput : onInput ByteSource.takeValue d =
            some (.error e, { d with input := { d.input with err := some e } }) :=
          onInput_some htake
        have hdecode := Method.bind_error (fun val => do
          Method.update tokenValueEnd
          pure (trimAscii val)) hinput
        exact ⟨e, _, (decode_here_eq herr h).trans hdecode, rfl, rfl, Option.some_ne_none e⟩
      · right
        have hinput : onInput ByteSource.takeValue d =
            some (.ok d.input.rest, { d with input := { d.input with rest := [] } }) :=
          onInput_some htake
        refine ⟨trimAscii d.input.rest, ?_, hbyte, hfault⟩
        rw [decode_here_eq herr h, takeHere, Method.bind_ok _ hinput,
          Method.bind_ok _ (Method.update_apply _ _), Method.pure_apply]
        rfl

/-- Where the token machine has kept an error, no value is read again. -/
theorem Blamed.tokenBlocked {d' : Decoder Unread} (h : Blamed d d')
    (hbyte : d.input.firstByte = some c) (htakes : ¬ Takes c d.tokenState) :
    TokenBlocked d' := by
  have hsame : d'.input.firstByte = some c := by
    unfold Unread.firstByte
    rw [h.rest]
    exact hbyte
  unfold TokenBlocked
  rw [hsame, h.tokenState]
  exact ⟨htakes, fun _ => Or.inl h.err⟩

/-- Where there is a byte, a value that cannot be read is an error. -/
theorem decode_unreadable (hbyte : d.input.firstByte = some c)
    (hallowed : tokenValueAllowed d.tokenState = true) (hread : d.input.Unreadable) :
    Method.FailsInto (Blamed d) decode d := by
  refine (decode_noValue hallowed hread).resolve_right ?_
  rintro ⟨_, _, hnone, _⟩
  rw [hbyte] at hnone
  cases hnone

/-- A token that cannot be read is not read later either. -/
theorem token_blocked (h : TokenBlocked d) : Method.FailsInto TokenBlocked (token json) d := by
  have hblocked := h
  unfold TokenBlocked at h
  cases hbyte : d.input.firstByte with
  | none =>
      rw [hbyte] at h
      have hnext : Method.FailsInto TokenBlocked nextByte d :=
        ⟨_, d, nextByte_nothing hbyte h, hblocked⟩
      exact hnext.bind _
  | some c =>
      rw [hbyte] at h
      rcases h with ⟨htakes, hread⟩
      have hskip : d.skip.input.firstByte = some c := by
        rw [← hbyte]
        exact Unread.firstByte_skip d.input
      have hround := @tokenAt_round _ json (tokenRound json Method.abort) c d.tokenState
      apply Method.FailsInto.of_eq (tokenRound_found hbyte)
      generalize @tokenAt Unread _ _ json _ c d.tokenState = m at hround ⊢
      cases hround with
      | takes h _ => exact absurd h htakes
      | key hc hstate =>
          subst hc
          have hunreadable := hread ⟨by decide, Or.inr ⟨rfl, hstate⟩⟩
          have hnot : ¬ Takes quotationMark .topValue := by
            intro ht
            exact absurd ht.mem_punctuation (by decide)
          -- The state is lost: behind the failed key a value is expected.
          have htop : (d.skip.setTokenState .topValue).input.firstByte = some quotationMark := hskip
          have hdecode : Method.FailsInto TokenBlocked decode (d.skip.setTokenState .topValue) :=
            (decode_unreadable htop rfl hunreadable).mono fun d' hd' => hd'.tokenBlocked htop hnot
          exact Method.FailsInto.bind_ok (Method.update_apply _ _) (hdecode.bind _)
      | value hc hallowed =>
          have hunreadable := hread ⟨hc, Or.inl hallowed⟩
          have hdecode : Method.FailsInto TokenBlocked decode d.skip :=
            (decode_unreadable hskip hallowed hunreadable).mono fun d' hd' =>
              hd'.tokenBlocked hskip htakes
          exact hdecode.bind _
      | refused _ hno =>
          have hsame : TokenBlocked d.skip := by
            unfold TokenBlocked
            rw [hskip]
            exact ⟨htakes, fun hvalue => absurd hvalue hno⟩
          exact Method.FailsInto.bind_ok (Method.gets_apply _ _) (.fail _ hsame)

/-- A token machine that is not blocked reads on. -/
theorem token_shrinks (h : ¬ TokenBlocked d) : Method.Shrinks left (token json) d := by
  unfold TokenBlocked at h
  cases hbyte : d.input.firstByte with
  | none =>
      rw [hbyte] at h
      exact (nextByte_shrinks hbyte h).bind fun _ => .bind (.gets _) fun _ =>
        tokenAt_neverGrows (tokenRound_neverGrows .abort) _ _
  | some c =>
      rw [hbyte] at h
      have hreads (htakes : ¬ Takes c d.tokenState) :
          ReadsValue c d.tokenState ∧ ¬ d.skip.input.Unreadable :=
        Classical.not_imp.mp fun hread => h ⟨htakes, hread⟩
      have hround := @tokenAt_round _ json (tokenRound json Method.abort) c d.tokenState
      apply Method.Shrinks.of_call (tokenRound_found hbyte) (Unread.left_skip d.input)
      generalize @tokenAt Unread _ _ json _ c d.tokenState = m at hround ⊢
      cases hround with
      | takes _ hf => exact (advance_shrinks hbyte).bind (hf (tokenRound_neverGrows .abort))
      | key hc hstate =>
          subst hc
          have hnot : ¬ Takes quotationMark d.tokenState := by
            intro ht
            exact absurd ht.mem_punctuation (by decide)
          have hdecode : Method.Shrinks left decode (d.skip.setTokenState .topValue) :=
            decode_shrinks_here rfl (hreads hnot).2
          apply Method.Shrinks.bind_ok (Method.update_apply _ _) (Nat.le_refl _)
          exact hdecode.bind fun _ => .bind (.ofExcept _) fun _ =>
            .bind (setTokenState_neverGrows _) fun _ => .pure _
      | value hc hallowed =>
          have hnot : ¬ Takes c d.tokenState := fun ht => hc ht.mem_punctuation
          have hdecode : Method.Shrinks left decode d.skip :=
            decode_shrinks_here hallowed (hreads hnot).2
          exact hdecode.bind fun _ => .pure _
      | refused htakes hno => exact absurd (hreads htakes).1 hno

/-!
# Elements that are blocked
-/

section Separator

variable {separator : UInt8} {msg : String}

theorem readSeparator_blocked (h : d.input.Lacks separator) :
    Method.FailsInto (fun d' => d'.tokenState = d.tokenState ∧ d'.input.Lacks separator)
      (readSeparator separator state msg) d := by
  have hlacks := h
  rcases h with ⟨hother, hnothing⟩
  cases hbyte : d.input.firstByte with
  | none =>
      have hnext : Method.FailsInto
          (fun d' => d'.tokenState = d.tokenState ∧ d'.input.Lacks separator) nextByte d :=
        ⟨_, d, nextByte_nothing hbyte (hnothing hbyte), rfl, hlacks⟩
      exact hnext.bind _
  | some c =>
      have hc : c ≠ separator := by
        rintro rfl
        exact hother hbyte
      apply Method.FailsInto.bind_ok (nextByte_found hbyte)
      rw [if_neg hc]
      refine .fail _ ⟨rfl, ?_⟩
      change d.input.skip.Lacks separator
      unfold Unread.Lacks
      rw [Unread.firstByte_skip]
      exact hlacks

theorem readSeparator_shrinks (h : ¬ d.input.Lacks separator) :
    Method.Shrinks left (readSeparator separator state msg) d := by
  cases hbyte : d.input.firstByte with
  | none =>
      have hfault : d.input.fault ≠ none := by
        intro hfault
        refine h ⟨?_, fun _ => hfault⟩
        rw [hbyte]
        exact (Option.some_ne_none _).symm
      exact (nextByte_shrinks hbyte hfault).bind fun _ =>
        .ite (separate_neverGrows state) (.fail _)
  | some c =>
      have hc : c = separator := by
        by_contra hc
        refine h ⟨?_, ?_⟩
        · rw [hbyte]
          exact fun heq => hc (Option.some.inj heq)
        · rw [hbyte]
          exact fun heq => absurd heq (Option.some_ne_none c)
      apply Method.Shrinks.bind_ok (nextByte_found hbyte) (Unread.left_skip d.input)
      rw [if_pos hc]
      exact (advance_shrinks hbyte).bind fun _ => setTokenState_neverGrows state

end Separator

theorem prepare_comma_eq (h : d.tokenState = .arrayComma) :
    tokenPrepareForDecode d =
      readSeparator valueSeparator .arrayValue "expected comma after array element" d := by
  unfold tokenPrepareForDecode
  rw [Method.bind_ok _ (Method.gets_apply _ _), if_pos h]
  rfl

theorem prepare_colon_eq (h : d.tokenState = .objectColon) :
    tokenPrepareForDecode d =
      readSeparator nameSeparator .objectValue "expected colon after object key" d := by
  have hcomma : d.tokenState ≠ .arrayComma := by
    rw [h]
    decide
  unfold tokenPrepareForDecode
  rw [Method.bind_ok _ (Method.gets_apply _ _), if_neg hcomma, if_pos h]
  rfl

/-- No value is read in a state in which none is allowed. -/
theorem decode_not_allowed (herr : d.input.err = none) (hcomma : d.tokenState ≠ .arrayComma)
    (hcolon : d.tokenState ≠ .objectColon) (h : ¬ tokenValueAllowed d.tokenState = true) :
    decode d = some (.error (.message "not at beginning of value"), d) := by
  rw [decode_clean d herr]
  unfold decodeValue
  rw [Method.bind_ok _ (prepare_nothing hcomma hcolon), Method.bind_ok _ (Method.gets_apply _ _),
    if_neg h]
  rfl

theorem atEnd_firstByte (d : Decoder Unread) : d.atEnd.input.firstByte = none := by
  unfold atEnd
  rw [tokenValueEnd_input]
  rfl

theorem atEnd_fault (d : Decoder Unread) : d.atEnd.input.fault = d.input.fault := by
  unfold atEnd
  rw [tokenValueEnd_input]

/-- Nothing comes behind the end. -/
theorem atEnd_blocked (h : tokenValueAllowed d.tokenState = true) (hfault : d.input.fault = none) :
    RowsBlocked d.atEnd := by
  have hlacks (separator : UInt8) : d.atEnd.input.Lacks separator := by
    refine ⟨?_, fun _ => (atEnd_fault d).trans hfault⟩
    rw [atEnd_firstByte]
    exact (Option.some_ne_none _).symm
  rcases d with ⟨input, state, stack⟩
  right
  cases state with
  | topValue => exact ⟨hfault, Scanner.new_step_not_ends 0x20⟩
  | arrayStart => exact hlacks valueSeparator
  | arrayValue => exact hlacks valueSeparator
  | objectValue => trivial
  | arrayComma => cases h
  | objectStart => cases h
  | objectKey => cases h
  | objectColon => cases h
  | objectComma => cases h

theorem rowsBlocked_comma (hstate : d.tokenState = .arrayComma)
    (h : d.input.Lacks valueSeparator) : RowsBlocked d := by
  right
  rw [hstate]
  exact h

theorem rowsBlocked_colon (hstate : d.tokenState = .objectColon)
    (h : d.input.Lacks nameSeparator) : RowsBlocked d := by
  right
  rw [hstate]
  exact h

theorem decode_blocked_here (hallowed : tokenValueAllowed d.tokenState = true)
    (h : d.input.NoValue) :
    Method.FailsInto RowsBlocked decode d ∨
      exists v, decode d = some (.ok v, d.atEnd) ∧ RowsBlocked d.atEnd ∧
        d.input.fault = none := by
  rcases decode_noValue hallowed (Or.inr h) with hfails | ⟨v, hdecode, _, hfault⟩
  · exact Or.inl (hfails.mono fun d' hd' => Or.inl hd'.err)
  · exact Or.inr ⟨v, hdecode, atEnd_blocked hallowed hfault, hfault⟩

/-- An element that cannot be read is not read later either; whitespace may be taken for the
last one. -/
theorem decode_blocked (h : RowsBlocked d) :
    Method.FailsInto RowsBlocked decode d ∨
      exists v, decode d = some (.ok v, d.atEnd) ∧ RowsBlocked d.atEnd ∧
        d.input.fault = none := by
  have hblocked := h
  cases herr : d.input.err with
  | some e => exact Or.inl ⟨e, d, decode_blamed herr, hblocked⟩
  | none =>
      have hrows := h.resolve_left fun h => h herr
      cases hstate : d.tokenState with
      | arrayComma =>
          rw [hstate] at hrows
          have hprepare : Method.FailsInto RowsBlocked tokenPrepareForDecode d :=
            .of_eq (prepare_comma_eq hstate) ((readSeparator_blocked hrows).mono fun d' hd' =>
              rowsBlocked_comma (hd'.1.trans hstate) hd'.2)
          exact Or.inl (.of_eq (decode_clean d herr) (hprepare.bind _))
      | objectColon =>
          rw [hstate] at hrows
          have hprepare : Method.FailsInto RowsBlocked tokenPrepareForDecode d :=
            .of_eq (prepare_colon_eq hstate) ((readSeparator_blocked hrows).mono fun d' hd' =>
              rowsBlocked_colon (hd'.1.trans hstate) hd'.2)
          exact Or.inl (.of_eq (decode_clean d herr) (hprepare.bind _))
      | topValue | arrayStart | arrayValue | objectValue =>
          rw [hstate] at hrows
          apply decode_blocked_here _ hrows
          rw [hstate]
          rfl
      | objectStart | objectKey | objectComma =>
          refine Or.inl ⟨_, d, decode_not_allowed herr ?_ ?_ ?_, hblocked⟩
          all_goals
            rw [hstate]
            decide

/-- Where the elements are not blocked, `decode` reads on. -/
theorem decode_shrinks (h : ¬ RowsBlocked d) : Method.Shrinks left decode d := by
  have herr : d.input.err = none := by
    by_contra herr
    exact h (Or.inl herr)
  cases hstate : d.tokenState with
  | arrayComma =>
      have hprepare : Method.Shrinks left tokenPrepareForDecode d :=
        .of_call (prepare_comma_eq hstate) (Nat.le_refl _)
          (readSeparator_shrinks fun hlacks => h (rowsBlocked_comma hstate hlacks))
      exact .of_call (decode_clean d herr) (Nat.le_refl _)
        (hprepare.bind fun _ => decodeRest_neverGrows)
  | objectColon =>
      have hprepare : Method.Shrinks left tokenPrepareForDecode d :=
        .of_call (prepare_colon_eq hstate) (Nat.le_refl _)
          (readSeparator_shrinks fun hlacks => h (rowsBlocked_colon hstate hlacks))
      exact .of_call (decode_clean d herr) (Nat.le_refl _)
        (hprepare.bind fun _ => decodeRest_neverGrows)
  | topValue | arrayStart | arrayValue | objectValue =>
      apply decode_shrinks_here
      · rw [hstate]
        rfl
      · intro hread
        refine h (Or.inr ?_)
        rw [hstate]
        exact hread.resolve_left fun h => h herr
  | objectStart | objectKey | objectComma =>
      refine absurd (Or.inr ?_) h
      rw [hstate]
      trivial

end Decoder
end Httpx
end CouchbaseSdk
