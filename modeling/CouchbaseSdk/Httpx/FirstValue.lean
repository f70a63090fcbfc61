import CouchbaseSdk.Httpx.Blocked
import CouchbaseSdk.Httpx.ScannerSound

/-!
# The first value

Over an input with a byte that is no whitespace, the decoder reads the first value or fails for
good.  A number goes as far as a number can; all other values end by themselves.
-/

namespace CouchbaseSdk
namespace Httpx

open Foundation Foundation.Json

/-- The value does not go on into the bytes behind it. -/
def Whole (v rest : Buffer) : Prop :=
  forall c tail, rest = c :: tail -> forall u, ¬ AsciiValue (v ++ c :: u)

/-- The input is whitespace, the text `v` of a value, and anything that `v` does not go on
into. -/
def FirstValue (input v : Buffer) : Prop :=
  exists w rest, input = w ++ (v ++ rest) ∧ AsciiBlank w ∧ AsciiValue v ∧ Whole v rest

namespace Scanner

/-!
# Whole texts
-/

/-- The text is scanned to its end as a value. -/
def Reads (t : Buffer) : Prop :=
  (exists s, scanBytes new t 0 = .value t.length s) ∨
    exists s, scanBytes new t 0 = .more s ∧ (s.step 0x20).1 = .ends

theorem reads_iff {t : Buffer} : Reads t ↔ Text t := by
  constructor
  · rintro (⟨s, h⟩ | ⟨s, h, hends⟩)
    · rcases @scan_completes .beginValue [] _ _ _ _ trivial h with ⟨u, rest, rfl, hlen, hu⟩
      rw [List.length_append] at hlen
      have hnil : rest = [] := List.length_eq_zero_iff.mp (by omega)
      rw [hnil, List.append_nil]
      exact text_of_completes hu
    · exact text_of_completes (@more_completes .beginValue [] _ _ _ trivial h hends)
  · rintro ⟨w, v, rfl, hw, hv⟩
    have hblank := blank_scan hw v 0
    rw [Nat.zero_add] at hblank
    rcases hv.scalar_or_container with hscalar | hcontainer
    · rcases scalar_scan_end hscalar w.length with ⟨s, hs, hends⟩
      exact Or.inr ⟨s, hblank.trans hs, hends⟩
    · rcases container_scan hcontainer [] w.length with ⟨s, hs⟩
      rw [List.append_nil] at hs
      left
      exact ⟨s, by rw [hblank, hs, List.length_append]⟩

theorem value_of_text {c : UInt8} {t : Buffer} (hc : isAsciiWhitespace c = false)
    (h : Text (c :: t)) : AsciiValue (c :: t) := by
  rcases h with ⟨w, v, heq, hw, hv⟩
  cases w with
  | nil =>
      rw [heq]
      exact hv
  | cons b w =>
      rcases List.cons_eq_cons.mp heq with ⟨rfl, _⟩
      have hspace := hw.head
      rw [hc] at hspace
      cases hspace

/-!
# Values and what is behind them
-/

/-- A value that is scanned to its end with a byte behind it is scanned so with other bytes. -/
theorem scan_tail {t tail : Buffer} {c : UInt8} {s : Scanner}
    (h : scanBytes new (t ++ c :: tail) 0 = .value t.length s) (tail' : Buffer) :
    exists s', scanBytes new (t ++ c :: tail') 0 = .value t.length s' := by
  rw [scanBytes_append] at h
  rw [scanBytes_append]
  cases hscan : scanBytes new t 0 with
  | value m s' =>
      rw [hscan] at h
      cases h
      exact ⟨s, rfl⟩
  | failed s' =>
      rw [hscan] at h
      cases h
  | more s' =>
      rw [hscan] at h
      dsimp only at h ⊢
      rw [scanBytes] at h
      rw [scanBytes, Nat.zero_add]
      rw [Nat.zero_add] at h
      cases hround : s'.round c with
      | before s'' => exact ⟨s'', rfl⟩
      | after s'' =>
          rw [hround] at h
          injection h with hlen _
          omega
      | failed s'' =>
          rw [hround] at h
          cases h
      | goesOn s'' =>
          rw [hround] at h
          have hle := scanBytes_ge h
          omega

/-- The scan ends with the value `v` if `v` does not go on. -/
theorem whole_of_scan {w v rest : Buffer} {s : Scanner} (hw : AsciiBlank w)
    (h : scanBytes new (w ++ (v ++ rest)) 0 = .value (w.length + v.length) s) :
    Whole v rest := by
  rintro c tail rfl u hvalue
  rw [← List.append_assoc, ← List.length_append] at h
  rcases scan_tail h u with ⟨s', hs'⟩
  have htext : Text ((w ++ v) ++ c :: u) := ⟨w, v ++ c :: u, List.append_assoc _ _ _, hw, hvalue⟩
  rcases reads_iff.mpr htext with ⟨s'', h''⟩ | ⟨s'', h'', _⟩
  · rw [h''] at hs'
    have hlen := congrArg (fun r => match r with | .value m _ => m | _ => 0) hs'
    dsimp only at hlen
    simp only [List.length_append, List.length_cons] at hlen
    omega
  · rw [h''] at hs'
    cases hs'

/-- The byte ends the value before it, or the value goes on over it to an end. -/
def EndsOrGoes (s : Scanner) (c : UInt8) : Prop :=
  (exists s', s.round c = .before s') ∨
    exists s' u s'', s.round c = .goesOn s' ∧ Goes s' u s'' ∧ (s''.step 0x20).1 = .ends

theorem ends_before {s : Scanner} {c : UInt8} {stepFn : StepFn}
    (h : s.step c = (inState stepFn []).stateEndValue c) : EndsOrGoes s c := by
  left
  unfold round
  rw [h]
  exact ⟨_, rfl⟩

theorem goes_over {s : Scanner} {c : UInt8} {next last : StepFn} {u : Buffer}
    (h : s.step c = (.continues, inState next []))
    (hgoes : Goes (inState next []) u (inState last []))
    (hends : ((inState last []).step 0x20).1 = .ends) : EndsOrGoes s c :=
  Or.inr ⟨_, u, _, round_of_step h (by decide) (by decide) (by decide) (by decide), hgoes, hends⟩

theorem exponent_over {s : Scanner} {c : UInt8} (h : s.step c = (.continues, inState .e [])) :
    EndsOrGoes s c :=
  @goes_over _ _ .e .e0 [Json.zero] h (Goes.byte rfl) rfl

theorem state0_over {c : UInt8} {stepFn : StepFn}
    (h : (inState stepFn []).step c = (inState stepFn []).state0 c) :
    EndsOrGoes (inState stepFn []) c := by
  unfold state0 at h
  split at h
  · exact @goes_over _ _ .dot .dot0 [Json.zero] h (Goes.byte rfl) rfl
  · split at h
    · exact exponent_over h
    · exact ends_before h

theorem behind_over {s : Scanner} (h : Behind [] s) (c : UInt8) : EndsOrGoes s c := by
  cases h with
  | value => exact @ends_before _ _ .endValue rfl
  | zero => exact state0_over rfl
  | one =>
      by_cases hd : isDigit c = true
      · exact @goes_over _ _ .one .one [] (digit_step_one hd []) (Goes.nil _) rfl
      · apply state0_over
        change state1 _ c = _
        rw [state1, if_neg hd]
  | dot0 =>
      by_cases hd : isDigit c = true
      · exact @goes_over _ _ .dot0 .dot0 [] (digit_step_dot0 hd []) (Goes.nil _) rfl
      · have h : (inState .dot0 []).step c = (inState .dot0 []).stateDot0 c := rfl
        unfold stateDot0 at h
        rw [if_neg hd] at h
        split at h
        · exact exponent_over h
        · exact ends_before h
  | e0 =>
      by_cases hd : isDigit c = true
      · exact @goes_over _ _ .e0 .e0 [] (digit_step_e0 hd []) (Goes.nil _) rfl
      · have h : (inState .e0 []).step c = (inState .e0 []).stateE0 c := rfl
        unfold stateE0 at h
        rw [if_neg hd] at h
        exact ends_before h

theorem scalar_scan_whole {t tail : Buffer} {c : UInt8} (h : Scalar t)
    (hwhole : Whole t (c :: tail)) (n : Nat) :
    exists s, scanBytes new (t ++ c :: tail) n = .value (n + t.length) s := by
  rcases scalar_goes h [] with ⟨s, hs, hgoes⟩
  rcases behind_over hs c with ⟨s', hround⟩ | ⟨s', u, s'', hround, hu, hends⟩
  · refine ⟨s', ?_⟩
    rw [new_eq, hgoes.scan, scanBytes, hround]
  · exfalso
    have hall : Goes new (t ++ c :: u) s'' := hgoes.append (Goes.cons hround hu)
    have htext := reads_iff.mp (Or.inr ⟨s'', hall 0, hends⟩)
    rcases h.head with ⟨b, t', rfl, hb⟩
    exact hwhole c tail rfl u (value_of_text (opens_no_whitespace hb) htext)

/-- The scan of the input ends with a value behind `n` bytes. -/
def ScansTo (input : Buffer) (n : Nat) : Prop :=
  (exists s, scanBytes new input 0 = .value n s) ∨
    n = input.length ∧ exists s, scanBytes new input 0 = .more s ∧ (s.step 0x20).1 = .ends

/-- The scan of an input ends behind its first value. -/
theorem scansTo_iff {input : Buffer} {n : Nat} :
    ScansTo input n ↔ exists w v rest, input = w ++ (v ++ rest) ∧ n = w.length + v.length ∧
      AsciiBlank w ∧ AsciiValue v ∧ Whole v rest := by
  constructor
  · rintro (⟨s, h⟩ | ⟨rfl, s, h, hends⟩)
    · rcases @scan_completes .beginValue [] _ _ _ _ trivial h with ⟨u, rest, rfl, hlen, hu⟩
      rcases text_of_completes hu with ⟨w, v, rfl, hw, hv⟩
      rw [Nat.zero_add, List.length_append] at hlen
      rw [List.append_assoc, hlen] at h
      exact ⟨w, v, rest, List.append_assoc _ _ _, hlen, hw, hv, whole_of_scan hw h⟩
    · rcases reads_iff.mp (Or.inr ⟨s, h, hends⟩) with ⟨w, v, rfl, hw, hv⟩
      refine ⟨w, v, [], by rw [List.append_nil], List.length_append, hw, hv, ?_⟩
      rintro c tail ⟨⟩
  · rintro ⟨w, v, rest, rfl, rfl, hw, hv, hwhole⟩
    cases rest with
    | nil =>
        rw [List.append_nil, ← List.length_append]
        rcases reads_iff.mpr ⟨w, v, rfl, hw, hv⟩ with h | h
        · exact Or.inl h
        · exact Or.inr ⟨rfl, h⟩
    | cons c tail =>
        left
        rw [blank_scan hw, Nat.zero_add]
        rcases hv.scalar_or_container with hscalar | hcontainer
        · exact scalar_scan_whole hscalar hwhole w.length
        · exact container_scan hcontainer (c :: tail) w.length

end Scanner

/-!
# Reading the first value
-/

theorem AsciiBlank.dropWhile {w : Buffer} (hw : AsciiBlank w) (rest : Buffer) :
    (w ++ rest).dropWhile isAsciiWhitespace = rest.dropWhile isAsciiWhitespace := by
  induction w with
  | nil => rfl
  | cons c w ih =>
      rw [List.cons_append, List.dropWhile_cons_of_pos hw.head]
      exact ih hw.tail

theorem trimAscii_text {w t : Buffer} (hw : AsciiBlank w) (ht : AsciiValue t) :
    trimAscii (w ++ t) = t := by
  rcases ht.head with ⟨c, rest, heq, hc⟩
  have hleft : (w ++ t).dropWhile isAsciiWhitespace = t := by
    rw [hw.dropWhile, heq]
    exact opens_dropWhile (Scanner.opens_no_whitespace hc) rest
  rcases ht.last with ⟨front, d, hlast, hd⟩
  rw [trimAscii, hleft, hlast]
  apply List.rdropWhile_concat_neg
  rw [shuts_no_whitespace hd]
  decide

namespace Decoder

/-- The first value, if there is one, is what `decode` returns. -/
theorem decode_scansTo {input : Buffer} {n : Nat} (h : Scanner.ScansTo input n) :
    Method.answer decode (Decoder.new (Unread.new input none)) =
      some (.ok (trimAscii (input.take n))) := by
  have hread : (Unread.new input none).readValue = some (.ok n, Unread.new input none) := by
    unfold Unread.readValue Unread.new
    dsimp only
    rcases h with ⟨s, hs⟩ | ⟨rfl, s, hs, hends⟩
    · rw [hs]
    · rw [hs]
      unfold Unread.valueAtEnd
      dsimp only
      rw [if_pos hends]
  have htake : onInput ByteSource.takeValue (Decoder.new (Unread.new input none)) =
      some (.ok (input.take n),
        { Decoder.new (Unread.new input none) with
          input := Unread.advance n (Unread.new input none) }) :=
    onInput_some (Unread.takeValue_of_readValue hread)
  have hdecode := decode_here_eq (d := Decoder.new (Unread.new input none)) rfl rfl
  rw [takeHere, Method.bind_ok _ htake, Method.bind_ok _ (Method.update_apply _ _),
    Method.pure_apply] at hdecode
  unfold Method.answer
  rw [hdecode]
  rfl

theorem noValue_of_not_scansTo {input : Buffer} (h : forall n, ¬ Scanner.ScansTo input n) :
    (Unread.new input none).NoValue := by
  unfold Unread.NoValue Unread.new
  dsimp only
  cases hscan : Scanner.new.scanBytes input 0 with
  | value n s => exact absurd (Or.inl ⟨s, hscan⟩) (h n)
  | failed s => trivial
  | more s => exact ⟨rfl, fun hends => h input.length (Or.inr ⟨rfl, s, hscan, hends⟩)⟩

/-- An error that is kept is returned by every later call. -/
theorem decode_blamed_later {d : Decoder Unread} {e : ErrorKind} (herr : d.input.err = some e)
    (n : Nat) : Method.answer decode ((Method.after decode)^[n] d) = some (.error e) := by
  have hdecode := decode_blamed herr
  have hsame : (Method.after decode)^[n] d = d := by
    induction n with
    | zero => rfl
    | succ n ih => rw [Function.iterate_succ_apply, Method.after_eq hdecode, ih]
  rw [hsame, Method.answer, hdecode]
  rfl

/-- Where there is no value, `decode` fails with the error it keeps. -/
theorem decode_fails_for_good {d : Decoder Unread} {c : UInt8} (herr : d.input.err = none)
    (hallowed : tokenValueAllowed d.tokenState = true) (hno : d.input.NoValue)
    (hbyte : d.input.firstByte = some c) :
    exists e, forall n, Method.answer decode ((Method.after decode)^[n] d) = some (.error e) := by
  rcases Unread.takeValue_noValue herr hno with ⟨e, htake⟩ | ⟨_, hnone, _⟩
  · have hinput : onInput ByteSource.takeValue d =
        some (.error e, { d with input := { d.input with err := some e } }) :=
      onInput_some htake
    have hdecode := (decode_here_eq herr hallowed).trans (Method.bind_error (fun val => do
      Method.update tokenValueEnd
      pure (trimAscii val)) hinput)
    refine ⟨e, fun n => ?_⟩
    cases n with
    | zero =>
        rw [Function.iterate_zero_apply, Method.answer, hdecode]
        rfl
    | succ n =>
        rw [Function.iterate_succ_apply, Method.after_eq hdecode]
        exact decode_blamed_later rfl n
  · rw [hbyte] at hnone
    cases hnone

theorem firstByte_of_mem {input : Buffer} (h : exists c, c ∈ input ∧ isAsciiWhitespace c = false) :
    exists c, (Unread.new input none).firstByte = some c := by
  rcases h with ⟨c, hmem, hc⟩
  apply Option.ne_none_iff_exists'.mp
  intro hnone
  have hnil : input.dropWhile isAsciiWhitespace = [] := List.head?_eq_none_iff.mp hnone
  have hspace := List.dropWhile_eq_nil_iff.mp hnil c hmem
  rw [hc] at hspace
  cases hspace

/-- Over the bytes of the input: the first value, or an error for good. -/
theorem decode_bytes {input : Buffer} (h : exists c, c ∈ input ∧ isAsciiWhitespace c = false) :
    (forall v, Method.answer decode (Decoder.new (Unread.new input none)) = some (.ok v) ↔
      FirstValue input v) ∧
    ((forall v, ¬ FirstValue input v) -> exists e, forall n,
      Method.answer decode
        ((Method.after decode)^[n] (Decoder.new (Unread.new input none))) = some (.error e)) := by
  by_cases hscan : exists n, Scanner.ScansTo input n
  · rcases hscan with ⟨n, hn⟩
    have hdecode := decode_scansTo hn
    rcases Scanner.scansTo_iff.mp hn with ⟨w, v, rest, rfl, rfl, hw, hv, hwhole⟩
    have htake : (w ++ (v ++ rest)).take (w.length + v.length) = w ++ v := by
      rw [← List.length_append, ← List.append_assoc, List.take_left]
    rw [htake, trimAscii_text hw hv] at hdecode
    have hfirst : FirstValue (w ++ (v ++ rest)) v := ⟨w, rest, rfl, hw, hv, hwhole⟩
    refine ⟨fun v' => ?_, fun hnone => absurd hfirst (hnone v)⟩
    rw [hdecode]
    constructor
    · rintro ⟨⟩
      exact hfirst
    · rintro ⟨w', rest', heq, hw', hv', hwhole'⟩
      have hagain := decode_scansTo (Scanner.scansTo_iff.mpr
        ⟨w', v', rest', rfl, rfl, hw', hv', hwhole'⟩)
      rw [← List.length_append, ← List.append_assoc, List.take_left,
        trimAscii_text hw' hv', List.append_assoc, ← heq, hdecode] at hagain
      exact hagain
  · have hnone : forall n, ¬ Scanner.ScansTo input n := fun n hn => hscan ⟨n, hn⟩
    rcases firstByte_of_mem h with ⟨c, hbyte⟩
    have hfails := @decode_fails_for_good (Decoder.new (Unread.new input none)) c rfl rfl
      (noValue_of_not_scansTo hnone) hbyte
    refine ⟨fun v => ⟨fun hok => ?_, ?_⟩, fun _ => hfails⟩
    · rcases hfails with ⟨e, he⟩
      have hzero := he 0
      rw [Function.iterate_zero_apply, hok] at hzero
      cases hzero
    · rintro ⟨w, rest, rfl, hw, hv, hwhole⟩
      exact absurd (Scanner.scansTo_iff.mpr ⟨w, v, rest, rfl, rfl, hw, hv, hwhole⟩) (hnone _)

theorem new_over (chunks : List Buffer) :
    Over Window.Holds (Decoder.new (Window.new (chunks.map .ok)))
      (Decoder.new (Unread.new chunks.flatten none)) :=
  ⟨⟨Nat.le_refl _, rfl, chunks, (List.append_nil _).symm, rfl⟩, rfl, rfl⟩

/-- However the input is cut into chunks, `decode` returns its first value, or an error that
every later call returns again. -/
theorem decode_first_value (chunks : List Buffer)
    (h : exists c, c ∈ chunks.flatten ∧ isAsciiWhitespace c = false) :
    (forall v, Method.answer decode (Decoder.new (Window.new (chunks.map .ok))) = some (.ok v) ↔
      FirstValue chunks.flatten v) ∧
    ((forall v, ¬ FirstValue chunks.flatten v) -> exists e, forall n,
      Method.answer decode
        ((Method.after decode)^[n] (Decoder.new (Window.new (chunks.map .ok)))) =
          some (.error e)) := by
  have hsame := decode_same Window.alike
  have hover := new_over chunks
  rcases decode_bytes h with ⟨hok, herror⟩
  constructor
  · intro v
    rw [hsame.answer_eq hover]
    exact hok v
  · intro hnone
    rcases herror hnone with ⟨e, he⟩
    refine ⟨e, fun n => ?_⟩
    rw [hsame.answer_eq (hsame.iterate hover n)]
    exact he n

theorem decode_first_value_array :
    (exists c, c ∈ [[0x20, 0x5b], [], [0x31, 0x5d, 0x32]].flatten ∧
      isAsciiWhitespace c = false) ∧
    forall v, Method.answer decode
        (Decoder.new (Window.new ([[0x20, 0x5b], [], [0x31, 0x5d, 0x32]].map .ok))) =
          some (.ok v) ↔
      FirstValue [[0x20, 0x5b], [], [0x31, 0x5d, 0x32]].flatten v := by
  have h : exists c, c ∈ [[0x20, 0x5b], [], [0x31, 0x5d, 0x32]].flatten ∧
      isAsciiWhitespace c = false := ⟨0x5b, by decide, rfl⟩
  exact ⟨h, (decode_first_value _ h).1⟩

/-- The same with the whitespace of JSON inside of the value. -/
def JsonFirstValue (input v : Buffer) : Prop :=
  exists w rest, input = w ++ (v ++ rest) ∧ AsciiBlank w ∧ Value v ∧
    forall c tail, rest = c :: tail -> forall u, ¬ Value (v ++ c :: u)

/-- An array with a form feed before its element. -/
def formFeedArray : Buffer := [0x5b, 0x0c, 0x31, 0x5d]

/-- No element of JSON begins with a form feed. -/
theorem element_not_formFeed {e : Element} {rest t : Buffer} (hspaced : e.Spaced)
    (hvalue : Value e.text) : 0x0c :: t ≠ e.whole ++ rest := by
  intro heq
  rcases e with ⟨lead, text, trail⟩
  cases lead with
  | nil =>
      rcases hvalue.head with ⟨c, tail, rfl, hc⟩
      rcases List.cons_eq_cons.mp heq with ⟨rfl, _⟩
      cases Scanner.opens_no_whitespace hc
  | cons c lead =>
      rcases List.cons_eq_cons.mp heq with ⟨rfl, _⟩
      cases hspaced.1.head

theorem formFeedArray_not_value : ¬ Value formFeedArray := by
  intro h
  rcases h.scalar_or_container with hscalar | hcontainer
  · rcases scalar_first hscalar with ⟨c, rest, heq, hc⟩
    rcases List.cons_eq_cons.mp heq with ⟨rfl, _⟩
    revert hc
    decide
  · generalize ht : formFeedArray = t at hcontainer
    cases hcontainer with
    | object => cases (List.cons_eq_cons.mp ht).1
    | @array es inside hinside hspaced hvalue =>
        have hinner : [0x0c, 0x31] = inside :=
          List.append_cancel_right (List.cons_eq_cons.mp ht).2
        cases hinside with
        | blank hw =>
            rw [← hinner] at hw
            cases hw.head
        | items e es =>
            exact element_not_formFeed (hspaced e List.mem_cons_self)
              (hvalue e List.mem_cons_self) hinner

theorem not_decode_json_value :
    (¬ forall chunks : List Buffer,
      (exists c, c ∈ chunks.flatten ∧ isAsciiWhitespace c = false) -> forall v,
        Method.answer decode (Decoder.new (Window.new (chunks.map .ok))) = some (.ok v) ↔
          JsonFirstValue chunks.flatten v) ∧
      Method.answer decode (Decoder.new (Window.new ([[0x30, 0x31]].map .ok))) =
        some (.ok [0x30]) := by
  have hsame := decode_same Window.alike
  constructor
  · intro h
    have hdecode : Method.answer decode (Decoder.new (Window.new ([formFeedArray].map .ok))) =
        some (.ok formFeedArray) := by
      rw [hsame.answer_eq (new_over [formFeedArray])]
      decide +kernel
    rcases (h [formFeedArray] ⟨0x5b, by decide, rfl⟩ formFeedArray).mp hdecode with
      ⟨w, rest, heq, _, hvalue, _⟩
    exact formFeedArray_not_value hvalue
  · rw [hsame.answer_eq (new_over [[0x30, 0x31]])]
    decide +kernel

end Decoder
end Httpx
end CouchbaseSdk
