import CouchbaseSdk.Httpx.Scanner

/-!
# JSON with ASCII whitespace

The scanner takes a form feed for whitespace too, between the parts of a value as well as
before it.  The texts of JSON are among the texts of this grammar.
-/

namespace CouchbaseSdk
namespace Httpx

open Foundation Foundation.Json

theorem whitespace_of_blank {c : UInt8} (h : isBlank c = true) : isAsciiWhitespace c = true := by
  rcases blank_cases h with rfl | rfl | rfl | rfl <;> rfl

/-- A text of ASCII whitespace. -/
def AsciiBlank (w : Buffer) : Prop := forall c, c ∈ w -> isAsciiWhitespace c = true

namespace AsciiBlank

theorem nil : AsciiBlank [] := fun _ h => by cases h

theorem head {c : UInt8} {w : Buffer} (h : AsciiBlank (c :: w)) : isAsciiWhitespace c = true :=
  h c List.mem_cons_self

theorem tail {c : UInt8} {w : Buffer} (h : AsciiBlank (c :: w)) : AsciiBlank w :=
  fun b hb => h b (List.mem_cons_of_mem _ hb)

theorem cons {c : UInt8} {w : Buffer} (hc : isAsciiWhitespace c = true) (h : AsciiBlank w) :
    AsciiBlank (c :: w) := by
  intro b hb
  rcases List.mem_cons.mp hb with rfl | hb
  · exact hc
  · exact h b hb

end AsciiBlank

theorem Blank.ascii {w : Buffer} (h : Blank w) : AsciiBlank w :=
  fun c hc => whitespace_of_blank (h c hc)

def Element.AsciiSpaced (e : Element) : Prop := AsciiBlank e.lead ∧ AsciiBlank e.trail

def Member.AsciiSpaced (m : Member) : Prop :=
  AsciiBlank m.lead ∧ AsciiBlank m.beforeColon ∧ AsciiBlank m.afterColon ∧ AsciiBlank m.trail

/-- What stands between the brackets of a list of items. -/
inductive AsciiInside {item : Type} (whole : item -> Buffer) : List item -> Buffer -> Prop where
  | blank {w : Buffer} (h : AsciiBlank w) : AsciiInside whole [] w
  | items (i : item) (items : List item) :
      AsciiInside whole (i :: items) (whole i ++ following whole items)

inductive AsciiValue : Buffer -> Prop where
  | scalar {t : Buffer} (h : Scalar t) : AsciiValue t
  | array {elements : List Element} {inside : Buffer}
      (hinside : AsciiInside Element.whole elements inside)
      (hspaced : forall e, e ∈ elements -> Element.AsciiSpaced e)
      (hvalue : forall e, e ∈ elements -> AsciiValue e.text) :
      AsciiValue (beginArray :: (inside ++ [endArray]))
  | object {members : List Member} {inside : Buffer}
      (hinside : AsciiInside Member.whole members inside)
      (hspaced : forall m, m ∈ members -> Member.AsciiSpaced m)
      (hkey : forall m, m ∈ members -> StringText m.key)
      (hvalue : forall m, m ∈ members -> AsciiValue m.text) :
      AsciiValue (beginObject :: (inside ++ [endObject]))

/-- The arrays and the objects. -/
inductive AsciiContainer : Buffer -> Prop where
  | array {es : List Element} {inside : Buffer} (hinside : AsciiInside Element.whole es inside)
      (hspaced : forall e, e ∈ es -> Element.AsciiSpaced e)
      (hvalue : forall e, e ∈ es -> AsciiValue e.text) :
      AsciiContainer (beginArray :: (inside ++ [endArray]))
  | object {ms : List Member} {inside : Buffer} (hinside : AsciiInside Member.whole ms inside)
      (hspaced : forall m, m ∈ ms -> Member.AsciiSpaced m)
      (hkey : forall m, m ∈ ms -> StringText m.key)
      (hvalue : forall m, m ∈ ms -> AsciiValue m.text) :
      AsciiContainer (beginObject :: (inside ++ [endObject]))

/-!
# Texts of JSON
-/

theorem Element.Spaced.ascii {e : Element} (h : e.Spaced) : Element.AsciiSpaced e :=
  ⟨Blank.ascii h.1, Blank.ascii h.2⟩

theorem Member.Spaced.ascii {m : Member} (h : m.Spaced) : Member.AsciiSpaced m :=
  ⟨Blank.ascii h.1, Blank.ascii h.2.1, Blank.ascii h.2.2.1, Blank.ascii h.2.2.2⟩

theorem Inside.ascii {item : Type} {whole : item -> Buffer} {items : List item} {inside : Buffer}
    (h : Inside whole items inside) : AsciiInside whole items inside := by
  cases h with
  | blank h => exact .blank (Blank.ascii h)
  | items i items => exact .items i items

theorem Value.ascii {t : Buffer} (h : Value t) : AsciiValue t := by
  induction h with
  | scalar h => exact .scalar h
  | array hinside hspaced _ ih =>
      exact .array (Inside.ascii hinside) (fun e he => Element.Spaced.ascii (hspaced e he)) ih
  | object hinside hspaced hkey _ ih =>
      exact .object (Inside.ascii hinside) (fun m hm => Member.Spaced.ascii (hspaced m hm)) hkey ih

theorem Container.ascii {t : Buffer} (h : Container t) : AsciiContainer t := by
  cases h with
  | array hinside hspaced hvalue =>
      exact .array (Inside.ascii hinside) (fun e he => Element.Spaced.ascii (hspaced e he))
        fun e he => Value.ascii (hvalue e he)
  | object hinside hspaced hkey hvalue =>
      exact .object (Inside.ascii hinside) (fun m hm => Member.Spaced.ascii (hspaced m hm)) hkey
        fun m hm => Value.ascii (hvalue m hm)

/-!
# The ends of a value
-/

namespace AsciiValue

theorem scalar_or_container {t : Buffer} (h : AsciiValue t) : Scalar t ∨ AsciiContainer t := by
  cases h with
  | scalar h => exact Or.inl h
  | array hinside hspaced hvalue => exact Or.inr (.array hinside hspaced hvalue)
  | object hinside hspaced hkey hvalue => exact Or.inr (.object hinside hspaced hkey hvalue)

theorem head {t : Buffer} (h : AsciiValue t) : exists c rest, t = c :: rest ∧ Opens c := by
  cases h with
  | scalar h => exact h.head
  | array => exact ⟨_, _, rfl, .beginArray⟩
  | object => exact ⟨_, _, rfl, .beginObject⟩

theorem last {t : Buffer} (h : AsciiValue t) : exists front c, t = front ++ [c] ∧ Shuts c := by
  cases h with
  | scalar h => exact (Value.scalar h).last
  | @array _ inside => exact ⟨beginArray :: inside, _, rfl, .endArray⟩
  | @object _ inside => exact ⟨beginObject :: inside, _, rfl, .endObject⟩

end AsciiValue

/-!
# The scanner on JSON texts

Over the text of a value the scanner goes from the beginning of a value to its end, without a
stop in between.  A number is the exception: the scanner stays in it until the next byte, but
takes that byte as it would behind any other value.
-/

namespace Scanner

/-!
# Going over a text
-/

/-- The scanner in the midst of a value. -/
def inState (stepFn : StepFn) (stack : List ParseState) : Scanner :=
  { stepFn := stepFn, endTop := false, parseState := stack, err := none }

/-- Over the text `t` the scanner goes from `s` to `s'`. -/
def Goes (s : Scanner) (t : Buffer) (s' : Scanner) : Prop :=
  forall n, scanBytes s t n = .more s'

namespace Goes

theorem nil (s : Scanner) : Goes s [] s := fun _ => rfl

theorem cons {s s' s'' : Scanner} {c : UInt8} {t : Buffer} (hround : s.round c = .goesOn s')
    (h : Goes s' t s'') : Goes s (c :: t) s'' := by
  intro n
  rw [scanBytes, hround]
  exact h (n + 1)

theorem byte {s s' : Scanner} {c : UInt8} (hround : s.round c = .goesOn s') : Goes s [c] s' :=
  cons hround (nil s')

theorem append {s s' s'' : Scanner} {t u : Buffer} (h : Goes s t s') (h' : Goes s' u s'') :
    Goes s (t ++ u) s'' := by
  intro n
  rw [scanBytes_append, h n]
  exact h' (n + t.length)

theorem scan {s s' : Scanner} {t : Buffer} (h : Goes s t s') (rest : Buffer) (n : Nat) :
    scanBytes s (t ++ rest) n = scanBytes s' rest (n + t.length) := by
  rw [scanBytes_append, h n]

end Goes

theorem round_of_step {s s' : Scanner} {c : UInt8} {state : ScanState}
    (h : s.step c = (state, s')) (hends : state ≠ .ends) (herror : state ≠ .error)
    (hobject : state ≠ .endObject) (harray : state ≠ .endArray) : s.round c = .goesOn s' := by
  unfold round
  rw [h]
  cases state <;> first | rfl | contradiction

/-!
# Blanks
-/

/-- The step functions that blanks are skipped in. -/
def skipping : List StepFn := [.beginValue, .beginValueOrEmpty, .beginStringOrEmpty, .beginString]

theorem blank_goes {stepFn : StepFn} (hstep : stepFn ∈ skipping) (st : List ParseState)
    {w : Buffer} (hw : AsciiBlank w) :
    Goes (inState stepFn st) w (inState stepFn st) := by
  induction w with
  | nil => exact Goes.nil _
  | cons c w ih =>
      have hspace := hw.head
      have hround : (inState stepFn st).step c = (.skipSpace, inState stepFn st) := by
        simp only [skipping, List.mem_cons, List.not_mem_nil, or_false] at hstep
        rcases hstep with rfl | rfl | rfl | rfl
        · exact if_pos hspace
        · exact if_pos hspace
        · exact if_pos hspace
        · exact if_pos hspace
      exact Goes.cons (round_of_step hround nofun nofun nofun nofun) (ih hw.tail)

/-!
# Behind a value
-/

/-- The bytes that end a value. -/
def isDelimiter (c : UInt8) : Bool :=
  isAsciiWhitespace c || c == valueSeparator || c == Json.endArray || c == Json.endObject ||
    c == nameSeparator

/-- The scanner behind a value, or in a number that may end here. -/
inductive Behind (st : List ParseState) : Scanner -> Prop where
  | value : Behind st (inState .endValue st)
  | zero : Behind st (inState .zero st)
  | one : Behind st (inState .one st)
  | dot0 : Behind st (inState .dot0 st)
  | e0 : Behind st (inState .e0 st)

theorem delimiter_cases {c : UInt8} (h : isDelimiter c = true) :
    isDigit c = false ∧ c ≠ decimalPoint ∧ c ≠ 0x65 ∧ c ≠ 0x45 := by
  simp only [isDelimiter, isAsciiWhitespace, Bool.or_eq_true, beq_iff_eq] at h
  rcases h with (((((((h | h) | h) | h) | h) | h) | h) | h) | h <;> subst h <;> decide

/-- A delimiter is taken as it is behind a value. -/
theorem Behind.step {st : List ParseState} {s : Scanner} (h : Behind st s) {c : UInt8}
    (hc : isDelimiter c = true) :
    s.step c = s.stateEndValue c := by
  rcases delimiter_cases hc with ⟨hdigit, hpoint, he, hE⟩
  have hexp : ¬ (c = 0x65 ∨ c = 0x45) := by
    rintro (h | h)
    · exact he h
    · exact hE h
  have hnodigit : ¬ isDigit c = true := by
    rw [hdigit]
    decide
  have hzero : forall s : Scanner, s.state0 c = s.stateEndValue c := by
    intro s
    rw [state0, if_neg hpoint, if_neg hexp]
  cases h with
  | value => rfl
  | zero => exact hzero _
  | one =>
      change state1 _ c = _
      rw [state1, if_neg hnodigit]
      exact hzero _
  | dot0 =>
      change stateDot0 _ c = _
      rw [stateDot0, if_neg hnodigit, if_neg hexp]
  | e0 =>
      change stateE0 _ c = _
      rw [stateE0, if_neg hnodigit]

/-!
# Strings
-/

theorem plain_round {c : UInt8} (st : List ParseState) (hquote : c ≠ quotationMark)
    (hescape : c ≠ reverseSolidus) (hcontrol : 0x20 ≤ c) :
    (inState .inString st).round c = .goesOn (inState .inString st) := by
  apply @round_of_step _ _ _ .continues _ nofun nofun nofun nofun
  change stateInString _ c = _
  rw [stateInString, if_neg hquote, if_neg hescape, if_neg (UInt8.not_lt.mpr hcontrol)]

theorem escaped_round {c : UInt8} (st : List ParseState) (hc : c ∈ escapable) :
    (inState .inStringEsc st).round c = .goesOn (inState .inString st) := by
  apply @round_of_step _ _ _ .continues _ nofun nofun nofun nofun
  change stateInStringEsc _ c = _
  rw [stateInStringEsc, if_pos hc]
  rfl

theorem hexDigit_round {c : UInt8} (st : List ParseState) (hc : isHexDigit c = true)
    {stepFn next : StepFn}
    (hstep : (inState stepFn st).step c = stateHexDigit next (inState stepFn st) c) :
    (inState stepFn st).round c = .goesOn (inState next st) := by
  apply @round_of_step _ _ _ .continues _ nofun nofun nofun nofun
  rw [hstep, stateHexDigit, if_pos hc]
  rfl

theorem stringChars_goes {t : Buffer} (h : StringChars t) (st : List ParseState) :
    Goes (inState .inString st) t (inState .inString st) := by
  induction h with
  | nil => exact Goes.nil _
  | plain hquote hescape hcontrol _ ih =>
      exact Goes.cons (plain_round st hquote hescape hcontrol) ih
  | escaped hc _ ih =>
      have hstart : (inState .inString st).round reverseSolidus =
          .goesOn (inState .inStringEsc st) := rfl
      exact Goes.cons hstart (Goes.cons (escaped_round st hc) ih)
  | unicode ha hb hc hd _ ih =>
      have hstart : (inState .inString st).round reverseSolidus =
          .goesOn (inState .inStringEsc st) := rfl
      have hu : (inState .inStringEsc st).round 0x75 = .goesOn (inState .inStringEscU st) := rfl
      apply Goes.cons hstart
      apply Goes.cons hu
      apply Goes.cons (hexDigit_round st ha rfl)
      apply Goes.cons (hexDigit_round st hb rfl)
      apply Goes.cons (hexDigit_round st hc rfl)
      exact Goes.cons (hexDigit_round st hd rfl) ih

theorem stringText_goes {t : Buffer} (h : StringText t) {stepFn : StepFn}
    (hstep : stepFn ∈ skipping) (st : List ParseState) :
    Goes (inState stepFn st) t (inState .endValue st) := by
  cases h with
  | quoted hchars =>
      have hstart : (inState stepFn st).round quotationMark = .goesOn (inState .inString st) := by
        simp only [skipping, List.mem_cons, List.not_mem_nil, or_false] at hstep
        rcases hstep with rfl | rfl | rfl | rfl <;> rfl
      have hend : (inState .inString st).round quotationMark = .goesOn (inState .endValue st) :=
        rfl
      exact Goes.cons hstart ((stringChars_goes hchars st).append (Goes.byte hend))

/-!
# Numbers
-/

theorem digits_goes {ds : Buffer} (h : Digits ds) {stepFn : StepFn} (st : List ParseState)
    (hstep : forall d, isDigit d = true ->
      (inState stepFn st).step d = (.continues, inState stepFn st)) :
    Goes (inState stepFn st) ds (inState stepFn st) := by
  induction ds with
  | nil => exact Goes.nil _
  | cons d ds ih =>
      have hround := round_of_step (hstep d h.head) nofun nofun nofun nofun
      exact Goes.cons hround (ih h.tail)

theorem digit_step_one {d : UInt8} (hd : isDigit d = true) (st : List ParseState) :
    (inState .one st).step d = (.continues, inState .one st) := by
  change state1 _ d = _
  rw [state1, if_pos hd]
  rfl

theorem digit_step_dot0 {d : UInt8} (hd : isDigit d = true) (st : List ParseState) :
    (inState .dot0 st).step d = (.continues, inState .dot0 st) := by
  change stateDot0 _ d = _
  rw [stateDot0, if_pos hd]

theorem digit_step_e0 {d : UInt8} (hd : isDigit d = true) (st : List ParseState) :
    (inState .e0 st).step d = (.continues, inState .e0 st) := by
  change stateE0 _ d = _
  rw [stateE0, if_pos hd]

/-- The first digit of an integer, behind its sign or without one. -/
theorem first_digit_round {d : UInt8} (hd : isDigit d = true) (hzero : d ≠ Json.zero)
    (st : List ParseState) :
    (inState .beginValue st).round d = .goesOn (inState .one st) ∧
      (inState .neg st).round d = .goesOn (inState .one st) := by
  rcases digit_cases hd with rfl | rfl | rfl | rfl | rfl | rfl | rfl | rfl | rfl | rfl
  · exact absurd rfl hzero
  all_goals exact ⟨rfl, rfl⟩

theorem integer_goes {t : Buffer} (h : IntegerText t) (st : List ParseState) :
    exists stepFn, (stepFn = .zero ∨ stepFn = .one) ∧
      Goes (inState .beginValue st) t (inState stepFn st) ∧
      Goes (inState .neg st) t (inState stepFn st) := by
  cases h with
  | zero => exact ⟨.zero, Or.inl rfl, Goes.byte rfl, Goes.byte rfl⟩
  | digits hd hzero hds =>
      have hrest := digits_goes hds st fun d hd => digit_step_one hd st
      rcases first_digit_round hd hzero st with ⟨hbegin, hneg⟩
      exact ⟨.one, Or.inr rfl, Goes.cons hbegin hrest, Goes.cons hneg hrest⟩

theorem fraction_goes {t : Buffer} (h : FractionText t) (st : List ParseState)
    {stepFn : StepFn} (hstep : stepFn = .zero ∨ stepFn = .one) :
    exists stepFn', (stepFn' = .zero ∨ stepFn' = .one ∨ stepFn' = .dot0) ∧
      Goes (inState stepFn st) t (inState stepFn' st) := by
  cases h with
  | absent =>
      rcases hstep with rfl | rfl
      · exact ⟨.zero, Or.inl rfl, Goes.nil _⟩
      · exact ⟨.one, Or.inr (Or.inl rfl), Goes.nil _⟩
  | @digits d ds hd hds =>
      have hpoint : (inState stepFn st).round decimalPoint = .goesOn (inState .dot st) := by
        rcases hstep with rfl | rfl <;> rfl
      have hfirst : (inState .dot st).step d = (.continues, inState .dot0 st) := by
        change stateDot _ d = _
        rw [stateDot, if_pos hd]
        rfl
      have hrest := digits_goes hds st fun d hd => digit_step_dot0 hd st
      refine ⟨.dot0, Or.inr (Or.inr rfl), Goes.cons hpoint ?_⟩
      exact Goes.cons (round_of_step hfirst nofun nofun nofun nofun) hrest

theorem exponent_goes {t : Buffer} (h : ExponentText t) (st : List ParseState)
    {stepFn : StepFn} (hstep : stepFn = .zero ∨ stepFn = .one ∨ stepFn = .dot0) :
    exists s, Behind st s ∧ Goes (inState stepFn st) t s := by
  cases h with
  | absent =>
      rcases hstep with rfl | rfl | rfl
      · exact ⟨_, .zero, Goes.nil _⟩
      · exact ⟨_, .one, Goes.nil _⟩
      · exact ⟨_, .dot0, Goes.nil _⟩
  | @digits e d sign ds he hsign hd hds =>
      have hstart : (inState stepFn st).round e = .goesOn (inState .e st) := by
        rcases hstep with rfl | rfl | rfl <;> rcases he with rfl | rfl <;> rfl
      have hdigit : forall s : Scanner, s.stateESign d = s.continueWith .e0 := by
        intro s
        rw [stateESign, if_pos hd]
      have hafterSign : (inState .eSign st).round d = .goesOn (inState .e0 st) :=
        round_of_step (hdigit _) nofun nofun nofun nofun
      have hafterE : (inState .e st).round d = .goesOn (inState .e0 st) := by
        apply @round_of_step _ _ _ .continues _ nofun nofun nofun nofun
        change stateE _ d = _
        have hnosign : ¬ (d = plus ∨ d = minus) := by
          rintro (rfl | rfl)
          · exact absurd hd (by decide)
          · exact absurd hd (by decide)
        rw [stateE, if_neg hnosign, hdigit]
        rfl
      have hrest := digits_goes hds st fun d hd => digit_step_e0 hd st
      refine ⟨_, .e0, Goes.cons hstart ?_⟩
      rcases hsign with rfl | rfl | rfl
      · exact Goes.cons hafterE hrest
      · have hplus : (inState .e st).round plus = .goesOn (inState .eSign st) := rfl
        exact Goes.cons hplus (Goes.cons hafterSign hrest)
      · have hminus : (inState .e st).round minus = .goesOn (inState .eSign st) := rfl
        exact Goes.cons hminus (Goes.cons hafterSign hrest)

theorem number_goes {t : Buffer} (h : NumberText t) (st : List ParseState) :
    exists s, Behind st s ∧ Goes (inState .beginValue st) t s := by
  cases h with
  | parts hsign hinteger hfraction hexponent =>
      rcases integer_goes hinteger st with ⟨stepFn, hstep, hbegin, hneg⟩
      rcases fraction_goes hfraction st hstep with ⟨stepFn', hstep', hfrac⟩
      rcases exponent_goes hexponent st hstep' with ⟨s, hs, hexp⟩
      refine ⟨s, hs, ?_⟩
      rcases hsign with rfl | rfl
      · exact hbegin.append (hfrac.append hexp)
      · exact Goes.cons rfl (hneg.append (hfrac.append hexp))

/-!
# Scalars
-/

theorem scalar_goes {t : Buffer} (h : Scalar t) (st : List ParseState) :
    exists s, Behind st s ∧ Goes (inState .beginValue st) t s := by
  cases h with
  | string h => exact ⟨_, .value, stringText_goes h (by decide) st⟩
  | number h => exact number_goes h st
  | true => exact ⟨_, .value, fun _ => rfl⟩
  | false => exact ⟨_, .value, fun _ => rfl⟩
  | null => exact ⟨_, .value, fun _ => rfl⟩

/-!
# Arrays and objects
-/

theorem opens_no_delimiter {c : UInt8} (h : Opens c) : isDelimiter c = false := by
  cases h with
  | digit hd =>
      rcases digit_cases hd with rfl | rfl | rfl | rfl | rfl | rfl | rfl | rfl | rfl | rfl <;> rfl
  | _ => rfl

theorem opens_no_whitespace {c : UInt8} (h : Opens c) : isAsciiWhitespace c = false := by
  cases h with
  | digit hd =>
      rcases digit_cases hd with rfl | rfl | rfl | rfl | rfl | rfl | rfl | rfl | rfl | rfl <;> rfl
  | _ => rfl

/-- Where an array may be empty, a value begins as it does elsewhere. -/
theorem beginValueOrEmpty_round {c : UInt8} (h : Opens c) (st : List ParseState) :
    (inState .beginValueOrEmpty st).round c = (inState .beginValue st).round c := by
  cases h with
  | digit hd =>
      rcases digit_cases hd with rfl | rfl | rfl | rfl | rfl | rfl | rfl | rfl | rfl | rfl <;> rfl
  | _ => rfl

theorem Goes.of_round {s s' s'' : Scanner} {c : UInt8} {t : Buffer}
    (hround : s.round c = s'.round c) (h : Goes s (c :: t) s'') : Goes s' (c :: t) s'' := by
  intro n
  have hn := h n
  rw [scanBytes, hround] at hn
  rw [scanBytes]
  exact hn

/-- Blanks behind a value that is in another. -/
theorem Behind.blank_goes {p : ParseState} {st : List ParseState} {s : Scanner}
    (h : Behind (p :: st) s) {w : Buffer} (hw : AsciiBlank w) :
    exists s', Behind (p :: st) s' ∧ Goes s w s' := by
  induction w generalizing s with
  | nil => exact ⟨s, h, Goes.nil s⟩
  | cons c w ih =>
      have hspace := hw.head
      have hdelimiter : isDelimiter c = true := by
        simp [isDelimiter, hspace]
      have hstep : s.step c = (.skipSpace, inState .endValue (p :: st)) := by
        rw [h.step hdelimiter]
        cases h <;> exact if_pos hspace
      have hround := round_of_step hstep nofun nofun nofun nofun
      rcases ih Behind.value hw.tail with ⟨s', hs', hgoes⟩
      exact ⟨s', hs', Goes.cons hround hgoes⟩

/-- The scanner goes over the value, which is in another. -/
def GoesOver (t : Buffer) : Prop :=
  forall p st, exists s, Behind (p :: st) s ∧ Goes (inState .beginValue (p :: st)) t s

/-- The scanner behind the closing bracket of a value. -/
def closed : List ParseState -> Round
  | [] => .after { stepFn := .endTop, endTop := true, parseState := [], err := none }
  | p :: st => .goesOn (inState .endValue (p :: st))

theorem element_goes {e : Element} (hspaced : Element.AsciiSpaced e) (hvalue : AsciiValue e.text)
    (hgoes : GoesOver e.text) {stepFn : StepFn}
    (hstep : stepFn = .beginValue ∨ stepFn = .beginValueOrEmpty) (st : List ParseState) :
    exists s, Behind (.arrayValue :: st) s ∧
      Goes (inState stepFn (.arrayValue :: st)) e.whole s := by
  have hlead : Goes (inState stepFn (.arrayValue :: st)) e.lead
      (inState stepFn (.arrayValue :: st)) := by
    apply blank_goes _ _ hspaced.1
    rcases hstep with rfl | rfl <;> decide
  rcases hgoes .arrayValue st with ⟨s, hs, htext⟩
  rcases hvalue.head with ⟨c, rest, heq, hc⟩
  have htext' : Goes (inState stepFn (.arrayValue :: st)) e.text s := by
    rcases hstep with rfl | rfl
    · exact htext
    · rw [heq] at htext
      rw [heq]
      exact Goes.of_round (beginValueOrEmpty_round hc _).symm htext
  rcases hs.blank_goes hspaced.2 with ⟨s', hs', htrail⟩
  exact ⟨s', hs', hlead.append (htext'.append htrail)⟩

theorem elements_follow {es : List Element} (hspaced : forall e, e ∈ es -> Element.AsciiSpaced e)
    (hvalue : forall e, e ∈ es -> AsciiValue e.text) (hgoes : forall e, e ∈ es -> GoesOver e.text)
    {st : List ParseState} {s : Scanner} (hs : Behind (.arrayValue :: st) s) :
    exists s', Behind (.arrayValue :: st) s' ∧ Goes s (following Element.whole es) s' := by
  induction es generalizing s with
  | nil => exact ⟨s, hs, Goes.nil s⟩
  | cons e es ih =>
      have hcomma : s.round valueSeparator = .goesOn (inState .beginValue (.arrayValue :: st)) := by
        cases hs <;> rfl
      rcases element_goes (hspaced e List.mem_cons_self) (hvalue e List.mem_cons_self)
        (hgoes e List.mem_cons_self) (Or.inl rfl) st with ⟨s₁, hs₁, hfirst⟩
      rcases ih (fun e he => hspaced e (List.mem_cons_of_mem _ he))
        (fun e he => hvalue e (List.mem_cons_of_mem _ he))
        (fun e he => hgoes e (List.mem_cons_of_mem _ he)) hs₁ with ⟨s₂, hs₂, hrest⟩
      exact ⟨s₂, hs₂, Goes.cons hcomma (hfirst.append hrest)⟩

theorem elements_goes {es : List Element} {inside : Buffer}
    (hinside : AsciiInside Element.whole es inside)
    (hspaced : forall e, e ∈ es -> Element.AsciiSpaced e)
    (hvalue : forall e, e ∈ es -> AsciiValue e.text) (hgoes : forall e, e ∈ es -> GoesOver e.text)
    (st : List ParseState) :
    exists s, Goes (inState .beginValue st) (beginArray :: inside) s ∧
      s.round Json.endArray = closed st := by
  have hopen : (inState .beginValue st).round Json.beginArray =
      .goesOn (inState .beginValueOrEmpty (.arrayValue :: st)) := rfl
  cases hinside with
  | blank hw =>
      refine ⟨_, Goes.cons hopen (blank_goes (by decide) _ hw), ?_⟩
      cases st <;> rfl
  | items e es =>
      rcases element_goes (hspaced e List.mem_cons_self) (hvalue e List.mem_cons_self)
        (hgoes e List.mem_cons_self) (Or.inr rfl) st with ⟨s₁, hs₁, hfirst⟩
      rcases elements_follow (fun e he => hspaced e (List.mem_cons_of_mem _ he))
        (fun e he => hvalue e (List.mem_cons_of_mem _ he))
        (fun e he => hgoes e (List.mem_cons_of_mem _ he)) hs₁ with ⟨s₂, hs₂, hrest⟩
      refine ⟨s₂, Goes.cons hopen (hfirst.append hrest), ?_⟩
      cases hs₂ <;> cases st <;> rfl

theorem member_goes {m : Member} (hspaced : Member.AsciiSpaced m) (hkey : StringText m.key)
    (hgoes : GoesOver m.text) {stepFn : StepFn}
    (hstep : stepFn = .beginString ∨ stepFn = .beginStringOrEmpty) (st : List ParseState) :
    exists s, Behind (.objectValue :: st) s ∧
      Goes (inState stepFn (.objectKey :: st)) m.whole s := by
  have hskip : stepFn ∈ skipping := by
    rcases hstep with rfl | rfl <;> decide
  have hlead := blank_goes hskip (.objectKey :: st) hspaced.1
  have hkey' := stringText_goes hkey hskip (.objectKey :: st)
  have hend : Behind (.objectKey :: st) (inState .endValue (.objectKey :: st)) := .value
  rcases hend.blank_goes hspaced.2.1 with ⟨s, hs, hbefore⟩
  have hcolon : s.round nameSeparator = .goesOn (inState .beginValue (.objectValue :: st)) := by
    cases hs <;> rfl
  have hafter : Goes (inState .beginValue (.objectValue :: st)) m.afterColon
      (inState .beginValue (.objectValue :: st)) := blank_goes (by decide) _ hspaced.2.2.1
  rcases hgoes .objectValue st with ⟨s₁, hs₁, htext⟩
  rcases hs₁.blank_goes hspaced.2.2.2 with ⟨s₂, hs₂, htrail⟩
  refine ⟨s₂, hs₂, hlead.append (hkey'.append (hbefore.append (Goes.cons hcolon ?_)))⟩
  exact hafter.append (htext.append htrail)

theorem members_follow {ms : List Member} (hspaced : forall m, m ∈ ms -> Member.AsciiSpaced m)
    (hkey : forall m, m ∈ ms -> StringText m.key) (hgoes : forall m, m ∈ ms -> GoesOver m.text)
    {st : List ParseState} {s : Scanner} (hs : Behind (.objectValue :: st) s) :
    exists s', Behind (.objectValue :: st) s' ∧ Goes s (following Member.whole ms) s' := by
  induction ms generalizing s with
  | nil => exact ⟨s, hs, Goes.nil s⟩
  | cons m ms ih =>
      have hcomma : s.round valueSeparator = .goesOn (inState .beginString (.objectKey :: st)) := by
        cases hs <;> rfl
      rcases member_goes (hspaced m List.mem_cons_self) (hkey m List.mem_cons_self)
        (hgoes m List.mem_cons_self) (Or.inl rfl) st with ⟨s₁, hs₁, hfirst⟩
      rcases ih (fun m hm => hspaced m (List.mem_cons_of_mem _ hm))
        (fun m hm => hkey m (List.mem_cons_of_mem _ hm))
        (fun m hm => hgoes m (List.mem_cons_of_mem _ hm)) hs₁ with ⟨s₂, hs₂, hrest⟩
      exact ⟨s₂, hs₂, Goes.cons hcomma (hfirst.append hrest)⟩

theorem members_goes {ms : List Member} {inside : Buffer}
    (hinside : AsciiInside Member.whole ms inside)
    (hspaced : forall m, m ∈ ms -> Member.AsciiSpaced m)
    (hkey : forall m, m ∈ ms -> StringText m.key) (hgoes : forall m, m ∈ ms -> GoesOver m.text)
    (st : List ParseState) :
    exists s, Goes (inState .beginValue st) (beginObject :: inside) s ∧
      s.round Json.endObject = closed st := by
  have hopen : (inState .beginValue st).round Json.beginObject =
      .goesOn (inState .beginStringOrEmpty (.objectKey :: st)) := rfl
  cases hinside with
  | blank hw =>
      refine ⟨_, Goes.cons hopen (blank_goes (by decide) _ hw), ?_⟩
      cases st <;> rfl
  | items m ms =>
      rcases member_goes (hspaced m List.mem_cons_self) (hkey m List.mem_cons_self)
        (hgoes m List.mem_cons_self) (Or.inr rfl) st with ⟨s₁, hs₁, hfirst⟩
      rcases members_follow (fun m hm => hspaced m (List.mem_cons_of_mem _ hm))
        (fun m hm => hkey m (List.mem_cons_of_mem _ hm))
        (fun m hm => hgoes m (List.mem_cons_of_mem _ hm)) hs₁ with ⟨s₂, hs₂, hrest⟩
      refine ⟨s₂, Goes.cons hopen (hfirst.append hrest), ?_⟩
      cases hs₂ <;> cases st <;> rfl

theorem value_goes {t : Buffer} (h : AsciiValue t) : GoesOver t := by
  intro p st
  induction h generalizing p st with
  | scalar h => exact scalar_goes h (p :: st)
  | array hinside hspaced hvalue ih =>
      rcases elements_goes hinside hspaced hvalue ih (p :: st) with ⟨s, hgoes, hclose⟩
      exact ⟨_, .value, hgoes.append (Goes.byte hclose)⟩
  | object hinside hspaced hkey hvalue ih =>
      rcases members_goes hinside hspaced hkey ih (p :: st) with ⟨s, hgoes, hclose⟩
      exact ⟨_, .value, hgoes.append (Goes.byte hclose)⟩

/-!
# Values at the top
-/

theorem new_eq : Scanner.new = inState .beginValue [] := rfl

/-- A container ends with its bracket, whatever follows. -/
theorem container_scan {t : Buffer} (h : AsciiContainer t) (rest : Buffer) (n : Nat) :
    exists s, scanBytes Scanner.new (t ++ rest) n = .value (n + t.length) s := by
  rw [new_eq]
  cases h with
  | @array es inside hinside hspaced hvalue =>
      rcases elements_goes hinside hspaced hvalue (fun e he => value_goes (hvalue e he)) []
        with ⟨s, hgoes, hclose⟩
      have hend := hgoes.scan (Json.endArray :: rest) n
      rw [scanBytes, hclose] at hend
      exact ⟨_, by simpa [closed, Nat.add_assoc] using hend⟩
  | @object ms inside hinside hspaced hkey hvalue =>
      rcases members_goes hinside hspaced hkey (fun m hm => value_goes (hvalue m hm)) []
        with ⟨s, hgoes, hclose⟩
      have hend := hgoes.scan (Json.endObject :: rest) n
      rw [scanBytes, hclose] at hend
      exact ⟨_, by simpa [closed, Nat.add_assoc] using hend⟩

/-- A scalar ends before the delimiter behind it. -/
theorem scalar_scan {t : Buffer} (h : Scalar t) {c : UInt8} (hc : isDelimiter c = true)
    (rest : Buffer) (n : Nat) :
    exists s, scanBytes Scanner.new (t ++ c :: rest) n = .value (n + t.length) s := by
  rcases scalar_goes h [] with ⟨s, hs, hgoes⟩
  have hround : exists s', s.round c = .before s' := by
    unfold round
    rw [hs.step hc]
    cases hs <;> exact ⟨_, rfl⟩
  rcases hround with ⟨s', hround⟩
  refine ⟨s', ?_⟩
  rw [new_eq, hgoes.scan, scanBytes, hround]

/-- A scalar may end with the input. -/
theorem scalar_scan_end {t : Buffer} (h : Scalar t) (n : Nat) :
    exists s, scanBytes Scanner.new t n = .more s ∧ (s.step 0x20).1 = .ends := by
  rcases scalar_goes h [] with ⟨s, hs, hgoes⟩
  refine ⟨s, hgoes n, ?_⟩
  rw [hs.step (by decide)]
  cases hs <;> rfl

/-- Blanks before a value. -/
theorem blank_scan {w : Buffer} (hw : AsciiBlank w) (rest : Buffer) (n : Nat) :
    scanBytes Scanner.new (w ++ rest) n = scanBytes Scanner.new rest (n + w.length) :=
  (blank_goes (by decide) [] hw).scan rest n

end Scanner
end Httpx
end CouchbaseSdk
