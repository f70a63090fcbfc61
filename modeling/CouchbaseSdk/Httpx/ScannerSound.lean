import CouchbaseSdk.Httpx.ScannerGrammar

/-!
# What the scanner reads

Where the scan of a value ends, it has gone over the text of one.  What a step function still
has to read of a scalar and what may follow in the open containers are said first; each step
then reads a byte of the text that completes the value.
-/

namespace CouchbaseSdk
namespace Httpx

open Foundation Foundation.Json

namespace Scanner

/-!
# Open containers
-/

/-- The texts that may follow a value in the open containers, up to the end of the outermost
one. -/
inductive Follows : List ParseState -> Buffer -> Prop where
  | top : Follows [] []
  | blank {c : UInt8} {p : ParseState} {st : List ParseState} {t : Buffer}
      (hc : isAsciiWhitespace c = true) (h : Follows (p :: st) t) : Follows (p :: st) (c :: t)
  | endArray {st : List ParseState} {t : Buffer} (h : Follows st t) :
      Follows (.arrayValue :: st) (Json.endArray :: t)
  | element {st : List ParseState} {w v t : Buffer} (hw : AsciiBlank w) (hv : AsciiValue v)
      (h : Follows (.arrayValue :: st) t) :
      Follows (.arrayValue :: st) (valueSeparator :: (w ++ (v ++ t)))
  | endObject {st : List ParseState} {t : Buffer} (h : Follows st t) :
      Follows (.objectValue :: st) (Json.endObject :: t)
  | key {st : List ParseState} {w k t : Buffer} (hw : AsciiBlank w) (hk : StringText k)
      (h : Follows (.objectKey :: st) t) :
      Follows (.objectValue :: st) (valueSeparator :: (w ++ (k ++ t)))
  | value {st : List ParseState} {w v t : Buffer} (hw : AsciiBlank w) (hv : AsciiValue v)
      (h : Follows (.objectValue :: st) t) :
      Follows (.objectKey :: st) (nameSeparator :: (w ++ (v ++ t)))

/-- The rest of an array behind an element. -/
def RestOfArray (st : List ParseState) (t : Buffer) : Prop :=
  exists w es u, t = w ++ (following Element.whole es ++ Json.endArray :: u) ∧ AsciiBlank w ∧
    (forall e, e ∈ es -> Element.AsciiSpaced e ∧ AsciiValue e.text) ∧ Follows st u

/-- The rest of an object behind a member. -/
def RestOfObject (st : List ParseState) (t : Buffer) : Prop :=
  exists w ms u, t = w ++ (following Member.whole ms ++ Json.endObject :: u) ∧ AsciiBlank w ∧
    (forall m, m ∈ ms -> Member.AsciiSpaced m ∧ StringText m.key ∧ AsciiValue m.text) ∧
    Follows st u

/-- The rest of an object behind a key. -/
def RestOfMember (st : List ParseState) (t : Buffer) : Prop :=
  exists w w' v r, t = w ++ nameSeparator :: (w' ++ (v ++ r)) ∧ AsciiBlank w ∧ AsciiBlank w' ∧
    AsciiValue v ∧ RestOfObject st r

/-- The rest of the innermost open container. -/
def RestOfContainer : List ParseState -> Buffer -> Prop
  | [], _ => True
  | .arrayValue :: st, t => RestOfArray st t
  | .objectValue :: st, t => RestOfObject st t
  | .objectKey :: st, t => RestOfMember st t

theorem follows_rest {q : List ParseState} {t : Buffer} (h : Follows q t) :
    RestOfContainer q t := by
  induction h with
  | top => trivial
  | @blank c p _ _ hc _ ih =>
      cases p with
      | arrayValue =>
          rcases ih with ⟨w, es, u, rfl, hw, hes⟩
          exact ⟨c :: w, es, u, rfl, .cons hc hw, hes⟩
      | objectValue =>
          rcases ih with ⟨w, ms, u, rfl, hw, hms⟩
          exact ⟨c :: w, ms, u, rfl, .cons hc hw, hms⟩
      | objectKey =>
          rcases ih with ⟨w, w', v, r, rfl, hw, hrest⟩
          exact ⟨c :: w, w', v, r, rfl, .cons hc hw, hrest⟩
  | @endArray _ t h _ => exact ⟨[], [], t, rfl, .nil, (fun _ he => by cases he), h⟩
  | @element _ w v _ hw hv _ ih =>
      rcases ih with ⟨w', es, u, rfl, hw', hes, hu⟩
      refine ⟨[], ⟨w, v, w'⟩ :: es, u, ?_, .nil, ?_, hu⟩
      · simp [following, Element.whole]
      · intro e he
        rcases List.mem_cons.mp he with rfl | he
        · exact ⟨⟨hw, hw'⟩, hv⟩
        · exact hes e he
  | @endObject _ t h _ => exact ⟨[], [], t, rfl, .nil, (fun _ hm => by cases hm), h⟩
  | @key _ w k _ hw hk _ ih =>
      rcases ih with ⟨w₁, w₂, v, _, rfl, hw₁, hw₂, hv, w₃, ms, u, rfl, hw₃, hms, hu⟩
      refine ⟨[], ⟨w, k, w₁, w₂, v, w₃⟩ :: ms, u, ?_, .nil, ?_, hu⟩
      · simp [following, Member.whole]
      · intro m hm
        rcases List.mem_cons.mp hm with rfl | hm
        · exact ⟨⟨hw, hw₁, hw₂, hw₃⟩, hk, hv⟩
        · exact hms m hm
  | @value _ w v t hw hv _ ih => exact ⟨[], w, v, t, rfl, .nil, hw, hv, ih⟩

/-!
# Scalars
-/

/-- The rest of a number behind its integer. -/
def AfterInteger (x : Buffer) : Prop :=
  exists fraction exponent, FractionText fraction ∧ ExponentText exponent ∧
    x = fraction ++ exponent

/-- The rest of a string in which `chars` is what may come next. -/
def RestOfString (chars : Buffer -> Prop) (x : Buffer) : Prop :=
  exists t, chars t ∧ x = t ++ [quotationMark]

/-- What the step function still has to read of a scalar. -/
def Rest : StepFn -> Buffer -> Prop
  | .endValue, x => x = []
  | .inString, x => RestOfString StringChars x
  | .inStringEsc, x => RestOfString (fun t => StringChars (reverseSolidus :: t)) x
  | .inStringEscU, x => RestOfString (fun t => StringChars (reverseSolidus :: 0x75 :: t)) x
  | .inStringEscU1, x =>
      RestOfString (fun t => forall a, isHexDigit a = true ->
        StringChars (reverseSolidus :: 0x75 :: a :: t)) x
  | .inStringEscU12, x =>
      RestOfString (fun t => forall a b, isHexDigit a = true -> isHexDigit b = true ->
        StringChars (reverseSolidus :: 0x75 :: a :: b :: t)) x
  | .inStringEscU123, x =>
      RestOfString (fun t => forall a b c, isHexDigit a = true -> isHexDigit b = true ->
        isHexDigit c = true -> StringChars (reverseSolidus :: 0x75 :: a :: b :: c :: t)) x
  | .neg, x => exists integer r, IntegerText integer ∧ AfterInteger r ∧ x = integer ++ r
  | .one, x => exists ds r, Digits ds ∧ AfterInteger r ∧ x = ds ++ r
  | .zero, x => AfterInteger x
  | .dot, x =>
      exists d ds exponent, isDigit d = true ∧ Digits ds ∧ ExponentText exponent ∧
        x = d :: (ds ++ exponent)
  | .dot0, x => exists ds exponent, Digits ds ∧ ExponentText exponent ∧ x = ds ++ exponent
  | .e, x =>
      exists sign d ds, (sign = [] ∨ sign = [plus] ∨ sign = [minus]) ∧ isDigit d = true ∧
        Digits ds ∧ x = sign ++ d :: ds
  | .eSign, x => exists d ds, isDigit d = true ∧ Digits ds ∧ x = d :: ds
  | .e0, x => Digits x
  | .t, x => x = [0x72, 0x75, 0x65]
  | .tr, x => x = [0x75, 0x65]
  | .tru, x => x = [0x65]
  | .f, x => x = [0x61, 0x6c, 0x73, 0x65]
  | .fa, x => x = [0x6c, 0x73, 0x65]
  | .fal, x => x = [0x73, 0x65]
  | .fals, x => x = [0x65]
  | .n, x => x = [0x75, 0x6c, 0x6c]
  | .nu, x => x = [0x6c, 0x6c]
  | .nul, x => x = [0x6c]
  | _, _ => False

theorem digits_cons {d : UInt8} {ds : Buffer} (hd : isDigit d = true) (hds : Digits ds) :
    Digits (d :: ds) := by
  intro b hb
  rcases List.mem_cons.mp hb with rfl | hb
  · exact hd
  · exact hds b hb

theorem afterInteger_nil : AfterInteger [] := ⟨[], [], .absent, .absent, rfl⟩

theorem afterInteger_point {x : Buffer} (h : Rest .dot x) : AfterInteger (decimalPoint :: x) := by
  rcases h with ⟨d, ds, exponent, hd, hds, hexponent, rfl⟩
  exact ⟨decimalPoint :: d :: ds, exponent, .digits hd hds, hexponent, rfl⟩

theorem exponent_of_rest {e : UInt8} {x : Buffer} (he : e = 0x65 ∨ e = 0x45) (h : Rest .e x) :
    ExponentText (e :: x) := by
  rcases h with ⟨sign, d, ds, hsign, hd, hds, rfl⟩
  exact .digits he hsign hd hds

theorem afterInteger_exponent {e : UInt8} {x : Buffer} (he : e = 0x65 ∨ e = 0x45)
    (h : Rest .e x) : AfterInteger (e :: x) :=
  ⟨[], e :: x, .absent, exponent_of_rest he h, rfl⟩

/-!
# Texts that complete a value
-/

/-- A value with whitespace before it, and what follows it. -/
def CompletesValue (st : List ParseState) (u : Buffer) : Prop :=
  exists w v t, AsciiBlank w ∧ AsciiValue v ∧ Follows st t ∧ u = w ++ (v ++ t)

/-- A key with whitespace before it, and what follows it. -/
def CompletesKey (st : List ParseState) (u : Buffer) : Prop :=
  exists w k t, AsciiBlank w ∧ StringText k ∧ Follows st t ∧ u = w ++ (k ++ t)

/-- The closing bracket with whitespace before it, and what follows it. -/
def CompletesEmpty (close : UInt8) (st : List ParseState) (u : Buffer) : Prop :=
  exists w t, AsciiBlank w ∧ Follows st.tail t ∧ u = w ++ close :: t

/-- The texts that complete the outermost value. -/
def Completes (stepFn : StepFn) (st : List ParseState) (u : Buffer) : Prop :=
  match stepFn with
  | .beginValue => CompletesValue st u
  | .beginValueOrEmpty => CompletesValue st u ∨ CompletesEmpty Json.endArray st u
  | .beginString => CompletesKey st u
  | .beginStringOrEmpty => CompletesKey st u ∨ CompletesEmpty Json.endObject st u
  | _ => exists x t, Rest stepFn x ∧ Follows st t ∧ u = x ++ t

/-- The open values that a step function is entered with. -/
def Fits : StepFn -> List ParseState -> Prop
  | .beginValueOrEmpty, st => exists st', st = .arrayValue :: st'
  | .beginString, st => exists st', st = .objectKey :: st'
  | .beginStringOrEmpty, st => exists st', st = .objectKey :: st'
  | .endTop, _ => False
  | .error, _ => False
  | _, _ => True

/-!
# Steps
-/

/-- What a step reads: a byte of what completes the value, the bracket that closes the
innermost open value, or nothing, the value being complete. -/
inductive Leads (stepFn : StepFn) (st : List ParseState) (c : UInt8) :
    ScanState × Scanner -> Prop where
  | goes {state : ScanState} {stepFn' : StepFn} {st' : List ParseState} (hends : state ≠ .ends)
      (herror : state ≠ .error) (hobject : state ≠ .endObject) (harray : state ≠ .endArray)
      (hfits : Fits stepFn' st')
      (h : forall u, Completes stepFn' st' u -> Completes stepFn st (c :: u)) :
      Leads stepFn st c (state, inState stepFn' st')
  | closes {state : ScanState} {stepFn' : StepFn} {p : ParseState} {st' : List ParseState}
      (hstate : state = .endObject ∨ state = .endArray)
      (h : forall u, Follows st' u -> Completes stepFn st (c :: u)) :
      Leads stepFn st c (state, (inState stepFn' (p :: st')).popParseState)
  | ends {s : Scanner} (h : Completes stepFn st []) : Leads stepFn st c (.ends, s)
  | failed {s : Scanner} : Leads stepFn st c (.error, s)

variable {stepFn next : StepFn} {st : List ParseState} {c : UInt8}

/-- The step functions that are not inside of a value. -/
def outside : List StepFn := .endTop :: .error :: skipping

theorem fits_inside (hnext : next ∉ outside) : Fits next st := by
  cases next <;> trivial

theorem completes_inside (hnext : next ∉ outside) {u : Buffer} :
    Completes next st u ↔ exists x t, Rest next x ∧ Follows st t ∧ u = x ++ t := by
  cases next <;> first
    | exact Iff.rfl
    | exact absurd (by decide) hnext

/-- Behind a value. -/
theorem leads_endValue (stepFn' : StepFn)
    (h : forall u, Follows st u -> Completes stepFn st u) :
    Leads stepFn st c ((inState stepFn' st).stateEndValue c) := by
  cases st with
  | nil => exact .ends (h [] .top)
  | cons p st =>
      unfold stateEndValue
      dsimp only [inState]
      split
      · next hc =>
          apply @Leads.goes _ _ _ _ .endValue (p :: st) (by decide) (by decide) (by decide)
            (by decide) trivial
          rintro u ⟨x, t, rfl, ht, rfl⟩
          exact h _ (.blank hc ht)
      · cases p with
        | objectKey =>
            dsimp only
            split
            · next hc =>
                rw [hc]
                apply @Leads.goes _ _ _ _ .beginValue (.objectValue :: st) (by decide) (by decide)
                  (by decide) (by decide) trivial
                rintro u ⟨w, v, t, hw, hv, ht, rfl⟩
                exact h _ (.value hw hv ht)
            · exact .failed
        | objectValue =>
            dsimp only
            split
            · next hc =>
                rw [hc]
                apply @Leads.goes _ _ _ _ .beginString (.objectKey :: st) (by decide) (by decide)
                  (by decide) (by decide) ⟨st, rfl⟩
                rintro u ⟨w, k, t, hw, hk, ht, rfl⟩
                exact h _ (.key hw hk ht)
            · split
              · next hc =>
                  rw [hc]
                  exact @Leads.closes _ _ _ _ stepFn' .objectValue st (Or.inl rfl)
                    fun u hu => h _ (.endObject hu)
              · exact .failed
        | arrayValue =>
            dsimp only
            split
            · next hc =>
                rw [hc]
                apply @Leads.goes _ _ _ _ .beginValue (.arrayValue :: st) (by decide) (by decide)
                  (by decide) (by decide) trivial
                rintro u ⟨w, v, t, hw, hv, ht, rfl⟩
                exact h _ (.element hw hv ht)
            · split
              · next hc =>
                  rw [hc]
                  exact @Leads.closes _ _ _ _ stepFn' .arrayValue st (Or.inr rfl)
                    fun u hu => h _ (.endArray hu)
              · exact .failed

/-!
# Beginnings of values
-/

theorem completes_array {u : Buffer}
    (h : Completes .beginValueOrEmpty (.arrayValue :: st) u) :
    CompletesValue st (Json.beginArray :: u) := by
  rcases h with ⟨w, v, t, hw, hv, ht, rfl⟩ | ⟨w, t, hw, ht, rfl⟩
  · rcases follows_rest ht with ⟨w', es, u, rfl, hw', hes, hu⟩
    refine ⟨[], Json.beginArray :: ((Element.whole ⟨w, v, w'⟩ ++ following Element.whole es) ++
      [Json.endArray]), u, .nil, .array (.items ⟨w, v, w'⟩ es) ?_ ?_, hu, ?_⟩
    · intro e he
      rcases List.mem_cons.mp he with rfl | he
      · exact ⟨hw, hw'⟩
      · exact (hes e he).1
    · intro e he
      rcases List.mem_cons.mp he with rfl | he
      · exact hv
      · exact (hes e he).2
    · simp [Element.whole]
  · refine ⟨[], Json.beginArray :: (w ++ [Json.endArray]), t, .nil,
      .array (.blank hw) (fun _ he => by cases he) (fun _ he => by cases he), ht, ?_⟩
    simp

theorem completes_object {u : Buffer}
    (h : Completes .beginStringOrEmpty (.objectKey :: st) u) :
    CompletesValue st (Json.beginObject :: u) := by
  rcases h with ⟨w, k, t, hw, hk, ht, rfl⟩ | ⟨w, t, hw, ht, rfl⟩
  · rcases follows_rest ht with
      ⟨w₁, w₂, v, _, rfl, hw₁, hw₂, hv, w₃, ms, u, rfl, hw₃, hms, hu⟩
    refine ⟨[], Json.beginObject :: ((Member.whole ⟨w, k, w₁, w₂, v, w₃⟩ ++
      following Member.whole ms) ++ [Json.endObject]), u, .nil,
      .object (.items ⟨w, k, w₁, w₂, v, w₃⟩ ms) ?_ ?_ ?_, hu, ?_⟩
    · intro m hm
      rcases List.mem_cons.mp hm with rfl | hm
      · exact ⟨hw, hw₁, hw₂, hw₃⟩
      · exact (hms m hm).1
    · intro m hm
      rcases List.mem_cons.mp hm with rfl | hm
      · exact hk
      · exact (hms m hm).2.1
    · intro m hm
      rcases List.mem_cons.mp hm with rfl | hm
      · exact hv
      · exact (hms m hm).2.2
    · simp [Member.whole]
  · refine ⟨[], Json.beginObject :: (w ++ [Json.endObject]), t, .nil,
      .object (.blank hw) (fun _ hm => by cases hm) (fun _ hm => by cases hm)
        (fun _ hm => by cases hm), ht, ?_⟩
    simp

theorem completes_scalar {x t : Buffer} (hx : Scalar (c :: x)) (ht : Follows st t) :
    CompletesValue st (c :: (x ++ t)) :=
  ⟨[], c :: x, t, .nil, .scalar hx, ht, rfl⟩

/-- The first byte of a scalar. -/
theorem leads_literal (hvalue : forall u, CompletesValue st u -> Completes stepFn st u)
    (hnext : next ∉ outside) (h : forall x, Rest next x -> Scalar (c :: x)) :
    Leads stepFn st c ((inState stepFn st).beginLiteral next) := by
  apply @Leads.goes stepFn st c .beginLiteral next st (by decide) (by decide) (by decide)
    (by decide) (fits_inside hnext)
  intro u hu
  rcases (completes_inside hnext).mp hu with ⟨x, t, hx, ht, rfl⟩
  exact hvalue _ (completes_scalar (h x hx) ht)

theorem scalar_string {x : Buffer} (h : Rest .inString x) : Scalar (quotationMark :: x) := by
  rcases h with ⟨chars, hchars, rfl⟩
  exact .string (.quoted hchars)

theorem scalar_number {sign integer r : Buffer} (hsign : sign = [] ∨ sign = [minus])
    (hinteger : IntegerText integer) (hr : AfterInteger r) :
    Scalar (sign ++ (integer ++ r)) := by
  rcases hr with ⟨fraction, exponent, hfraction, hexponent, rfl⟩
  exact .number (.parts hsign hinteger hfraction hexponent)

theorem scalar_neg {x : Buffer} (h : Rest .neg x) : Scalar (minus :: x) := by
  rcases h with ⟨integer, r, hinteger, hr, rfl⟩
  exact scalar_number (Or.inr rfl) hinteger hr

theorem scalar_zero {x : Buffer} (h : Rest .zero x) : Scalar (Json.zero :: x) :=
  scalar_number (Or.inl rfl) .zero h

theorem scalar_digit {x : Buffer} (hd : isDigit c = true) (hzero : c ≠ Json.zero)
    (h : Rest .one x) : Scalar (c :: x) := by
  rcases h with ⟨ds, r, hds, hr, rfl⟩
  exact scalar_number (Or.inl rfl) (.digits hd hzero hds) hr

/-- Before a value, past whitespace. -/
theorem leads_beginValue (hvalue : forall u, CompletesValue st u -> Completes stepFn st u)
    (hc : isAsciiWhitespace c = false) :
    Leads stepFn st c ((inState stepFn st).stateBeginValue c) := by
  unfold stateBeginValue
  rw [hc, if_neg Bool.false_ne_true]
  split
  · next h =>
      rw [h]
      exact @Leads.goes _ _ _ .beginObject .beginStringOrEmpty (.objectKey :: st) (by decide)
        (by decide) (by decide) (by decide) ⟨st, rfl⟩ fun u hu => hvalue _ (completes_object hu)
  · split
    · next h =>
        rw [h]
        exact @Leads.goes _ _ _ .beginArray .beginValueOrEmpty (.arrayValue :: st) (by decide)
          (by decide) (by decide) (by decide) ⟨st, rfl⟩ fun u hu => hvalue _ (completes_array hu)
    · split
      · next h =>
          rw [h]
          exact leads_literal hvalue (by decide) fun _ hx => scalar_string hx
      · split
        · next h =>
            rw [h]
            exact leads_literal hvalue (by decide) fun _ hx => scalar_neg hx
        · split
          · next h =>
              rw [h]
              exact leads_literal hvalue (by decide) fun _ hx => scalar_zero hx
          · next hzero =>
              split
              · next h =>
                  rw [h]
                  exact @leads_literal _ .t _ _ hvalue (by decide) fun _ hx => by
                    cases hx
                    exact .true
              · split
                · next h =>
                    rw [h]
                    exact @leads_literal _ .f _ _ hvalue (by decide) fun _ hx => by
                      cases hx
                      exact .false
                · split
                  · next h =>
                      rw [h]
                      exact @leads_literal _ .n _ _ hvalue (by decide) fun _ hx => by
                        cases hx
                        exact .null
                  · split
                    · next hd =>
                        exact leads_literal hvalue (by decide)
                          fun _ hx => scalar_digit hd hzero hx
                    · exact .failed

theorem completesValue_blank {u : Buffer} (hc : isAsciiWhitespace c = true)
    (h : CompletesValue st u) : CompletesValue st (c :: u) := by
  rcases h with ⟨w, v, t, hw, hv, ht, rfl⟩
  exact ⟨c :: w, v, t, .cons hc hw, hv, ht, rfl⟩

theorem completesKey_blank {u : Buffer} (hc : isAsciiWhitespace c = true)
    (h : CompletesKey st u) : CompletesKey st (c :: u) := by
  rcases h with ⟨w, k, t, hw, hk, ht, rfl⟩
  exact ⟨c :: w, k, t, .cons hc hw, hk, ht, rfl⟩

theorem completesEmpty_blank {close : UInt8} {u : Buffer} (hc : isAsciiWhitespace c = true)
    (h : CompletesEmpty close st u) : CompletesEmpty close st (c :: u) := by
  rcases h with ⟨w, t, hw, ht, rfl⟩
  exact ⟨c :: w, t, .cons hc hw, ht, rfl⟩

/-- Whitespace before a value, a key or a closing bracket. -/
theorem leads_blank (hstep : stepFn ∈ skipping) (hfits : Fits stepFn st)
    (hc : isAsciiWhitespace c = true) :
    Leads stepFn st c (.skipSpace, inState stepFn st) := by
  apply Leads.goes (by decide) (by decide) (by decide) (by decide) hfits
  intro u hu
  simp only [skipping, List.mem_cons, List.not_mem_nil, or_false] at hstep
  rcases hstep with rfl | rfl | rfl | rfl
  · exact completesValue_blank hc hu
  · exact hu.imp (completesValue_blank hc) (completesEmpty_blank hc)
  · exact hu.imp (completesKey_blank hc) (completesEmpty_blank hc)
  · exact completesKey_blank hc hu

/-- Before a key, past whitespace. -/
theorem leads_beginString (hkey : forall u, CompletesKey st u -> Completes stepFn st u)
    (hc : isAsciiWhitespace c = false) :
    Leads stepFn st c ((inState stepFn st).stateBeginString c) := by
  unfold stateBeginString
  rw [hc, if_neg Bool.false_ne_true]
  split
  · next h =>
      rw [h]
      apply @Leads.goes _ _ _ .beginLiteral .inString st (by decide) (by decide) (by decide)
        (by decide) trivial
      rintro u ⟨_, t, ⟨chars, hchars, rfl⟩, ht, rfl⟩
      exact hkey _ ⟨[], quotationMark :: (chars ++ [quotationMark]), t, .nil, .quoted hchars, ht,
        rfl⟩
  · exact .failed

/-!
# Inside scalars
-/

/-- On to another step function of the same scalar. -/
theorem leads_on (hfn : stepFn ∉ outside) (hnext : next ∉ outside)
    (h : forall x, Rest next x -> Rest stepFn (c :: x)) :
    Leads stepFn st c ((inState stepFn st).continueWith next) := by
  apply @Leads.goes stepFn st c .continues next st (by decide) (by decide) (by decide) (by decide)
    (fits_inside hnext)
  intro u hu
  rcases (completes_inside hnext).mp hu with ⟨x, t, hx, ht, rfl⟩
  exact (completes_inside hfn).mpr ⟨c :: x, t, h x hx, ht, rfl⟩

/-- A value may end here. -/
theorem leads_end (hfn : stepFn ∉ outside) (h : Rest stepFn []) :
    Leads stepFn st c ((inState stepFn st).stateEndValue c) :=
  leads_endValue stepFn fun u hu => (completes_inside hfn).mpr ⟨[], u, h, hu, rfl⟩

theorem leads_hexDigit (hfn : stepFn ∉ outside) (hnext : next ∉ outside)
    (h : isHexDigit c = true -> forall x, Rest next x -> Rest stepFn (c :: x)) :
    Leads stepFn st c (stateHexDigit next (inState stepFn st) c) := by
  unfold stateHexDigit
  split
  · next hc => exact leads_on hfn hnext (h hc)
  · exact .failed

theorem leads_expected {expected : UInt8} {context : String} (hfn : stepFn ∉ outside)
    (hnext : next ∉ outside) (h : forall x, Rest next x -> Rest stepFn (expected :: x)) :
    Leads stepFn st c (stateLiteral expected next context (inState stepFn st) c) := by
  unfold stateLiteral
  split
  · next hc =>
      rw [hc]
      exact leads_on hfn hnext h
  · exact .failed

theorem leads_state0 (hfn : stepFn ∉ outside)
    (h : forall r, AfterInteger r -> Rest stepFn r) :
    Leads stepFn st c ((inState stepFn st).state0 c) := by
  unfold state0
  split
  · next hc =>
      rw [hc]
      exact leads_on hfn (by decide) fun _ hx => h _ (afterInteger_point hx)
  · split
    · next hc => exact leads_on hfn (by decide) fun _ hx => h _ (afterInteger_exponent hc hx)
    · exact leads_end hfn (h _ afterInteger_nil)

theorem leads_eSign (hfn : stepFn ∉ outside)
    (h : isDigit c = true -> forall ds, Digits ds -> Rest stepFn (c :: ds)) :
    Leads stepFn st c ((inState stepFn st).stateESign c) := by
  unfold stateESign
  split
  · next hd => exact leads_on hfn (by decide) (h hd)
  · exact .failed

/-- What a step reads. -/
theorem step_leads (hfits : Fits stepFn st) (c : UInt8) :
    Leads stepFn st c ((inState stepFn st).step c) := by
  cases stepFn with
  | beginValue =>
      cases hc : isAsciiWhitespace c with
      | true =>
          have h : (inState .beginValue st).step c = (.skipSpace, inState .beginValue st) :=
            if_pos hc
          rw [h]
          exact leads_blank (by decide) hfits hc
      | false => exact leads_beginValue (fun _ hu => hu) hc
  | beginValueOrEmpty =>
      change Leads _ _ _ (stateBeginValueOrEmpty _ c)
      unfold stateBeginValueOrEmpty
      split
      · next hc => exact leads_blank (by decide) hfits hc
      · next hc =>
          split
          · next hclose =>
              rcases hfits with ⟨st', rfl⟩
              rw [hclose]
              exact @Leads.closes _ _ _ .endArray .beginValueOrEmpty .arrayValue st' (Or.inr rfl)
                fun u hu => Or.inr ⟨[], u, .nil, hu, rfl⟩
          · exact leads_beginValue (fun _ hu => Or.inl hu) (Bool.eq_false_iff.mpr hc)
  | beginStringOrEmpty =>
      change Leads _ _ _ (stateBeginStringOrEmpty _ c)
      unfold stateBeginStringOrEmpty
      split
      · next hc => exact leads_blank (by decide) hfits hc
      · next hc =>
          split
          · next hclose =>
              rcases hfits with ⟨st', rfl⟩
              rw [hclose]
              exact @Leads.closes _ _ _ .endObject .beginStringOrEmpty .objectValue st'
                (Or.inl rfl) fun u hu => Or.inr ⟨[], u, .nil, hu, rfl⟩
          · exact leads_beginString (fun _ hu => Or.inl hu) (Bool.eq_false_iff.mpr hc)
  | beginString =>
      cases hc : isAsciiWhitespace c with
      | true =>
          have h : (inState .beginString st).step c = (.skipSpace, inState .beginString st) :=
            if_pos hc
          rw [h]
          exact leads_blank (by decide) hfits hc
      | false => exact leads_beginString (fun _ hu => hu) hc
  | endValue => exact leads_end (by decide) rfl
  | endTop => exact absurd hfits id
  | inString =>
      change Leads _ _ _ (stateInString _ c)
      unfold stateInString
      split
      · next hc =>
          rw [hc]
          exact leads_on (by decide) (by decide) fun x hx => ⟨[], .nil, by rw [hx]; rfl⟩
      · next hquote =>
          split
          · next hc =>
              rw [hc]
              refine leads_on (by decide) (by decide) ?_
              rintro _ ⟨chars, hchars, rfl⟩
              exact ⟨reverseSolidus :: chars, hchars, rfl⟩
          · next hescape =>
              split
              · exact .failed
              · next hcontrol =>
                  refine @leads_on _ .inString _ _ (by decide) (by decide) ?_
                  rintro _ ⟨chars, hchars, rfl⟩
                  exact ⟨c :: chars, .plain hquote hescape (UInt8.not_lt.mp hcontrol) hchars, rfl⟩
  | inStringEsc =>
      change Leads _ _ _ (stateInStringEsc _ c)
      unfold stateInStringEsc
      split
      · next hc =>
          refine leads_on (by decide) (by decide) ?_
          rintro _ ⟨chars, hchars, rfl⟩
          exact ⟨c :: chars, .escaped hc hchars, rfl⟩
      · split
        · next hc =>
            rw [hc]
            refine leads_on (by decide) (by decide) ?_
            rintro _ ⟨chars, hchars, rfl⟩
            exact ⟨0x75 :: chars, hchars, rfl⟩
        · exact .failed
  | inStringEscU =>
      refine leads_hexDigit (by decide) (by decide) ?_
      rintro ha _ ⟨chars, hchars, rfl⟩
      exact ⟨c :: chars, hchars c ha, rfl⟩
  | inStringEscU1 =>
      refine leads_hexDigit (by decide) (by decide) ?_
      rintro hb _ ⟨chars, hchars, rfl⟩
      exact ⟨c :: chars, fun a ha => hchars a c ha hb, rfl⟩
  | inStringEscU12 =>
      refine leads_hexDigit (by decide) (by decide) ?_
      rintro hd _ ⟨chars, hchars, rfl⟩
      exact ⟨c :: chars, fun a b ha hb => hchars a b c ha hb hd, rfl⟩
  | inStringEscU123 =>
      refine leads_hexDigit (by decide) (by decide) ?_
      rintro hd _ ⟨chars, hchars, rfl⟩
      exact ⟨c :: chars, fun a b e ha hb he => .unicode ha hb he hd hchars, rfl⟩
  | neg =>
      change Leads _ _ _ (stateNeg _ c)
      unfold stateNeg
      split
      · next hc =>
          rw [hc]
          exact leads_on (by decide) (by decide) fun x hx => ⟨[Json.zero], x, .zero, hx, rfl⟩
      · next hzero =>
          split
          · next hd =>
              refine leads_on (by decide) (by decide) ?_
              rintro _ ⟨ds, r, hds, hr, rfl⟩
              exact ⟨c :: ds, r, .digits hd hzero hds, hr, rfl⟩
          · exact .failed
  | one =>
      change Leads _ _ _ (state1 _ c)
      unfold state1
      split
      · next hd =>
          refine leads_on (by decide) (by decide) ?_
          rintro _ ⟨ds, r, hds, hr, rfl⟩
          exact ⟨c :: ds, r, digits_cons hd hds, hr, rfl⟩
      · exact leads_state0 (by decide) fun r hr => ⟨[], r, .nil, hr, rfl⟩
  | zero => exact leads_state0 (by decide) fun _ hr => hr
  | dot =>
      change Leads _ _ _ (stateDot _ c)
      unfold stateDot
      split
      · next hd =>
          refine leads_on (by decide) (by decide) ?_
          rintro _ ⟨ds, exponent, hds, hexponent, rfl⟩
          exact ⟨c, ds, exponent, hd, hds, hexponent, rfl⟩
      · exact .failed
  | dot0 =>
      change Leads _ _ _ (stateDot0 _ c)
      unfold stateDot0
      split
      · next hd =>
          refine @leads_on _ .dot0 _ _ (by decide) (by decide) ?_
          rintro _ ⟨ds, exponent, hds, hexponent, rfl⟩
          exact ⟨c :: ds, exponent, digits_cons hd hds, hexponent, rfl⟩
      · split
        · next hc =>
            exact leads_on (by decide) (by decide) fun x hx =>
              ⟨[], c :: x, .nil, exponent_of_rest hc hx, rfl⟩
        · exact leads_end (by decide) ⟨[], [], .nil, .absent, rfl⟩
  | e =>
      change Leads _ _ _ (stateE _ c)
      unfold stateE
      split
      · next hc =>
          refine leads_on (by decide) (by decide) ?_
          rintro _ ⟨d, ds, hd, hds, rfl⟩
          refine ⟨[c], d, ds, ?_, hd, hds, rfl⟩
          rcases hc with rfl | rfl
          · exact Or.inr (Or.inl rfl)
          · exact Or.inr (Or.inr rfl)
      · exact leads_eSign (by decide) fun hd ds hds => ⟨[], c, ds, Or.inl rfl, hd, hds, rfl⟩
  | eSign => exact leads_eSign (by decide) fun hd ds hds => ⟨c, ds, hd, hds, rfl⟩
  | e0 =>
      change Leads _ _ _ (stateE0 _ c)
      unfold stateE0
      split
      · next hd => exact @leads_on _ .e0 _ _ (by decide) (by decide) fun _ => digits_cons hd
      · exact leads_end (by decide) .nil
  | t => exact leads_expected (by decide) (by decide) fun _ hx => by cases hx; rfl
  | tr => exact leads_expected (by decide) (by decide) fun _ hx => by cases hx; rfl
  | tru => exact leads_expected (by decide) (by decide) fun _ hx => by cases hx; rfl
  | f => exact leads_expected (by decide) (by decide) fun _ hx => by cases hx; rfl
  | fa => exact leads_expected (by decide) (by decide) fun _ hx => by cases hx; rfl
  | fal => exact leads_expected (by decide) (by decide) fun _ hx => by cases hx; rfl
  | fals => exact leads_expected (by decide) (by decide) fun _ hx => by cases hx; rfl
  | n => exact leads_expected (by decide) (by decide) fun _ hx => by cases hx; rfl
  | nu => exact leads_expected (by decide) (by decide) fun _ hx => by cases hx; rfl
  | nul => exact leads_expected (by decide) (by decide) fun _ hx => by cases hx; rfl
  | error => exact absurd hfits id

/-!
# Runs
-/

/-- Where a round stops, the value is complete; where it goes on, what completes the value
from there completes it from here. -/
theorem round_leads (hfits : Fits stepFn st) (c : UInt8) :
    match (inState stepFn st).round c with
    | .before _ => Completes stepFn st []
    | .after _ => Completes stepFn st [c]
    | .failed _ => True
    | .goesOn s => exists next st', s = inState next st' ∧ Fits next st' ∧
        forall u, Completes next st' u -> Completes stepFn st (c :: u) := by
  have hstep := step_leads hfits c
  unfold round
  generalize (inState stepFn st).step c = r at hstep
  cases hstep with
  | @goes state next st' hends herror hobject harray hfits' h =>
      have hgoes : exists next' st'', inState next st' = inState next' st'' ∧ Fits next' st'' ∧
          forall u, Completes next' st'' u -> Completes stepFn st (c :: u) :=
        ⟨next, st', rfl, hfits', h⟩
      cases state <;> first
        | contradiction
        | exact hgoes
  | @closes state _ _ st' hstate h =>
      cases st' with
      | nil =>
          have hlast := h [] .top
          rcases hstate with rfl | rfl <;> exact hlast
      | cons p st' =>
          have hgoes : exists next' st'', inState .endValue (p :: st') = inState next' st'' ∧
              Fits next' st'' ∧
                forall u, Completes next' st'' u -> Completes stepFn st (c :: u) := by
            refine ⟨.endValue, p :: st', rfl, trivial, ?_⟩
            rintro u ⟨_, t, rfl, ht, rfl⟩
            exact h _ ht
          rcases hstate with rfl | rfl <;> exact hgoes
  | ends h => exact h
  | failed => trivial

/-- A scan that ends has gone over a text that completes the value. -/
theorem scan_completes {t : Buffer} {n m : Nat} {s : Scanner} (hfits : Fits stepFn st)
    (h : scanBytes (inState stepFn st) t n = .value m s) :
    exists u rest, t = u ++ rest ∧ m = n + u.length ∧ Completes stepFn st u := by
  induction t generalizing stepFn st n with
  | nil => cases h
  | cons c t ih =>
      have hround := round_leads hfits c
      rw [scanBytes] at h
      generalize (inState stepFn st).round c = r at hround h
      cases r with
      | before s' =>
          cases h
          exact ⟨[], c :: t, rfl, rfl, hround⟩
      | after s' =>
          cases h
          exact ⟨[c], t, rfl, rfl, hround⟩
      | failed s' => cases h
      | goesOn s' =>
          rcases hround with ⟨next, st', rfl, hfits', hcompletes⟩
          rcases ih hfits' h with ⟨u, rest, rfl, hm, hu⟩
          refine ⟨c :: u, rest, rfl, ?_, hcompletes u hu⟩
          rw [List.length_cons]
          omega

/-- So has one at the end of the input, where the value may end. -/
theorem more_completes {t : Buffer} {n : Nat} {s : Scanner} (hfits : Fits stepFn st)
    (h : scanBytes (inState stepFn st) t n = .more s) (hends : (s.step 0x20).1 = .ends) :
    Completes stepFn st t := by
  induction t generalizing stepFn st n with
  | nil =>
      cases h
      have hstep := step_leads hfits 0x20
      generalize (inState stepFn st).step 0x20 = r at hstep hends
      cases hstep with
      | goes hnot => exact absurd hends hnot
      | closes hstate =>
          change _ = ScanState.ends at hends
          subst hends
          rcases hstate with hstate | hstate <;> cases hstate
      | ends h => exact h
      | failed => cases hends
  | cons c t ih =>
      have hround := round_leads hfits c
      rw [scanBytes] at h
      generalize (inState stepFn st).round c = r at hround h
      cases r with
      | before s' => cases h
      | after s' => cases h
      | failed s' => cases h
      | goesOn s' =>
          rcases hround with ⟨next, st', rfl, hfits', hcompletes⟩
          exact hcompletes t (ih hfits' h)

/-- Whitespace and the text of a value. -/
def Text (t : Buffer) : Prop :=
  exists w v, t = w ++ v ∧ AsciiBlank w ∧ AsciiValue v

theorem text_of_completes {t : Buffer} (h : Completes .beginValue [] t) : Text t := by
  rcases h with ⟨w, v, r, hw, hv, hr, rfl⟩
  cases hr
  exact ⟨w, v, by rw [List.append_nil], hw, hv⟩

end Scanner
end Httpx
end CouchbaseSdk
