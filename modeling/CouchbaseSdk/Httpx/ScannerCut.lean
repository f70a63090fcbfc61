import CouchbaseSdk.Httpx.ScannerGrammar
import CouchbaseSdk.Httpx.ScannerSteps

/-!
# Texts that are cut off

Over the beginning of the text of a value the scanner goes on as well, and where the text is
cut it does not take the value to be at its end; only a number may be one already.
-/

namespace CouchbaseSdk
namespace Foundation

/-- A beginning of two texts is a beginning of the first one, or goes into the second. -/
theorem prefix_append_cases {a b t : Buffer} (h : t <+: a ++ b) :
    (exists r, r ≠ [] ∧ a = t ++ r) ∨ exists t', t = a ++ t' ∧ t' <+: b := by
  rcases h with ⟨q, hq⟩
  rcases List.append_eq_append_iff.mp hq with ⟨r, ha, _⟩ | ⟨t', ht, hb⟩
  · cases r with
    | nil =>
        rw [List.append_nil] at ha
        exact Or.inr ⟨[], by rw [ha, List.append_nil], List.nil_prefix⟩
    | cons c r => exact Or.inl ⟨c :: r, List.cons_ne_nil c r, ha⟩
  · exact Or.inr ⟨t', ht, q, hb.symm⟩

theorem prefix_of_concat {a t r : Buffer} {b : UInt8} (h : a ++ [b] = t ++ r) (hr : r ≠ []) :
    t <+: a := by
  rcases prefix_append_cases ⟨r, h.symm⟩ with ⟨q, _, ha⟩ | ⟨t', ht, hlast⟩
  · exact ⟨q, ha.symm⟩
  · rcases hlast with ⟨q, hq⟩
    cases t' with
    | nil => exact ⟨[], by rw [ht, List.append_nil, List.append_nil]⟩
    | cons c t' =>
        have hlen := congrArg List.length h
        have hlen' := congrArg List.length hq
        have hpos : 0 < r.length := List.length_pos_iff.mpr hr
        rw [ht] at hlen
        simp only [List.length_append, List.length_cons, List.length_nil] at hlen hlen'
        omega

end Foundation

namespace Httpx

open Foundation Foundation.Json

namespace Scanner

/-- Where the scan goes on, it does not matter how far into the value it is. -/
theorem goes_of_more {s s' : Scanner} {t : Buffer} {n : Nat} (h : scanBytes s t n = .more s') :
    Goes s t s' := by
  induction t generalizing s n with
  | nil =>
      cases h
      exact Goes.nil _
  | cons c t ih =>
      rw [scanBytes] at h
      cases hround : s.round c with
      | goesOn s'' =>
          rw [hround] at h
          exact Goes.cons hround (ih h)
      | before s'' =>
          rw [hround] at h
          cases h
      | after s'' =>
          rw [hround] at h
          cases h
      | failed s'' =>
          rw [hround] at h
          cases h

theorem Goes.cut {s s' : Scanner} {t u : Buffer} (h : Goes s (t ++ u) s') :
    exists s'', Goes s t s'' := by
  have hzero := h 0
  rw [scanBytes_append] at hzero
  cases hscan : scanBytes s t 0 with
  | value n s'' =>
      rw [hscan] at hzero
      cases hzero
  | failed s'' =>
      rw [hscan] at hzero
      cases hzero
  | more s'' => exact ⟨s'', goes_of_more hscan⟩

/-!
# Open values
-/

/-- There are open values, and none of them is taken to be at its end. -/
structure Open (s : Scanner) : Prop where
  parseState : s.parseState ≠ []
  stepFn : s.stepFn ≠ .endTop

/-- What a step does while values are open. -/
inductive StaysOpen : ScanState × Scanner -> Prop where
  | goesOn {state : ScanState} {s : Scanner} (hends : state ≠ .ends) (herror : state ≠ .error)
      (hobject : state ≠ .endObject) (harray : state ≠ .endArray) (hopen : Open s) :
      StaysOpen (state, s)
  | failed (s : Scanner) : StaysOpen (.error, s)
  | popped {state : ScanState} {s : Scanner} (hstate : state = .endObject ∨ state = .endArray)
      (hs : s.parseState ≠ []) : StaysOpen (state, s.popParseState)

theorem step_open {s : Scanner} (h : Open s) (c : UInt8) : StaysOpen (s.step c) := by
  have hstep := step_stepped s c
  generalize s.step c = r at hstep
  cases hstep with
  | goesOn hends herror hobject harray hstack hstep =>
      refine .goesOn hends herror hobject harray ⟨hstack h.parseState, ?_⟩
      rcases hstep with rfl | ⟨htop, _⟩
      · exact h.stepFn
      · exact htop
  | popped hstate hs => exact .popped hstate hs
  | ended htop _ =>
      rcases htop with hnil | htop
      · exact absurd hnil h.parseState
      · exact absurd htop h.stepFn
  | failed _ => exact .failed _
  | stuck _ => exact .failed _

theorem StaysOpen.not_ends {state : ScanState} {s : Scanner} (h : StaysOpen (state, s)) :
    state ≠ .ends := by
  cases h with
  | goesOn hends => exact hends
  | failed => nofun
  | popped hstate =>
      rintro rfl
      rcases hstate with hstate | hstate <;> cases hstate

theorem round_open {s s' : Scanner} {c : UInt8} (h : Open s) (hround : s.round c = .goesOn s') :
    Open s' := by
  have hstep := step_open h c
  unfold round at hround
  generalize s.step c = r at hstep hround
  cases hstep with
  | @goesOn state s₁ hends herror hobject harray hopen =>
      have hsame : s₁ = s' := by
        cases state <;> first | contradiction | simpa using hround
      rw [← hsame]
      exact hopen
  | failed s => cases hround
  | @popped state s₁ hstate hs =>
      cases htail : s₁.parseState.tail with
      | nil =>
          have hpop : s₁.popParseState =
              { s₁ with parseState := [], stepFn := .endTop, endTop := true } := by
            rw [popParseState, htail]
          rw [hpop] at hround
          rcases hstate with rfl | rfl <;> cases hround
      | cons p st =>
          have hpop : s₁.popParseState =
              { s₁ with parseState := p :: st, stepFn := .endValue } := by
            rw [popParseState, htail]
          rw [hpop] at hround
          rcases hstate with rfl | rfl <;> cases hround <;>
            exact ⟨List.cons_ne_nil _ _, nofun⟩

theorem goes_open {s s' : Scanner} {t : Buffer} (hgoes : Goes s t s') (h : Open s) : Open s' := by
  induction t generalizing s with
  | nil =>
      cases hgoes 0
      exact h
  | cons c t ih =>
      have hzero := hgoes 0
      rw [scanBytes] at hzero
      cases hround : s.round c with
      | goesOn s'' =>
          rw [hround] at hzero
          exact ih (goes_of_more hzero) (round_open h hround)
      | before s'' =>
          rw [hround] at hzero
          cases hzero
      | after s'' =>
          rw [hround] at hzero
          cases hzero
      | failed s'' =>
          rw [hround] at hzero
          cases hzero

/-!
# Unfinished values
-/

/-- Over the text the scanner goes on, and behind it the value is not at its end. -/
def Unfinished (t : Buffer) : Prop :=
  exists s, Goes Scanner.new t s ∧ (s.step 0x20).1 ≠ .ends

theorem open_unfinished {t : Buffer} {c : UInt8} {s : Scanner} (h : Goes Scanner.new (c :: t) s)
    {first : Scanner} (hround : Scanner.new.round c = .goesOn first) (hopen : Open first) :
    Unfinished (c :: t) := by
  have hzero := h 0
  rw [scanBytes, hround] at hzero
  have hlast := goes_open (goes_of_more hzero) hopen
  exact ⟨s, h, (step_open hlast 0x20).not_ends⟩

/-- A container is not at its end before its last bracket. -/
theorem container_cut {v t r : Buffer} (h : Container v) (hv : v = t ++ r) (ht : t ≠ [])
    (hr : r ≠ []) : Unfinished t := by
  cases t with
  | nil => exact absurd rfl ht
  | cons c t =>
      cases Container.ascii h with
      | @array es inside hinside hspaced hvalue =>
          rcases List.cons_eq_cons.mp hv with ⟨rfl, hinner⟩
          rcases prefix_of_concat hinner hr with ⟨q, rfl⟩
          rcases elements_goes hinside hspaced hvalue (fun e he => value_goes (hvalue e he)) []
            with ⟨s, hgoes, _⟩
          rcases Goes.cut (t := beginArray :: t) hgoes with ⟨s', hgoes'⟩
          exact open_unfinished hgoes' rfl ⟨List.cons_ne_nil _ _, nofun⟩
      | @object ms inside hinside hspaced hkey hvalue =>
          rcases List.cons_eq_cons.mp hv with ⟨rfl, hinner⟩
          rcases prefix_of_concat hinner hr with ⟨q, rfl⟩
          rcases members_goes hinside hspaced hkey (fun m hm => value_goes (hvalue m hm)) []
            with ⟨s, hgoes, _⟩
          rcases Goes.cut (t := beginObject :: t) hgoes with ⟨s', hgoes'⟩
          exact open_unfinished hgoes' rfl ⟨List.cons_ne_nil _ _, nofun⟩

/-- Wherever the text is cut, the scanner has gone on and the value is not at its end. -/
def Midway (s : Scanner) (u : Buffer) : Prop :=
  forall t, t <+: u -> exists s', Goes s t s' ∧ (s'.step 0x20).1 ≠ .ends

theorem Midway.nil {s : Scanner} (hstep : (s.step 0x20).1 ≠ .ends) : Midway s [] := by
  intro t ht
  rw [List.prefix_nil.mp ht]
  exact ⟨s, Goes.nil s, hstep⟩

theorem Midway.cons {s s' : Scanner} {c : UInt8} {u : Buffer} (hstep : (s.step 0x20).1 ≠ .ends)
    (hround : s.round c = .goesOn s') (h : Midway s' u) : Midway s (c :: u) := by
  intro t ht
  cases t with
  | nil => exact ⟨s, Goes.nil s, hstep⟩
  | cons b t =>
      rcases List.cons_prefix_cons.mp ht with ⟨rfl, ht'⟩
      rcases h t ht' with ⟨s'', hgoes, hlast⟩
      exact ⟨s'', Goes.cons hround hgoes, hlast⟩

theorem stringChars_midway {chars : Buffer} (h : StringChars chars) :
    Midway (inState .inString []) chars := by
  induction h with
  | nil => exact Midway.nil nofun
  | plain hquote hescape hcontrol _ ih =>
      exact Midway.cons nofun (plain_round [] hquote hescape hcontrol) ih
  | escaped hc _ ih =>
      have hstart : (inState .inString []).round reverseSolidus =
          .goesOn (inState .inStringEsc []) := rfl
      exact Midway.cons nofun hstart (Midway.cons nofun (escaped_round [] hc) ih)
  | @unicode a b c d rest ha hb hc hd _ ih =>
      have hstart : (inState .inString []).round reverseSolidus =
          .goesOn (inState .inStringEsc []) := rfl
      have hu : (inState .inStringEsc []).round 0x75 = .goesOn (inState .inStringEscU []) := rfl
      have hround₁ : (inState .inStringEscU []).round a = .goesOn (inState .inStringEscU1 []) :=
        hexDigit_round [] ha rfl
      have hround₂ : (inState .inStringEscU1 []).round b = .goesOn (inState .inStringEscU12 []) :=
        hexDigit_round [] hb rfl
      have hround₃ : (inState .inStringEscU12 []).round c =
          .goesOn (inState .inStringEscU123 []) := hexDigit_round [] hc rfl
      have hround₄ : (inState .inStringEscU123 []).round d = .goesOn (inState .inString []) :=
        hexDigit_round [] hd rfl
      have hdigits : Midway (inState .inStringEscU []) (a :: b :: c :: d :: _) :=
        .cons nofun hround₁ (.cons nofun hround₂ (.cons nofun hround₃ (.cons nofun hround₄ ih)))
      exact .cons nofun hstart (.cons nofun hu hdigits)

/-- A text between its first and its last byte. -/
theorem midway_unfinished {c b : UInt8} {u t r : Buffer} {first : Scanner}
    (hround : Scanner.new.round c = .goesOn first) (h : Midway first u)
    (hv : c :: (u ++ [b]) = t ++ r) (ht : t ≠ []) (hr : r ≠ []) : Unfinished t := by
  cases t with
  | nil => exact absurd rfl ht
  | cons c' t =>
      rcases List.cons_eq_cons.mp hv with ⟨rfl, hinner⟩
      rcases h t (prefix_of_concat hinner hr) with ⟨s, hgoes, hstep⟩
      exact ⟨s, Goes.cons hround hgoes, hstep⟩

/-!
# Numbers
-/

theorem digits_of_append {ds t r : Buffer} (h : Digits ds) (hds : ds = t ++ r) : Digits t := by
  intro d hd
  rw [hds] at h
  exact h d (List.mem_append_left r hd)

/-- What is left of an integer is nothing or an integer. -/
theorem integer_cut {integer t r : Buffer} (h : IntegerText integer) (heq : integer = t ++ r) :
    t = [] ∨ IntegerText t := by
  cases t with
  | nil => exact Or.inl rfl
  | cons c t =>
      cases h with
      | zero =>
          rcases List.cons_eq_cons.mp heq with ⟨rfl, hnil⟩
          rcases List.append_eq_nil_iff.mp hnil.symm with ⟨rfl, _⟩
          exact Or.inr .zero
      | digits hd hzero hds =>
          rcases List.cons_eq_cons.mp heq with ⟨rfl, hrest⟩
          exact Or.inr (.digits hd hzero (digits_of_append hds hrest))

/-- What is left of a fraction is a fraction, or its point only. -/
theorem fraction_cut {fraction t r : Buffer} (h : FractionText fraction)
    (heq : fraction = t ++ r) : FractionText t ∨ t = [decimalPoint] := by
  match t, heq with
  | [], _ => exact Or.inl .absent
  | [c], heq =>
      cases h with
      | absent => cases heq
      | digits hd hds =>
          rcases List.cons_eq_cons.mp heq with ⟨rfl, _⟩
          exact Or.inr rfl
  | c :: d :: t, heq =>
      cases h with
      | absent => cases heq
      | digits hd hds =>
          rcases List.cons_eq_cons.mp heq with ⟨rfl, heq'⟩
          rcases List.cons_eq_cons.mp heq' with ⟨rfl, heq''⟩
          exact Or.inl (.digits hd (digits_of_append hds heq''))

/-- What is left of an exponent is an exponent, or has no digits. -/
theorem exponent_cut {exponent t r : Buffer} (h : ExponentText exponent)
    (heq : exponent = t ++ r) :
    ExponentText t ∨
      exists e sign, (e = 0x65 ∨ e = 0x45) ∧ (sign = [] ∨ sign = [plus] ∨ sign = [minus]) ∧
        t = e :: sign := by
  cases h with
  | absent =>
      rcases List.append_eq_nil_iff.mp heq.symm with ⟨rfl, _⟩
      exact Or.inl .absent
  | @digits e d sign ds he hsign hd hds =>
      cases t with
      | nil => exact Or.inl .absent
      | cons c t =>
          rcases List.cons_eq_cons.mp heq with ⟨rfl, heq'⟩
          rcases prefix_append_cases ⟨r, heq'.symm⟩ with ⟨q, hq, hsplit⟩ | ⟨t', ht, hrest⟩
          · refine Or.inr ⟨e, t, he, ?_, rfl⟩
            rcases hsign with rfl | rfl | rfl
            · rcases List.append_eq_nil_iff.mp hsplit.symm with ⟨rfl, _⟩
              exact Or.inl rfl
            · cases t with
              | nil => exact Or.inl rfl
              | cons b t =>
                  rcases List.cons_eq_cons.mp hsplit with ⟨_, hnil⟩
                  exact absurd (List.append_eq_nil_iff.mp hnil.symm).2 hq
            · cases t with
              | nil => exact Or.inl rfl
              | cons b t =>
                  rcases List.cons_eq_cons.mp hsplit with ⟨_, hnil⟩
                  exact absurd (List.append_eq_nil_iff.mp hnil.symm).2 hq
          · rcases hrest with ⟨q, hq⟩
            cases t' with
            | nil => exact Or.inr ⟨e, sign, he, hsign, by rw [ht, List.append_nil]⟩
            | cons b t' =>
                rcases List.cons_eq_cons.mp hq with ⟨rfl, hq'⟩
                rw [ht]
                exact Or.inl (.digits he hsign hd (digits_of_append hds hq'.symm))

/-- The beginning of a number is a number, or it is unfinished. -/
theorem number_cut {v t r : Buffer} (h : NumberText v) (hv : v = t ++ r) (ht : t ≠ []) :
    Unfinished t ∨ NumberText t := by
  cases h with
  | @parts sign integer fraction exponent hsign hinteger hfraction hexponent =>
      have hnumber : forall {i f e : Buffer}, IntegerText i -> FractionText f -> ExponentText e ->
          NumberText (sign ++ (i ++ (f ++ e))) := fun hi hf he => .parts hsign hi hf he
      rcases prefix_append_cases ⟨r, hv.symm⟩ with ⟨q, hq, hsplit⟩ | ⟨t₁, rfl, r₁, hrest₁⟩
      · -- within the sign
        rcases hsign with rfl | rfl
        · exact absurd (List.append_eq_nil_iff.mp hsplit.symm).1 ht
        · cases t with
          | nil => exact absurd rfl ht
          | cons b t =>
              rcases List.cons_eq_cons.mp hsplit with ⟨_, hnil⟩
              exact absurd (List.append_eq_nil_iff.mp hnil.symm).2 hq
      rcases integer_goes hinteger [] with ⟨stepFn, hstep, hbegin, hneg⟩
      have hint : Goes Scanner.new (sign ++ integer) (inState stepFn []) := by
        rcases hsign with rfl | rfl
        · exact hbegin
        · exact Goes.cons rfl hneg
      rcases prefix_append_cases ⟨r₁, hrest₁⟩ with ⟨q, hq, hsplit⟩ | ⟨t₂, rfl, r₂, hrest₂⟩
      · rcases integer_cut hinteger hsplit with rfl | hcut
        · -- behind the sign
          rcases hsign with rfl | rfl
          · exact absurd rfl ht
          · exact Or.inl ⟨inState .neg [], Goes.byte rfl, nofun⟩
        · have hwhole := hnumber hcut .absent .absent
          rw [List.append_nil, List.append_nil] at hwhole
          exact Or.inr hwhole
      rcases prefix_append_cases ⟨r₂, hrest₂⟩ with ⟨q, hq, hsplit⟩ | ⟨t₃, rfl, r₃, hrest₃⟩
      · rcases fraction_cut hfraction hsplit with hcut | rfl
        · have hwhole := hnumber hinteger hcut .absent
          rw [List.append_nil] at hwhole
          exact Or.inr hwhole
        · -- behind the point
          have hpoint : (inState stepFn []).round decimalPoint = .goesOn (inState .dot []) := by
            rcases hstep with rfl | rfl <;> rfl
          refine Or.inl ⟨inState .dot [], ?_, nofun⟩
          rw [← List.append_assoc]
          exact hint.append (Goes.byte hpoint)
      · rcases exponent_cut hexponent hrest₃.symm with hcut | ⟨e, s, he, hs, rfl⟩
        · exact Or.inr (hnumber hinteger hfraction hcut)
        · -- behind the letter or the sign of the exponent
          rcases fraction_goes hfraction [] hstep with ⟨stepFn', hstep', hfrac⟩
          have hletter : (inState stepFn' []).round e = .goesOn (inState .e []) := by
            rcases hstep' with rfl | rfl | rfl <;> rcases he with rfl | rfl <;> rfl
          have hall : Goes Scanner.new (sign ++ (integer ++ fraction)) (inState stepFn' []) := by
            rw [← List.append_assoc]
            exact hint.append hfrac
          have hassoc : sign ++ (integer ++ (fraction ++ e :: s)) =
              (sign ++ (integer ++ fraction)) ++ e :: s := by
            simp
          rw [hassoc]
          rcases hs with rfl | rfl | rfl
          · exact Or.inl ⟨inState .e [], hall.append (Goes.byte hletter), nofun⟩
          · have hplus : (inState .e []).round plus = .goesOn (inState .eSign []) := rfl
            exact Or.inl ⟨_, hall.append (Goes.cons hletter (Goes.byte hplus)), nofun⟩
          · have hminus : (inState .e []).round minus = .goesOn (inState .eSign []) := rfl
            exact Or.inl ⟨_, hall.append (Goes.cons hletter (Goes.byte hminus)), nofun⟩

/-- The beginning of a string is unfinished. -/
theorem string_cut {v t r : Buffer} (h : StringText v) (hv : v = t ++ r) (ht : t ≠ [])
    (hr : r ≠ []) : Unfinished t := by
  cases h with
  | quoted hchars => exact midway_unfinished rfl (stringChars_midway hchars) hv ht hr

/-- The beginning of a value is unfinished, or it is a number. -/
theorem value_cut {v t r : Buffer} (h : Value v) (hv : v = t ++ r) (ht : t ≠ []) (hr : r ≠ []) :
    Unfinished t ∨ NumberText t := by
  rcases h.scalar_or_container with hscalar | hcontainer
  · cases hscalar with
    | string h => exact Or.inl (string_cut h hv ht hr)
    | number h => exact number_cut h hv ht
    | true =>
        have hmid : Midway (inState .t []) [0x72, 0x75] :=
          .cons nofun rfl (.cons nofun rfl (.nil nofun))
        exact Or.inl (midway_unfinished rfl hmid hv ht hr)
    | false =>
        have hmid : Midway (inState .f []) [0x61, 0x6c, 0x73] :=
          .cons nofun rfl (.cons nofun rfl (.cons nofun rfl (.nil nofun)))
        exact Or.inl (midway_unfinished rfl hmid hv ht hr)
    | null =>
        have hmid : Midway (inState .n []) [0x75, 0x6c] :=
          .cons nofun rfl (.cons nofun rfl (.nil nofun))
        exact Or.inl (midway_unfinished rfl hmid hv ht hr)
  · exact Or.inl (container_cut hcontainer hv ht hr)

end Scanner
end Httpx
end CouchbaseSdk
